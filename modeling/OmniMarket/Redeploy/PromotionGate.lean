import OmniMarket.Redeploy.Wire

/-!
# The promotion gate and the check at the deploy effect

`evaluateGate` decides at the compute node whether a redeploy may proceed.
`verifyProdDeployGrantBinding` checks the grant a second time where the deploy happens.
A comparison of an aware and a naive timestamp raises in both.
-/

namespace OmniMarket.Redeploy

open PyText

/-! ## The gate -/

/-- `a > b` on timestamps, with the type error of a mixed comparison. -/
def laterThan (a b : PyDatetime) : Except RedeployError Bool :=
  match a.gt? b with
  | some later => .ok later
  | none => .error (.typeError "can't compare offset-naive and offset-aware datetimes")

/-- `str` of a boolean. -/
def boolText : Bool → String
  | true => "True"
  | false => "False"

section

variable (text : RedeployText)

def evaluateProdDigestGate (requestedDigest : Option String)
    (stabilityReadiness : Option ModelStabilityReadiness) : ModelProdGateDecision :=
  if blankText requestedDigest then
    { allowed := false, imageDigest := none,
      reason := ⟨"prod deploy requires a pinned image_digest", by decide⟩ }
  else
    match stabilityReadiness with
    | none =>
      { allowed := false, imageDigest := none,
        reason := ⟨"no stability-test readiness event exists for the requested " ++
          "digest; prod is blocked", by decide⟩ }
    | some readiness =>
      if !readiness.ready then
        { allowed := false, imageDigest := none,
          reason := ⟨"stability-test readiness failed for the digest; prod is blocked", by decide⟩ }
      else if some readiness.imageDigest.value ≠ requestedDigest then
        { allowed := false, imageDigest := none,
          reason := NonEmptyString.append
            ⟨"prod digest does not match the latest stability-test READY digest (", by decide⟩
            (reprString text.unicode readiness.imageDigest.value ++ " != " ++
              reprOption text.unicode requestedDigest ++ ")") }
      else
        { allowed := true, imageDigest := some readiness.imageDigest.value,
          reason := ⟨"stability-test READY for matching digest; prod reuses it (no rebuild)",
            by decide⟩ }

section

variable (inputs : ModelProdPromotionInputs)

def grantBlocked (reason : EnumProdGrantReason) (detail : String) :
    ModelProdPromotionGateDecision where
  allowed := false
  imageDigest := none
  rollbackTarget := inputs.rollbackTarget
  reason := reason.value.append (": " ++ detail)

/-- The image is a stability candidate or was built off the main line. -/
def isCandidate (promotionClass : EnumPromotionClass) (nonMainLineage : Bool) : Bool :=
  promotionClass == .stabilityCandidate || nonMainLineage

def candidateAuthorized (grant : Option ModelProdPromotionGrant) : Bool :=
  match grant with
  | none => false
  | some grant => grant.authorizesCandidate

def candidateDetail (promotionClass : EnumPromotionClass) (nonMainLineage : Bool) : String :=
  "image is a stability-candidate / non-main-lineage build (promotion_class=" ++
    reprString text.unicode promotionClass.value ++ ", non_main_lineage=" ++
    boolText nonMainLineage ++ "); it is pinnable to dev/stability only and is refused for " ++
    "prod absent a grant that explicitly authorizes the candidate class"

def evaluateCandidateLineage :
    Option ModelProdPromotionGateDecision :=
  if !isCandidate inputs.promotionClass inputs.nonMainLineage then none
  else if candidateAuthorized inputs.promotionGrant then none
  else some (grantBlocked inputs .candidateNotAuthorized
    (candidateDetail text inputs.promotionClass inputs.nonMainLineage))

def evaluatePromotionGrant :
    Except RedeployError (Option ModelProdPromotionGateDecision) :=
  match inputs.promotionGrant with
  | none =>
    .ok (some (grantBlocked inputs .missingPromotionGrant
      "prod promotion requires an approver-issued promotion grant; none present"))
  | some grant =>
    if grant.approvedLane ≠ .prod then
      .ok (some (grantBlocked inputs .grantLaneMismatch
        ("promotion grant authorizes a different lane (" ++
          reprString text.unicode grant.approvedLane.value.value ++ " != prod)")))
    else if some grant.approvedImageDigest.value ≠ inputs.requestedImageDigest then
      .ok (some (grantBlocked inputs .grantDigestMismatch
        ("promotion grant digest does not match the request (" ++
          reprString text.unicode grant.approvedImageDigest.value ++ " != " ++
          reprOption text.unicode inputs.requestedImageDigest ++ ")")))
    else if some grant.approvedPromotionBatchId.value ≠ inputs.promotionBatchId then
      .ok (some (grantBlocked inputs .grantBatchMismatch
        ("promotion grant batch does not match the request (" ++
          reprString text.unicode grant.approvedPromotionBatchId.value ++ " != " ++
          reprOption text.unicode inputs.promotionBatchId ++ ")")))
    else
      (laterThan inputs.evaluatedAt grant.expiresAt).map fun expired =>
        if expired then
          some (grantBlocked inputs .expiredPromotionGrant
            ("promotion grant has expired (evaluated_at=" ++
              text.isoformat inputs.evaluatedAt ++ " > expires_at=" ++
              text.isoformat grant.expiresAt ++ ")"))
        else none

/-- A refusal of the technical checks, which come before the grant. -/
def promotionBlocked (rollbackTarget : Option String) (reason : NonEmptyString) :
    ModelProdPromotionGateDecision where
  allowed := false
  imageDigest := none
  rollbackTarget := rollbackTarget
  reason := reason

def authorizedReason : NonEmptyString :=
  ⟨"readiness projection READY for matching digest and batch, OCC " ++
    "evidence durable, rollback target known, promotion grant authorized; " ++
    "prod reuses the stability digest (no rebuild)", by decide⟩

def evaluateProdPromotionGate :
    Except RedeployError ModelProdPromotionGateDecision :=
  match evaluateCandidateLineage text inputs with
  | some candidateBlock => .ok candidateBlock
  | none =>
  match inputs.readinessProjection with
  | none =>
    .ok (promotionBlocked inputs.rollbackTarget
      ⟨"no reducer-owned readiness projection exists for the prod " ++
        "request; promotion is blocked", by decide⟩)
  | some projection =>
  if some projection.promotionBatchId.value ≠ inputs.promotionBatchId then
    .ok (promotionBlocked inputs.rollbackTarget (NonEmptyString.append
      ⟨"readiness projection promotion batch does not match the prod request (", by decide⟩
      (reprString text.unicode projection.promotionBatchId.value ++ " != " ++
        reprOption text.unicode inputs.promotionBatchId ++ ")")))
  else if projection.readinessState ≠ "READY" then
    .ok (promotionBlocked inputs.rollbackTarget (NonEmptyString.append
      ⟨"stability-test readiness projection is not READY (", by decide⟩
      (reprString text.unicode projection.readinessState ++ "); prod promotion is blocked")))
  else
  let digestGate := evaluateProdDigestGate text inputs.requestedImageDigest
    (some projection.asStabilityReadiness)
  if !digestGate.allowed then
    .ok (promotionBlocked inputs.rollbackTarget digestGate.reason)
  else if !occSatisfied.contains inputs.occGateState then
    .ok (promotionBlocked inputs.rollbackTarget (NonEmptyString.append
      ⟨"OCC evidence is not durable (", by decide⟩
      (inputs.occGateState.value ++ "); prod promotion requires a merged OCC PR or " ++
        "Receipt Gate PASS")))
  else if blankText inputs.rollbackTarget then
    .ok (promotionBlocked none ⟨"prod promotion requires a known rollback target", by decide⟩)
  else
    (evaluatePromotionGrant text inputs).map fun grantBlock =>
      match grantBlock with
      | some grantBlock => grantBlock
      | none =>
        { allowed := true
          imageDigest := digestGate.imageDigest
          rollbackTarget := inputs.rollbackTarget
          reason := authorizedReason }

end

def gateRollbackTarget (command : ModelProdPromotionGateCommand) : Option String :=
  textOr command.rollbackTarget command.previousImage

def evaluateGate (command : ModelProdPromotionGateCommand) :
    Except RedeployError ModelProdPromotionGateDecision :=
  let rollbackTarget := gateRollbackTarget command
  if command.runtimeLane ≠ .prod then
    .ok { allowed := true
          imageDigest := command.requestedImageDigest
          rollbackTarget := rollbackTarget
          reason := command.runtimeLane.value.append " lane is not gated; deploy may proceed" }
  -- A candidate is refused before the fallback without a projection, and again inside the
  -- full gate.
  else if isCandidate command.promotionClass command.nonMainLineage &&
      !candidateAuthorized command.promotionGrant then
    .ok { allowed := false
          imageDigest := none
          rollbackTarget := rollbackTarget
          reason := EnumProdGrantReason.candidateNotAuthorized.value.append
            (": " ++ candidateDetail text command.promotionClass command.nonMainLineage) }
  else if command.readinessProjection.isNone then
    let digestGate := evaluateProdDigestGate text command.requestedImageDigest none
    .ok { allowed := digestGate.allowed
          imageDigest := digestGate.imageDigest
          rollbackTarget := rollbackTarget
          reason := digestGate.reason }
  else
    match command.evaluatedAt with
    | none =>
      .error (.valueError ("prod promotion gate requires a deterministic evaluated_at " ++
        "stamped by the orchestrator/runtime; the compute never calls datetime.now()"))
    | some evaluatedAt =>
      evaluateProdPromotionGate text
        { requestedImageDigest := command.requestedImageDigest
          promotionBatchId := command.promotionBatchId
          readinessProjection := command.readinessProjection
          occGateState := command.occGateState
          rollbackTarget := rollbackTarget
          requestedBy := command.requestedBy
          promotionGrant := command.promotionGrant
          promotionClass := command.promotionClass
          nonMainLineage := command.nonMainLineage
          evaluatedAt := evaluatedAt }

/-- `verify_prod_deploy_grant_binding`: the refusal, or `none` when the deploy may proceed. -/
def verifyProdDeployGrantBinding (runtimeLane : EnumRuntimeLane)
    (imageDigest promotionBatchId : Option String) (grant : Option ModelProdPromotionGrant)
    (evaluatedAt : Option PyDatetime) :
    Except RedeployError (Option (EnumProdGrantReason × NonEmptyString)) :=
  if runtimeLane ≠ .prod then .ok none
  else
    match grant with
    | none =>
      .ok (some (.missingPromotionGrant,
        ⟨"prod deploy refused: no verified promotion grant on the command", by decide⟩))
    | some grant =>
      let refused (detail : String) : NonEmptyString :=
        NonEmptyString.append ⟨"prod deploy refused: ", by decide⟩ detail
      if grant.approvedLane ≠ .prod then
        .ok (some (.grantLaneMismatch, refused
          ("grant lane " ++ reprString text.unicode grant.approvedLane.value.value ++ " != prod")))
      else if some grant.approvedImageDigest.value ≠ imageDigest then
        .ok (some (.grantDigestMismatch, refused
          ("grant digest " ++ reprString text.unicode grant.approvedImageDigest.value ++
            " != command digest " ++ reprOption text.unicode imageDigest)))
      else if some grant.approvedPromotionBatchId.value ≠ promotionBatchId then
        .ok (some (.grantBatchMismatch, refused
          ("grant batch " ++ reprString text.unicode grant.approvedPromotionBatchId.value ++
            " != command batch " ++ reprOption text.unicode promotionBatchId)))
      else
        let expired (moment : String) : EnumProdGrantReason × NonEmptyString :=
          (.expiredPromotionGrant, refused ("grant expired (evaluated_at=" ++ moment ++
            ", expires_at=" ++ text.strDatetime grant.expiresAt ++ ")"))
        match evaluatedAt with
        | none => .ok (some (expired "None"))
        | some evaluatedAt =>
          (laterThan evaluatedAt grant.expiresAt).map fun late =>
            if late then some (expired (text.strDatetime evaluatedAt)) else none

end

/-! ## What a grant must bind -/

/-- The grant authorizes this production deploy and has not expired. -/
structure GrantBinds (grant : ModelProdPromotionGrant) (imageDigest promotionBatchId : Option String)
    (evaluatedAt : Option PyDatetime) : Prop where
  lane : grant.approvedLane = .prod
  digest : some grant.approvedImageDigest.value = imageDigest
  batch : some grant.approvedPromotionBatchId.value = promotionBatchId
  live : ∃ moment, evaluatedAt = some moment ∧ moment.NotAfter grant.expiresAt

section

variable {text : RedeployText} {a b : PyDatetime}

theorem laterThan_eq_ok_false : laterThan a b = .ok false ↔ a.NotAfter b := by
  rw [← PyDatetime.gt?_eq_some_false]
  unfold laterThan
  cases a.gt? b <;> simp

theorem laterThan_eq_ok_true : laterThan a b = .ok true ↔ a.After b := by
  rw [← PyDatetime.gt?_eq_some_true]
  unfold laterThan
  cases a.gt? b <;> simp

theorem laterThan_returns (comparable : a.Comparable b) : ∃ later, laterThan a b = .ok later := by
  rcases comparable.notAfter_or_after with early | late
  · exact ⟨false, laterThan_eq_ok_false.2 early⟩
  · exact ⟨true, laterThan_eq_ok_true.2 late⟩

section Checks

variable {Refusal : Type} {refusal : Refusal}

theorem refuseUnless_eq_ok_none {p : Prop} [Decidable (¬ p)]
    {rest : Except RedeployError (Option Refusal)} :
    (if ¬ p then .ok (some refusal) else rest) = .ok none ↔ p ∧ rest = .ok none := by
  split
  · next failed =>
    constructor
    · exact nofun
    · intro passed
      exact absurd passed.1 failed
  · next held => exact ⟨fun passed => ⟨not_not.1 held, passed⟩, And.right⟩

theorem refuseLate_eq_ok_none :
    ((laterThan a b).map fun late => if late then some refusal else none) = .ok none ↔
      a.NotAfter b := by
  rw [← laterThan_eq_ok_false]
  cases laterThan a b with
  | error raised =>
    constructor <;> intro impossible <;> cases impossible
  | ok late => cases late <;> simp [Except.map]

end Checks

theorem grantBinds_iff {held : ModelProdPromotionGrant} {moment : PyDatetime}
    {imageDigest promotionBatchId : Option String} :
    GrantBinds held imageDigest promotionBatchId (some moment) ↔
      held.approvedLane = .prod ∧ some held.approvedImageDigest.value = imageDigest ∧
        some held.approvedPromotionBatchId.value = promotionBatchId ∧
        moment.NotAfter held.expiresAt := by
  constructor
  · rintro ⟨lane, digest, batch, _, ⟨⟩, live⟩
    exact ⟨lane, digest, batch, live⟩
  · rintro ⟨lane, digest, batch, live⟩
    exact ⟨lane, digest, batch, moment, rfl, live⟩

variable {imageDigest promotionBatchId : Option String} {grant : Option ModelProdPromotionGrant}
  {evaluatedAt : Option PyDatetime}

theorem verifyBinding_prod_passes_iff :
    verifyProdDeployGrantBinding text .prod imageDigest promotionBatchId grant evaluatedAt =
        .ok none ↔
      ∃ held, grant = some held ∧ GrantBinds held imageDigest promotionBatchId evaluatedAt := by
  unfold verifyProdDeployGrantBinding
  rw [if_neg (not_not.2 rfl)]
  cases grant with
  | none => simp
  | some held =>
    dsimp only
    rw [refuseUnless_eq_ok_none, refuseUnless_eq_ok_none, refuseUnless_eq_ok_none]
    cases evaluatedAt with
    | none =>
      constructor
      · rintro ⟨_, _, _, impossible⟩
        cases impossible
      · rintro ⟨_, ⟨⟩, binds⟩
        obtain ⟨_, impossible, _⟩ := binds.live
        cases impossible
    | some moment =>
      dsimp only
      rw [refuseLate_eq_ok_none, ← grantBinds_iff]
      exact ⟨fun binds => ⟨held, rfl, binds⟩, by rintro ⟨_, ⟨⟩, binds⟩; exact binds⟩

theorem verifyBinding_passes_iff {lane : EnumRuntimeLane} :
    verifyProdDeployGrantBinding text lane imageDigest promotionBatchId grant evaluatedAt =
        .ok none ↔
      (lane = .prod →
        ∃ held, grant = some held ∧ GrantBinds held imageDigest promotionBatchId evaluatedAt) := by
  by_cases prod : lane = .prod
  · subst prod
    rw [verifyBinding_prod_passes_iff]
    exact ⟨fun bound _ => bound, fun bound => bound rfl⟩
  · unfold verifyProdDeployGrantBinding
    rw [if_pos prod]
    exact ⟨fun _ held => absurd held prod, fun _ => rfl⟩

/-! ## What the gate checks -/

structure PromotionFacts (readinessProjection : Option ModelReadinessProjectionFact)
    (imageDigest promotionBatchId : Option String) (occGateState : EnumOccGateState)
    (rollbackTarget : Option String) : Prop where
  projected : ∃ fact, readinessProjection = some fact ∧ fact.readinessState = "READY" ∧
    some fact.imageDigest.value = imageDigest ∧ some fact.promotionBatchId.value = promotionBatchId
  pinned : blankText imageDigest = false
  durable : occSatisfied.contains occGateState = true
  restorable : blankText rollbackTarget = false

theorem evaluateProdDigestGate_none :
    (evaluateProdDigestGate text imageDigest none).allowed = false := by
  unfold evaluateProdDigestGate
  split <;> rfl

variable {readiness : ModelStabilityReadiness}

theorem evaluateProdDigestGate_allowed_iff :
    (evaluateProdDigestGate text imageDigest (some readiness)).allowed = true ↔
      blankText imageDigest = false ∧ readiness.ready = true ∧
        some readiness.imageDigest.value = imageDigest := by
  unfold evaluateProdDigestGate
  cases blank : blankText imageDigest with
  | true => simp
  | false =>
    cases ready : readiness.ready with
    | false => simp [ready]
    | true =>
      by_cases same : some readiness.imageDigest.value = imageDigest
      · simp [ready, same]
      · simp [ready, same]

theorem evaluateProdDigestGate_digest
    (allowed : (evaluateProdDigestGate text imageDigest (some readiness)).allowed = true) :
    (evaluateProdDigestGate text imageDigest (some readiness)).imageDigest = imageDigest := by
  obtain ⟨pinned, ready, same⟩ := evaluateProdDigestGate_allowed_iff.1 allowed
  unfold evaluateProdDigestGate
  rw [pinned, if_neg Bool.false_ne_true]
  dsimp only
  rw [ready, Bool.not_true, if_neg Bool.false_ne_true, if_neg (not_not.2 same)]
  exact same

variable {inputs : ModelProdPromotionInputs} {decision : ModelProdPromotionGateDecision}

theorem evaluatePromotionGrant_passes_iff :
    evaluatePromotionGrant text inputs = .ok none ↔
      ∃ held, inputs.promotionGrant = some held ∧
        GrantBinds held inputs.requestedImageDigest inputs.promotionBatchId
          (some inputs.evaluatedAt) := by
  unfold evaluatePromotionGrant
  cases inputs.promotionGrant with
  | none => simp
  | some held =>
    dsimp only
    rw [refuseUnless_eq_ok_none, refuseUnless_eq_ok_none, refuseUnless_eq_ok_none,
      refuseLate_eq_ok_none, ← grantBinds_iff]
    exact ⟨fun binds => ⟨held, rfl, binds⟩, by rintro ⟨_, ⟨⟩, binds⟩; exact binds⟩

theorem evaluatePromotionGrant_refuses
    (refused : evaluatePromotionGrant text inputs = .ok (some decision)) :
    decision.allowed = false := by
  unfold evaluatePromotionGrant at refused
  split at refused
  · cases refused
    rfl
  next held _ =>
    split_ifs at refused
    · cases refused
      rfl
    · cases refused
      rfl
    · cases refused
      rfl
    · cases expiry : laterThan inputs.evaluatedAt held.expiresAt with
      | error raised => simp [expiry, Except.map] at refused
      | ok late =>
        cases late with
        | false => simp [expiry, Except.map] at refused
        | true =>
          rw [expiry] at refused
          cases refused
          rfl

theorem evaluatePromotionGrant_returns
    (comparable : ∀ held, inputs.promotionGrant = some held →
      inputs.evaluatedAt.Comparable held.expiresAt) :
    ∃ block, evaluatePromotionGrant text inputs = .ok block := by
  unfold evaluatePromotionGrant
  cases granted : inputs.promotionGrant with
  | none => exact ⟨_, rfl⟩
  | some held =>
    dsimp only
    split_ifs
    · exact ⟨_, rfl⟩
    · exact ⟨_, rfl⟩
    · exact ⟨_, rfl⟩
    · obtain ⟨late, expiry⟩ := laterThan_returns (comparable held granted)
      rw [expiry]
      exact ⟨_, rfl⟩

/-- The gate answers with this decision and lets the request pass. -/
def Allows (outcome : Except RedeployError ModelProdPromotionGateDecision)
    (decision : ModelProdPromotionGateDecision) : Prop :=
  outcome = .ok decision ∧ decision.allowed = true

theorem not_allows_blocked {blocked : ModelProdPromotionGateDecision}
    (refuses : blocked.allowed = false) : ¬ Allows (.ok blocked) decision := by
  rintro ⟨answered, allowed⟩
  cases answered
  rw [refuses] at allowed
  cases allowed

variable {rollbackTarget : Option String}

theorem allows_unless {p : Prop} [Decidable p] {reason : NonEmptyString}
    {rest : Except RedeployError ModelProdPromotionGateDecision} :
    Allows (if p then .ok (promotionBlocked rollbackTarget reason) else rest) decision ↔
      ¬ p ∧ Allows rest decision := by
  split
  · next applies =>
    exact ⟨fun passed => absurd passed (not_allows_blocked rfl),
      fun passed => absurd applies passed.1⟩
  · next avoided => exact ⟨fun passed => ⟨avoided, passed⟩, And.right⟩

theorem evaluateCandidateLineage_eq_none :
    evaluateCandidateLineage text inputs = none ↔
      (isCandidate inputs.promotionClass inputs.nonMainLineage = true →
        candidateAuthorized inputs.promotionGrant = true) := by
  unfold evaluateCandidateLineage
  cases isCandidate inputs.promotionClass inputs.nonMainLineage <;>
    cases candidateAuthorized inputs.promotionGrant <;> simp

theorem evaluateCandidateLineage_refuses
    (refused : evaluateCandidateLineage text inputs = some decision) :
    decision.allowed = false := by
  unfold evaluateCandidateLineage at refused
  split_ifs at refused
  cases refused
  rfl

theorem allows_withGrant {imageDigest : Option String} {reason : NonEmptyString} :
    Allows ((evaluatePromotionGrant text inputs).map fun grantBlock =>
        match grantBlock with
        | some grantBlock => grantBlock
        | none => ⟨true, imageDigest, rollbackTarget, reason⟩) decision ↔
      evaluatePromotionGrant text inputs = .ok none ∧
        decision = ⟨true, imageDigest, rollbackTarget, reason⟩ := by
  cases checked : evaluatePromotionGrant text inputs with
  | error raised =>
    constructor
    · rintro ⟨impossible, _⟩
      cases impossible
    · rintro ⟨impossible, _⟩
      cases impossible
  | ok block =>
    cases block with
    | some refusal =>
      refine ⟨fun passed => ?_, fun passed => ?_⟩
      · exact absurd passed (not_allows_blocked (evaluatePromotionGrant_refuses checked))
      · simp at passed
    | none =>
      constructor
      · rintro ⟨⟨⟩, _⟩
        exact ⟨rfl, rfl⟩
      · rintro ⟨_, rfl⟩
        exact ⟨rfl, rfl⟩

theorem asStabilityReadiness_ready {fact : ModelReadinessProjectionFact} :
    fact.asStabilityReadiness.ready = true ↔ fact.readinessState = "READY" :=
  beq_iff_eq

structure Promotes (inputs : ModelProdPromotionInputs) (decision : ModelProdPromotionGateDecision) :
    Prop where
  imageDigest : decision.imageDigest = inputs.requestedImageDigest
  rollbackTarget : decision.rollbackTarget = inputs.rollbackTarget

theorem evaluateProdPromotionGate_sound
    (allows : Allows (evaluateProdPromotionGate text inputs) decision) :
    (isCandidate inputs.promotionClass inputs.nonMainLineage = true →
      candidateAuthorized inputs.promotionGrant = true) ∧
    PromotionFacts inputs.readinessProjection inputs.requestedImageDigest
      inputs.promotionBatchId inputs.occGateState inputs.rollbackTarget ∧
    evaluatePromotionGrant text inputs = .ok none ∧ Promotes inputs decision := by
  unfold evaluateProdPromotionGate at allows
  cases lineage : evaluateCandidateLineage text inputs with
  | some candidateBlock =>
    rw [lineage] at allows
    exact absurd allows (not_allows_blocked (evaluateCandidateLineage_refuses lineage))
  | none =>
    rw [lineage] at allows
    cases projected : inputs.readinessProjection with
    | none =>
      rw [projected] at allows
      exact absurd allows (not_allows_blocked rfl)
    | some fact =>
      rw [projected] at allows
      simp only [allows_unless, allows_withGrant] at allows
      obtain ⟨batch, ready, digestGate, occ, restorable, granted, rfl⟩ := allows
      rw [Bool.not_eq_true, Bool.not_eq_false'] at digestGate occ
      obtain ⟨pinned, _, digest⟩ := evaluateProdDigestGate_allowed_iff.1 digestGate
      have facts : PromotionFacts (some fact) inputs.requestedImageDigest
          inputs.promotionBatchId inputs.occGateState inputs.rollbackTarget :=
        { projected := ⟨fact, rfl, not_not.1 ready, digest, not_not.1 batch⟩
          pinned := pinned
          durable := occ
          restorable := (Bool.not_eq_true _).mp restorable }
      exact ⟨evaluateCandidateLineage_eq_none.1 lineage, facts, granted,
        evaluateProdDigestGate_digest digestGate, rfl⟩

theorem evaluateProdPromotionGate_complete
    (lineage : isCandidate inputs.promotionClass inputs.nonMainLineage = true →
      candidateAuthorized inputs.promotionGrant = true)
    (facts : PromotionFacts inputs.readinessProjection inputs.requestedImageDigest
      inputs.promotionBatchId inputs.occGateState inputs.rollbackTarget)
    (granted : evaluatePromotionGrant text inputs = .ok none) :
    ∃ decision, Allows (evaluateProdPromotionGate text inputs) decision := by
  obtain ⟨fact, projected, ready, digest, batch⟩ := facts.projected
  have digestGate : (evaluateProdDigestGate text inputs.requestedImageDigest
      (some fact.asStabilityReadiness)).allowed = true :=
    evaluateProdDigestGate_allowed_iff.2
      ⟨facts.pinned, asStabilityReadiness_ready.2 ready, digest⟩
  unfold evaluateProdPromotionGate
  rw [evaluateCandidateLineage_eq_none.2 lineage, projected]
  simp only [allows_unless, allows_withGrant]
  refine ⟨_, not_not.2 batch, not_not.2 ready, ?_, ?_, ?_, granted, rfl⟩
  · simp [digestGate]
  · simpa using facts.durable
  · simp [facts.restorable]

theorem evaluateProdPromotionGate_returns
    (comparable : ∀ held, inputs.promotionGrant = some held →
      inputs.evaluatedAt.Comparable held.expiresAt) :
    ∃ decision, evaluateProdPromotionGate text inputs = .ok decision := by
  obtain ⟨block, checked⟩ := evaluatePromotionGrant_returns comparable
  unfold evaluateProdPromotionGate
  rw [checked]
  split
  · exact ⟨_, rfl⟩
  split
  · exact ⟨_, rfl⟩
  dsimp only
  split_ifs
  all_goals exact ⟨_, rfl⟩

/-! ## What the gate decides -/

variable {command : ModelProdPromotionGateCommand}

structure GateSatisfied (command : ModelProdPromotionGateCommand) : Prop where
  lineage : isCandidate command.promotionClass command.nonMainLineage = true →
    candidateAuthorized command.promotionGrant = true
  facts : PromotionFacts command.readinessProjection command.requestedImageDigest
    command.promotionBatchId command.occGateState (gateRollbackTarget command)
  granted : ∃ held, command.promotionGrant = some held ∧
    GrantBinds held command.requestedImageDigest command.promotionBatchId command.evaluatedAt

theorem evaluateGate_sound (prod : command.runtimeLane = .prod)
    (allows : Allows (evaluateGate text command) decision) :
    GateSatisfied command ∧ decision.imageDigest = command.requestedImageDigest ∧
      decision.rollbackTarget = gateRollbackTarget command := by
  unfold evaluateGate at allows
  dsimp only at allows
  rw [if_neg (not_not.2 prod)] at allows
  split_ifs at allows with _ unprojected
  · exact absurd allows (not_allows_blocked rfl)
  · exact absurd allows (not_allows_blocked evaluateProdDigestGate_none)
  · cases stamped : command.evaluatedAt with
    | none =>
      rw [stamped] at allows
      cases allows.1
    | some evaluatedAt =>
      rw [stamped] at allows
      obtain ⟨lineage, facts, granted, promotes⟩ := evaluateProdPromotionGate_sound allows
      obtain ⟨held, carried, binds⟩ := evaluatePromotionGrant_passes_iff.1 granted
      exact ⟨⟨lineage, facts, held, carried, stamped ▸ binds⟩, promotes.imageDigest,
        promotes.rollbackTarget⟩

theorem evaluateGate_allows_iff (prod : command.runtimeLane = .prod) :
    (∃ decision, Allows (evaluateGate text command) decision) ↔ GateSatisfied command := by
  constructor
  · rintro ⟨decision, allows⟩
    exact (evaluateGate_sound prod allows).1
  · intro satisfied
    obtain ⟨held, granted, binds⟩ := satisfied.granted
    obtain ⟨evaluatedAt, stamped, live⟩ := binds.live
    obtain ⟨fact, projected, _⟩ := satisfied.facts.projected
    have lineage : ¬ (isCandidate command.promotionClass command.nonMainLineage &&
        !candidateAuthorized command.promotionGrant) = true := by
      rw [Bool.and_eq_true, Bool.not_eq_true']
      rintro ⟨candidate, unauthorized⟩
      rw [satisfied.lineage candidate] at unauthorized
      cases unauthorized
    unfold evaluateGate
    rw [if_neg (not_not.2 prod), if_neg lineage, if_neg (by simp [projected])]
    simp only [stamped]
    refine evaluateProdPromotionGate_complete satisfied.lineage satisfied.facts ?_
    rw [evaluatePromotionGrant_passes_iff]
    exact ⟨held, granted, stamped ▸ binds⟩

theorem evaluateGate_returns {evaluatedAt : PyDatetime}
    (stamped : command.evaluatedAt = some evaluatedAt)
    (comparable : ∀ held, command.promotionGrant = some held →
      evaluatedAt.Comparable held.expiresAt) :
    ∃ decision, evaluateGate text command = .ok decision := by
  unfold evaluateGate
  dsimp only
  split_ifs
  · exact ⟨_, rfl⟩
  · exact ⟨_, rfl⟩
  · exact ⟨_, rfl⟩
  · rw [stamped]
    exact evaluateProdPromotionGate_returns comparable

theorem evaluateGate_unprojected (prod : command.runtimeLane = .prod)
    (unprojected : command.readinessProjection = none) :
    ¬ Allows (evaluateGate text command) decision := by
  intro allows
  obtain ⟨_, projected, _⟩ := (evaluateGate_sound prod allows).1.facts.projected
  rw [unprojected] at projected
  cases projected

end

end OmniMarket.Redeploy
