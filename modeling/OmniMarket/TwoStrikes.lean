import OmniMarket.Lib.Acting
import OmniMarket.Lib.Lines
import OmniMarket.Lib.OrderedDict
import OmniMarket.Lib.Raising
import OmniMarket.Lib.Trace

/-!
# Two strikes

`HandlerPrLifecycleFix` gives a failing PR to a delegated fix. Each failure is a strike of the PR
and its block reason in a JSON file, and from the second on the fix goes to the agent. The handler
keeps nothing between two calls, so a restart is no step. A file that cannot be read counts as
empty, but one that cannot even be looked up raises.
-/

namespace OmniMarket.PrLifecycleFix

open PyText

/-! ## Commands -/

inductive EnumPrBlockReason where
  | ciFailure | codeFailure | receiptFailure | conflict | changesRequested | coderabbit
  | deployGateContractNotFound | receiptEvidenceSourceAutobind
deriving DecidableEq

def EnumPrBlockReason.value : EnumPrBlockReason → String
  | ciFailure => "ci_failure"
  | codeFailure => "code_failure"
  | receiptFailure => "receipt_failure"
  | conflict => "conflict"
  | changesRequested => "changes_requested"
  | coderabbit => "coderabbit"
  | deployGateContractNotFound => "deploy_gate_contract_not_found"
  | receiptEvidenceSourceAutobind => "receipt_evidence_source_autobind"

structure ModelPrLifecycleFixCommand where
  prNumber : ℕ
  repo : String
  blockReason : EnumPrBlockReason
  ticketId : Option String := none
  changedFiles : List String := []
  diffTotalLines : ℕ := 0
  reviewContextText : String := ""
  prNumber_pos : 0 < prNumber := by decide

/-! ## Eligibility -/

def MAX_DELEGATION_FILES : ℕ := 3

def MAX_DELEGATION_LINES : ℕ := 60

def TWO_STRIKE_THRESHOLD : ℕ := 2

def DENYLIST_PATH_PATTERNS : List String :=
  ["onex_change_control/", "deploy-gate", "no-raw-prod-bypass", "prod_promotion_grants", "/auth/",
    "auth_", "_auth"]

def DENYLIST_KEYWORDS : List String :=
  ["security", "auth", "crypto", "injection", "secret", "password", "credential", "token"]

def DELEGATION_ELIGIBLE_REASONS : List String := ["code_failure", "changes_requested"]

def isDelegationEligible (unicode : UnicodeTable) (blockReason : String)
    (changedFiles : List String) (diffTotalLines : ℕ) (reviewContextText : String) (strikes : ℕ) :
    Bool × String :=
  if blockReason ∉ DELEGATION_ELIGIBLE_REASONS then
    (false, "block_reason_not_eligible:" ++ blockReason)
  else if TWO_STRIKE_THRESHOLD ≤ strikes then (false, "two_strike_permanent_escalation")
  else if changedFiles.isEmpty then (false, "changed_files_unknown")
  else if MAX_DELEGATION_FILES < changedFiles.length then (false, "blast_radius_too_many_files")
  else if MAX_DELEGATION_LINES < diffTotalLines then (false, "blast_radius_too_many_lines")
  else
    let loweredPaths := changedFiles.map (lowerString unicode)
    let haystack := [' '].intercalate loweredPaths ++ ' ' :: lowerString unicode reviewContextText
    match DENYLIST_PATH_PATTERNS.find? fun pattern =>
        loweredPaths.any (containsText pattern.toList) with
    | some pattern => (false, "denylisted_path:" ++ pattern)
    | none =>
      match DENYLIST_KEYWORDS.find? fun keyword => containsText keyword.toList haystack with
      | some keyword => (false, "denylisted_keyword:" ++ keyword)
      | none => (true, "eligible")

/-! ## The store -/

/-- The counts of `two_strike.json`. -/
abbrev StrikeFile := OrderedDict String ℕ

/-- A read finds the whole file, or fails or finds it truncated. What `Path.exists` raises, and
a file that is no text, are outside of the handled errors. -/
inductive FileRead where
  | whole | lost
  | raised (exc : String)

/-- `_read`. -/
def StrikeFile.read (file : StrikeFile) : FileRead → Except String StrikeFile
  | .whole => .ok file
  | .lost => .ok .empty
  | .raised exc => .error exc

def StrikeFile.getStrikes (data : StrikeFile) (key : String) : ℕ := (data.get? key).getD 0

/-- `record_failure`: the new count and the file that is written. -/
def StrikeFile.recordFailure (file : StrikeFile) (found : FileRead) (key : String) :
    Except String (ℕ × StrikeFile) :=
  (file.read found).map fun data =>
    let newCount := data.getStrikes key + 1
    (newCount, data.set key newCount)

def strikeKey (repo : String) (prNumber : ℕ) (blockReason : String) : String :=
  repo ++ "#" ++ prNumber.repr ++ ":" ++ blockReason

/-! ## The handler -/

inductive EnumDelegationOutcome where
  | notAttempted | accepted | gateFailed | escalated

structure DelegationInfo where
  delegated : Bool := false
  model : Option String := none
  outcome : Option EnumDelegationOutcome := none
  costUsd : Option ℚ := none

structure ModelPrLifecycleFixResult extends DelegationInfo where
  prNumber : ℕ
  repo : String
  blockReason : EnumPrBlockReason
  fixApplied : Bool := false
  fixAction : String
  error : Option String := none

inductive Act where
  | delegatedFix (command : ModelPrLifecycleFixCommand) (failed : Bool)
  | reviewFix (repo : String) (prNumber : ℕ) (ticketId : Option String)

/-- What the world answers to one call; an exception is its text. -/
structure CallAnswers where
  getRead : FileRead := .whole
  recordRead : FileRead := .whole
  delegatedFix : Except String String
  reviewFix : Except String String
  /-- What the adapters of the other block reasons return. -/
  otherRoute : Except String String

structure Call where
  command : ModelPrLifecycleFixCommand
  answers : CallAnswers

/-- `unicode` lowers the paths and texts; the delegated fix runs on `delegationModelName`. -/
structure FixConfig where
  unicode : UnicodeTable
  delegationModelName : String

section

variable (config : FixConfig) (file : StrikeFile) (call : Call)

def Call.key : String :=
  strikeKey call.command.repo call.command.prNumber call.command.blockReason.value

/-- `is_delegation_eligible` of a command with so many strikes. -/
def Call.eligible (strikes : ℕ) : Bool :=
  (isDelegationEligible config.unicode call.command.blockReason.value call.command.changedFiles
    call.command.diffTotalLines call.command.reviewContextText strikes).1

abbrev Routed := Ended StrikeFile Act String (String × DelegationInfo)

def Call.reviewAct : Act :=
  .reviewFix call.command.repo call.command.prNumber call.command.ticketId

/-- `_route_delegatable_fix` with the strikes that it read. -/
def routeWithStrikes (strikes : ℕ) : Routed :=
  if call.eligible config strikes = false then
    { did := [call.reviewAct]
      left := file
      outcome := call.answers.reviewFix.map fun action =>
        (action, { outcome := some .notAttempted }) }
  else
    let tried : DelegationInfo :=
      { delegated := true, model := some config.delegationModelName, costUsd := some 0 }
    match call.answers.delegatedFix with
    | .ok action =>
      { did := [.delegatedFix call.command false]
        left := file
        outcome := .ok (action, { tried with outcome := some .accepted }) }
    | .error exc =>
      match file.recordFailure call.answers.recordRead call.key with
      | .error raised =>
        { did := [.delegatedFix call.command true], left := file, outcome := .error raised }
      | .ok (newStrikes, written) =>
        if TWO_STRIKE_THRESHOLD ≤ newStrikes then
          { did := [.delegatedFix call.command true, call.reviewAct]
            left := written
            outcome := call.answers.reviewFix.map fun fallback =>
              ("delegated fix failed permanently (" ++ exc ++ "); escalated to agent: " ++ fallback,
                { tried with outcome := some .escalated }) }
        else
          { did := [.delegatedFix call.command true]
            left := written
            outcome := .ok ("delegated fix failed (" ++ exc ++ "); strike " ++ newStrikes.repr ++
                "/" ++ TWO_STRIKE_THRESHOLD.repr ++
                ", no push — will retry or escalate next tick",
              { tried with outcome := some .gateFailed }) }

def routeDelegatableFix : Routed :=
  match file.read call.answers.getRead with
  | .error exc => { did := [], left := file, outcome := .error exc }
  | .ok data => routeWithStrikes config file call (data.getStrikes call.key)

/-- `_route`. Of the other block reasons only the agent's is followed further. -/
def route : Routed :=
  match call.command.blockReason with
  | .receiptFailure =>
    { did := [call.reviewAct]
      left := file
      outcome := call.answers.reviewFix.map fun action => (action, {}) }
  | .codeFailure | .changesRequested => routeDelegatableFix config file call
  | _ =>
    { did := [], left := file, outcome := call.answers.otherRoute.map fun action => (action, {}) }

structure Handled where
  did : List Act
  result : ModelPrLifecycleFixResult

def handle : StrikeFile × Handled :=
  let routed := route config file call
  let identity (info : DelegationInfo) (fixAction : String) : ModelPrLifecycleFixResult :=
    { info with
      prNumber := call.command.prNumber
      repo := call.command.repo
      blockReason := call.command.blockReason
      fixAction }
  (routed.left,
    { did := routed.did
      result :=
        match routed.outcome with
        | .ok (fixAction, info) => { identity info fixAction with fixApplied := true }
        | .error exc => { identity {} ("failed: " ++ exc) with error := some exc } })

end

/-! ## Two strikes are the end -/

/-- A PR and its block reason. -/
abbrev Target := String × ℕ × EnumPrBlockReason

def ModelPrLifecycleFixCommand.target (command : ModelPrLifecycleFixCommand) : Target :=
  (command.repo, command.prNumber, command.blockReason)

def keyOf (target : Target) : String := strikeKey target.1 target.2.1 target.2.2.value

def Act.delegates (target : Target) : Act → Bool
  | .delegatedFix command _ => command.target = target
  | .reviewFix .. => false

/-- A delegated dispatch for the target that failed. -/
def Act.fails (target : Target) : Act → Bool
  | .delegatedFix command failed => failed && command.target = target
  | .reviewFix .. => false

def Act.reviews : Act → Bool
  | .delegatedFix .. => false
  | .reviewFix .. => true

abbrev Taken := List (Trace.Transition StrikeFile Call Handled)

def failures (target : Target) (taken : Taken) : ℕ :=
  (taken.map fun t => t.output.did.countP (Act.fails target)).sum

structure EndsAfterTwoStrikes (taken : Taken) : Prop where
  bounded : ∀ target, failures target taken ≤ TWO_STRIKE_THRESHOLD
  permanent : ∀ target earlier t later, taken = earlier ++ t :: later →
    t.output.did.any (Act.delegates target) = true → failures target earlier < TWO_STRIKE_THRESHOLD
  kept : ∀ t ∈ taken, ∀ key, key ≠ t.event.key → t.before.getStrikes key ≤ t.after.getStrikes key
  once : ∀ t ∈ taken, ∀ target, t.output.did.any (Act.fails target) = true →
    (t.output.did.countP Act.reviews = 0 ∧ t.output.result.outcome = some .gateFailed) ∨
      t.output.did.countP Act.reviews = 1

variable (config : FixConfig) (file : StrikeFile) (call : Call)

/-- The handler dispatches a delegated fix. -/
def Tries : Prop :=
  ∃ data, file.read call.answers.getRead = .ok data ∧
    call.eligible config (data.getStrikes call.key) = true

/-- No read that is lost was to find a strike that matters: before a dispatch the second strike of
the key, and before a count is written any strike at all. The read before a count is written does
not raise. -/
structure ReadsKeep : Prop where
  seen : call.answers.getRead = .lost → call.eligible config 0 = true →
    file.getStrikes call.key < TWO_STRIKE_THRESHOLD
  recorded : call.answers.recordRead = .lost → Tries config file call →
    (∃ exc, call.answers.delegatedFix = .error exc) → ∀ key, file.getStrikes key = 0
  counted : Tries config file call → (∃ exc, call.answers.delegatedFix = .error exc) →
    ∀ exc, call.answers.recordRead ≠ .raised exc

variable {config file call} {key : String} {target : Target} {exc : String}

/-! ### Keys -/

theorem value_inj {reason other : EnumPrBlockReason} (same : reason.value = other.value) :
    reason = other := by
  revert same
  cases reason <;> cases other <;> decide

theorem no_separator (reason : EnumPrBlockReason) : ':' ∉ reason.value.toList := by
  cases reason <;> decide

/-- Every PR and block reason has a count of its own. -/
theorem keyOf_inj {other : Target} (same : keyOf target = keyOf other) : target = other := by
  have spelled : ∀ target : Target, (keyOf target).toList =
      (target.1.toList ++ '#' :: target.2.1.repr.toList) ++ ':' :: target.2.2.value.toList := by
    intro target
    simp [keyOf, strikeKey, String.toList_append]
  have texts := congrArg String.toList same
  rw [spelled, spelled] at texts
  obtain ⟨fronts, reasons⟩ :=
    append_separator_inj (no_separator target.2.2) (no_separator other.2.2) texts
  obtain ⟨repos, numbers⟩ := append_separator_inj (not_mem_repr (by decide) target.2.1)
    (not_mem_repr (by decide) other.2.1) fronts
  exact Prod.ext (String.toList_inj.1 repos) (Prod.ext
    (Nat.repr_inj.1 (String.toList_inj.1 numbers)) (value_inj (String.toList_inj.1 reasons)))

theorem key_eq : call.key = keyOf call.command.target := rfl

/-! ### One call -/

theorem eligible_iff {strikes : ℕ} : call.eligible config strikes = true ↔
    strikes < TWO_STRIKE_THRESHOLD ∧ call.eligible config 0 = true := by
  unfold Call.eligible isDelegationEligible
  by_cases unknown : call.command.blockReason.value ∉ DELEGATION_ELIGIBLE_REASONS
  · rw [if_pos unknown, if_pos unknown]
    simp
  · rw [if_neg unknown, if_neg unknown, if_neg (by decide : ¬ TWO_STRIKE_THRESHOLD ≤ 0)]
    by_cases reached : TWO_STRIKE_THRESHOLD ≤ strikes
    · rw [if_pos reached]
      exact iff_of_false Bool.false_ne_true fun below => absurd reached (Nat.not_le.2 below.1)
    · rw [if_neg reached, and_iff_right (Nat.not_le.1 reached)]

theorem routeDelegatableFix_of_tries (tries : Tries config file call) :
    ∃ strikes, call.eligible config strikes = true ∧
      routeDelegatableFix config file call = routeWithStrikes config file call strikes := by
  obtain ⟨data, found, eligible⟩ := tries
  refine ⟨_, eligible, ?_⟩
  unfold routeDelegatableFix
  rw [found]

/-- A call that tries nothing asks the agent at most, and does not say that it delegated. -/
theorem routeDelegatableFix_untried (untried : ¬ Tries config file call) :
    ∃ did outcome, routeDelegatableFix config file call = ⟨did, file, outcome⟩ ∧
      (∀ act ∈ did, act.reviews = true) ∧
      ∀ action info, outcome = .ok (action, info) → info.delegated = false := by
  unfold routeDelegatableFix
  cases found : file.read call.answers.getRead with
  | error exc => exact ⟨_, _, rfl, fun _ listed => absurd listed List.not_mem_nil, nofun⟩
  | ok data =>
    have refused : call.eligible config (data.getStrikes call.key) = false :=
      Bool.eq_false_iff.2 fun eligible => untried ⟨data, found, eligible⟩
    refine ⟨_, _, if_pos refused, fun act listed => List.mem_singleton.1 listed ▸ rfl, ?_⟩
    intro action info returned
    obtain ⟨_, _, same⟩ := Raising.map_eq_ok.1 returned
    cases same
    rfl

theorem handle_untried (untried : ¬ Tries config file call) :
    (handle config file call).1 = file ∧
      (∀ act ∈ (handle config file call).2.did, act.reviews = true) ∧
      (handle config file call).2.result.delegated = false := by
  obtain ⟨did, outcome, ended, reviews, undelegated⟩ := routeDelegatableFix_untried untried
  unfold handle route
  cases call.command.blockReason <;> dsimp only
  case codeFailure | changesRequested =>
    rw [ended]
    refine ⟨rfl, reviews, ?_⟩
    cases outcome with
    | error exc => rfl
    | ok routed => exact undelegated _ _ rfl
  case receiptFailure =>
    exact ⟨rfl, fun act listed => List.mem_singleton.1 listed ▸ rfl,
      by cases call.answers.reviewFix <;> rfl⟩
  all_goals
    exact ⟨rfl, fun _ listed => absurd listed List.not_mem_nil,
      by cases call.answers.otherRoute <;> rfl⟩

theorem route_of_tries (tries : Tries config file call) :
    route config file call = routeDelegatableFix config file call := by
  obtain ⟨data, -, admitted⟩ := tries
  have eligible := (eligible_iff.1 admitted).2
  unfold Call.eligible at eligible
  unfold route
  cases reason : call.command.blockReason <;> rw [reason] at eligible <;>
    first | rfl | cases eligible

theorem handle_accepted {action : String} (tries : Tries config file call)
    (accepted : call.answers.delegatedFix = .ok action) :
    (handle config file call).1 = file ∧
      (handle config file call).2.did = [.delegatedFix call.command false] := by
  obtain ⟨strikes, eligible, routed⟩ := routeDelegatableFix_of_tries tries
  unfold handle
  dsimp only
  rw [route_of_tries tries, routed, routeWithStrikes, if_neg (Bool.eq_false_iff.not_left.2 eligible),
    accepted]
  exact ⟨rfl, rfl⟩

section

variable (tries : Tries config file call) (failed : call.answers.delegatedFix = .error exc)

include tries failed

/-- A delegated fix that fails is recorded, and is left for a retry or handed to the agent; where
the file raises, nothing is recorded. -/
theorem handle_failed :
    (∃ raised, call.answers.recordRead = .raised raised ∧
        (handle config file call).2.did = [.delegatedFix call.command true]) ∨
      ∃ count, file.recordFailure call.answers.recordRead call.key =
          .ok (count, (handle config file call).1) ∧
        (((handle config file call).2.did = [.delegatedFix call.command true] ∧
            (handle config file call).2.result.outcome = some .gateFailed) ∨
          (handle config file call).2.did = [.delegatedFix call.command true, call.reviewAct]) := by
  obtain ⟨strikes, eligible, routed⟩ := routeDelegatableFix_of_tries tries
  unfold handle
  dsimp only
  rw [route_of_tries tries, routed, routeWithStrikes, if_neg (Bool.eq_false_iff.not_left.2 eligible),
    failed]
  dsimp only
  cases noted : file.recordFailure call.answers.recordRead call.key with
  | error raised =>
    refine .inl ⟨raised, ?_, rfl⟩
    cases found : call.answers.recordRead with
    | raised exc =>
      rw [found] at noted
      cases noted
      rfl
    | whole | lost =>
      rw [found] at noted
      cases noted
  | ok recorded =>
    obtain ⟨count, written⟩ := recorded
    refine .inr ⟨count, ?_⟩
    dsimp only
    split
    · exact ⟨rfl, .inr rfl⟩
    · exact ⟨rfl, .inl ⟨rfl, rfl⟩⟩

theorem handle_failed_did :
    (handle config file call).2.did = [.delegatedFix call.command true] ∨
      (handle config file call).2.did = [.delegatedFix call.command true, call.reviewAct] := by
  rcases handle_failed tries failed with ⟨_, -, did⟩ | ⟨_, -, ⟨did, -⟩ | did⟩
  · exact .inl did
  · exact .inl did
  · exact .inr did

end

/-! ### What a call leaves in the file -/

theorem below_of_tries (keep : ReadsKeep config file call) (tries : Tries config file call) :
    file.getStrikes call.key < TWO_STRIKE_THRESHOLD := by
  obtain ⟨data, answered, admitted⟩ := tries
  obtain ⟨below, eligible⟩ := eligible_iff.1 admitted
  cases found : call.answers.getRead with
  | whole =>
    rw [found] at answered
    cases answered
    exact below
  | lost => exact keep.seen found eligible
  | raised exc =>
    rw [found] at answered
    cases answered

theorem getStrikes_set (data : StrikeFile) (own key : String) (count : ℕ) :
    (StrikeFile.getStrikes (data.set own count) key) =
      if key = own then count else data.getStrikes key := by
  unfold StrikeFile.getStrikes
  split
  · next same => rw [same, OrderedDict.get?_set_self, Option.getD_some]
  · next other => rw [OrderedDict.get?_set_other other]

/-- Where the reads keep the strikes, a failed dispatch is one more strike of its key. -/
theorem handle_recorded (keep : ReadsKeep config file call) (tries : Tries config file call)
    (failed : call.answers.delegatedFix = .error exc) :
    (∀ key, (handle config file call).1.getStrikes key =
        file.getStrikes key + if key = call.key then 1 else 0) ∧
      (((handle config file call).2.did = [.delegatedFix call.command true] ∧
          (handle config file call).2.result.outcome = some .gateFailed) ∨
        (handle config file call).2.did = [.delegatedFix call.command true, call.reviewAct]) := by
  rcases handle_failed tries failed with ⟨raised, found, -⟩ | ⟨count, noted, did⟩
  · exact absurd found (keep.counted tries ⟨exc, failed⟩ raised)
  refine ⟨fun key => ?_, did⟩
  obtain ⟨data, answered, written⟩ := Raising.map_eq_ok.1 noted
  have kept : ∀ key, data.getStrikes key = file.getStrikes key := by
    cases found : call.answers.recordRead with
    | whole =>
      rw [found] at answered
      cases answered
      exact fun _ => rfl
    | lost =>
      rw [found] at answered
      cases answered
      exact fun key => (keep.recorded found tries ⟨exc, failed⟩ key).symm
    | raised exc =>
      rw [found] at answered
      cases answered
  have left : (handle config file call).1 = _ := (congrArg Prod.snd written).symm
  rw [left, getStrikes_set, kept, kept]
  split
  · next own => rw [own]
  · rfl

theorem not_failed {did : List Act} (quiet : did.any (Act.delegates target) = false) :
    did.countP (Act.fails target) = 0 := by
  rw [List.countP_eq_zero]
  intro act listed fails
  refine List.any_eq_false.1 quiet act listed ?_
  cases act with
  | delegatedFix command failed => exact (Bool.and_eq_true_iff.1 fails).2
  | reviewFix => cases fails

theorem quiet_of_reviews {did : List Act} (reviews : ∀ act ∈ did, act.reviews = true) :
    did.any (Act.delegates target) = false := by
  rw [List.any_eq_false]
  intro act listed delegates
  cases act with
  | delegatedFix => cases reviews _ listed
  | reviewFix => cases delegates

/-- A call adds its failed dispatch to the count of its key, and changes no other. -/
theorem handle_strikes (keep : ReadsKeep config file call) (target : Target) :
    (handle config file call).1.getStrikes (keyOf target) =
      file.getStrikes (keyOf target) + (handle config file call).2.did.countP (Act.fails target) := by
  by_cases tries : Tries config file call
  · cases tried : call.answers.delegatedFix with
    | ok action =>
      obtain ⟨same, did⟩ := handle_accepted tries tried
      rw [same, did]
      rfl
    | error exc =>
      obtain ⟨written, did⟩ := handle_recorded keep tries tried
      have counted : (handle config file call).2.did.countP (Act.fails target) =
          if call.command.target = target then 1 else 0 := by
        rcases did with ⟨did, -⟩ | did <;> rw [did] <;> simp [List.countP_cons, Act.fails, Call.reviewAct]
      have own : keyOf target = call.key ↔ call.command.target = target := by
        rw [key_eq]
        exact ⟨fun same => (keyOf_inj same).symm, fun same => by rw [same]⟩
      rw [written, counted]
      simp only [own]
  · obtain ⟨same, reviews, -⟩ := handle_untried tries
    rw [same, not_failed (quiet_of_reviews reviews), Nat.add_zero]

/-- A call leaves a count, or raises that of its own key by the dispatch that failed. -/
theorem strikes_cases (keep : ReadsKeep config file call) (key : String) :
    (handle config file call).1.getStrikes key = file.getStrikes key ∨
      (key = call.key ∧ Tries config file call ∧
        (handle config file call).1.getStrikes key = file.getStrikes key + 1) := by
  by_cases tries : Tries config file call
  · cases tried : call.answers.delegatedFix with
    | ok action => exact .inl (congrArg (StrikeFile.getStrikes · key) (handle_accepted tries tried).1)
    | error exc =>
      have written := (handle_recorded keep tries tried).1 key
      by_cases own : key = call.key
      · rw [if_pos own] at written
        exact .inr ⟨own, tries, written⟩
      · rw [if_neg own] at written
        exact .inl written
  · exact .inl (congrArg (StrikeFile.getStrikes · key) (handle_untried tries).1)

theorem tries_of_delegates
    (delegates : (handle config file call).2.did.any (Act.delegates target) = true) :
    Tries config file call ∧ call.command.target = target := by
  have tries : Tries config file call := by
    by_contra untried
    rw [quiet_of_reviews (handle_untried untried).2.1] at delegates
    cases delegates
  refine ⟨tries, ?_⟩
  cases tried : call.answers.delegatedFix with
  | ok action =>
    rw [(handle_accepted tries tried).2] at delegates
    simpa [Act.delegates] using delegates
  | error exc =>
    rcases handle_failed_did tries tried with did | did <;> rw [did] at delegates <;>
      simpa [Act.delegates, Call.reviewAct] using delegates

theorem delegates_of_fails {did : List Act} (fails : did.any (Act.fails target) = true) :
    did.any (Act.delegates target) = true := by
  by_contra quiet
  obtain ⟨act, listed, failed⟩ := List.any_eq_true.1 fails
  exact List.countP_eq_zero.1 (not_failed (Bool.eq_false_iff.2 quiet)) act listed failed

theorem handed_once (keep : ReadsKeep config file call) (fails : (handle config file call).2.did.any (Act.fails target) = true) :
    ((handle config file call).2.did.countP Act.reviews = 0 ∧
        (handle config file call).2.result.outcome = some .gateFailed) ∨
      (handle config file call).2.did.countP Act.reviews = 1 := by
  have tries := (tries_of_delegates (delegates_of_fails fails)).1
  cases tried : call.answers.delegatedFix with
  | ok action =>
    rw [(handle_accepted tries tried).2] at fails
    cases fails
  | error exc =>
    rcases (handle_recorded keep tries tried).2 with ⟨did, left⟩ | did
    · exact .inl ⟨by rw [did]; rfl, left⟩
    · exact .inr (by rw [did]; rfl)

/-! ### Runs -/

section

variable {calls : List Call}
  (keep : ∀ t ∈ Trace.run (handle config) .empty calls, ReadsKeep config t.before t.event)

include keep

/-- The counts in the file are the failed dispatches so far. -/
theorem strikes_final (target : Target) :
    (Trace.final (handle config) .empty calls).getStrikes (keyOf target) =
      failures target (Trace.run (handle config) .empty calls) := by
  have ledger := @Trace.run_ledger StrikeFile Call Handled ℕ (handle config) .empty calls _
    (fun data => data.getStrikes (keyOf target))
    (fun t => t.output.did.countP (Act.fails target)) (fun _ => 0) fun t taken => by
      have counted := handle_strikes (keep t taken) target
      rw [Trace.run_steps taken] at counted
      exact counted
  simpa [StrikeFile.getStrikes, failures] using ledger

theorem strikes_bounded : ∀ key,
    (Trace.final (handle config) .empty calls).getStrikes key ≤ TWO_STRIKE_THRESHOLD := by
  refine (@Trace.run_invariant StrikeFile Call Handled (handle config) .empty calls
    (fun data => ∀ key, data.getStrikes key ≤ TWO_STRIKE_THRESHOLD) (fun _ => Nat.zero_le _)
    fun t taken bounded key => ?_).1
  have moved := strikes_cases (keep t taken) key
  rw [Trace.run_steps taken] at moved
  rcases moved with same | ⟨rfl, tries, more⟩
  · exact same ▸ bounded key
  · have below := below_of_tries (keep t taken) tries
    dsimp only at more
    omega

end

/-- Two failed dispatches end delegation for good, in every run of calls whose reads keep the
strikes: no read is lost that was to find the second strike of the key before a dispatch, or any
strike before a failure is written, and none raises there. -/
theorem two_strikes_end (config : FixConfig) (calls : List Call)
    (keep : ∀ t ∈ Trace.run (handle config) .empty calls, ReadsKeep config t.before t.event) :
    EndsAfterTwoStrikes (Trace.run (handle config) .empty calls) where
  bounded target := strikes_final keep target ▸ strikes_bounded keep (keyOf target)
  permanent := by
    intro target earlier t later split delegates
    obtain ⟨before, rfl, here⟩ := Trace.run_prefix split
    have taken : t ∈ Trace.run (handle config) .empty calls :=
      split ▸ List.mem_append_right _ List.mem_cons_self
    have tried := @tries_of_delegates config t.before t.event target
    rw [Trace.run_steps taken] at tried
    obtain ⟨tries, rfl⟩ := tried delegates
    have keep' : ∀ t ∈ Trace.run (handle config) .empty before, ReadsKeep config t.before t.event :=
      fun t listed => keep t (split ▸ List.mem_append_left _ listed)
    rw [← strikes_final keep', ← here]
    exact below_of_tries (keep t taken) tries
  kept := by
    intro t taken key other
    have moved := strikes_cases (keep t taken) key
    rw [Trace.run_steps taken] at moved
    rcases moved with same | ⟨own, -⟩
    · exact same.ge
    · exact absurd own other
  once := by
    intro t taken target fails
    have once := @handed_once config t.before t.event target (keep t taken)
    rw [Trace.run_steps taken] at once
    exact once fails

/-! ### The envelope of a delegated fix -/

/-- In lower case the text holds none of the needles. -/
def Free (unicode : UnicodeTable) (needles : List String) (text : String) : Prop :=
  ∀ needle ∈ needles, containsText needle.toList (lowerString unicode text) = false

structure WithinEnvelope (unicode : UnicodeTable) (command : ModelPrLifecycleFixCommand) : Prop where
  reason : command.blockReason = .codeFailure ∨ command.blockReason = .changesRequested
  files : command.changedFiles ≠ [] ∧ command.changedFiles.length ≤ MAX_DELEGATION_FILES
  lines : command.diffTotalLines ≤ MAX_DELEGATION_LINES
  paths : ∀ path ∈ command.changedFiles,
    Free unicode (DENYLIST_PATH_PATTERNS ++ DENYLIST_KEYWORDS) path
  context : Free unicode DENYLIST_KEYWORDS command.reviewContextText

theorem mem_intersperse {α : Type} {separator item : α} {items : List α} (listed : item ∈ items) :
    item ∈ items.intersperse separator := by
  fun_induction List.intersperse separator items with grind

theorem within_of_eligible {strikes : ℕ} (eligible : call.eligible config strikes = true) :
    WithinEnvelope config.unicode call.command := by
  unfold Call.eligible isDelegationEligible at eligible
  -- only the last of the refusals in turn lets a command through
  split at eligible
  · cases eligible
  next reason =>
  split at eligible
  · cases eligible
  split at eligible
  · cases eligible
  next known =>
  split at eligible
  · cases eligible
  next files =>
  split at eligible
  · cases eligible
  next lines =>
  dsimp only at eligible
  split at eligible
  · cases eligible
  next clean =>
  split at eligible
  · cases eligible
  next silent =>
  have unspoken : ∀ keyword ∈ DENYLIST_KEYWORDS, ∀ part, part <:+:
      [' '].intercalate (call.command.changedFiles.map (lowerString config.unicode)) ++
        ' ' :: lowerString config.unicode call.command.reviewContextText →
      containsText keyword.toList part = false := by
    intro keyword listed part inside
    by_contra spoken
    have held := infix_of_containsText (Bool.eq_true_of_not_eq_false spoken)
    exact List.find?_eq_none.1 silent keyword listed (containsText_of_isInfix (held.trans inside))
  refine ⟨?_, ⟨by simpa using known, by simpa using files⟩, by simpa using lines, ?_, ?_⟩
  · revert reason
    cases call.command.blockReason <;> decide
  · intro path listed needle among
    rcases List.mem_append.1 among with pattern | keyword
    · have absent := List.find?_eq_none.1 clean needle pattern
      rw [List.any_map, List.any_eq_true, not_exists] at absent
      exact Bool.eq_false_iff.2 fun held => absent path ⟨listed, held⟩
    · refine unspoken needle keyword _ (List.IsInfix.trans ?_ (List.infix_append_left ..))
      exact List.infix_of_mem_flatten (mem_intersperse (List.mem_map_of_mem listed))
  · intro keyword among
    exact unspoken keyword among _ ((List.suffix_cons ..).trans (List.suffix_append ..)).isInfix

def Handled.sent (handled : Handled) : List Act := handled.did.filter fun act => !act.reviews

/-- Whatever the strike file holds and whichever of its reads are lost or raise: in every run a call sends
nothing to a delegated fix and does not say that it did, or sends the one command that it was
given, which is within the envelope. -/
theorem delegation_enveloped (config : FixConfig) (file : StrikeFile) (calls : List Call) :
    ∀ t ∈ Trace.run (handle config) file calls,
      (t.output.sent = [] ∧ t.output.result.delegated = false) ∨
        ∃ failed, t.output.sent = [.delegatedFix t.event.command failed] ∧
          WithinEnvelope config.unicode t.event.command := by
  intro t taken
  have output : (handle config t.before t.event).2 = t.output := by rw [Trace.run_steps taken]
  rw [← output]
  by_cases tries : Tries config t.before t.event
  · obtain ⟨data, -, eligible⟩ := id tries
    have within := within_of_eligible eligible
    refine .inr ?_
    unfold Handled.sent
    cases tried : t.event.answers.delegatedFix with
    | ok action => exact ⟨false, by rw [(handle_accepted tries tried).2]; rfl, within⟩
    | error exc =>
      refine ⟨true, ?_, within⟩
      rcases handle_failed_did tries tried with did | did <;> rw [did] <;> rfl
  · obtain ⟨-, reviews, undelegated⟩ := handle_untried tries
    refine .inl ⟨List.filter_eq_nil_iff.2 fun act listed => ?_, undelegated⟩
    rw [reviews act listed]
    decide

/-! ### Two PRs -/

def sampleConfig : FixConfig where
  unicode := asciiTable
  delegationModelName := "ruff-deterministic"

/-- A delegated fix of a small change that fails. -/
def failingFix (prNumber : ℕ) (positive : 0 < prNumber) (recordRead : FileRead) : Call where
  command :=
    { prNumber, prNumber_pos := positive, repo := "omni/market", blockReason := .codeFailure,
      changedFiles := ["a.py"] }
  answers :=
    { recordRead, delegatedFix := .error "ruff", reviewFix := .ok "dispatched",
      otherRoute := .ok "none" }

theorem three_failing_fixes : EndsAfterTwoStrikes (Trace.run (handle sampleConfig) .empty
    (List.replicate 3 (failingFix 7 (by decide) .whole))) :=
  two_strikes_end sampleConfig _ fun t taken => by
    have own := List.eq_of_mem_replicate (Trace.mem_events taken)
    rw [own]
    exact ⟨nofun, nofun, nofun⟩

/-- A fix whose failure is recorded while the file cannot be read. -/
theorem lost_record_enveloped :
    ∃ failed, (handle sampleConfig .empty (failingFix 8 (by decide) .lost)).2.sent =
        [.delegatedFix (failingFix 8 (by decide) .lost).command failed] ∧
      WithinEnvelope asciiTable (failingFix 8 (by decide) .lost).command := by
  have either := delegation_enveloped sampleConfig .empty [failingFix 8 (by decide) .lost] _
    List.mem_cons_self
  refine either.resolve_left ?_
  rintro ⟨-, unreported⟩
  exact absurd unreported (by decide +kernel)

/-- A strike of one PR that is recorded while the file cannot be read wipes out that of another. -/
theorem strike_wiped_out : ¬ EndsAfterTwoStrikes (Trace.run (handle sampleConfig) .empty
    [failingFix 7 (by decide) .whole, failingFix 8 (by decide) .lost]) := by
  intro ends
  have kept := ends.kept _ (List.mem_cons_of_mem _ List.mem_cons_self)
    (keyOf ("omni/market", 7, .codeFailure)) (by decide)
  exact absurd kept (by decide +kernel)

end OmniMarket.PrLifecycleFix
