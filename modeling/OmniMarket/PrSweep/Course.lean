import OmniMarket.Lib.Raising
import OmniMarket.PrSweep.Phases

/-!
# The course of a pass

What a pass does to the PRs it may merge, as a function of the answers it gets: the
verifications, the read-backs of the arm gate, the merge calls and the MERGED conclusions.

`sweep_tells`: the log of a pass tells exactly that course.
-/

namespace OmniMarket.PrSweep

open OmniMarket.PrLedger (EnumPrLedgerConclusion)
open Acting

inductive Telling where
  | verified (verification : Verification)
  | attested (key : PrKey) (attested : Bool)
  | merge (command : ModelPrMergeCommand) (answer : Option ModelPrMergeResult)
  | concluded (key : PrKey)

def Entry.tells : Entry → Option Telling
  | .verified verification => some (.verified verification)
  | .armReadBack repo prNumber attested => some (.attested (repo, prNumber) attested)
  | .merge command answer => some (.merge command answer)
  | .ledger event =>
    if event.conclusion = some .merged then some (.concluded event.key) else none
  | _ => none

section Course

variable (command : ModelPrLifecycleStartCommand) (around : Surroundings)

/-! ## The candidates -/

def outageOpen (inventory : InventoryResult) : Bool :=
  (collectSweepReasonCodes inventory).contains outageCode &&
    !(around.recoveryProbe.any fun probe => probe.toOption == some true)

/-- The inventory the pass goes on with. -/
def inventoried : Except String InventoryResult := do
  around.publishPhase .inventorying
  let inventory ← around.inventory (reposFilter command)
  let _ ← around.census
  pure inventory

def classifiedOf (inventory : InventoryResult) : Except String (List TriageRecord) := do
  around.publishPhase .triaging
  let classified ← around.triage inventory.prs
  around.project (reducerHandle command classified)
  pure classified

def candidatesOf (classified : List TriageRecord) : List TriageRecord :=
  recordsWith .merge (reducerHandle command classified) classified

/-- Whether the pass verifies merge candidates. -/
def verifies (mergePrs : List TriageRecord) : Bool :=
  command.verify && !mergePrs.isEmpty && !command.fixOnly

def clearedOf (mergePrs : List TriageRecord) : Except String (List TriageRecord) :=
  if verifies command mergePrs then do
    around.publishPhase .verifying
    pure (cleared command around mergePrs)
  else pure mergePrs

def readyOf (inventory : InventoryResult) (classified mergePrs : List TriageRecord) :
    Option Ready :=
  if command.dryRun then none
  else some ⟨inventory, outageOpen around inventory, mergePrs,
    recordsWith .fix (reducerHandle command classified) classified⟩

def triagedOf (inventory : InventoryResult) : Except String (Option Ready) := do
  let classified ← classifiedOf command around inventory
  let mergePrs ← clearedOf command around (candidatesOf command classified)
  pure (readyOf command around inventory classified mergePrs)

def prepared : Except String (Option Ready) := do
  let inventory ← inventoried command around
  if command.inventoryOnly then pure none else triagedOf command around inventory

def verificationsOf (mergePrs : List TriageRecord) : List Verification :=
  if verifies command mergePrs ∧ around.publishPhase .verifying = .ok () then
    mergePrs.zipIdx.map fun indexed => verificationAt command around indexed.2 indexed.1
  else []

def verificationsAfter (inventory : InventoryResult) : List Verification :=
  match classifiedOf command around inventory with
  | .error _ => []
  | .ok classified => verificationsOf command around (candidatesOf command classified)

def verifications : List Verification :=
  match inventoried command around with
  | .error _ => []
  | .ok inventory =>
    if command.inventoryOnly then [] else verificationsAfter command around inventory

/-! ## The fan-out -/

def attestedAt (position : ℕ) : Except String (Option Bool) :=
  if mayArm command then (around.occReadback position).map some else .ok none

section

variable (inventory : InventoryResult)

def decisionAt (position : ℕ) (pr : TriageRecord) :
    Except String EnumArmDecision := do
  let attested ← attestedAt command around position
  let candidate ← armCandidate around pr (prLookup inventory pr.key) attested
  pure (armGateHandle around.unicode candidate (armGatePolicy command)).decision

def armedOf (inventory : InventoryResult) :
    ℕ → List TriageRecord → Except String (List TriageRecord)
  | _, [] => pure []
  | position, pr :: rest => do
      let decision ← decisionAt command around inventory position pr
      let armed ← armedOf inventory (position + 1) rest
      pure (if decision = .arm then pr :: armed else armed)

/-- What the read-back of one turn tells. -/
def attestation (position : ℕ) (pr : TriageRecord) : List Telling :=
  match attestedAt command around position with
  | .ok (some attested) => [.attested pr.key attested]
  | _ => []

/-- What the read-backs tell, up to the first turn that raises. -/
def attestations (inventory : InventoryResult) : ℕ → List TriageRecord → List Telling
  | _, [] => []
  | position, pr :: rest =>
    attestation command around position pr ++
      match decisionAt command around inventory position pr with
      | .ok _ => attestations inventory (position + 1) rest
      | .error _ => []

/-- The PRs of a wave that are called for: those before the first whose number is refused. -/
def callsOf (wave : List TriageRecord) : List TriageRecord :=
  wave.takeWhile fun pr => decide (0 < pr.prNumber)

def answerAt (position : ℕ) (pr : TriageRecord) : Option ModelPrMergeResult :=
  (around.merge position (mergeCommandOf command pr)).toOption

def mergeTellings (start : ℕ) (calls : List TriageRecord) : List Telling :=
  (calls.zipIdx start).map fun indexed =>
    .merge (mergeCommandOf command indexed.1) (answerAt command around indexed.2 indexed.1)

def mergedOf (start : ℕ) (calls : List TriageRecord) : List TriageRecord :=
  ((calls.zipIdx start).filter fun indexed =>
    (answerAt command around indexed.2 indexed.1).any ModelPrMergeResult.merged).map Prod.fst

def reachesFanout (ready : Ready) : Prop :=
  ready.mergePrs ≠ [] ∧ command.fixOnly = false ∧ ready.outageActive = false ∧
    around.publishPhase .merging = .ok ()

instance (ready : Ready) : Decidable (reachesFanout command around ready) := by
  unfold reachesFanout
  infer_instance

section

variable (ready : Ready)

/-- The wave of the pass, when no arm evaluation raises. -/
def waveOfReady : Except String (List TriageRecord) :=
  (armedOf command around ready.inventory 0 ready.mergePrs).map (waveOf command)

/-- The PRs a fan-out calls for. -/
def calledOf : List TriageRecord :=
  match waveOfReady command around ready with
  | .ok wave => callsOf wave
  | .error _ => []

/-- The PRs the merge handler is called for. -/
def takenOf : List TriageRecord :=
  if reachesFanout command around ready then calledOf command around ready else []

/-- Whether the fan-out comes to its end. -/
def fanoutEnds : Bool :=
  decide (reachesFanout command around ready) &&
    match waveOfReady command around ready with
    | .ok wave => wave.all fun pr => decide (0 < pr.prNumber)
    | .error _ => false

def concludedOf : List TriageRecord :=
  if fanoutEnds command around ready ∧ around.publishPhase .postMergeTail = .ok () then
    ready.mergePrs.filter fun pr => decide (1 ≤ pr.prNumber)
  else []

def conclusions (prs : List TriageRecord) : List Telling := prs.map fun pr => .concluded pr.key

def mergePhaseTellings : List Telling :=
  if reachesFanout command around ready then
    attestations command around ready.inventory 0 ready.mergePrs ++
      mergeTellings command around 0 (takenOf command around ready) ++
      conclusions (concludedOf command around ready)
  else []

end

def course : List Telling :=
  (verifications command around).map Telling.verified ++
    match prepared command around with
    | .ok (some ready) => mergePhaseTellings command around ready
    | _ => []

/-! ## Inventory and triage -/

theorem transitionPhase_shows (toState : EnumOrchestratorState) :
    Shows Entry.tells (transitionPhase around toState) [] (around.publishPhase toState) := by
  unfold transitionPhase
  refine Shows.bind_quiet (Shows.note fun state => ?_) ?_
  · by_cases same : phaseForState toState = state.phase
    · simp [same, Entry.tells]
    · simp [same, Entry.tells]
  · exact Shows.bind_quiet (Shows.update _) (Shows.answer _)

theorem recordLedgerEvent_shows {event : OmniMarket.PrLedger.EnumPrLifecyclePhase → LedgerEvent}
    (other : ∀ phase, (event phase).conclusion ≠ some .merged) :
    Shows Entry.tells (recordLedgerEvent event) [] (.ok ()) := by
  refine Shows.note fun state => ?_
  by_cases accepted : 1 ≤ (event state.phase).prNumber
  · simp [accepted, Entry.tells, other]
  · simp [accepted]

theorem outageBreaker_open :
    ((outageBreaker around inventory).state == .opened) = outageOpen around inventory := by
  simp only [outageBreaker, outageOpen, OutageCircuitBreaker.observe]
  generalize (collectSweepReasonCodes inventory).contains outageCode = outage
  -- Only a probe that passes closes a breaker that was opened.
  cases around.recoveryProbe with
  | none => cases outage <;> rfl
  | some probe =>
    cases probe with
    | error raised => cases outage <;> rfl
    | ok passed => cases outage <;> cases passed <;> rfl

theorem applyOutageBreaker_shows : Shows Entry.tells (applyOutageBreaker around inventory) []
      (.ok (outageOpen around inventory)) := by
  unfold applyOutageBreaker
  rw [outageBreaker_open]
  exact Shows.bind_quiet (Shows.update _) (Shows.pure _)

theorem remediateStalledQueuePrs_shows :
    Shows Entry.tells (remediateStalledQueuePrs command around inventory) [] (.ok ()) := by
  unfold remediateStalledQueuePrs
  split
  · exact Shows.pure ()
  · split
    · exact Shows.pure ()
    · refine Shows.forEach_quiet (fun position entry => ?_) 0 _
      unfold remediateStalledQueuePr
      split
      · refine Shows.bind_quiet (Shows.note fun _ => rfl) ?_
        cases around.remediateQueueStall position with
        | error raised => exact Shows.pure ()
        | ok _ => exact recordLedgerEvent_shows fun _ => by simp
      · exact Shows.pure ()

theorem attendStalledQueuePrs_shows (outageActive : Bool) :
    Shows Entry.tells (attendStalledQueuePrs command around inventory outageActive) []
      (.ok ()) := by
  unfold attendStalledQueuePrs
  split
  · exact Shows.update _
  · exact remediateStalledQueuePrs_shows command around inventory

end

theorem takeInventory_shows : Shows Entry.tells (takeInventory command around) []
      ((inventoried command around).map fun inventory =>
        (inventory, outageOpen around inventory)) := by
  unfold takeInventory inventoried
  have entered := transitionPhase_shows around .inventorying
  cases published : around.publishPhase .inventorying with
  | error raised => exact Shows.bind_error (published ▸ entered)
  | ok _ =>
    rw [published] at entered
    refine Shows.bind_quiet entered ?_
    cases around.inventory (reposFilter command) with
    | error raised => exact Shows.bind_error (Shows.answer _)
    | ok inventory =>
      refine Shows.bind_quiet (Shows.answer _) (Shows.bind_quiet (Shows.update _) ?_)
      cases around.census with
      | error raised => exact Shows.bind_error (Shows.answer _)
      | ok census =>
        refine Shows.bind_quiet (Shows.answer _) (Shows.bind_quiet (Shows.update _) ?_)
        refine Shows.bind_quiet (Shows.forEach_quiet (fun _ pr => ?_) 0 _) ?_
        · exact recordLedgerEvent_shows fun _ => by simp
        · refine Shows.bind_quiet (applyOutageBreaker_shows around inventory) ?_
          exact Shows.bind_quiet
            (attendStalledQueuePrs_shows command around inventory _) (Shows.pure _)

/-! ## Verification -/

theorem verifyOne_shows (position : ℕ) (pr : TriageRecord) :
    Shows Entry.tells (verifyOne command around position pr)
      [.verified (verificationAt command around position pr)] (.ok ()) := by
  unfold verifyOne
  have noted : Shows Entry.tells
      (note fun _ => [.verified (verificationAt command around position pr)] : Pass Unit)
      [.verified (verificationAt command around position pr)] (.ok ()) :=
    Shows.note fun _ => rfl
  refine Shows.bind_last noted (Shows.bind_quiet (Shows.update _) ?_)
  split
  · refine Shows.bind_quiet (Shows.update _) ?_
    exact recordLedgerEvent_shows fun _ => by simp
  · split
    · exact Shows.update _
    · exact Shows.pure ()

theorem verifyPhase_shows (mergePrs : List TriageRecord) :
    Shows Entry.tells (verifyPhase command around mergePrs)
      ((verificationsOf command around mergePrs).map .verified)
      (clearedOf command around mergePrs) := by
  unfold verifyPhase verificationsOf clearedOf verifies
  by_cases verified : (command.verify && !mergePrs.isEmpty && !command.fixOnly) = true
  · rw [if_pos verified, if_pos verified]
    have entered := transitionPhase_shows around .verifying
    cases published : around.publishPhase .verifying with
    | error raised =>
      rw [if_neg (fun both => by cases both.2)]
      exact Shows.bind_error (published ▸ entered)
    | ok _ =>
      rw [published] at entered
      rw [if_pos ⟨verified, rfl⟩, List.map_map, List.map_eq_flatMap]
      refine Shows.bind_quiet entered ?_
      have turns := Shows.forEach (verifyOne_shows command around) 0 mergePrs
      exact Shows.bind_last turns (Shows.pure _)
  · rw [if_neg verified, if_neg verified, if_neg (fun both => verified both.1)]
    exact Shows.pure _

theorem settleIntents_shows (inventory : InventoryResult) (classified mergePrs : List TriageRecord) :
    Shows Entry.tells
      (settleIntents command inventory (outageOpen around inventory) classified mergePrs) []
      (.ok (readyOf command around inventory classified mergePrs)) := by
  unfold settleIntents readyOf
  cases command.dryRun with
  | true => exact Shows.bind_quiet (Shows.update _) (Shows.pure none)
  | false =>
    refine Shows.bind_quiet (Shows.update _) ?_
    refine Shows.bind_quiet (Shows.forEach_quiet (fun _ intent => ?_) 0 _) (Shows.pure _)
    exact recordLedgerEvent_shows fun _ => by simp

theorem classify_shows (inventory : InventoryResult) :
    Shows Entry.tells (classify command around inventory) []
      (classifiedOf command around inventory) := by
  unfold classify classifiedOf
  have entered := transitionPhase_shows around .triaging
  cases published : around.publishPhase .triaging with
  | error raised => exact Shows.bind_error (published ▸ entered)
  | ok _ =>
    rw [published] at entered
    refine Shows.bind_quiet entered ?_
    cases around.triage inventory.prs with
    | error raised => exact Shows.bind_error (Shows.answer _)
    | ok classified =>
      refine Shows.bind_quiet (Shows.answer _) ?_
      show Shows _ _ _ (around.project (reducerHandle command classified) >>= fun _ =>
        pure classified)
      cases rows : around.project (reducerHandle command classified) with
      | error raised => exact Shows.bind_error (Shows.answer _)
      | ok _ => exact Shows.bind_quiet (Shows.answer _) (Shows.pure classified)

theorem triagePhase_shows (inventory : InventoryResult) :
    Shows Entry.tells (triagePhase command around inventory (outageOpen around inventory))
      ((verificationsAfter command around inventory).map .verified)
      (triagedOf command around inventory) := by
  unfold triagePhase verificationsAfter triagedOf
  have triaged := classify_shows command around inventory
  cases found : classifiedOf command around inventory with
  | error raised =>
    rw [found] at triaged
    exact Shows.bind_error triaged
  | ok classified =>
    rw [found] at triaged
    refine Shows.bind_quiet triaged ?_
    have verified := verifyPhase_shows command around (candidatesOf command classified)
    show Shows _ _ _ (clearedOf command around (candidatesOf command classified) >>=
      fun mergePrs => pure (readyOf command around inventory classified mergePrs))
    cases kept : clearedOf command around (candidatesOf command classified) with
    | error raised =>
      rw [kept] at verified
      exact Shows.bind_error verified
    | ok mergePrs =>
      rw [kept] at verified
      exact Shows.bind_last verified (settleIntents_shows command around _ _ _)

theorem prepare_shows : Shows Entry.tells (prepare command around)
      ((verifications command around).map .verified) (prepared command around) := by
  unfold prepare verifications prepared
  have taken := takeInventory_shows command around
  cases found : inventoried command around with
  | error raised =>
    rw [found] at taken
    exact Shows.bind_error taken
  | ok inventory =>
    rw [found] at taken
    refine Shows.bind_quiet taken ?_
    cases command.inventoryOnly with
    | true => exact Shows.pure none
    | false => exact triagePhase_shows command around inventory

/-! ## Merge -/

theorem readBackCompanion_shows (position : ℕ) (pr : TriageRecord) :
    Shows Entry.tells (readBackCompanion command around position pr)
      (attestation command around position pr) (attestedAt command around position) := by
  unfold readBackCompanion attestation attestedAt
  cases mayArm command with
  | false => exact Shows.pure none
  | true =>
    cases around.occReadback position with
    | error raised => exact Shows.bind_error (Shows.answer _)
    | ok attested =>
      refine Shows.bind_quiet (Shows.answer _) ?_
      exact Shows.bind_last (Shows.note fun _ => rfl) (Shows.pure _)

theorem evaluateArmGate_shows (inventory : InventoryResult) (position : ℕ) (pr : TriageRecord) :
    Shows Entry.tells (evaluateArmGate command around inventory position pr)
      (attestation command around position pr)
      (decisionAt command around inventory position pr) := by
  unfold evaluateArmGate decisionAt
  have readBack := readBackCompanion_shows command around position pr
  cases found : attestedAt command around position with
  | error raised =>
    rw [found] at readBack
    exact Shows.bind_error readBack
  | ok attested =>
    rw [found] at readBack
    refine Shows.bind_last readBack ?_
    show Shows _ _ _ (armCandidate around pr (prLookup inventory pr.key) attested >>=
      fun candidate =>
        pure (armGateHandle around.unicode candidate (armGatePolicy command)).decision)
    cases armCandidate around pr (prLookup inventory pr.key) attested with
    | error raised => exact Shows.bind_error (Shows.answer _)
    | ok candidate => exact Shows.bind_quiet (Shows.answer _) (Shows.pure _)

theorem armEach_shows (inventory : InventoryResult) (position : ℕ) (prs : List TriageRecord) :
    Shows Entry.tells (armEach command around inventory position prs)
      (attestations command around inventory position prs)
      (armedOf command around inventory position prs) := by
  induction prs generalizing position with
  | nil => exact Shows.pure []
  | cons pr rest ih =>
    have evaluated := evaluateArmGate_shows command around inventory position pr
    unfold armEach attestations armedOf
    cases decided : decisionAt command around inventory position pr with
    | error raised =>
      rw [decided] at evaluated
      simp only [List.append_nil]
      exact Shows.bind_error evaluated
    | ok decision =>
      rw [decided] at evaluated
      refine Shows.bind evaluated ?_
      have others := ih (position + 1)
      show Shows _ _ _ (armedOf command around inventory (position + 1) rest >>= fun armed =>
        pure (if decision = .arm then pr :: armed else armed))
      cases armed : armedOf command around inventory (position + 1) rest with
      | error raised =>
        rw [armed] at others
        exact Shows.bind_error others
      | ok armed =>
        rw [armed] at others
        exact Shows.bind_last others (Shows.pure _)

def countCalls (position : ℕ) : List TriageRecord → MergeResult → MergeResult
  | [], counts => counts
  | pr :: rest, counts =>
    countCalls (position + 1) rest
      (counts.count (around.merge position (mergeCommandOf command pr)))

theorem mergeEach_shows (position : ℕ) (wave : List TriageRecord) (counts : MergeResult) :
    Shows Entry.tells (mergeEach command around position wave counts)
      (mergeTellings command around position (callsOf wave))
      (if wave.all (fun pr => decide (0 < pr.prNumber)) then
        .ok (countCalls command around position wave counts)
      else .error around.invalidText) := by
  induction wave generalizing position counts with
  | nil => exact Shows.pure counts
  | cons pr rest ih =>
    unfold mergeEach mergeCommandFor
    by_cases valid : 0 < pr.prNumber
    · have called : callsOf (pr :: rest) = pr :: callsOf rest := by
        simp [callsOf, valid]
      rw [if_pos valid, called]
      refine Shows.bind_quiet (Shows.answer _) ?_
      have others := ih (position + 1)
        (counts.count (around.merge position (mergeCommandOf command pr)))
      simp only [List.all_cons, valid, decide_true, Bool.true_and]
      exact Shows.bind (Shows.note fun _ => rfl) others
    · have called : callsOf (pr :: rest) = [] := by
        simp [callsOf, valid]
      rw [if_neg valid, called, if_neg (by simp [valid])]
      exact Shows.bind_error (Shows.answer _)

/-- How a fan-out ends. -/
def fanoutOf (ready : Ready) : Except String MergeResult :=
  match waveOfReady command around ready with
  | .error raised => .error raised
  | .ok wave =>
    if wave.all (fun pr => decide (0 < pr.prNumber)) then
      .ok (countCalls command around 0 wave {})
    else .error around.invalidText

theorem callMergeFanout_shows (ready : Ready) :
    Shows Entry.tells (callMergeFanout command around ready)
      (attestations command around ready.inventory 0 ready.mergePrs ++
        mergeTellings command around 0 (calledOf command around ready))
      (fanoutOf command around ready) := by
  unfold callMergeFanout calledOf fanoutOf waveOfReady
  have armed := armEach_shows command around ready.inventory 0 ready.mergePrs
  cases found : armedOf command around ready.inventory 0 ready.mergePrs with
  | error raised =>
    rw [found] at armed
    simp only [Except.map, mergeTellings, List.zipIdx_nil, List.map_nil, List.append_nil]
    exact Shows.bind_error armed
  | ok prs =>
    rw [found] at armed
    exact Shows.bind armed (mergeEach_shows command around 0 (waveOf command prs) {})

theorem concludeMerged_shows (tr : TriageRecord) :
    Shows Entry.tells (concludeMerged command around tr)
      (if 1 ≤ tr.prNumber then [.concluded tr.key] else []) (.ok ()) := by
  refine Shows.note fun state => ?_
  by_cases accepted : 1 ≤ tr.prNumber
  · simp [accepted, Entry.tells, LedgerEvent.key, TriageRecord.key]
  · simp [accepted]

theorem pruneMergedWorktrees_shows (inventory : InventoryResult) (merged : List TriageRecord) :
    Shows Entry.tells (pruneMergedWorktrees command around inventory merged) [] (.ok ()) := by
  unfold pruneMergedWorktrees
  split
  · refine Shows.forEach_quiet (fun _ tr => Shows.note fun _ => ?_) 0 _
    rw [List.filterMap_map]
    exact List.filterMap_eq_nil_iff.mpr fun _ _ => rfl
  · exact Shows.pure ()

theorem conclusions_filter (prs : List TriageRecord) :
    conclusions (prs.filter fun pr => decide (1 ≤ pr.prNumber)) =
      prs.flatMap fun pr => if 1 ≤ pr.prNumber then [.concluded pr.key] else [] := by
  induction prs with
  | nil => rfl
  | cons pr rest ih =>
    unfold conclusions at ih ⊢
    rw [List.flatMap_cons, ← ih]
    by_cases accepted : 1 ≤ pr.prNumber
    · simp [accepted]
    · simp [accepted]

theorem concludeEach_shows (ready : Ready) (counts : MergeResult) : Shows Entry.tells
      (do
        forEach (fun _ tr => concludeMerged command around tr) 0 ready.mergePrs
        if 0 < counts.prsMerged then
          pruneMergedWorktrees command around ready.inventory ready.mergePrs
        else pure ())
      (conclusions (ready.mergePrs.filter fun pr => decide (1 ≤ pr.prNumber))) (.ok ()) := by
  rw [conclusions_filter]
  refine Shows.bind_last
    (Shows.forEach_items (fun _ tr => concludeMerged_shows command around tr) 0 _) ?_
  split
  · exact pruneMergedWorktrees_shows command around _ _
  · exact Shows.pure ()

theorem postMergeTail_shows (ready : Ready) (counts : MergeResult) :
    Shows Entry.tells (postMergeTail command around ready counts)
      (if around.publishPhase .postMergeTail = .ok () then
        conclusions (ready.mergePrs.filter fun pr => decide (1 ≤ pr.prNumber))
      else [])
      (around.publishPhase .postMergeTail) := by
  unfold postMergeTail
  have entered := transitionPhase_shows around .postMergeTail
  cases published : around.publishPhase .postMergeTail with
  | error raised =>
    rw [published] at entered
    exact Shows.bind_error entered
  | ok _ =>
    rw [published] at entered
    exact Shows.bind_quiet entered (concludeEach_shows command around ready counts)

/-! ## The pass -/

variable {ready : Ready}

section

variable (reached : reachesFanout command around ready)

include reached

theorem fanoutEnds_iff :
    fanoutEnds command around ready = true ↔ ∃ counts, fanoutOf command around ready = .ok counts := by
  unfold fanoutEnds fanoutOf
  rw [decide_eq_true reached, Bool.true_and]
  cases waveOfReady command around ready with
  | error raised => simp
  | ok wave =>
    by_cases valid : (wave.all fun pr => decide (0 < pr.prNumber)) = true
    · simp only [valid, if_true, Except.ok.injEq, exists_eq']
    · simp [valid]

theorem mergeAndConclude_shows :
    ∃ outcome, Shows Entry.tells (mergeAndConclude command around ready)
      (mergePhaseTellings command around ready) outcome := by
  have entered := transitionPhase_shows around .merging
  rw [reached.2.2.2] at entered
  have fanout := callMergeFanout_shows command around ready
  have taken : takenOf command around ready = calledOf command around ready := if_pos reached
  unfold mergeAndConclude mergePhaseTellings concludedOf
  rw [if_pos reached, taken]
  cases ended : fanoutOf command around ready with
  | error raised =>
    have open' : fanoutEnds command around ready = false := by
      rw [← Bool.not_eq_true, fanoutEnds_iff command around reached, ended]
      simp
    rw [ended] at fanout
    refine ⟨.error raised, ?_⟩
    simp only [open', Bool.false_eq_true, false_and, if_false, conclusions, List.map_nil,
      List.append_nil]
    exact Shows.bind_quiet entered (Shows.bind_error fanout)
  | ok counts =>
    have finished : fanoutEnds command around ready = true :=
      (fanoutEnds_iff command around reached).mpr ⟨counts, ended⟩
    rw [ended] at fanout
    have tail := postMergeTail_shows command around ready counts
    simp only [finished, true_and]
    cases published : around.publishPhase .postMergeTail with
    | error raised =>
      rw [published] at tail
      refine ⟨.error raised, ?_⟩
      rw [if_neg (by simp)] at tail ⊢
      refine Shows.bind_quiet entered (Shows.bind fanout ?_)
      exact Shows.bind_quiet (Shows.update _) (Shows.bind_error tail)
    | ok _ =>
      rw [published] at tail
      refine ⟨.ok command.mergeOnly, ?_⟩
      rw [if_pos rfl] at tail ⊢
      refine Shows.bind_quiet entered (Shows.bind fanout ?_)
      exact Shows.bind_quiet (Shows.update _) (Shows.bind_last tail (Shows.pure _))

theorem mergePhase_reached :
    mergePhase command around ready = mergeAndConclude command around ready := by
  unfold mergePhase
  rw [if_neg, if_neg]
  · simp [reached.2.2.1]
  · simp [reached.1, reached.2.1]

end

theorem mergePhase_unreached (unreached : ¬ reachesFanout command around ready) :
    mergePhase command around ready = pure false ∨
      mergePhase command around ready = withholdMerge ready ∨
      ∃ raised, around.publishPhase .merging = .error raised ∧
        mergePhase command around ready = mergeAndConclude command around ready := by
  unfold mergePhase
  split
  · exact .inl rfl
  · rename_i some
    split
    · exact .inr (.inl rfl)
    · rename_i closed
      cases published : around.publishPhase .merging with
      | error raised => exact .inr (.inr ⟨raised, rfl, rfl⟩)
      | ok _ =>
        simp only [Bool.or_eq_true, List.isEmpty_iff, not_or, Bool.not_eq_true] at some
        exact absurd ⟨some.1, some.2, Bool.not_eq_true _ ▸ closed, published⟩ unreached

theorem mergePhase_shows (ready : Ready) :
    ∃ outcome, Shows Entry.tells (mergePhase command around ready)
      (mergePhaseTellings command around ready) outcome := by
  by_cases reached : reachesFanout command around ready
  · rw [mergePhase_reached command around reached]
    exact mergeAndConclude_shows command around reached
  · have quiet : mergePhaseTellings command around ready = [] := if_neg reached
    rw [quiet]
    rcases mergePhase_unreached command around reached with idle | held |
      ⟨raised, failed, live⟩
    · exact ⟨.ok false, idle ▸ Shows.pure false⟩
    · exact ⟨.ok false, held ▸ Shows.bind_quiet (Shows.update _) (Shows.pure false)⟩
    · have entered := transitionPhase_shows around .merging
      rw [failed] at entered
      exact ⟨.error raised, live ▸ Shows.bind_error entered⟩

theorem tells_none {entry : Entry}
    (silent : OfKind [.record, .stallRemediation, .prune, .fixerDispatch, .fix] entry) :
    entry.tells = none := by
  cases entry with
  | ledger event =>
    by_cases merged : event.conclusion = some .merged
    · simp [OfKind, Entry.kind, merged] at silent
    · simp [Entry.tells, merged]
  | verified _ => simp [OfKind, Entry.kind] at silent
  | armReadBack _ _ _ => simp [OfKind, Entry.kind] at silent
  | merge _ _ => simp [OfKind, Entry.kind] at silent
  | _ => rfl

theorem transitionPhase_quiet (toState : EnumOrchestratorState) :
    Only (fun entry => entry.tells = none) (transitionPhase around toState) :=
  (transitionPhase_only around toState).weaken fun entry ofKind =>
    tells_none (OfKind.mono (by decide) entry ofKind)

theorem fixPhase_quiet (ready : Ready) :
    Only (fun entry => entry.tells = none) (fixPhase command around ready) :=
  (fixPhase_only command around ready).weaken fun entry ofKind =>
    tells_none (OfKind.mono (by decide) entry ofKind)

theorem finishSweep_logs (ready : Option Ready) :
    Logs Entry.tells (finishSweep command around ready)
      (match ready with
        | some ready => mergePhaseTellings command around ready
        | none => []) := by
  cases ready with
  | none => exact (transitionPhase_shows around .complete).logs
  | some ready =>
    obtain ⟨outcome, shown⟩ := mergePhase_shows command around ready
    refine Only.bind_logs shown.logs fun ended => ?_
    split
    · exact transitionPhase_quiet around _
    · exact Only.bind (fixPhase_quiet command around ready) fun _ => transitionPhase_quiet around _

theorem sweepPhases_logs :
    Logs Entry.tells (sweepPhases command around) (course command around) := by
  have shown := prepare_shows command around
  unfold sweepPhases course
  cases found : prepared command around with
  | error raised =>
    rw [found] at shown
    simp only [List.append_nil]
    exact (Shows.bind_error shown).logs
  | ok ready =>
    rw [found] at shown
    cases ready with
    | none => exact Shows.bind_logs shown (finishSweep_logs command around none)
    | some ready => exact Shows.bind_logs shown (finishSweep_logs command around (some ready))

theorem sweep_tells : (sweep command around).did.filterMap Entry.tells = course command around := by
  have logged : Logs Entry.tells (runSweep command around) (course command around) := by
    refine Only.bind_logs ?_ fun _ => Only.look _
    refine Only.attempt_logs (sweepPhases_logs command around) fun raised => ?_
    exact Only.bind (Only.update _) fun _ => transitionPhase_quiet around _
  exact logged {}

/-! ## The PRs that are called for -/

variable {inventory : InventoryResult} {pr : TriageRecord}

theorem armedOf_mem {position : ℕ} {prs armed : List TriageRecord}
    (ended : armedOf command around inventory position prs = .ok armed) (isArmed : pr ∈ armed) :
    ∃ turn, (pr, turn) ∈ prs.zipIdx position ∧
      decisionAt command around inventory turn pr = .ok .arm := by
  induction prs generalizing position armed with
  | nil =>
    rw [← Except.ok.inj ended] at isArmed
    cases isArmed
  | cons head rest ih =>
    obtain ⟨decision, decided, ended⟩ := Raising.bind_eq_ok.mp ended
    obtain ⟨others, endedRest, ended⟩ := Raising.bind_eq_ok.mp ended
    have armedEq := Except.ok.inj ended
    rw [List.zipIdx_cons]
    have later (inOthers : pr ∈ others) :
        ∃ turn, (pr, turn) ∈ (head, position) :: rest.zipIdx (position + 1) ∧
          decisionAt command around inventory turn pr = .ok .arm := by
      obtain ⟨turn, atTurn, arms⟩ := ih endedRest inOthers
      exact ⟨turn, List.mem_cons_of_mem _ atTurn, arms⟩
    by_cases arms : decision = .arm
    · rw [if_pos arms] at armedEq
      rcases List.mem_cons.mp (armedEq ▸ isArmed) with rfl | inOthers
      · exact ⟨position, List.mem_cons_self, arms ▸ decided⟩
      · exact later inOthers
    · rw [if_neg arms] at armedEq
      exact later (armedEq ▸ isArmed)

theorem takenOf_armed (taken : pr ∈ takenOf command around ready) :
    reachesFanout command around ready ∧ 0 < pr.prNumber ∧
      ∃ armed, armedOf command around ready.inventory 0 ready.mergePrs = .ok armed ∧
        pr ∈ armed := by
  unfold takenOf calledOf waveOfReady at taken
  split at taken
  · rename_i reached
    cases ended : armedOf command around ready.inventory 0 ready.mergePrs with
    | error raised =>
      rw [ended] at taken
      cases taken
    | ok armed =>
      rw [ended] at taken
      have inWave : pr ∈ waveOf command armed := (List.takeWhile_sublist _).subset taken
      have positive : 0 < pr.prNumber := by simpa using List.mem_takeWhile_imp taken
      exact ⟨reached, positive, armed, rfl, List.mem_mergeSort.mp (List.mem_of_mem_take inWave)⟩
  · cases taken

theorem takenOf_candidate (taken : pr ∈ takenOf command around ready) : pr ∈ ready.mergePrs := by
  obtain ⟨-, -, armed, ended, isArmed⟩ := takenOf_armed command around taken
  obtain ⟨turn, atTurn, -⟩ := armedOf_mem command around ended isArmed
  exact List.fst_mem_of_mem_zipIdx atTurn

/-! ## What the log holds -/

/-- The PRs the pass calls the merge handler for, in order. -/
def takenPrs : List TriageRecord :=
  match prepared command around with
  | .ok (some ready) => takenOf command around ready
  | _ => []

def concludedPrs : List TriageRecord :=
  match prepared command around with
  | .ok (some ready) => concludedOf command around ready
  | _ => []

/-- What the arm gate's read-backs tell in the pass. -/
def attestedPrs : List Telling :=
  match prepared command around with
  | .ok (some ready) =>
    if reachesFanout command around ready then
      attestations command around ready.inventory 0 ready.mergePrs
    else []
  | _ => []

theorem course_eq :
    course command around =
      (verifications command around).map Telling.verified ++ attestedPrs command around ++
        mergeTellings command around 0 (takenPrs command around) ++
        conclusions (concludedPrs command around) := by
  unfold course attestedPrs takenPrs concludedPrs
  cases prepared command around with
  | error raised => simp [mergeTellings, conclusions]
  | ok ready =>
    cases ready with
    | none => simp [mergeTellings, conclusions]
    | some ready =>
      by_cases reached : reachesFanout command around ready
      · simp [mergePhaseTellings, reached]
      · have unfinished : fanoutEnds command around ready = false := by
          unfold fanoutEnds
          rw [decide_eq_false reached, Bool.false_and]
        simp [mergePhaseTellings, takenOf, concludedOf, reached, unfinished, mergeTellings,
          conclusions]

theorem attestations_tell {position : ℕ} {prs : List TriageRecord} {telling : Telling}
    (told : telling ∈ attestations command around inventory position prs) :
    ∃ key attested, telling = .attested key attested := by
  induction prs generalizing position with
  | nil => cases told
  | cons pr rest ih =>
    rcases List.mem_append.mp told with first | later
    · unfold attestation at first
      split at first
      · exact ⟨_, _, List.mem_singleton.mp first⟩
      · cases first
    · split at later
      · exact ih later
      · cases later

theorem attestedPrs_tell {telling : Telling} (told : telling ∈ attestedPrs command around) :
    ∃ key attested, telling = .attested key attested := by
  unfold attestedPrs at told
  split at told
  · split at told
    · exact attestations_tell command around told
    · cases told
  · cases told

/-! ### Its merge calls, verifications, read-backs and conclusions -/

abbrev MergeCall := ModelPrMergeCommand × Option ModelPrMergeResult

def Telling.mergeCall : Telling → Option MergeCall
  | .merge command answer => some (command, answer)
  | _ => none

def Telling.verification : Telling → Option Verification
  | .verified verification => some verification
  | _ => none

def Telling.attestation : Telling → Option (PrKey × Bool)
  | .attested key good => some (key, good)
  | _ => none

def Telling.conclusion : Telling → Option PrKey
  | .concluded key => some key
  | _ => none

def toldIn {α : Type} (sort : Telling → Option α) (log : List Entry) : List α :=
  log.filterMap fun entry => entry.tells.bind sort

theorem mem_toldIn {α : Type} {sort : Telling → Option α} {log : List Entry} {item : α} :
    item ∈ toldIn sort log ↔ ∃ entry ∈ log, entry.tells.bind sort = some item :=
  List.mem_filterMap

theorem toldIn_sweep {α : Type} (sort : Telling → Option α) :
    toldIn sort (sweep command around).did = (course command around).filterMap sort := by
  rw [← sweep_tells, List.filterMap_filterMap]
  rfl

theorem filterMap_attestedPrs {α : Type} {sort : Telling → Option α}
    (other : ∀ key attested, sort (.attested key attested) = none) :
    (attestedPrs command around).filterMap sort = [] := by
  refine List.filterMap_eq_nil_iff.mpr fun telling told => ?_
  obtain ⟨key, attested, rfl⟩ := attestedPrs_tell command around told
  exact other key attested

theorem sweep_mergeCalls :
    toldIn Telling.mergeCall (sweep command around).did =
      (takenPrs command around).zipIdx.map fun indexed =>
        (mergeCommandOf command indexed.1, answerAt command around indexed.2 indexed.1) := by
  have others : (attestedPrs command around).filterMap Telling.mergeCall = [] :=
    filterMap_attestedPrs command around fun _ _ => rfl
  rw [toldIn_sweep, course_eq]
  simp only [List.filterMap_append, others, List.filterMap_map, mergeTellings, conclusions]
  simp [Function.comp_def, Telling.mergeCall]

theorem sweep_verifications :
    toldIn Telling.verification (sweep command around).did = verifications command around := by
  have others : (attestedPrs command around).filterMap Telling.verification = [] :=
    filterMap_attestedPrs command around fun _ _ => rfl
  rw [toldIn_sweep, course_eq]
  simp only [List.filterMap_append, others, List.filterMap_map, mergeTellings, conclusions]
  simp [Function.comp_def, Telling.verification]

theorem sweep_conclusions :
    toldIn Telling.conclusion (sweep command around).did =
      (concludedPrs command around).map TriageRecord.key := by
  have others : (attestedPrs command around).filterMap Telling.conclusion = [] :=
    filterMap_attestedPrs command around fun _ _ => rfl
  rw [toldIn_sweep, course_eq]
  simp only [List.filterMap_append, others, List.filterMap_map, mergeTellings, conclusions]
  simp [Function.comp_def, Telling.conclusion]

theorem sweep_attestations :
    toldIn Telling.attestation (sweep command around).did =
      (attestedPrs command around).filterMap Telling.attestation := by
  rw [toldIn_sweep, course_eq]
  simp only [List.filterMap_append, List.filterMap_map, mergeTellings, conclusions]
  simp [Function.comp_def, Telling.attestation]

end Course

end OmniMarket.PrSweep
