import Mathlib.Data.List.Dedup
import OmniMarket.PrSweep.Course

/-!
# The counter of merged PRs

Only the end of a fan-out sets the counter of merged PRs that a pass reports.
`sweep_prsMerged`: it counts the calls that merged, when the fan-out came to its end.
-/

namespace OmniMarket.PrSweep
variable {ready : Ready}

section

open OmniMarket.PrLedger (EnumPrLifecyclePhase)
open Acting

section Counter

variable (command : ModelPrLifecycleStartCommand) (around : Surroundings)

/-- The calls of a fan-out that merged, when it came to its end. -/
def countMerged (ready : Ready) : ℕ :=
  if fanoutEnds command around ready then
    (mergedOf command around 0 (takenOf command around ready)).length
  else 0

theorem count_prsMerged (counts : MergeResult) (raw : Except String ModelPrMergeResult) :
    (counts.count raw).prsMerged =
      counts.prsMerged + if raw.toOption.any ModelPrMergeResult.merged then 1 else 0 := by
  cases raw with
  | error raised => rfl
  | ok answer =>
    cases merged : answer.merged with
    | true => simp [MergeResult.count, merged, Except.toOption]
    | false =>
      simp only [MergeResult.count, merged, Except.toOption, Bool.false_eq_true, if_false,
        Option.any_some]
      split
      · rfl
      · rfl

theorem countCalls_prsMerged (position : ℕ) (calls : List TriageRecord) (counts : MergeResult) :
    (countCalls command around position calls counts).prsMerged =
      counts.prsMerged + (mergedOf command around position calls).length := by
  induction calls generalizing position counts with
  | nil => rfl
  | cons pr rest ih =>
    unfold countCalls mergedOf
    rw [ih, count_prsMerged, List.zipIdx_cons, List.filter_cons]
    unfold mergedOf answerAt
    by_cases merged : ((around.merge position
        (mergeCommandOf command pr)).toOption.any ModelPrMergeResult.merged) = true
    · simp [merged]
      omega
    · simp [merged]

theorem transitionPhase_keeps (toState : EnumOrchestratorState) :
    Keeps SweepState.prsMerged (transitionPhase around toState) :=
  Keeps.bind (Keeps.note _) fun _ => Keeps.bind (Keeps.update fun _ => rfl) fun _ => Keeps.answer _

theorem recordEach_keeps {α : Type} (event : α → EnumPrLifecyclePhase → LedgerEvent)
    (items : List α) : Keeps SweepState.prsMerged
      (forEach (fun _ item => recordLedgerEvent (event item)) 0 items) :=
  Keeps.forEach (fun _ _ => Keeps.note _) 0 items

theorem takeInventory_keeps : Keeps SweepState.prsMerged (takeInventory command around) := by
  unfold takeInventory applyOutageBreaker attendStalledQueuePrs remediateStalledQueuePrs
  refine Keeps.bind (transitionPhase_keeps around _) fun _ => ?_
  refine Keeps.bind (Keeps.answer _) fun _ => Keeps.bind (Keeps.update fun _ => rfl) fun _ => ?_
  refine Keeps.bind (Keeps.answer _) fun _ => Keeps.bind (Keeps.update fun _ => rfl) fun _ => ?_
  refine Keeps.bind (recordEach_keeps _ _) fun _ => ?_
  refine Keeps.bind (Keeps.bind (Keeps.update fun _ => rfl) fun _ => Keeps.pure _) fun _ => ?_
  refine Keeps.bind ?_ fun _ => Keeps.pure _
  split
  · exact Keeps.update fun _ => rfl
  · split
    · exact Keeps.pure ()
    · split
      · exact Keeps.pure ()
      · refine Keeps.forEach (fun position entry => ?_) 0 _
        unfold remediateStalledQueuePr
        split
        · refine Keeps.bind (Keeps.note _) fun _ => ?_
          split
          · exact Keeps.pure ()
          · exact Keeps.note _
        · exact Keeps.pure ()

theorem triagePhase_keeps (inventory : InventoryResult) (outageActive : Bool) :
    Keeps SweepState.prsMerged (triagePhase command around inventory outageActive) := by
  unfold triagePhase classify verifyPhase settleIntents
  refine Keeps.bind (Keeps.bind (transitionPhase_keeps around _) fun _ =>
    Keeps.bind (Keeps.answer _) fun _ => Keeps.bind (Keeps.answer _) fun _ => Keeps.pure _) fun _ => ?_
  refine Keeps.bind ?_ fun mergePrs => ?_
  · split
    · refine Keeps.bind (transitionPhase_keeps around _) fun _ => ?_
      refine Keeps.bind (Keeps.forEach (fun position pr => ?_) 0 _) fun _ => Keeps.pure _
      unfold verifyOne
      refine Keeps.bind (Keeps.note _) fun _ => Keeps.bind (Keeps.update fun _ => rfl) fun _ => ?_
      split
      · exact Keeps.bind (Keeps.update fun _ => rfl) fun _ => Keeps.note _
      · split
        · exact Keeps.update fun _ => rfl
        · exact Keeps.pure ()
    · exact Keeps.pure _
  · split
    · exact Keeps.bind (Keeps.update fun _ => rfl) fun _ => Keeps.pure _
    · refine Keeps.bind (Keeps.update fun _ => rfl) fun _ => ?_
      exact Keeps.bind (recordEach_keeps _ _) fun _ => Keeps.pure _

theorem prepare_keeps : Keeps SweepState.prsMerged (prepare command around) := by
  unfold prepare
  refine Keeps.bind (takeInventory_keeps command around) fun found => ?_
  split
  split
  · exact Keeps.pure none
  · exact triagePhase_keeps command around _ _

theorem callMergeFanout_keeps (ready : Ready) :
    Keeps SweepState.prsMerged (callMergeFanout command around ready) := by
  have arms : ∀ (prs : List TriageRecord) (position : ℕ),
      Keeps SweepState.prsMerged (armEach command around ready.inventory position prs) := by
    intro prs
    induction prs with
    | nil => exact fun _ => Keeps.pure []
    | cons pr rest ih =>
      intro position
      refine Keeps.bind (Keeps.bind ?_ fun _ => Keeps.bind (Keeps.answer _) fun _ =>
        Keeps.pure _) fun _ => Keeps.bind (ih (position + 1)) fun _ => Keeps.pure _
      unfold readBackCompanion
      split
      · exact Keeps.bind (Keeps.answer _) fun _ => Keeps.bind (Keeps.note _) fun _ => Keeps.pure _
      · exact Keeps.pure none
  have calls : ∀ (wave : List TriageRecord) (position : ℕ) (counts : MergeResult),
      Keeps SweepState.prsMerged (mergeEach command around position wave counts) := by
    intro wave
    induction wave with
    | nil => exact fun _ counts => Keeps.pure counts
    | cons pr rest ih =>
      intro position counts
      exact Keeps.bind (Keeps.answer _) fun _ => Keeps.bind (Keeps.note _) fun _ => ih _ _
  exact Keeps.bind (arms ready.mergePrs 0) fun armed => calls _ 0 {}

theorem postMergeTail_keeps (ready : Ready) (counts : MergeResult) :
    Keeps SweepState.prsMerged (postMergeTail command around ready counts) := by
  unfold postMergeTail pruneMergedWorktrees
  refine Keeps.bind (transitionPhase_keeps around _) fun _ => Keeps.bind ?_ fun _ => ?_
  · exact Keeps.forEach (fun _ _ => Keeps.note _) 0 _
  · split
    · split
      · exact Keeps.forEach (fun _ _ => Keeps.note _) 0 _
      · exact Keeps.pure ()
    · exact Keeps.pure ()

theorem fixPhase_keeps (ready : Ready) :
    Keeps SweepState.prsMerged (fixPhase command around ready) := by
  have fixes : ∀ (prs : List TriageRecord) (position : ℕ),
      Keeps SweepState.prsMerged (fixEach command around position prs) := by
    intro prs
    induction prs with
    | nil => exact fun _ => Keeps.pure []
    | cons pr rest ih =>
      intro position
      refine Keeps.bind ?_ fun _ => Keeps.bind (ih (position + 1)) fun _ => Keeps.pure _
      unfold fixOne
      split
      · refine Keeps.bind (Keeps.note _) fun _ => ?_
        split
        · exact Keeps.pure _
        · exact Keeps.pure _
        · split
          · split
            · exact Keeps.pure _
            · exact Keeps.bind (Keeps.note _) fun _ => Keeps.pure _
          · exact Keeps.pure _
      · exact Keeps.pure _
  unfold fixPhase publishFixerDispatchStart
  split
  · exact Keeps.pure ()
  · split
    · exact Keeps.update fun _ => rfl
    · refine Keeps.bind (transitionPhase_keeps around _) fun _ => Keeps.bind ?_ fun _ => ?_
      · split
        · exact Keeps.forEach (fun _ _ => Keeps.bind (Keeps.note _) fun _ => Keeps.answer _) 0 _
        · exact Keeps.pure ()
      · refine Keeps.bind (fixes _ 0) fun _ => Keeps.bind (Keeps.answer _) fun _ => ?_
        exact Keeps.bind (Keeps.update fun _ => rfl) fun _ => recordEach_keeps _ _

/-! ## The fan-out sets it -/

theorem fanoutOf_prsMerged {counts : MergeResult} (reached : reachesFanout command around ready)
    (ended : fanoutOf command around ready = .ok counts) :
    counts.prsMerged = countMerged command around ready := by
  have finished : fanoutEnds command around ready = true :=
    (fanoutEnds_iff command around reached).mpr ⟨counts, ended⟩
  unfold countMerged takenOf calledOf
  rw [if_pos finished, if_pos reached]
  unfold fanoutOf at ended
  cases found : waveOfReady command around ready with
  | error raised =>
    rw [found] at ended
    cases ended
  | ok wave =>
    simp only [found] at ended ⊢
    split at ended
    · rename_i valid
      have whole : callsOf wave = wave :=
        List.takeWhile_eq_self_iff.mpr fun pr inWave => List.all_eq_true.mp valid pr inWave
      rw [whole, ← Except.ok.inj ended, countCalls_prsMerged]
      exact Nat.zero_add _
    · cases ended

variable {state : SweepState}

theorem mergeAndConclude_prsMerged (reached : reachesFanout command around ready)
    (fresh : state.prsMerged = 0) :
    (mergeAndConclude command around ready state).left.prsMerged =
      countMerged command around ready := by
  have entered : (transitionPhase around .merging state).outcome = .ok () :=
    ((transitionPhase_shows around .merging).yields state).trans reached.2.2.2
  have stillFresh := (transitionPhase_keeps around .merging state).trans fresh
  unfold mergeAndConclude
  rw [left_bind_ok entered]
  have fanout := (callMergeFanout_shows command around ready).yields
    (transitionPhase around .merging state).left
  cases ended : fanoutOf command around ready with
  | error raised =>
    rw [ended] at fanout
    have unfinished : ¬ fanoutEnds command around ready = true := by
      rw [fanoutEnds_iff command around reached, ended]
      simp
    rw [left_bind_error fanout, countMerged, if_neg unfinished]
    exact (callMergeFanout_keeps command around ready _).trans stillFresh
  | ok counts =>
    rw [ended] at fanout
    rw [left_bind_ok fanout, ← fanoutOf_prsMerged command around reached ended]
    have tail : Keeps SweepState.prsMerged (do
        postMergeTail command around ready counts
        pure command.mergeOnly) :=
      Keeps.bind (postMergeTail_keeps command around ready counts) fun _ => Keeps.pure _
    exact tail _

theorem mergePhase_prsMerged (ready : Ready) (fresh : state.prsMerged = 0) :
    (mergePhase command around ready state).left.prsMerged = countMerged command around ready := by
  by_cases reached : reachesFanout command around ready
  · rw [mergePhase_reached command around reached]
    exact mergeAndConclude_prsMerged command around reached fresh
  · have none : countMerged command around ready = 0 := by
      unfold countMerged fanoutEnds
      rw [decide_eq_false reached, Bool.false_and, if_neg Bool.false_ne_true]
    rw [none]
    rcases mergePhase_unreached command around reached with idle | held |
      ⟨raised, failed, live⟩
    · rw [idle]
      exact fresh
    · rw [held]
      exact fresh
    · have entered := ((transitionPhase_shows around .merging).yields state).trans failed
      rw [live, mergeAndConclude, left_bind_error entered]
      exact (transitionPhase_keeps around .merging state).trans fresh

theorem finishSweep_prsMerged (ready : Option Ready) (fresh : state.prsMerged = 0) :
    (finishSweep command around ready state).left.prsMerged =
      match ready with
      | some ready => countMerged command around ready
      | none => 0 := by
  cases ready with
  | none => exact (transitionPhase_keeps around .complete state).trans fresh
  | some ready =>
    have merged := mergePhase_prsMerged command around ready fresh
    cases ended : (mergePhase command around ready state).outcome with
    | error raised =>
      unfold finishSweep
      rw [left_bind_error ended]
      exact merged
    | ok finished =>
      have rest : Keeps SweepState.prsMerged
          (if finished then transitionPhase around .complete
            else do
              fixPhase command around ready
              transitionPhase around .complete) := by
        split
        · exact transitionPhase_keeps around .complete
        · exact Keeps.bind (fixPhase_keeps command around ready) fun _ =>
            transitionPhase_keeps around .complete
      unfold finishSweep
      rw [left_bind_ok ended]
      exact (rest _).trans merged

def mergedCount : ℕ :=
  match prepared command around with
  | .ok (some ready) => countMerged command around ready
  | _ => 0

theorem sweepPhases_prsMerged (fresh : state.prsMerged = 0) :
    (sweepPhases command around state).left.prsMerged = mergedCount command around := by
  have stillFresh := (prepare_keeps command around state).trans fresh
  have outcome := (prepare_shows command around).yields state
  unfold sweepPhases mergedCount
  cases found : prepared command around with
  | error raised =>
    rw [found] at outcome
    rw [left_bind_error outcome]
    exact stillFresh
  | ok ready =>
    rw [found] at outcome
    rw [left_bind_ok outcome, finishSweep_prsMerged command around ready stillFresh]
    cases ready with
    | none => rfl
    | some ready => rfl

theorem sweep_prsMerged : (sweep command around).left.prsMerged = mergedCount command around := by
  have phases : (sweepPhases command around {}).left.prsMerged = mergedCount command around :=
    sweepPhases_prsMerged command around rfl
  have recovers : ∀ raised, Keeps SweepState.prsMerged (do
      update fun state : SweepState => { state with errorMessage := some raised }
      transitionPhase around .failed) := fun raised =>
    Keeps.bind (Keeps.update fun _ => rfl) fun _ => transitionPhase_keeps around .failed
  have looked : Keeps SweepState.prsMerged (look (buildResult command) : Pass _) := Keeps.look _
  calc (sweep command around).left.prsMerged
      = (attempt (sweepPhases command around) (fun raised => do
          update fun state : SweepState => { state with errorMessage := some raised }
          transitionPhase around .failed) {}).left.prsMerged :=
        Keeps.after_bind (fun _ => looked) {}
    _ = (sweepPhases command around {}).left.prsMerged := Keeps.after_attempt recovers {}
    _ = mergedCount command around := phases

theorem sweep_result {result : ModelPrLifecycleResult}
    (returned : (sweep command around).outcome = .ok result) :
    result.prsMerged = (sweep command around).left.prsMerged := by
  have seen : result = buildResult command (sweep command around).left := look_last returned
  rw [seen]
  rfl

end Counter

end

/-!
# What a pass reports as merged

The fan-out returns only counts, and the post-merge tail concludes and prunes for every merge
candidate.

1. `reportsMerges_iff`: a pass reports exactly the merges that happened if and only if the merge
   handler answers merged for every merge candidate that the tail gets to, each PR once, and for
   none where the tail is not reached.
2. `withheld_is_concluded`: with the default policy a green PR is withheld and concluded MERGED.
-/

section

open OmniMarket.PrLedger (EnumPrLedgerConclusion)
open Acting

def Entry.mergedPr : Entry → Option PrKey
  | .merge command (some answer) => if answer.merged then some command.key else none
  | _ => none

/-- The PRs the merge handler merged, once for each call that did. -/
def mergedIn (log : List Entry) : List PrKey := log.filterMap Entry.mergedPr

def ConcludedMerged (log : List Entry) (key : PrKey) : Prop :=
  ∃ event, .ledger event ∈ log ∧ event.conclusion = some .merged ∧ event.key = key

/-- The ledger, the prunes and the counter of a pass are about the PRs that merged. -/
structure ReportsMerges (done : Ended SweepState Entry String ModelPrLifecycleResult) : Prop where
  concluded : ∀ key, ConcludedMerged done.did key ↔ key ∈ mergedIn done.did
  pruned : ∀ command, .prune command ∈ done.did → command.key ∈ mergedIn done.did
  counted : done.left.prsMerged = (mergedIn done.did).dedup.length
  reported : ∀ result, done.outcome = .ok result → result.prsMerged = done.left.prsMerged

section Reports

variable (command : ModelPrLifecycleStartCommand) (around : Surroundings)

def mergedPrs : List TriageRecord := mergedOf command around 0 (takenPrs command around)

/-- The answers of the merge handler for the merge candidates. -/
structure ConcludesOnlyMerges : Prop where
  merges : ∀ pr ∈ concludedPrs command around,
    pr.key ∈ (mergedPrs command around).map TriageRecord.key
  concludes : concludedPrs command around = [] → mergedPrs command around = []
  once : ((mergedPrs command around).map TriageRecord.key).Nodup

/-! ## The log of a pass -/

theorem mergedPr_of_call (entry : Entry) :
    entry.mergedPr = (entry.tells.bind Telling.mergeCall).bind fun call =>
      if call.2.any ModelPrMergeResult.merged then some call.1.key else none := by
  cases entry with
  | merge mergeCommand answer => cases answer <;> rfl
  | ledger event =>
    simp only [Entry.mergedPr, Entry.tells]
    split
    · rfl
    · rfl
  | _ => rfl

theorem mergedIn_sweep :
    mergedIn (sweep command around).did = (mergedPrs command around).map TriageRecord.key := by
  have calls : mergedIn (sweep command around).did =
      (toldIn Telling.mergeCall (sweep command around).did).filterMap fun call =>
        if call.2.any ModelPrMergeResult.merged then some call.1.key else none := by
    unfold mergedIn toldIn
    rw [List.filterMap_filterMap]
    exact List.filterMap_congr fun entry _ => mergedPr_of_call entry
  rw [calls, sweep_mergeCalls, List.filterMap_map]
  unfold mergedPrs mergedOf
  rw [List.map_map, ← List.filterMap_eq_map, List.filterMap_filter]
  rfl

theorem concludedMerged_iff (key : PrKey) :
    ConcludedMerged (sweep command around).did key ↔
      key ∈ (concludedPrs command around).map TriageRecord.key := by
  rw [← sweep_conclusions, mem_toldIn]
  constructor
  · rintro ⟨event, logged, merged, rfl⟩
    exact ⟨.ledger event, logged, by simp [Entry.tells, merged, Telling.conclusion]⟩
  · rintro ⟨entry, logged, told⟩
    cases entry with
    | ledger event =>
      simp only [Entry.tells] at told
      split at told
      · rename_i merged
        exact ⟨event, logged, merged, by simpa [Telling.conclusion] using told⟩
      · cases told
    | _ => cases told

/-! ## Calls and conclusions -/

theorem concludedOf_taken (some : concludedOf command around ready ≠ []) :
    fanoutEnds command around ready = true ∧
      takenOf command around ready ⊆ concludedOf command around ready := by
  unfold concludedOf at some ⊢
  split at some
  · rename_i tail
    rw [if_pos tail]
    refine ⟨tail.1, fun pr taken => ?_⟩
    have positive := (takenOf_armed command around taken).2.1
    exact List.mem_filter.mpr ⟨takenOf_candidate command around taken, decide_eq_true positive⟩
  · exact absurd rfl some

theorem mergedPrs_taken : mergedPrs command around ⊆ takenPrs command around := by
  intro pr merged
  obtain ⟨indexed, inCalls, rfl⟩ := List.mem_map.mp merged
  exact List.fst_mem_of_mem_zipIdx (List.mem_filter.mp inCalls).1

theorem concludedPrs_merged (some : concludedPrs command around ≠ []) :
    mergedCount command around = (mergedPrs command around).length ∧
      mergedPrs command around ⊆ concludedPrs command around := by
  have taken := mergedPrs_taken command around
  unfold mergedPrs takenPrs concludedPrs mergedCount at *
  cases found : prepared command around with
  | error raised =>
    rw [found] at some
    exact absurd rfl some
  | ok ready =>
    cases ready with
    | none =>
      rw [found] at some
      exact absurd rfl some
    | some ready =>
      rw [found] at some taken
      obtain ⟨finished, concluded⟩ := concludedOf_taken command around some
      exact ⟨if_pos finished, List.Subset.trans taken concluded⟩

theorem mergedCount_le : mergedCount command around ≤ (mergedPrs command around).length := by
  unfold mergedCount mergedPrs takenPrs
  cases prepared command around with
  | error raised => exact Nat.zero_le _
  | ok ready =>
    cases ready with
    | none => exact Nat.zero_le _
    | some ready =>
      show countMerged command around ready ≤ _
      unfold countMerged
      split
      · exact Nat.le_refl _
      · exact Nat.zero_le _

/-! ## Prunes -/

def PrunesOnly (prs : List TriageRecord) (entry : Entry) : Prop :=
  ∀ pruneCommand, entry = .prune pruneCommand → pruneCommand.key ∈ prs.map TriageRecord.key

theorem prunesOnly_of_kind {prs : List TriageRecord} {kinds : List EntryKind}
    (without : .prune ∉ kinds) (entry : Entry) (ofKind : OfKind kinds entry) :
    PrunesOnly prs entry := by
  rintro pruneCommand rfl
  exact absurd ofKind without

theorem pruneMergedWorktrees_prunes (inventory : InventoryResult) (merged : List TriageRecord) :
    Only (PrunesOnly (merged.filter fun pr => decide (1 ≤ pr.prNumber)))
      (pruneMergedWorktrees command around inventory merged) := by
  unfold pruneMergedWorktrees
  split
  · refine Only.forEach (fun _ tr isMerged => Only.note fun _ entry noted => ?_) 0
    rintro pruneCommand rfl
    obtain ⟨issued, isIssued, same⟩ := List.mem_map.mp noted
    obtain ⟨ticketId, -, built⟩ := List.mem_filterMap.mp isIssued
    cases same
    unfold pruneCommandFor at built
    split at built
    · rename_i valid
      cases built
      refine List.mem_map.mpr ⟨tr, List.mem_filter.mpr ⟨isMerged, ?_⟩, rfl⟩
      exact decide_eq_true valid.2.2
    · cases built
  · exact Only.pure ()

theorem mergeAndConclude_prunes (reached : reachesFanout command around ready) :
    Only (PrunesOnly (concludedOf command around ready))
      (mergeAndConclude command around ready) := by
  have recorded (toState : EnumOrchestratorState) :
      Only (PrunesOnly (concludedOf command around ready)) (transitionPhase around toState) :=
    (transitionPhase_only around toState).weaken (prunesOnly_of_kind (by decide))
  unfold mergeAndConclude
  refine Only.bind (recorded _) fun _ => ?_
  refine Only.bind_of ((callMergeFanout_only command around ready).weaken
    (prunesOnly_of_kind (by decide))) (callMergeFanout_shows command around ready).yields
    fun counts ended => ?_
  refine Only.bind (Only.update _) fun _ => Only.bind ?_ fun _ => Only.pure _
  unfold postMergeTail
  refine Only.bind_of (recorded _) (transitionPhase_shows around _).yields fun _ published => ?_
  refine Only.bind ?_ fun _ => ?_
  · exact Only.forEach (fun _ tr _ =>
      (concludeMerged_only command around tr).weaken (prunesOnly_of_kind (by decide))) 0
  · split
    · -- The tail was published after a fan-out that ended.
      have finished : fanoutEnds command around ready = true :=
        (fanoutEnds_iff command around reached).mpr ⟨counts, ended⟩
      rw [concludedOf, if_pos ⟨finished, published⟩]
      exact pruneMergedWorktrees_prunes command around _ _
    · exact Only.pure ()

theorem mergePhase_prunes (ready : Ready) :
    Only (PrunesOnly (concludedOf command around ready)) (mergePhase command around ready) := by
  by_cases reached : reachesFanout command around ready
  · rw [mergePhase_reached command around reached]
    exact mergeAndConclude_prunes command around reached
  · rcases mergePhase_unreached command around reached with idle | held | ⟨raised, failed, live⟩
    · exact idle ▸ Only.pure false
    · exact held ▸ Only.bind (Only.update _) fun _ => Only.pure false
    · rw [live]
      refine Only.bind_of ((transitionPhase_only around _).weaken
        (prunesOnly_of_kind (by decide))) (transitionPhase_shows around _).yields
        fun _ published => ?_
      rw [failed] at published
      cases published

theorem finishSweep_prunes (ready : Ready) : Only (PrunesOnly (concludedOf command around ready))
      (finishSweep command around (some ready)) := by
  refine Only.bind (mergePhase_prunes command around ready) fun ended => ?_
  split
  · exact (transitionPhase_only around _).weaken (prunesOnly_of_kind (by decide))
  · refine Only.bind ((fixPhase_only command around ready).weaken
      (prunesOnly_of_kind (by decide))) fun _ => ?_
    exact (transitionPhase_only around _).weaken (prunesOnly_of_kind (by decide))

theorem sweepPhases_prunes :
    Only (PrunesOnly (concludedPrs command around)) (sweepPhases command around) := by
  have taken : Only (OfKind [.record, .verification, .stallRemediation])
      (takeInventory command around) :=
    takeInventory_only command around (by decide) fun inventory _ outageActive _ =>
      (attendStalledQueuePrs_only command around inventory outageActive).weaken
        (OfKind.mono (by decide))
  refine Only.bind_of ((prepare_only command around taken (by decide)).weaken
    (prunesOnly_of_kind (by decide))) (prepare_shows command around).yields fun ready found => ?_
  cases ready with
  | none => exact (transitionPhase_only around _).weaken (prunesOnly_of_kind (by decide))
  | some ready =>
    rw [concludedPrs, found]
    exact finishSweep_prunes command around ready

theorem sweep_prunes {pruneCommand : ModelWorktreePruneCommand}
    (asked : .prune pruneCommand ∈ (sweep command around).did) :
    pruneCommand.key ∈ (concludedPrs command around).map TriageRecord.key := by
  have prunes : Only (PrunesOnly (concludedPrs command around)) (runSweep command around) := by
    refine Only.bind (Only.attempt (sweepPhases_prunes command around) fun raised => ?_) fun _ =>
      Only.look _
    refine Only.bind (Only.update _) fun _ => ?_
    exact (transitionPhase_only around _).weaken (prunesOnly_of_kind (by decide))
  exact prunes {} _ asked _ rfl

/-! ## Exactly the merges that happened -/

theorem ReportsMerges.concludes (reports : ReportsMerges (sweep command around)) :
    ConcludesOnlyMerges command around := by
  have same (key : PrKey) : key ∈ (concludedPrs command around).map TriageRecord.key ↔
      key ∈ (mergedPrs command around).map TriageRecord.key := by
    rw [← concludedMerged_iff, reports.concluded, mergedIn_sweep]
  have nothing (none : concludedPrs command around = []) : mergedPrs command around = [] := by
    refine List.eq_nil_iff_forall_not_mem.mpr fun pr merged => ?_
    have concluded := (same pr.key).mpr (List.mem_map_of_mem merged)
    rw [none] at concluded
    cases concluded
  refine ⟨fun pr concluded => (same _).mp (List.mem_map_of_mem concluded), nothing, ?_⟩
  by_cases none : concludedPrs command around = []
  · rw [nothing none]
    exact List.nodup_nil
  · -- The counter counts calls, the ledger PRs.
    have counted := reports.counted
    rw [sweep_prsMerged, mergedIn_sweep, (concludedPrs_merged command around none).1] at counted
    rw [← List.length_map TriageRecord.key] at counted
    exact List.dedup_eq_self.mp ((List.dedup_sublist _).eq_of_length counted.symm)

theorem ConcludesOnlyMerges.reports (concludes : ConcludesOnlyMerges command around) :
    ReportsMerges (sweep command around) := by
  have concluded (key : PrKey) (merged : key ∈ (mergedPrs command around).map TriageRecord.key) :
      key ∈ (concludedPrs command around).map TriageRecord.key := by
    by_cases none : concludedPrs command around = []
    · rw [concludes.concludes none] at merged
      cases merged
    · exact List.map_subset _ (concludedPrs_merged command around none).2 merged
  have merges (key : PrKey) (isConcluded : key ∈ (concludedPrs command around).map TriageRecord.key) :
      key ∈ (mergedPrs command around).map TriageRecord.key := by
    obtain ⟨pr, inConcluded, rfl⟩ := List.mem_map.mp isConcluded
    exact concludes.merges pr inConcluded
  constructor
  · intro key
    rw [concludedMerged_iff, mergedIn_sweep]
    exact ⟨merges key, concluded key⟩
  · intro pruneCommand asked
    rw [mergedIn_sweep]
    exact merges _ (sweep_prunes command around asked)
  · rw [sweep_prsMerged, mergedIn_sweep, concludes.once.dedup, List.length_map]
    by_cases none : concludedPrs command around = []
    · have counted := mergedCount_le command around
      rw [concludes.concludes none] at counted ⊢
      exact Nat.le_zero.mp counted
    · exact (concludedPrs_merged command around none).1
  · exact fun result returned => sweep_result command around returned

/-- A pass reports exactly the merges that happened if and only if the merge handler answers
merged for every candidate that the tail gets to, and for none where it gets to none, and once for
each PR. -/
theorem reportsMerges_iff :
    ReportsMerges (sweep command around) ↔ ConcludesOnlyMerges command around :=
  ⟨ReportsMerges.concludes command around, ConcludesOnlyMerges.reports command around⟩

end Reports

def defaultCommand : ModelPrLifecycleStartCommand where
  correlationId := "00000000-0000-0000-0000-000000000001"
  runId := "run-1"

/-- Under the default policy the gate withholds the PR, no merge is asked for, and the ledger
concludes it MERGED. -/
theorem withheld_is_concluded : ¬ ReportsMerges (sweep defaultCommand calmSurroundings) := by
  intro reports
  have concludes := reports.concludes defaultCommand calmSurroundings
  have merged := concludes.merges
    { prNumber := 7, repo := "acme/app", category := .green, ticketIds := ["OMN-1"] }
    (by decide +kernel)
  exact absurd merged (by decide +kernel)

/-- Where the policy lets it merge, the pass reports it. -/
example :
    ConcludesOnlyMerges
      { defaultCommand with actionMode := .enforce, mergeQueueMutationKillSwitch := false }
      calmSurroundings :=
  ⟨by decide +kernel, by decide +kernel, by decide +kernel⟩

end

end OmniMarket.PrSweep
