import OmniMarket.PrSweep.Sweep

/-!
# What the phases of a pass may do

The kinds of entries each phase can add to the log.
-/

namespace OmniMarket.PrSweep

open OmniMarket.PrLedger (EnumPrLifecyclePhase)
open Acting

inductive EntryKind where
  | record
  | verification
  | attestation
  | conclusion
  | stallRemediation
  | merge
  | prune
  | fixerDispatch
  | fix
deriving DecidableEq

def Entry.kind : Entry → EntryKind
  | .phaseRecorded _ _ => .record
  | .phasePublished _ _ => .record
  | .ledger event => if event.conclusion = some .merged then .conclusion else .record
  | .stallRemediated _ _ => .stallRemediation
  | .verified _ => .verification
  | .armReadBack _ _ _ => .attestation
  | .merge _ _ => .merge
  | .prune _ => .prune
  | .fixerDispatch _ => .fixerDispatch
  | .fix _ => .fix
  | .fixReadBack _ _ _ => .record

def OfKind (kinds : List EntryKind) (entry : Entry) : Prop := entry.kind ∈ kinds

variable {kinds : List EntryKind}

theorem OfKind.mono {more : List EntryKind} (within : kinds ⊆ more) (entry : Entry)
    (ofKind : OfKind kinds entry) : OfKind more entry := within ofKind

section Phases

variable (command : ModelPrLifecycleStartCommand) (around : Surroundings)

/-! ## Recording -/

theorem transitionPhase_only (toState : EnumOrchestratorState) :
    Only (OfKind [.record]) (transitionPhase around toState) := by
  unfold transitionPhase
  refine Only.bind (Only.note fun state entry noted => ?_) fun _ =>
    Only.bind (Only.update _) fun _ => Only.answer _
  rcases List.mem_append.mp noted with recorded | published
  · split at recorded
    · cases recorded
    · rw [List.mem_singleton.mp recorded]
      exact List.mem_singleton.mpr rfl
  · rw [List.mem_singleton.mp published]
    exact List.mem_singleton.mpr rfl

theorem recordLedgerEvent_only {event : EnumPrLifecyclePhase → LedgerEvent}
    (other : ∀ phase, (event phase).conclusion ≠ some .merged) :
    Only (OfKind [.record]) (recordLedgerEvent event) := by
  refine Only.note fun state entry noted => ?_
  split at noted
  · rw [List.mem_singleton.mp noted]
    exact List.mem_singleton.mpr (if_neg (other state.phase))
  · cases noted

theorem recordEach_only {α : Type} {event : α → EnumPrLifecyclePhase → LedgerEvent}
    (other : ∀ item phase, (event item phase).conclusion ≠ some .merged) (items : List α) :
    Only (OfKind [.record]) (forEach (fun _ item => recordLedgerEvent (event item)) 0 items) :=
  Only.forEach (fun _ item _ => recordLedgerEvent_only (other item)) 0

/-! ## Inventory -/

section

variable (inventory : InventoryResult)

theorem remediateStalledQueuePrs_only : Only (OfKind [.record, .stallRemediation])
      (remediateStalledQueuePrs command around inventory) := by
  unfold remediateStalledQueuePrs
  split
  · exact Only.pure ()
  · split
    · exact Only.pure ()
    · refine Only.forEach (fun position entry _ => ?_) 0
      unfold remediateStalledQueuePr
      split
      · refine Only.bind (Only.note fun _ noted isNoted => ?_) fun _ => ?_
        · rw [List.mem_singleton.mp isNoted]
          exact List.mem_cons_of_mem _ (List.mem_singleton.mpr rfl)
        · cases around.remediateQueueStall position with
          | error raised => exact Only.pure ()
          | ok _ =>
            exact (recordLedgerEvent_only fun _ => by simp).weaken (OfKind.mono (by decide))
      · exact Only.pure ()

theorem attendStalledQueuePrs_only (outageActive : Bool) :
    Only (OfKind [.record, .stallRemediation])
      (attendStalledQueuePrs command around inventory outageActive) := by
  unfold attendStalledQueuePrs
  split
  · exact Only.update _
  · exact remediateStalledQueuePrs_only command around inventory

theorem attendStalledQueuePrs_withheld {outageActive : Bool}
    (withheld : outageActive = true ∨ command.dryRun = true ∨ command.inventoryOnly = true) :
    Only (OfKind [.record])
      (attendStalledQueuePrs command around inventory outageActive) := by
  unfold attendStalledQueuePrs
  by_cases outage : outageActive = true
  · rw [if_pos outage]
    exact Only.update _
  · have observing : (command.dryRun || command.inventoryOnly) = true := by
      simpa [outage] using withheld
    rw [if_neg outage]
    unfold remediateStalledQueuePrs
    rw [if_pos observing]
    exact Only.pure ()

theorem applyOutageBreaker_only :
    Only (OfKind [.record]) (applyOutageBreaker around inventory) :=
  Only.bind (Only.update _) fun _ => Only.pure _

end

theorem takeInventory_only (records : .record ∈ kinds)
    (attends : ∀ inventory, around.inventory (reposFilter command) = .ok inventory →
      ∀ outageActive, Yields (applyOutageBreaker around inventory) (.ok outageActive) →
        Only (OfKind kinds) (attendStalledQueuePrs command around inventory outageActive)) :
    Only (OfKind kinds) (takeInventory command around) := by
  have recorded : [EntryKind.record] ⊆ kinds := List.cons_subset.mpr ⟨records, List.nil_subset _⟩
  unfold takeInventory
  refine Only.bind ((transitionPhase_only around _).weaken (OfKind.mono recorded)) fun _ => ?_
  refine Only.bind_of (Only.answer _) (fun _ => rfl) fun inventory found => ?_
  refine Only.bind (Only.update _) fun _ => Only.bind (Only.answer _) fun census => ?_
  refine Only.bind (Only.update _) fun _ => Only.bind ?_ fun _ => ?_
  · exact (recordEach_only (fun _ _ => by simp) _).weaken (OfKind.mono recorded)
  · refine Only.bind_of ((applyOutageBreaker_only around inventory).weaken (OfKind.mono recorded))
      (fun _ => rfl) fun outageActive opened => ?_
    refine Only.bind (attends inventory found outageActive fun _ => opened) fun _ => Only.pure _

/-! ## Verification and triage -/

theorem verifyOne_only (position : ℕ) (pr : TriageRecord) :
    Only (OfKind [.record, .verification]) (verifyOne command around position pr) := by
  unfold verifyOne
  refine Only.bind (Only.note fun _ entry noted => ?_) fun _ => Only.bind (Only.update _) fun _ => ?_
  · rw [List.mem_singleton.mp noted]
    exact List.mem_cons_of_mem _ (List.mem_singleton.mpr rfl)
  · split
    · refine Only.bind (Only.update _) fun _ => ?_
      exact (recordLedgerEvent_only fun _ => by simp).weaken (OfKind.mono (by decide))
    · split
      · exact Only.update _
      · exact Only.pure ()

theorem verifyPhase_only (mergePrs : List TriageRecord) :
    Only (OfKind [.record, .verification]) (verifyPhase command around mergePrs) := by
  unfold verifyPhase
  split
  · refine Only.bind ((transitionPhase_only around _).weaken (OfKind.mono (by decide))) fun _ => ?_
    refine Only.bind (Only.forEach (fun position pr _ => ?_) 0) fun _ => Only.pure _
    exact verifyOne_only command around position pr
  · exact Only.pure _

section

variable (inventory : InventoryResult)

theorem settleIntents_only (outageActive : Bool) (classified mergePrs : List TriageRecord) :
    Only (OfKind [.record]) (settleIntents command inventory outageActive classified mergePrs) := by
  unfold settleIntents
  split
  · exact Only.bind (Only.update _) fun _ => Only.pure _
  · refine Only.bind (Only.update _) fun _ => Only.bind ?_ fun _ => Only.pure _
    exact recordEach_only (fun _ _ => by simp) _

theorem triagePhase_only (outageActive : Bool) : Only (OfKind [.record, .verification])
      (triagePhase command around inventory outageActive) := by
  unfold triagePhase classify
  refine Only.bind (Only.bind ?_ fun _ => ?_) fun classified => ?_
  · exact (transitionPhase_only around _).weaken (OfKind.mono (by decide))
  · exact Only.bind (Only.answer _) fun _ => Only.bind (Only.answer _) fun _ => Only.pure _
  · refine Only.bind (verifyPhase_only command around _) fun mergePrs => ?_
    exact (settleIntents_only command inventory outageActive classified mergePrs).weaken
      (OfKind.mono (by decide))

theorem prepare_only (taken : Only (OfKind kinds) (takeInventory command around))
    (within : [.record, .verification] ⊆ kinds) : Only (OfKind kinds) (prepare command around) := by
  unfold prepare
  refine Only.bind taken fun found => ?_
  split
  split
  · exact Only.pure none
  · exact (triagePhase_only command around _ _).weaken (OfKind.mono within)

/-! ## Merge -/

theorem evaluateArmGate_only (position : ℕ) (pr : TriageRecord) :
    Only (OfKind [.attestation]) (evaluateArmGate command around inventory position pr) := by
  unfold evaluateArmGate readBackCompanion
  refine Only.bind ?_ fun _ => Only.bind (Only.answer _) fun _ => Only.pure _
  split
  · refine Only.bind (Only.answer _) fun attested => Only.bind ?_ fun _ => Only.pure _
    exact Only.note fun _ entry noted => List.mem_singleton.mpr (by
      rw [List.mem_singleton.mp noted]
      rfl)
  · exact Only.pure none

theorem armEach_only (position : ℕ) (prs : List TriageRecord) :
    Only (OfKind [.attestation]) (armEach command around inventory position prs) := by
  induction prs generalizing position with
  | nil => exact Only.pure []
  | cons pr rest ih =>
    refine Only.bind (evaluateArmGate_only command around inventory position pr) fun _ => ?_
    exact Only.bind (ih (position + 1)) fun _ => Only.pure _

theorem mergeEach_only (position : ℕ) (wave : List TriageRecord) (counts : MergeResult) :
    Only (OfKind [.merge]) (mergeEach command around position wave counts) := by
  induction wave generalizing position counts with
  | nil => exact Only.pure counts
  | cons pr rest ih =>
    refine Only.bind (Only.answer _) fun mergeCommand => Only.bind ?_ fun _ => ih _ _
    exact Only.note fun _ entry noted => List.mem_singleton.mpr (by
      rw [List.mem_singleton.mp noted]
      rfl)

theorem callMergeFanout_only (ready : Ready) :
    Only (OfKind [.attestation, .merge]) (callMergeFanout command around ready) := by
  refine Only.bind ?_ fun armed => ?_
  · exact (armEach_only command around _ 0 _).weaken (OfKind.mono (by decide))
  · exact (mergeEach_only command around 0 _ _).weaken (OfKind.mono (by decide))

theorem pruneMergedWorktrees_only (merged : List TriageRecord) :
    Only (OfKind [.prune]) (pruneMergedWorktrees command around inventory merged) := by
  unfold pruneMergedWorktrees
  split
  · refine Only.forEach (fun _ tr _ => Only.note fun _ entry noted => ?_) 0
    obtain ⟨_, -, rfl⟩ := List.mem_map.mp noted
    exact List.mem_singleton.mpr rfl
  · exact Only.pure ()

end

theorem concludeMerged_only (tr : TriageRecord) :
    Only (OfKind [.conclusion]) (concludeMerged command around tr) := by
  refine Only.note fun state entry noted => ?_
  split at noted
  · rw [List.mem_singleton.mp noted]
    exact List.mem_singleton.mpr rfl
  · cases noted

theorem mergeAndConclude_only (ready : Ready) :
    Only (OfKind [.record, .attestation, .merge, .conclusion, .prune])
      (mergeAndConclude command around ready) := by
  unfold mergeAndConclude postMergeTail
  refine Only.bind ((transitionPhase_only around _).weaken (OfKind.mono (by decide))) fun _ => ?_
  refine Only.bind ((callMergeFanout_only command around ready).weaken (OfKind.mono (by decide)))
    fun counts => Only.bind (Only.update _) fun _ => ?_
  refine Only.bind (Only.bind ?_ fun _ => Only.bind ?_ fun _ => ?_) fun _ => Only.pure _
  · exact (transitionPhase_only around _).weaken (OfKind.mono (by decide))
  · exact Only.forEach (fun _ tr _ =>
      (concludeMerged_only command around tr).weaken (OfKind.mono (by decide))) 0
  · split
    · exact (pruneMergedWorktrees_only command around _ _).weaken (OfKind.mono (by decide))
    · exact Only.pure ()

/-! ## Fix -/

theorem publishFixerDispatchStart_only (fixPrs : List TriageRecord) :
    Only (OfKind [.fixerDispatch]) (publishFixerDispatchStart around fixPrs) := by
  unfold publishFixerDispatchStart
  split
  · refine Only.forEach (fun _ pr _ => Only.bind (Only.note fun _ entry noted => ?_) fun _ =>
      Only.answer _) 0
    rw [List.mem_singleton.mp noted]
    exact List.mem_singleton.mpr rfl
  · exact Only.pure ()

theorem fixOne_only (position : ℕ) (pr : TriageRecord) :
    Only (OfKind [.record, .fix]) (fixOne command around position pr) := by
  unfold fixOne
  split
  · refine Only.bind (Only.note fun _ entry noted => ?_) fun _ => ?_
    · rw [List.mem_singleton.mp noted]
      exact List.mem_cons_of_mem _ (List.mem_singleton.mpr rfl)
    · split
      · exact Only.pure _
      · exact Only.pure _
      · split
        · split
          · exact Only.pure _
          · refine Only.bind (Only.note fun _ entry noted => ?_) fun _ => Only.pure _
            rw [List.mem_singleton.mp noted]
            exact List.mem_cons_self
        · exact Only.pure _
  · exact Only.pure _

theorem fixEach_only (position : ℕ) (prs : List TriageRecord) :
    Only (OfKind [.record, .fix]) (fixEach command around position prs) := by
  induction prs generalizing position with
  | nil => exact Only.pure []
  | cons pr rest ih =>
    refine Only.bind (fixOne_only command around position pr) fun _ => ?_
    exact Only.bind (ih (position + 1)) fun _ => Only.pure _

theorem fixPhase_only (ready : Ready) :
    Only (OfKind [.record, .fixerDispatch, .fix]) (fixPhase command around ready) := by
  unfold fixPhase
  split
  · exact Only.pure ()
  · split
    · exact Only.update _
    · refine Only.bind ((transitionPhase_only around _).weaken (OfKind.mono (by decide))) fun _ => ?_
      refine Only.bind ((publishFixerDispatchStart_only around _).weaken
        (OfKind.mono (by decide))) fun _ => ?_
      refine Only.bind ((fixEach_only command around 0 _).weaken (OfKind.mono (by decide)))
        fun _ => ?_
      refine Only.bind (Only.answer _) fun _ => Only.bind (Only.update _) fun _ => ?_
      exact (recordEach_only (fun _ _ => by simp) _).weaken (OfKind.mono (by decide))

end Phases

end OmniMarket.PrSweep
