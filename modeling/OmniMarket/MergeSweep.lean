import Mathlib.Data.List.Perm.Basic
import OmniMarket.Lib.Scans
import OmniMarket.Lib.OrderedDict
import OmniMarket.Lib.PyValue
import OmniMarket.Lib.Trace
import OmniMarket.Lib.Lines

/-!
# The merge-sweep state reducer

`HandlerMergeSweepStateReducer.delta` collects the outcome of every PR of a sweep and publishes
one event when all of them are known. Times and fresh ids are arguments. Logging is left out.
-/

namespace OmniMarket.MergeSweep

inductive EnumSweepOutcome where
  | merged
  | armed
  | rebased
  | ciRerunTriggered
  | failed
  | stuck
  | success
  | degraded
  | noop
deriving DecidableEq

structure ModelSweepOutcomeClassified where
  eventId : String
  prNumber : ℤ
  repo : String
  correlationId : String
  outcome : EnumSweepOutcome

structure ModelThreadRepliedEvent where
  correlationId : String
  prNumber : ℤ
  repo : String
  replyPosted : Bool

structure ModelConflictResolvedEvent where
  correlationId : String
  prNumber : ℤ
  repo : String
  resolutionCommitted : Bool
  isNoop : Bool := false

structure CiFixResult where
  correlationId : String
  prNumber : ℤ
  repo : String
  patchApplied : Bool
  isNoop : Bool

inductive Phase2Event where
  | threadReplied (event : ModelThreadRepliedEvent)
  | conflictResolved (event : ModelConflictResolvedEvent)
  | ciFix (event : CiFixResult)

inductive AnyReducerEvent where
  | classified (event : ModelSweepOutcomeClassified)
  | phase2 (event : Phase2Event)

structure ModelPrOutcomeRecord where
  prNumber : ℤ
  repo : String
  outcome : EnumSweepOutcome
  terminal : Bool
  isNoop : Bool := false
  firstSeenAt : PyDatetime
  classifiedEventId : String

structure ModelPrPhase2Record where
  prNumber : ℤ
  repo : String
  consecutiveFailures : ℕ := 0
  lastFailureCategories : List String := []

def isTerminalOutcome : EnumSweepOutcome → Bool
  | .merged | .failed | .stuck => true
  | _ => false

structure ModelMergeSweepState where
  runId : String
  totalPrs : ℤ
  prOutcomesByKey : OrderedDict String ModelPrOutcomeRecord := .empty
  mergedCount : ℕ := 0
  armedCount : ℕ := 0
  rebasedCount : ℕ := 0
  ciRerunCount : ℕ := 0
  failedCount : ℕ := 0
  stuckCount : ℕ := 0
  unresolvableCount : ℕ := 0
  terminalEmitted : Bool := false
  completedAt : Option PyDatetime := none
  prPhase2ByKey : OrderedDict String ModelPrPhase2Record := .empty
  threadRepliesPosted : ℕ := 0
  threadReplyFailures : ℕ := 0
  conflictsResolved : ℕ := 0
  conflictHunkFailures : ℕ := 0
  ciFixesAttempted : ℕ := 0
  ciFixFailures : ℕ := 0

/-! ## Intents -/

def topicSweepCompleted : String := "onex.evt.omnimarket.merge-sweep-completed.v1"

def nodeId : String := "node_merge_sweep_state_reducer"

structure SweepCompletedPayload where
  runId : String
  totalPrs : ℤ
  mergedCount : ℕ
  armedCount : ℕ
  rebasedCount : ℕ
  ciRerunCount : ℕ
  failedCount : ℕ
  stuckCount : ℕ
  completedAt : PyDatetime

inductive Intent where
  | publish (topic : String) (payload : SweepCompletedPayload)
  | persist (nodeId scopeId : String) (data : ModelMergeSweepState) (writtenAt : PyDatetime)
      (intentId correlationId : String)

/-- What one call of `delta` reads from its clock and the id that it makes. -/
structure Stamps where
  firstSeenAt : PyDatetime
  completedAt : PyDatetime
  writtenAt : PyDatetime
  intentId : String

def buildPersistIntent (stamps : Stamps) (state : ModelMergeSweepState) (correlationId : String) :
    Intent :=
  .persist nodeId state.runId state stamps.writtenAt stamps.intentId correlationId

/-! ## Phase 1 -/

def dedupKey (repo : String) (prNumber : ℤ) : String := repo ++ "#" ++ toString prNumber

section

variable (state : ModelMergeSweepState)

def countOutcome : EnumSweepOutcome → ModelMergeSweepState
  | .merged => { state with mergedCount := state.mergedCount + 1 }
  | .armed => { state with armedCount := state.armedCount + 1 }
  | .rebased => { state with rebasedCount := state.rebasedCount + 1 }
  | .ciRerunTriggered => { state with ciRerunCount := state.ciRerunCount + 1 }
  | .failed => { state with failedCount := state.failedCount + 1 }
  | .stuck => { state with stuckCount := state.stuckCount + 1 }
  -- the chain of `if` and `elif` has no branch for these
  | .success | .degraded | .noop => state

def recordOutcome (stamps : Stamps) (state : ModelMergeSweepState)
    (event : ModelSweepOutcomeClassified) : ModelMergeSweepState :=
  let record : ModelPrOutcomeRecord :=
    { prNumber := event.prNumber
      repo := event.repo
      outcome := event.outcome
      terminal := isTerminalOutcome event.outcome
      firstSeenAt := stamps.firstSeenAt
      classifiedEventId := event.eventId }
  let outcomes := state.prOutcomesByKey.set (dedupKey event.repo event.prNumber) record
  { countOutcome state event.outcome with prOutcomesByKey := outcomes }

def completedPayload (stamps : Stamps) (state : ModelMergeSweepState) : SweepCompletedPayload where
  runId := state.runId
  totalPrs := state.totalPrs
  mergedCount := state.mergedCount
  armedCount := state.armedCount
  rebasedCount := state.rebasedCount
  ciRerunCount := state.ciRerunCount
  failedCount := state.failedCount
  stuckCount := state.stuckCount
  completedAt := stamps.completedAt

def deltaPhase1 (stamps : Stamps) (state : ModelMergeSweepState)
    (event : ModelSweepOutcomeClassified) : ModelMergeSweepState × List Intent :=
  if dedupKey event.repo event.prNumber ∈ state.prOutcomesByKey.keys then (state, [])
  else
    let recorded := recordOutcome stamps state event
    -- equality: a key past the total does not close the sweep
    if (recorded.prOutcomesByKey.size : ℤ) = recorded.totalPrs ∧ recorded.terminalEmitted = false then
      let closed :=
        { recorded with terminalEmitted := true, completedAt := some stamps.completedAt }
      (closed, [.publish topicSweepCompleted (completedPayload stamps closed),
        buildPersistIntent stamps closed event.correlationId])
    else (recorded, [buildPersistIntent stamps recorded event.correlationId])

/-! ## Phase 2 -/

def Phase2Event.prNumber : Phase2Event → ℤ
  | .threadReplied event => event.prNumber
  | .conflictResolved event => event.prNumber
  | .ciFix event => event.prNumber

def Phase2Event.repo : Phase2Event → String
  | .threadReplied event => event.repo
  | .conflictResolved event => event.repo
  | .ciFix event => event.repo

def Phase2Event.correlationId : Phase2Event → String
  | .threadReplied event => event.correlationId
  | .conflictResolved event => event.correlationId
  | .ciFix event => event.correlationId

def getOrCreatePhase2Record (key : String) (prNumber : ℤ) (repo : String) : ModelPrPhase2Record :=
  (state.prPhase2ByKey.get? key).getD { prNumber := prNumber, repo := repo }

def ModelPrPhase2Record.succeeded (record : ModelPrPhase2Record) : ModelPrPhase2Record :=
  { record with consecutiveFailures := 0 }

def ModelPrPhase2Record.failedWith (record : ModelPrPhase2Record) (category : String) :
    ModelPrPhase2Record :=
  { record with
    consecutiveFailures := record.consecutiveFailures + 1
    lastFailureCategories := record.lastFailureCategories ++ [category] }

def countPhase2 (record : ModelPrPhase2Record) :
    Phase2Event → ModelMergeSweepState × ModelPrPhase2Record
  | .threadReplied event =>
    if event.replyPosted then
      ({ state with threadRepliesPosted := state.threadRepliesPosted + 1 }, record.succeeded)
    else
      ({ state with threadReplyFailures := state.threadReplyFailures + 1 },
        record.failedWith "thread_reply_failed")
  | .conflictResolved event =>
    if event.resolutionCommitted then
      ({ state with conflictsResolved := state.conflictsResolved + 1 }, record.succeeded)
    else if !event.isNoop then
      ({ state with conflictHunkFailures := state.conflictHunkFailures + 1 },
        record.failedWith "conflict_hunk_failed")
    else (state, record)
  | .ciFix event =>
    if event.patchApplied then
      ({ state with ciFixesAttempted := state.ciFixesAttempted + 1 }, record.succeeded)
    else if !event.isNoop then
      ({ state with ciFixFailures := state.ciFixFailures + 1 }, record.failedWith "ci_fix_failed")
    else (state, record)

def deltaPhase2 (stamps : Stamps) (state : ModelMergeSweepState) (event : Phase2Event) :
    ModelMergeSweepState × List Intent :=
  let key := dedupKey event.repo event.prNumber
  let counted := countPhase2 state (getOrCreatePhase2Record state key event.prNumber event.repo) event
  let next := { counted.1 with prPhase2ByKey := state.prPhase2ByKey.set key counted.2 }
  (next, [buildPersistIntent stamps next event.correlationId])

/-- One delivery: an event and what its call of `delta` reads. -/
structure Delivery where
  event : AnyReducerEvent
  stamps : Stamps

def delta (delivery : Delivery) :
    ModelMergeSweepState × List Intent :=
  match delivery.event with
  | .classified event => deltaPhase1 delivery.stamps state event
  | .phase2 event => deltaPhase2 delivery.stamps state event

end

/-- The state before the first event. -/
def initialState (runId : String) (totalPrs : ℤ) : ModelMergeSweepState where
  runId := runId
  totalPrs := totalPrs

/-!
# One sweep-completed event, and what the counters count
-/

section

open Trace

theorem hash_not_mem_toString (number : ℤ) : '#' ∉ (toString number).toList := by
  show '#' ∉ number.repr.toList
  cases number with
  | ofNat number => exact not_mem_repr rfl number
  | negSucc number =>
    show '#' ∉ ("-" ++ (number + 1).repr).toList
    rw [String.toList_append, List.mem_append]
    exact not_or.2 ⟨by decide, not_mem_repr rfl _⟩

theorem dedupKey_inj {repo repo' : String} {prNumber prNumber' : ℤ}
    (same : dedupKey repo prNumber = dedupKey repo' prNumber') :
    repo = repo' ∧ prNumber = prNumber' := by
  have lists := congrArg String.toList same
  unfold dedupKey at lists
  simp only [String.toList_append, List.append_assoc] at lists
  obtain ⟨repos, numbers⟩ := append_separator_inj (hash_not_mem_toString prNumber)
    (hash_not_mem_toString prNumber') lists
  exact ⟨String.toList_inj.1 repos, Int.repr_injective (String.toList_inj.1 numbers)⟩

/-! ## What the counters count -/

def prKey (event : ModelSweepOutcomeClassified) : String × ℤ := (event.repo, event.prNumber)

def classifiedOf (delivery : Delivery) : Option ModelSweepOutcomeClassified :=
  match delivery.event with
  | .classified event => some event
  | .phase2 _ => none

section

variable (deliveries : List Delivery)

def classifieds : List ModelSweepOutcomeClassified :=
  deliveries.filterMap classifiedOf

/-- The number of PRs that have been delivered. -/
def keyCount : ℕ := ((classifieds deliveries).map prKey).dedup.length

def firstOutcomes : List ModelSweepOutcomeClassified :=
  firstSeen prKey (classifieds deliveries)

def outcomeCount (outcome : EnumSweepOutcome) : ℕ :=
  (firstOutcomes deliveries).countP fun event => event.outcome = outcome

end

def sixOutcomes : List EnumSweepOutcome :=
  [.merged, .armed, .rebased, .ciRerunTriggered, .failed, .stuck]

def EnumSweepOutcome.hasCounter (outcome : EnumSweepOutcome) : Bool := sixOutcomes.contains outcome

def counters (state : ModelMergeSweepState) : EnumSweepOutcome → ℕ
  | .merged => state.mergedCount
  | .armed => state.armedCount
  | .rebased => state.rebasedCount
  | .ciRerunTriggered => state.ciRerunCount
  | .failed => state.failedCount
  | .stuck => state.stuckCount
  | .success | .degraded | .noop => 0

def counterTotal (state : ModelMergeSweepState) : ℕ :=
  state.mergedCount + state.armedCount + state.rebasedCount + state.ciRerunCount +
    state.failedCount + state.stuckCount

def Intent.completes : Intent → Bool
  | .publish topic _ => topic == topicSweepCompleted
  | .persist .. => false

def completions (intents : List Intent) : ℕ := intents.countP Intent.completes

/-! ## The state follows the first outcomes -/

/-- The sweep has been completed when as many PRs are known as it has. -/
structure Tracks (totalPrs : ℤ) (deliveries : List Delivery) (state : ModelMergeSweepState) :
    Prop where
  keys : state.prOutcomesByKey.keys =
    (firstOutcomes deliveries).map fun event => dedupKey event.repo event.prNumber
  counted : ∀ outcome, counters state outcome =
    if outcome.hasCounter then outcomeCount deliveries outcome else 0
  emitted : state.terminalEmitted = true ↔ 1 ≤ totalPrs ∧ totalPrs ≤ keyCount deliveries
  total : state.totalPrs = totalPrs

section

variable {totalPrs : ℤ} {deliveries : List Delivery} {state : ModelMergeSweepState}
  {stamps : Stamps} {event : ModelSweepOutcomeClassified}

theorem keyCount_eq (deliveries : List Delivery) :
    keyCount deliveries = (firstOutcomes deliveries).length := by
  unfold keyCount firstOutcomes
  exact (firstSeen_length _).symm

theorem classifieds_snoc (deliveries : List Delivery) (delivery : Delivery) :
    classifieds (deliveries ++ [delivery]) =
      classifieds deliveries ++ (classifiedOf delivery).toList := by
  unfold classifieds
  rw [List.filterMap_append]
  cases found : classifiedOf delivery with
  | none => rw [List.filterMap_cons_none found, List.filterMap_nil, Option.toList_none]
  | some event => rw [List.filterMap_cons_some found, List.filterMap_nil, Option.toList_some]

variable {delivery : Delivery}

theorem classifiedOf_phase2 {polish : Phase2Event} (arrived : delivery.event = .phase2 polish) :
    classifiedOf delivery = none := by
  unfold classifiedOf
  rw [arrived]

theorem classifiedOf_classified (arrived : delivery.event = .classified event) :
    classifiedOf delivery = some event := by
  unfold classifiedOf
  rw [arrived]

theorem Tracks.known_iff (tracks : Tracks totalPrs deliveries state)
    (event : ModelSweepOutcomeClassified) :
    dedupKey event.repo event.prNumber ∈ state.prOutcomesByKey.keys ↔
      prKey event ∈ (classifieds deliveries).map prKey := by
  have heads : prKey event ∈ (firstOutcomes deliveries).map prKey ↔
      prKey event ∈ (classifieds deliveries).map prKey := mem_firstSeen_keys
  rw [tracks.keys, ← heads, List.mem_map, List.mem_map]
  constructor
  · rintro ⟨other, listed, same⟩
    obtain ⟨repos, numbers⟩ := dedupKey_inj same
    exact ⟨other, listed, Prod.ext repos numbers⟩
  · rintro ⟨other, listed, same⟩
    obtain ⟨repos, numbers⟩ := Prod.mk.inj same
    exact ⟨other, listed, congrArg₂ dedupKey repos numbers⟩

theorem counters_countOutcome (state : ModelMergeSweepState) (added outcome : EnumSweepOutcome) :
    counters (countOutcome state added) outcome =
      counters state outcome + if outcome.hasCounter ∧ added = outcome then 1 else 0 := by
  cases added <;> cases outcome <;> rfl

theorem outcomeCount_snoc (outcome : EnumSweepOutcome)
    (added : firstOutcomes (deliveries ++ [delivery]) = firstOutcomes deliveries ++ [event]) :
    outcomeCount (deliveries ++ [delivery]) outcome =
      outcomeCount deliveries outcome + if event.outcome = outcome then 1 else 0 := by
  unfold outcomeCount
  rw [added, List.countP_append, List.countP_singleton]
  simp

structure Follows (totalPrs : ℤ) (deliveries : List Delivery) (delivery : Delivery)
    (moved : ModelMergeSweepState × List Intent) : Prop where
  tracks : Tracks totalPrs (deliveries ++ [delivery]) moved.1
  completes : completions moved.2 =
    if (keyCount deliveries : ℤ) ≠ totalPrs ∧ (keyCount (deliveries ++ [delivery]) : ℤ) = totalPrs
    then 1 else 0

theorem Tracks.unchanged (tracks : Tracks totalPrs deliveries state)
    (known : firstOutcomes (deliveries ++ [delivery]) = firstOutcomes deliveries)
    {next : ModelMergeSweepState} (keys : next.prOutcomesByKey = state.prOutcomesByKey)
    (counted : counters next = counters state)
    (emitted : next.terminalEmitted = state.terminalEmitted)
    (total : next.totalPrs = state.totalPrs) {intents : List Intent}
    (quiet : completions intents = 0) : Follows totalPrs deliveries delivery (next, intents) := by
  have same : keyCount (deliveries ++ [delivery]) = keyCount deliveries := by
    rw [keyCount_eq, known, keyCount_eq]
  refine ⟨⟨?_, ?_, ?_, total.trans tracks.total⟩, ?_⟩
  · rw [keys, known]
    exact tracks.keys
  · intro outcome
    rw [counted, tracks.counted]
    unfold outcomeCount
    rw [known]
  · rw [emitted, same]
    exact tracks.emitted
  · rw [same, if_neg fun both => both.1 both.2]
    exact quiet

theorem set_keys_new {dict : OrderedDict String ModelPrOutcomeRecord} {key : String}
    (new : key ∉ dict.keys) (record : ModelPrOutcomeRecord) :
    (dict.set key record).keys = dict.keys ++ [key] := by
  show (OrderedDict.setEntry key record dict.entries).map Prod.fst = _
  rw [OrderedDict.setEntry_keys]
  exact if_neg new

theorem recordOutcome_frame (stamps : Stamps) (state : ModelMergeSweepState)
    (event : ModelSweepOutcomeClassified) :
    (recordOutcome stamps state event).terminalEmitted = state.terminalEmitted ∧
      (recordOutcome stamps state event).totalPrs = state.totalPrs ∧
      counters (recordOutcome stamps state event) = counters (countOutcome state event.outcome) := by
  unfold recordOutcome
  refine ⟨?_, ?_, ?_⟩
  · cases event.outcome <;> rfl
  · cases event.outcome <;> rfl
  · funext outcome
    cases outcome <;> rfl

theorem Tracks.recorded (tracks : Tracks totalPrs deliveries state)
    (new : dedupKey event.repo event.prNumber ∉ state.prOutcomesByKey.keys)
    (added : firstOutcomes (deliveries ++ [delivery]) = firstOutcomes deliveries ++ [event]) :
    Follows totalPrs deliveries delivery (deltaPhase1 stamps state event) := by
  obtain ⟨emitted, total, counted⟩ := recordOutcome_frame stamps state event
  have keys : (recordOutcome stamps state event).prOutcomesByKey.keys =
      (firstOutcomes (deliveries ++ [delivery])).map fun event =>
        dedupKey event.repo event.prNumber := by
    rw [added, List.map_append, ← tracks.keys]
    exact set_keys_new new _
  have size : (recordOutcome stamps state event).prOutcomesByKey.size =
      keyCount (deliveries ++ [delivery]) := by
    rw [keyCount_eq, ← List.length_map (fun event => dedupKey event.repo event.prNumber), ← keys]
    exact (List.length_map ..).symm
  have more : keyCount (deliveries ++ [delivery]) = keyCount deliveries + 1 := by
    rw [keyCount_eq, added, keyCount_eq, List.length_append, List.length_singleton]
  have counts : ∀ outcome, counters (recordOutcome stamps state event) outcome =
      if outcome.hasCounter then outcomeCount (deliveries ++ [delivery]) outcome else 0 := by
    intro outcome
    rw [counted, counters_countOutcome, tracks.counted, outcomeCount_snoc outcome added]
    cases outcome.hasCounter <;> simp
  unfold deltaPhase1
  rw [if_neg new]
  dsimp only
  split
  · next closes =>
    -- this outcome is the first to reach the total
    obtain ⟨reached, open_⟩ := closes
    rw [size, total, tracks.total] at reached
    refine ⟨⟨keys, counts, ?_, total.trans tracks.total⟩, ?_⟩
    · refine iff_of_true rfl ?_
      omega
    · rw [if_pos ⟨by omega, reached⟩]
      rfl
  · next stays =>
    rw [size, total, tracks.total, emitted] at stays
    -- a sweep that has emitted is past the total, so it does not reach it again
    have unreached : (keyCount (deliveries ++ [delivery]) : ℤ) ≠ totalPrs := by
      intro reached
      refine stays ⟨reached, ?_⟩
      rw [Bool.eq_false_iff]
      intro before
      have passed := tracks.emitted.1 before
      omega
    refine ⟨⟨keys, counts, ?_, total.trans tracks.total⟩, ?_⟩
    · show (recordOutcome stamps state event).terminalEmitted = true ↔ _
      rw [emitted, tracks.emitted]
      omega
    · rw [if_neg fun both => unreached both.2]
      rfl

theorem countPhase2_frame (state : ModelMergeSweepState) (record : ModelPrPhase2Record)
    (event : Phase2Event) :
    (countPhase2 state record event).1 =
      { state with
        threadRepliesPosted := (countPhase2 state record event).1.threadRepliesPosted
        threadReplyFailures := (countPhase2 state record event).1.threadReplyFailures
        conflictsResolved := (countPhase2 state record event).1.conflictsResolved
        conflictHunkFailures := (countPhase2 state record event).1.conflictHunkFailures
        ciFixesAttempted := (countPhase2 state record event).1.ciFixesAttempted
        ciFixFailures := (countPhase2 state record event).1.ciFixFailures } := by
  cases event with
  | threadReplied event =>
    unfold countPhase2
    dsimp only
    split <;> rfl
  | conflictResolved event =>
    unfold countPhase2
    dsimp only
    split
    · rfl
    · split <;> rfl
  | ciFix event =>
    unfold countPhase2
    dsimp only
    split
    · rfl
    · split <;> rfl

/-- The state with its phase-2 fields taken from another. -/
def withPhase2 (state other : ModelMergeSweepState) : ModelMergeSweepState :=
  { state with
    prPhase2ByKey := other.prPhase2ByKey
    threadRepliesPosted := other.threadRepliesPosted
    threadReplyFailures := other.threadReplyFailures
    conflictsResolved := other.conflictsResolved
    conflictHunkFailures := other.conflictHunkFailures
    ciFixesAttempted := other.ciFixesAttempted
    ciFixFailures := other.ciFixFailures }

theorem deltaPhase2_frame (stamps : Stamps) (state : ModelMergeSweepState) (event : Phase2Event) :
    (deltaPhase2 stamps state event).1 = withPhase2 state (deltaPhase2 stamps state event).1 := by
  unfold deltaPhase2 withPhase2
  dsimp only
  rw [countPhase2_frame]

theorem Tracks.step (tracks : Tracks totalPrs deliveries state) (delivery : Delivery) :
    Follows totalPrs deliveries delivery (delta state delivery) := by
  have snoc := classifieds_snoc deliveries delivery
  cases arrived : delivery.event with
  | phase2 event =>
    -- a phase-2 event touches neither the recorded outcomes nor the counters
    rw [classifiedOf_phase2 arrived, Option.toList_none, List.append_nil] at snoc
    have moved : delta state delivery = deltaPhase2 delivery.stamps state event := by
      unfold delta
      rw [arrived]
    have frame := deltaPhase2_frame delivery.stamps state event
    rw [moved]
    refine tracks.unchanged (congrArg (firstSeen prKey) snoc) ?_ ?_ ?_ ?_ rfl
    · show (deltaPhase2 delivery.stamps state event).1.prOutcomesByKey = _
      rw [frame]
      rfl
    · show counters (deltaPhase2 delivery.stamps state event).1 = _
      rw [frame]
      funext outcome
      cases outcome <;> rfl
    · show (deltaPhase2 delivery.stamps state event).1.terminalEmitted = _
      rw [frame]
      rfl
    · show (deltaPhase2 delivery.stamps state event).1.totalPrs = _
      rw [frame]
      rfl
  | classified event =>
    rw [classifiedOf_classified arrived, Option.toList_some] at snoc
    have moved : delta state delivery = deltaPhase1 delivery.stamps state event := by
      unfold delta
      rw [arrived]
    rw [moved]
    by_cases known : prKey event ∈ (classifieds deliveries).map prKey
    · -- a redelivered outcome changes nothing
      have listed := (tracks.known_iff event).2 known
      have same : deltaPhase1 delivery.stamps state event = (state, []) := if_pos listed
      have outcomes : firstOutcomes (deliveries ++ [delivery]) = firstOutcomes deliveries := by
        unfold firstOutcomes
        rw [snoc, firstSeen_snoc_known known]
      rw [same]
      exact tracks.unchanged outcomes rfl rfl rfl rfl rfl
    · have outcomes : firstOutcomes (deliveries ++ [delivery]) =
          firstOutcomes deliveries ++ [event] := by
        unfold firstOutcomes
        rw [snoc, firstSeen_snoc_new known]
      exact tracks.recorded (fun listed => known ((tracks.known_iff event).1 listed)) outcomes

/-! ## Runs -/

def swept (runId : String) (totalPrs : ℤ) (deliveries : List Delivery) : ModelMergeSweepState :=
  final delta (initialState runId totalPrs) deliveries

theorem swept_snoc (runId : String) (totalPrs : ℤ) (deliveries : List Delivery)
    (delivery : Delivery) :
    swept runId totalPrs (deliveries ++ [delivery]) =
      (delta (swept runId totalPrs deliveries) delivery).1 :=
  final_append deliveries [delivery]

theorem swept_tracks (runId : String) (totalPrs : ℤ) (deliveries : List Delivery) :
    Tracks totalPrs deliveries (swept runId totalPrs deliveries) := by
  induction deliveries using List.reverseRecOn with
  | nil =>
    refine ⟨rfl, ?_, ?_, rfl⟩
    · intro outcome
      cases outcome <;> rfl
    · refine iff_of_false Bool.false_ne_true ?_
      show ¬ (1 ≤ totalPrs ∧ totalPrs ≤ (0 : ℕ))
      omega
  | append_singleton deliveries delivery tracks =>
    rw [swept_snoc]
    exact (tracks.step delivery).tracks

theorem sum_countP (events : List ModelSweepOutcomeClassified) :
    (sixOutcomes.map fun outcome => events.countP fun event => event.outcome = outcome).sum =
      events.countP fun event => event.outcome.hasCounter := by
  induction events with
  | nil => rfl
  | cons event rest ih =>
    simp only [List.countP_cons]
    rw [List.sum_map_add, ih]
    congr 1
    cases event.outcome <;> rfl

theorem Tracks.counted_six (tracks : Tracks totalPrs deliveries state) (outcome : EnumSweepOutcome)
    (listed : outcome ∈ sixOutcomes) : counters state outcome = outcomeCount deliveries outcome := by
  rw [tracks.counted]
  exact if_pos (List.contains_iff_mem.2 listed)

theorem counterTotal_eq (runId : String) (totalPrs : ℤ) (deliveries : List Delivery) :
    counterTotal (swept runId totalPrs deliveries) =
      (firstOutcomes deliveries).countP fun event => event.outcome.hasCounter := by
  have tracks := swept_tracks runId totalPrs deliveries
  have merged := tracks.counted_six .merged (by decide)
  have armed := tracks.counted_six .armed (by decide)
  have rebased := tracks.counted_six .rebased (by decide)
  have rerun := tracks.counted_six .ciRerunTriggered (by decide)
  have failed := tracks.counted_six .failed (by decide)
  have stuck := tracks.counted_six .stuck (by decide)
  rw [← sum_countP]
  unfold counterTotal
  simp only [counters] at merged armed rebased rerun failed stuck
  rw [merged, armed, rebased, rerun, failed, stuck]
  unfold outcomeCount sixOutcomes
  simp only [List.map_cons, List.map_nil, List.sum_cons, List.sum_nil]
  omega

theorem mem_firstOutcomes_of_before {earlier : List Delivery} (before : earlier <+: deliveries)
    (seen : event ∈ firstOutcomes earlier) : event ∈ firstOutcomes deliveries := by
  obtain ⟨later, rfl⟩ := before
  induction later using List.reverseRecOn with
  | nil => rwa [List.append_nil]
  | append_singleton later delivery ih =>
    rw [← List.append_assoc]
    unfold firstOutcomes
    rw [classifieds_snoc]
    cases found : classifiedOf delivery with
    | none =>
      rw [Option.toList_none, List.append_nil]
      exact ih
    | some latest =>
      rw [Option.toList_some]
      by_cases known : prKey latest ∈ (classifieds (earlier ++ later)).map prKey
      · rw [firstSeen_snoc_known known]
        exact ih
      · rw [firstSeen_snoc_new known]
        exact List.mem_append_left _ ih

end

/-! ## The books of a sweep -/

structure SweepAccounted (runId : String) (totalPrs : ℤ) (deliveries : List Delivery) : Prop where
  completes : ∀ earlier delivery later, deliveries = earlier ++ delivery :: later →
    completions (delta (swept runId totalPrs earlier) delivery).2 =
      if (keyCount earlier : ℤ) ≠ totalPrs ∧ (keyCount (earlier ++ [delivery]) : ℤ) = totalPrs
      then 1 else 0
  once : ((run delta (initialState runId totalPrs) deliveries).map fun t =>
    completions t.output).sum ≤ 1
  total : ∀ earlier, earlier <+: deliveries →
    counterTotal (swept runId totalPrs earlier) = keyCount earlier
  counted : ∀ earlier, earlier <+: deliveries → ∀ outcome ∈ sixOutcomes,
    counters (swept runId totalPrs earlier) outcome = outcomeCount earlier outcome
  phase2 : ∀ t ∈ run delta (initialState runId totalPrs) deliveries, ∀ event,
    t.event.event = .phase2 event → t.after = withPhase2 t.before t.after
  permuted : ((classifieds deliveries).map prKey).Nodup → ∀ other, other.Perm deliveries →
    counters (swept runId totalPrs other) = counters (swept runId totalPrs deliveries)

section

variable {runId : String} {totalPrs : ℤ} {deliveries : List Delivery} {state : ModelMergeSweepState}

/-- How many sweep-completed events are still to come. -/
def completionsLeft (state : ModelMergeSweepState) : ℕ := if state.terminalEmitted then 0 else 1

theorem delta_pays (state : ModelMergeSweepState) (delivery : Delivery) :
    completions (delta state delivery).2 + completionsLeft (delta state delivery).1 ≤
      completionsLeft state := by
  unfold delta
  cases delivery.event with
  | classified event =>
    dsimp only
    unfold deltaPhase1
    split
    · exact Nat.le_of_eq (Nat.zero_add _)
    · obtain ⟨emitted, -, -⟩ := recordOutcome_frame delivery.stamps state event
      dsimp only
      split
      · next closes =>
        have before : state.terminalEmitted = false := emitted ▸ closes.2
        unfold completionsLeft
        rw [before]
        exact Nat.le_refl _
      · show 0 + completionsLeft (recordOutcome delivery.stamps state event) ≤ _
        unfold completionsLeft
        rw [emitted, Nat.zero_add]
  | phase2 event =>
    show 0 + completionsLeft (deltaPhase2 delivery.stamps state event).1 ≤ _
    rw [deltaPhase2_frame, Nat.zero_add]
    exact Nat.le_refl _

theorem completed_once (runId : String) (totalPrs : ℤ) (deliveries : List Delivery) :
    ((run delta (initialState runId totalPrs) deliveries).map fun t =>
      completions t.output).sum ≤ 1 := by
  have pays : ∀ t ∈ run delta (initialState runId totalPrs) deliveries,
      completions t.output + completionsLeft t.after ≤ completionsLeft t.before := by
    intro t taken
    have step := delta_pays t.before t.event
    rwa [run_steps taken] at step
  have bounded := run_potential pays
  have atMost : completionsLeft (initialState runId totalPrs) = 1 := rfl
  omega

theorem counters_perm (distinct : ((classifieds deliveries).map prKey).Nodup)
    {other : List Delivery} (perm : other.Perm deliveries) :
    counters (swept runId totalPrs other) = counters (swept runId totalPrs deliveries) := by
  have events : (classifieds other).Perm (classifieds deliveries) := perm.filterMap _
  have distinct' : ((classifieds other).map prKey).Nodup := (events.map prKey).nodup_iff.2 distinct
  funext outcome
  rw [(swept_tracks runId totalPrs other).counted, (swept_tracks runId totalPrs deliveries).counted]
  unfold outcomeCount firstOutcomes
  rw [firstSeen_eq_self distinct, firstSeen_eq_self distinct', events.countP_eq]

/-- The books are right exactly when the first outcome of every PR has a counter. -/
theorem sweep_accounted_iff (runId : String) (totalPrs : ℤ) (deliveries : List Delivery) :
    SweepAccounted runId totalPrs deliveries ↔
      ∀ event ∈ firstOutcomes deliveries,
        event.outcome ≠ .success ∧ event.outcome ≠ .degraded ∧ event.outcome ≠ .noop := by
  have hasCounter_iff : ∀ outcome : EnumSweepOutcome, outcome.hasCounter = true ↔
      outcome ≠ .success ∧ outcome ≠ .degraded ∧ outcome ≠ .noop := by
    intro outcome
    cases outcome <;> decide
  -- the counters add up to the keys exactly when each first outcome has a counter
  have total_iff : ∀ earlier : List Delivery,
      counterTotal (swept runId totalPrs earlier) = keyCount earlier ↔
        ∀ event ∈ firstOutcomes earlier, event.outcome.hasCounter = true := by
    intro earlier
    rw [counterTotal_eq, keyCount_eq]
    exact List.countP_eq_length
  constructor
  · intro accounted event seen
    rw [← hasCounter_iff]
    exact (total_iff deliveries).1 (accounted.total deliveries (List.prefix_refl _)) event seen
  · intro haveCounters
    refine ⟨?_, completed_once runId totalPrs deliveries, ?_, ?_, ?_, ?_⟩
    · intro earlier delivery later split
      exact ((swept_tracks runId totalPrs earlier).step delivery).completes
    · intro earlier before
      refine (total_iff earlier).2 ?_
      intro event seen
      rw [hasCounter_iff]
      exact haveCounters event (mem_firstOutcomes_of_before before seen)
    · intro earlier before outcome listed
      exact (swept_tracks runId totalPrs earlier).counted_six outcome listed
    · intro t taken event arrived
      have stepped : (delta t.before t.event).1 = t.after := by
        rw [run_steps taken]
      rw [← stepped]
      unfold delta
      rw [arrived]
      exact deltaPhase2_frame t.event.stamps t.before event
    · intro distinct other perm
      exact counters_perm distinct perm

end

/-! ## A sweep of one PR -/

def sweepStamps : Stamps where
  firstSeenAt := ⟨1, some 0⟩
  completedAt := ⟨2, some 0⟩
  writtenAt := ⟨3, some 0⟩
  intentId := "intent-1"

def polishedDelivery : Delivery where
  event := .classified
    { eventId := "event-1"
      prNumber := 7
      repo := "acme/widgets"
      correlationId := "run-1"
      outcome := .success }
  stamps := sweepStamps

/-- The sweep of one polished PR is completed with all six counters at zero. -/
theorem sweep_not_accounted : ¬ SweepAccounted "run-1" 1 [polishedDelivery] := by
  intro accounted
  have total := accounted.total [polishedDelivery] (List.prefix_refl _)
  exact absurd total (by decide +kernel)

end

end OmniMarket.MergeSweep
