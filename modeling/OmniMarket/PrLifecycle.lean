import OmniMarket.Lib.PyValue
import OmniMarket.Lib.Trace

/-!
# The PR lifecycle state machine

`HandlerPrLifecycleStateReducer.delta` moves a sweep through its phases. The entry flags close
some transitions; a sweep that reaches a closed one is complete. Logging is left out, and so is
the repo-health record, which `delta` never touches.
-/

namespace OmniMarket.PrLifecycle

variable {intent : ModelPrLifecycleIntent}

section

inductive EnumPrLifecyclePhase where
  | idle
  | inventorying
  | triaged
  | rebasing
  | fixing
  | merging
  | complete
  | failed
deriving DecidableEq

inductive EnumPrLifecycleEventTrigger where
  | startReceived
  | inventoryComplete
  | rebasePending
  | rebaseComplete
  | fixesPending
  | noFixesNeeded
  | fixesComplete
  | mergeComplete
  | error
deriving DecidableEq

structure ModelPrLifecycleEvent where
  correlationId : String
  sourcePhase : EnumPrLifecyclePhase
  trigger : EnumPrLifecycleEventTrigger
  timestamp : PyDatetime
  errorMessage : Option String := none
  prsInventoried : ℕ := 0
  prsBlocked : ℕ := 0
  prsFixed : ℕ := 0
  prsMerged : ℕ := 0

inductive EnumPrLifecycleIntentType where
  | startInventory
  | startRebase
  | startFix
  | startMerge
  | sweepComplete
  | sweepFailed
deriving DecidableEq

structure ModelPrLifecycleIntent where
  intentType : EnumPrLifecycleIntentType
  correlationId : String
  fromPhase : EnumPrLifecyclePhase

structure ModelPrLifecycleEntryFlags where
  dryRun : Bool := false
  inventoryOnly : Bool := false
  fixOnly : Bool := false

structure ModelPrLifecycleState where
  correlationId : String
  phase : EnumPrLifecyclePhase := .idle
  entryFlags : ModelPrLifecycleEntryFlags := {}
  startedAt : Option PyDatetime := none
  lastPhaseAt : Option PyDatetime := none
  errorMessage : Option String := none
  prsInventoried : ℕ := 0
  prsBlocked : ℕ := 0
  prsFixed : ℕ := 0
  prsMerged : ℕ := 0
  prsProcessed : ℕ := 0

/-! ## The transition table -/

def transitions : EnumPrLifecyclePhase → EnumPrLifecycleEventTrigger → Option EnumPrLifecyclePhase
  | .idle, .startReceived => some .inventorying
  | .inventorying, .inventoryComplete => some .triaged
  | .inventorying, .error => some .failed
  | .triaged, .rebasePending => some .rebasing
  | .triaged, .fixesPending => some .fixing
  | .triaged, .noFixesNeeded => some .merging
  | .triaged, .error => some .failed
  | .rebasing, .rebaseComplete => some .merging
  | .rebasing, .error => some .failed
  | .fixing, .fixesComplete => some .merging
  | .fixing, .error => some .failed
  | .merging, .mergeComplete => some .complete
  | .merging, .error => some .failed
  | _, _ => none

def phaseIntents : EnumPrLifecyclePhase → Option EnumPrLifecycleIntentType
  | .inventorying => some .startInventory
  | .rebasing => some .startRebase
  | .fixing => some .startFix
  | .merging => some .startMerge
  | .complete => some .sweepComplete
  | .failed => some .sweepFailed
  | .idle | .triaged => none

def EnumPrLifecyclePhase.isTerminal : EnumPrLifecyclePhase → Bool
  | .complete | .failed => true
  | _ => false

def EnumPrLifecycleIntentType.isSweep : EnumPrLifecycleIntentType → Bool
  | .sweepComplete | .sweepFailed => true
  | _ => false

def isTransitionAllowed (fromPhase toPhase : EnumPrLifecyclePhase)
    (flags : ModelPrLifecycleEntryFlags) : Bool :=
  if toPhase = .failed then true
  else if flags.inventoryOnly then
    [(EnumPrLifecyclePhase.idle, EnumPrLifecyclePhase.inventorying),
      (.inventorying, .triaged)].contains (fromPhase, toPhase)
  else if flags.fixOnly then
    -- the list has no `(rebasing, merging)`
    !([(EnumPrLifecyclePhase.triaged, EnumPrLifecyclePhase.merging),
      (.fixing, .merging)].contains (fromPhase, toPhase))
  else true

/-! ## The reducer -/

/-- The phase that a trigger leads to: `complete` when the entry flags close the transition. -/
def targetPhase (phase : EnumPrLifecyclePhase) (trigger : EnumPrLifecycleEventTrigger)
    (flags : ModelPrLifecycleEntryFlags) : Option EnumPrLifecyclePhase :=
  (transitions phase trigger).map fun toPhase =>
    if isTransitionAllowed phase toPhase flags then toPhase else .complete

section

variable (state : ModelPrLifecycleState)

def accepts (event : ModelPrLifecycleEvent) : Bool :=
  event.correlationId == state.correlationId && event.sourcePhase == state.phase &&
    !state.phase.isTerminal

/-- The new state; a metric of the event that is zero leaves the state's own. -/
def advance (event : ModelPrLifecycleEvent) (toPhase : EnumPrLifecyclePhase) :
    ModelPrLifecycleState :=
  { state with
    phase := toPhase
    lastPhaseAt := some event.timestamp
    errorMessage := if toPhase = .failed then event.errorMessage else none
    prsInventoried := if 0 < event.prsInventoried then event.prsInventoried
      else state.prsInventoried
    prsBlocked := if 0 < event.prsBlocked then event.prsBlocked else state.prsBlocked
    prsFixed := if 0 < event.prsFixed then event.prsFixed else state.prsFixed
    prsMerged := if 0 < event.prsMerged then event.prsMerged else state.prsMerged
    startedAt := if state.phase = .idle then some event.timestamp else state.startedAt
    -- a larger count in the last event is added to the count before it
    prsProcessed :=
      if toPhase = .complete then
        if state.prsInventoried < event.prsInventoried then
          state.prsInventoried + event.prsInventoried
        else state.prsInventoried
      else state.prsProcessed }

def intentsFor (toPhase : EnumPrLifecyclePhase) :
    List ModelPrLifecycleIntent :=
  match phaseIntents toPhase with
  | none => []
  | some intentType =>
    if state.entryFlags.dryRun && !intentType.isSweep then []
    else [⟨intentType, state.correlationId, toPhase⟩]

def delta (event : ModelPrLifecycleEvent) :
    ModelPrLifecycleState × List ModelPrLifecycleIntent :=
  if accepts state event then
    match targetPhase state.phase event.trigger state.entryFlags with
    | none => (state, [])
    | some toPhase => (advance state event toPhase, intentsFor state toPhase)
  else (state, [])

end

/-! ## What a step does -/

variable {state : ModelPrLifecycleState} {event : ModelPrLifecycleEvent}
  {toPhase : EnumPrLifecyclePhase}

structure Advances (state : ModelPrLifecycleState) (event : ModelPrLifecycleEvent)
    (toPhase : EnumPrLifecyclePhase) : Prop where
  accepted : accepts state event = true
  target : targetPhase state.phase event.trigger state.entryFlags = some toPhase

theorem delta_cases (state : ModelPrLifecycleState) (event : ModelPrLifecycleEvent) :
    delta state event = (state, []) ∨ ∃ toPhase, Advances state event toPhase ∧
      delta state event = (advance state event toPhase, intentsFor state toPhase) := by
  unfold delta
  by_cases accepted : accepts state event = true
  · rw [if_pos accepted]
    cases target : targetPhase state.phase event.trigger state.entryFlags with
    | none => exact .inl rfl
    | some toPhase => exact .inr ⟨toPhase, ⟨accepted, target⟩, rfl⟩
  · rw [if_neg accepted]
    exact .inl rfl

theorem Advances.delta (advances : Advances state event toPhase) :
    delta state event = (advance state event toPhase, intentsFor state toPhase) := by
  unfold PrLifecycle.delta
  rw [if_pos advances.accepted, advances.target]

theorem Advances.unfinished (advances : Advances state event toPhase) :
    state.phase.isTerminal = false := by
  have accepted := advances.accepted
  unfold accepts at accepted
  rw [Bool.and_eq_true, Bool.not_eq_true'] at accepted
  exact accepted.2

theorem delta_finished (finished : state.phase.isTerminal = true) :
    PrLifecycle.delta state event = (state, []) := by
  rcases delta_cases state event with rejected | ⟨toPhase, advances, -⟩
  · exact rejected
  · rw [advances.unfinished] at finished
    cases finished

theorem delta_entryFlags (state : ModelPrLifecycleState) (event : ModelPrLifecycleEvent) :
    (delta state event).1.entryFlags = state.entryFlags := by
  rcases delta_cases state event with rejected | ⟨toPhase, -, advanced⟩
  · rw [rejected]
  · rw [advanced]
    rfl

theorem mem_intentsFor (emitted : intent ∈ intentsFor state toPhase) :
    phaseIntents toPhase = some intent.intentType ∧ intent.correlationId = state.correlationId ∧
      intent.fromPhase = toPhase ∧
      (state.entryFlags.dryRun = true → intent.intentType.isSweep = true) := by
  unfold intentsFor at emitted
  split at emitted
  · cases emitted
  · next intentType found =>
    split at emitted
    · cases emitted
    · next shown =>
      cases List.mem_singleton.1 emitted
      refine ⟨found, rfl, rfl, ?_⟩
      intro dry
      rw [dry] at shown
      simpa using shown

end

/-!
# What the entry flags promise
-/

section

open Trace

/-! ## The table under the flags -/

variable {phase toPhase : EnumPrLifecyclePhase} {trigger : EnumPrLifecycleEventTrigger}
  {flags : ModelPrLifecycleEntryFlags}

theorem targetPhase_cases (target : targetPhase phase trigger flags = some toPhase) :
    ∃ tabled, transitions phase trigger = some tabled ∧
      ((isTransitionAllowed phase tabled flags = true ∧ toPhase = tabled) ∨
        (isTransitionAllowed phase tabled flags = false ∧ toPhase = .complete)) := by
  unfold targetPhase at target
  obtain ⟨tabled, found, closed⟩ := Option.map_eq_some_iff.1 target
  refine ⟨tabled, found, ?_⟩
  split at closed
  · next allowed => exact .inl ⟨allowed, closed.symm⟩
  · next blocked => exact .inr ⟨Bool.eq_false_iff.2 blocked, closed.symm⟩

theorem transitions_merging (tabled : transitions phase trigger = some .merging) :
    phase = .triaged ∨ phase = .fixing ∨ (phase = .rebasing ∧ trigger = .rebaseComplete) := by
  revert tabled
  cases phase <;> cases trigger <;> decide

/-- With `fix_only` the merging phase is reached from the rebasing phase alone. -/
theorem target_fixOnly (fixOnly : flags.fixOnly = true)
    (target : targetPhase phase trigger flags = some .merging) :
    phase = .rebasing ∧ trigger = .rebaseComplete := by
  obtain ⟨tabled, found, ⟨allowed, own⟩ | ⟨-, own⟩⟩ := targetPhase_cases target
  · subst own
    unfold isTransitionAllowed at allowed
    rw [if_neg (by decide), fixOnly] at allowed
    rcases transitions_merging found with triaged | fixing | rebasing
    · subst triaged
      cases inventoryOnly : flags.inventoryOnly <;> rw [inventoryOnly] at allowed <;> cases allowed
    · subst fixing
      cases inventoryOnly : flags.inventoryOnly <;> rw [inventoryOnly] at allowed <;> cases allowed
    · exact rebasing
  · cases own

/-- With `inventory_only` the sweep stays among these phases. -/
def InventoryPhase : EnumPrLifecyclePhase → Prop
  | .fixing | .rebasing | .merging => False
  | _ => True

theorem target_inventoryOnly (inventoryOnly : flags.inventoryOnly = true)
    (target : targetPhase phase trigger flags = some toPhase) : InventoryPhase toPhase := by
  obtain ⟨tabled, -, ⟨allowed, own⟩ | ⟨-, own⟩⟩ := targetPhase_cases target
  · subst own
    unfold isTransitionAllowed at allowed
    rw [inventoryOnly] at allowed
    cases toPhase with
    | idle | inventorying | triaged | complete | failed => exact True.intro
    | fixing | rebasing | merging => simp at allowed
  · subst own
    exact True.intro

/-! ## The promises -/

/-- How many of the intents end the sweep. -/
def sweeps (intents : List ModelPrLifecycleIntent) : ℕ :=
  (intents.filter (·.intentType.isSweep)).length

structure FlagsRespected (start : ModelPrLifecycleState) (events : List ModelPrLifecycleEvent) :
    Prop where
  fixOnly : start.entryFlags.fixOnly = true → ∀ t ∈ run delta start events,
    t.after.phase ≠ .merging ∧ ∀ intent ∈ t.output, intent.intentType ≠ .startMerge
  inventoryOnly : start.entryFlags.inventoryOnly = true → ∀ t ∈ run delta start events,
    InventoryPhase t.after.phase ∧ ∀ intent ∈ t.output,
      intent.intentType ≠ .startFix ∧ intent.intentType ≠ .startRebase ∧
        intent.intentType ≠ .startMerge
  dryRun : start.entryFlags.dryRun = true → ∀ t ∈ run delta start events,
    ∀ intent ∈ t.output, intent.intentType = .sweepComplete ∨ intent.intentType = .sweepFailed
  sweepOnce : ((run delta start events).map fun t => sweeps t.output).sum ≤ 1
  sweepLast : ∀ earlier t later, run delta start events = earlier ++ t :: later →
    (∃ intent ∈ t.output, intent.intentType.isSweep = true) → ∀ next ∈ later, next.after = t.after
  processed : (final delta start events).phase = .complete →
    (final delta start events).prsProcessed = (final delta start events).prsInventoried

def CountsAgree (state : ModelPrLifecycleState) (event : ModelPrLifecycleEvent) : Prop :=
  event.prsInventoried = 0 ∨ state.prsInventoried = 0 ∨ event.prsInventoried = state.prsInventoried

/-- With `fix_only` the step does not complete a rebase, and if it completes the sweep the
inventory counts agree. -/
structure StepKeeps (state : ModelPrLifecycleState) (event : ModelPrLifecycleEvent) : Prop where
  rebase : state.entryFlags.fixOnly = true → accepts state event = true →
    ¬ (state.phase = .rebasing ∧ event.trigger = .rebaseComplete)
  counts : Advances state event .complete → CountsAgree state event

section

variable {state start : ModelPrLifecycleState} {event : ModelPrLifecycleEvent}
  {events : List ModelPrLifecycleEvent}

theorem countsAgree_iff (state : ModelPrLifecycleState) (event : ModelPrLifecycleEvent) :
    (advance state event .complete).prsProcessed = (advance state event .complete).prsInventoried ↔
      CountsAgree state event := by
  unfold CountsAgree advance
  dsimp only
  rw [if_pos rfl]
  split <;> split <;> omega

/-! ## What a step emits -/

theorem output_phase (emitted : intent ∈ (delta state event).2) :
    phaseIntents (delta state event).1.phase = some intent.intentType := by
  rcases delta_cases state event with rejected | ⟨toPhase, -, advanced⟩
  · rw [rejected] at emitted
    cases emitted
  · rw [advanced] at emitted ⊢
    exact (mem_intentsFor emitted).1

theorem output_dryRun (dry : state.entryFlags.dryRun = true)
    (emitted : intent ∈ (delta state event).2) : intent.intentType.isSweep = true := by
  rcases delta_cases state event with rejected | ⟨toPhase, -, advanced⟩
  · rw [rejected] at emitted
    cases emitted
  · rw [advanced] at emitted
    exact (mem_intentsFor emitted).2.2.2 dry

variable {intentType : EnumPrLifecycleIntentType}

theorem isSweep_iff :
    intentType.isSweep = true ↔ intentType = .sweepComplete ∨ intentType = .sweepFailed := by
  cases intentType <;> decide

theorem phaseIntents_sweep (emitted : phaseIntents phase = some intentType)
    (sweep : intentType.isSweep = true) : phase.isTerminal = true := by
  cases phase <;> cases emitted <;> first | rfl | cases sweep

theorem output_length (state : ModelPrLifecycleState) (event : ModelPrLifecycleEvent) :
    (delta state event).2.length ≤ 1 := by
  rcases delta_cases state event with rejected | ⟨toPhase, -, advanced⟩
  · rw [rejected]
    exact Nat.zero_le _
  · rw [advanced]
    show (intentsFor state toPhase).length ≤ 1
    unfold intentsFor
    split
    · exact Nat.zero_le _
    · split
      · exact Nat.zero_le _
      · exact Nat.le_refl _

/-- How many sweep intents are still to come. -/
def sweepsLeft (state : ModelPrLifecycleState) : ℕ := if state.phase.isTerminal then 0 else 1

theorem sweep_pays (state : ModelPrLifecycleState) (event : ModelPrLifecycleEvent) :
    sweeps (delta state event).2 + sweepsLeft (delta state event).1 ≤ sweepsLeft state := by
  unfold sweeps sweepsLeft
  by_cases finished : state.phase.isTerminal = true
  · rw [delta_finished finished, if_pos finished]
    exact Nat.le_refl _
  · rw [if_neg finished]
    by_cases swept : ∃ intent ∈ (delta state event).2, intent.intentType.isSweep = true
    · obtain ⟨intent, emitted, sweep⟩ := swept
      rw [if_pos (phaseIntents_sweep (output_phase emitted) sweep)]
      exact (List.length_filter_le ..).trans (output_length state event)
    · have none_ : (delta state event).2.filter (·.intentType.isSweep) = [] := by
        rw [List.filter_eq_nil_iff]
        intro intent emitted sweep
        exact swept ⟨intent, emitted, sweep⟩
      rw [none_]
      split
      · exact Nat.zero_le _
      · exact Nat.le_refl _

/-! ## Runs -/

theorem finished_stays (finished : state.phase.isTerminal = true)
    (events : List ModelPrLifecycleEvent) :
    final delta state events = state ∧ ∀ t ∈ run delta state events, t.after = state := by
  induction events with
  | nil => exact ⟨rfl, fun t taken => absurd taken List.not_mem_nil⟩
  | cons event rest ih =>
    have same : (delta state event).1 = state := by
      rw [delta_finished finished]
    constructor
    · show final delta (delta state event).1 rest = state
      rw [same]
      exact ih.1
    · intro t taken
      rcases List.mem_cons.1 taken with first | later
      · rw [first]
        exact same
      · rw [same] at later
        exact ih.2 t later

variable {t : Transition ModelPrLifecycleState ModelPrLifecycleEvent _}

theorem final_of_finished (taken : t ∈ run delta start events)
    (finished : t.after.phase.isTerminal = true) : final delta start events = t.after := by
  obtain ⟨earlier, later, split⟩ := List.append_of_mem taken
  obtain ⟨rest, -, ends⟩ := run_suffix split
  rw [ends]
  exact (finished_stays finished rest).1

def HasFlags (flags : ModelPrLifecycleEntryFlags) (state : ModelPrLifecycleState) : Prop :=
  state.entryFlags = flags

theorem run_entryFlags (taken : t ∈ run delta start events) :
    t.before.entryFlags = start.entryFlags := by
  have preserved : ∀ t ∈ run delta start events, HasFlags start.entryFlags t.before →
      HasFlags start.entryFlags t.after := by
    intro t taken same
    unfold HasFlags at same ⊢
    rw [← same, ← delta_entryFlags t.before t.event, run_steps taken]
  have initial : HasFlags start.entryFlags start := rfl
  exact (run_invariant initial preserved).2 t taken

/-! ## The phases of a run -/

def InInventory (state : ModelPrLifecycleState) : Prop := InventoryPhase state.phase

theorem inInventory_step (inventoryOnly : state.entryFlags.inventoryOnly = true)
    (before : InInventory state) : InInventory (delta state event).1 := by
  rcases delta_cases state event with rejected | ⟨toPhase, advances, advanced⟩
  · rw [rejected]
    exact before
  · rw [advanced]
    exact target_inventoryOnly inventoryOnly advances.target

theorem inInventory_run (idle : start.phase = .idle)
    (inventoryOnly : start.entryFlags.inventoryOnly = true) :
    ∀ t ∈ run delta start events, InInventory t.before ∧ InInventory t.after := by
  have preserved : ∀ t ∈ run delta start events, InInventory t.before → InInventory t.after := by
    intro t taken before
    have after : InInventory (delta t.before t.event).1 :=
      inInventory_step (run_entryFlags taken ▸ inventoryOnly) before
    rwa [run_steps taken] at after
  have initial : InInventory start := by
    unfold InInventory
    rw [idle]
    exact True.intro
  intro t taken
  have before := (run_invariant initial preserved).2 t taken
  exact ⟨before, preserved t taken before⟩

def NotMerging (state : ModelPrLifecycleState) : Prop := state.phase ≠ .merging

theorem not_merging_step (fixOnly : state.entryFlags.fixOnly = true) (keeps : StepKeeps state event)
    (before : NotMerging state) : NotMerging (delta state event).1 := by
  rcases delta_cases state event with rejected | ⟨toPhase, advances, advanced⟩
  · rw [rejected]
    exact before
  · rw [advanced]
    intro merging
    have target := advances.target
    rw [show toPhase = .merging from merging] at target
    exact keeps.rebase fixOnly advances.accepted (target_fixOnly fixOnly target)

theorem not_merging_run (idle : start.phase = .idle) (fixOnly : start.entryFlags.fixOnly = true)
    (keeps : ∀ t ∈ run delta start events, StepKeeps t.before t.event) :
    ∀ t ∈ run delta start events, NotMerging t.after := by
  have preserved : ∀ t ∈ run delta start events, NotMerging t.before → NotMerging t.after := by
    intro t taken before
    have after := not_merging_step (run_entryFlags taken ▸ fixOnly) (keeps t taken) before
    rwa [run_steps taken] at after
  have initial : NotMerging start := by
    unfold NotMerging
    rw [idle]
    decide
  intro t taken
  exact preserved t taken ((run_invariant initial preserved).2 t taken)

theorem completed_by (unfinished : start.phase ≠ .complete)
    (complete : (final delta start events).phase = .complete) :
    ∃ t ∈ run delta start events, Advances t.before t.event .complete ∧
      final delta start events = advance t.before t.event .complete := by
  induction events generalizing start with
  | nil => exact absurd complete unfinished
  | cons event rest ih =>
    by_cases now : (delta start event).1.phase = .complete
    · rcases delta_cases start event with rejected | ⟨toPhase, advances, advanced⟩
      · rw [rejected] at now
        exact absurd now unfinished
      · have own : toPhase = .complete := by
          rw [advanced] at now
          exact now
        subst own
        refine ⟨⟨start, event, _, _⟩, List.mem_cons_self, advances, ?_⟩
        show final delta (delta start event).1 rest = _
        rw [advanced]
        exact (finished_stays rfl rest).1
    · obtain ⟨t, taken, completes⟩ := ih now complete
      exact ⟨t, List.mem_cons_of_mem _ taken, completes⟩

/-! ## The promises are kept -/

theorem output_after (taken : t ∈ run delta start events) (emitted : intent ∈ t.output) :
    phaseIntents t.after.phase = some intent.intentType := by
  have stepped := run_steps taken
  have phase : phaseIntents (delta t.before t.event).1.phase = some intent.intentType := by
    refine output_phase ?_
    rw [stepped]
    exact emitted
  rwa [stepped] at phase

theorem sweep_once (start : ModelPrLifecycleState) (events : List ModelPrLifecycleEvent) :
    ((run delta start events).map fun t => sweeps t.output).sum ≤ 1 := by
  have pays : ∀ t ∈ run delta start events,
      sweeps t.output + sweepsLeft t.after ≤ sweepsLeft t.before := by
    intro t taken
    have step := sweep_pays t.before t.event
    rwa [run_steps taken] at step
  have bounded := run_potential pays
  have atMost : sweepsLeft start ≤ 1 := by
    unfold sweepsLeft
    split <;> omega
  omega

theorem sweep_last {earlier later : List (Transition ModelPrLifecycleState ModelPrLifecycleEvent _)}
    (split : run delta start events = earlier ++ t :: later)
    (swept : ∃ intent ∈ t.output, intent.intentType.isSweep = true) :
    ∀ next ∈ later, next.after = t.after := by
  obtain ⟨intent, emitted, sweep⟩ := swept
  have taken : t ∈ run delta start events := by
    rw [split]
    exact List.mem_append_right _ List.mem_cons_self
  have finished := phaseIntents_sweep (output_after taken emitted) sweep
  obtain ⟨rest, follows, -⟩ := run_suffix split
  rw [follows]
  exact (finished_stays finished rest).2

theorem fixOnly_respected (idle : start.phase = .idle) (fixOnly : start.entryFlags.fixOnly = true)
    (keeps : ∀ t ∈ run delta start events, StepKeeps t.before t.event)
    (taken : t ∈ run delta start events) :
    t.after.phase ≠ .merging ∧ ∀ intent ∈ t.output, intent.intentType ≠ .startMerge := by
  have after := not_merging_run idle fixOnly keeps t taken
  refine ⟨after, ?_⟩
  intro intent emitted merge
  have phase := output_after taken emitted
  rw [merge] at phase
  unfold NotMerging at after
  revert after phase
  cases t.after.phase <;> decide

theorem inventoryOnly_respected (idle : start.phase = .idle)
    (inventoryOnly : start.entryFlags.inventoryOnly = true) (taken : t ∈ run delta start events) :
    InventoryPhase t.after.phase ∧ ∀ intent ∈ t.output,
      intent.intentType ≠ .startFix ∧ intent.intentType ≠ .startRebase ∧
        intent.intentType ≠ .startMerge := by
  have after := (inInventory_run idle inventoryOnly t taken).2
  refine ⟨after, ?_⟩
  intro intent emitted
  have phase := output_after taken emitted
  unfold InInventory at after
  revert after phase
  generalize intent.intentType = intentType
  generalize t.after.phase = phase
  intro after emits
  cases phase <;> cases after <;> cases emits <;> decide

theorem dryRun_respected (dryRun : start.entryFlags.dryRun = true)
    (taken : t ∈ run delta start events) (emitted : intent ∈ t.output) :
    intent.intentType = .sweepComplete ∨ intent.intentType = .sweepFailed := by
  have now : t.before.entryFlags.dryRun = true := by
    rw [run_entryFlags taken]
    exact dryRun
  have put : intent ∈ (delta t.before t.event).2 := by
    rw [run_steps taken]
    exact emitted
  exact isSweep_iff.1 (output_dryRun now put)

/-- With `fix_only` alone a completed rebase is followed by the merge. -/
theorem rebase_merges (taken : t ∈ run delta start events)
    (fixOnly : start.entryFlags.fixOnly = true)
    (inventoryOnly : start.entryFlags.inventoryOnly = false)
    (accepted : accepts t.before t.event = true) (rebasing : t.before.phase = .rebasing)
    (completed : t.event.trigger = .rebaseComplete) : t.after.phase = .merging := by
  have target : targetPhase t.before.phase t.event.trigger t.before.entryFlags =
      some .merging := by
    rw [rebasing, completed]
    unfold targetPhase isTransitionAllowed
    rw [run_entryFlags taken, inventoryOnly, fixOnly]
    rfl
  have moved : Advances t.before t.event .merging := ⟨accepted, target⟩
  have after := congrArg (fun moved => moved.1.phase) (run_steps taken)
  rw [moved.delta] at after
  exact after.symm

theorem FlagsRespected.keeps (idle : start.phase = .idle) (respected : FlagsRespected start events)
    (taken : t ∈ run delta start events) : StepKeeps t.before t.event := by
  refine ⟨?_, ?_⟩
  · rintro fixOnly accepted ⟨rebasing, completed⟩
    rw [run_entryFlags taken] at fixOnly
    cases inventoryOnly : start.entryFlags.inventoryOnly with
    | true =>
      have before := (inInventory_run idle inventoryOnly t taken).1
      unfold InInventory at before
      rw [rebasing] at before
      exact before
    | false =>
      have merging := rebase_merges taken fixOnly inventoryOnly accepted rebasing completed
      exact (respected.fixOnly fixOnly t taken).1 merging
  · intro completes
    have stepped := run_steps taken
    rw [completes.delta] at stepped
    have after : t.after = advance t.before t.event .complete :=
      (congrArg Prod.fst stepped).symm
    -- nothing moves after the sweep has completed
    have ends : final delta start events = advance t.before t.event .complete := by
      rw [final_of_finished taken (by rw [after]; rfl), after]
    have processed := respected.processed (by rw [ends]; rfl)
    rw [ends] at processed
    exact (countsAgree_iff ..).1 processed

/-- The promises are kept exactly by the runs whose steps keep them. -/
theorem flags_respected_iff (start : ModelPrLifecycleState) (idle : start.phase = .idle)
    (events : List ModelPrLifecycleEvent) :
    FlagsRespected start events ↔ ∀ t ∈ run delta start events, StepKeeps t.before t.event := by
  constructor
  · intro respected t taken
    exact respected.keeps idle taken
  · intro keeps
    refine ⟨?_, ?_, ?_, sweep_once start events, ?_, ?_⟩
    · intro fixOnly t taken
      exact fixOnly_respected idle fixOnly keeps taken
    · intro inventoryOnly t taken
      exact inventoryOnly_respected idle inventoryOnly taken
    · intro dryRun t taken intent emitted
      exact dryRun_respected dryRun taken emitted
    · intro earlier t later split swept
      exact sweep_last split swept
    · intro complete
      have unfinished : start.phase ≠ .complete := by
        rw [idle]
        decide
      obtain ⟨t, taken, completes, ends⟩ := completed_by unfinished complete
      rw [ends]
      exact (countsAgree_iff ..).2 ((keeps t taken).counts completes)

end

/-! ## Work is started once -/

/-- How far a sweep has come in a phase. -/
def EnumPrLifecyclePhase.rank : EnumPrLifecyclePhase → ℕ
  | .idle => 0
  | .inventorying => 1
  | .triaged => 2
  | .rebasing | .fixing => 3
  | .merging => 4
  | .complete | .failed => 5

/-- The rank of the phases that emit the intent. -/
def EnumPrLifecycleIntentType.rank : EnumPrLifecycleIntentType → ℕ
  | .startInventory => 1
  | .startRebase | .startFix => 3
  | .startMerge => 4
  | .sweepComplete | .sweepFailed => 5

theorem rank_lt {toPhase : EnumPrLifecyclePhase}
    (target : targetPhase phase trigger flags = some toPhase) : phase.rank < toPhase.rank := by
  obtain ⟨tabled, found, rfl⟩ := Option.map_eq_some_iff.1 target
  have forward : phase.rank < tabled.rank ∧ phase.rank < 5 := by
    revert found
    cases phase <;> cases trigger <;> intro found <;> cases found <;> decide
  split
  · exact forward.1
  · exact forward.2

theorem phaseIntents_rank {intentType : EnumPrLifecycleIntentType}
    (emitted : phaseIntents phase = some intentType) : intentType.rank = phase.rank := by
  cases phase <;> cases emitted <;> rfl

/-- The intents of a run over any events, duplicates and strays included, come in the order of the
phases: none comes twice, and a sweep that rebases does not fix. -/
theorem intents_ascend (start : ModelPrLifecycleState) (events : List ModelPrLifecycleEvent) :
    ((run delta start events).flatMap (·.output)).Pairwise
        (fun earlier later => earlier.intentType.rank < later.intentType.rank) ∧
      ∀ intent ∈ (run delta start events).flatMap (·.output),
        start.phase.rank < intent.intentType.rank := by
  induction events generalizing start with
  | nil => exact ⟨.nil, fun _ listed => by cases listed⟩
  | cons event rest ih =>
    rw [run, List.flatMap_cons]
    obtain ⟨ordered, above⟩ := ih (delta start event).1
    rcases delta_cases start event with rejected | ⟨toPhase, advances, moved⟩
    · rw [rejected] at ordered above ⊢
      exact ⟨ordered, above⟩
    · rw [moved] at ordered above ⊢
      have further := rank_lt advances.target
      have own : ∀ intent ∈ intentsFor start toPhase, intent.intentType.rank = toPhase.rank :=
        fun intent emitted => phaseIntents_rank (mem_intentsFor emitted).1
      refine ⟨List.pairwise_append.2 ⟨?_, ordered, ?_⟩, ?_⟩
      · unfold intentsFor
        split
        · exact .nil
        · split
          · exact .nil
          · exact List.pairwise_singleton ..
      · intro intent emitted later listed
        exact own intent emitted ▸ above later listed
      · intro intent listed
        rcases List.mem_append.1 listed with emitted | later
        · exact own intent emitted ▸ further
        · exact further.trans (above intent later)

/-! ## Two sweeps -/

def idleSweep (flags : ModelPrLifecycleEntryFlags) : ModelPrLifecycleState where
  correlationId := "sweep-1"
  entryFlags := flags

def sweepEvent (sourcePhase : EnumPrLifecyclePhase) (trigger : EnumPrLifecycleEventTrigger)
    (prsInventoried : ℕ) : ModelPrLifecycleEvent where
  correlationId := "sweep-1"
  sourcePhase := sourcePhase
  trigger := trigger
  timestamp := ⟨0, some 0⟩
  prsInventoried := prsInventoried

/-- A sweep that finds PRs behind their base. -/
def rebaseEvents : List ModelPrLifecycleEvent :=
  [sweepEvent .idle .startReceived 0, sweepEvent .inventorying .inventoryComplete 3,
    sweepEvent .triaged .rebasePending 0, sweepEvent .rebasing .rebaseComplete 0]

/-- A sweep whose last event counts the PRs again. -/
def recountEvents (recount : ℕ) : List ModelPrLifecycleEvent :=
  [sweepEvent .idle .startReceived 0, sweepEvent .inventorying .inventoryComplete 3,
    sweepEvent .triaged .noFixesNeeded 0, sweepEvent .merging .mergeComplete recount]

/-- With `fix_only` a rebased sweep merges, and a sweep whose last event counts five PRs after
three processed eight. -/
theorem flags_not_respected : ¬ FlagsRespected (idleSweep { fixOnly := true }) rebaseEvents ∧
      ¬ FlagsRespected (idleSweep {}) (recountEvents 5) := by
  constructor
  · intro respected
    have merging : ∃ t ∈ run delta (idleSweep { fixOnly := true }) rebaseEvents,
        t.after.phase = .merging := by
      decide +kernel
    obtain ⟨t, taken, phase⟩ := merging
    exact (respected.fixOnly rfl t taken).1 phase
  · intro respected
    exact absurd (respected.processed rfl) (by decide)

theorem recounted_sweep :
    FlagsRespected (idleSweep {}) (recountEvents 3) ↔
      ∀ t ∈ run delta (idleSweep {}) (recountEvents 3), StepKeeps t.before t.event :=
  flags_respected_iff (idleSweep {}) rfl (recountEvents 3)

end

end OmniMarket.PrLifecycle
