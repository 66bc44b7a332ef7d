import Mathlib

/-!
# Runs of a reactive machine

A machine takes one event at a time, moves to a next state and puts out something.
`run` keeps every transition of a run with the states around it.
-/

namespace Trace

variable {σ ε ω ρ κ M : Type}

structure Transition (σ ε ω : Type) where
  before : σ
  event : ε
  output : ω
  after : σ

def run (step : σ → ε → σ × ω) (start : σ) : List ε → List (Transition σ ε ω)
  | [] => []
  | event :: rest =>
    ⟨start, event, (step start event).2, (step start event).1⟩ ::
      run step (step start event).1 rest

def final (step : σ → ε → σ × ω) (start : σ) : List ε → σ
  | [] => start
  | event :: rest => final step (step start event).1 rest

variable {step : σ → ε → σ × ω} {start : σ} {events : List ε}

theorem final_append (before after : List ε) :
    final step start (before ++ after) = final step (final step start before) after := by
  induction before generalizing start with
  | nil => rfl
  | cons event rest ih => exact ih

theorem run_append (before after : List ε) :
    run step start (before ++ after) =
      run step start before ++ run step (final step start before) after := by
  induction before generalizing start with
  | nil => rfl
  | cons event rest ih =>
    simp only [List.cons_append, run, final]
    rw [ih]

variable {t : Transition σ ε ω}

theorem run_steps (taken : t ∈ run step start events) :
    step t.before t.event = (t.after, t.output) := by
  induction events generalizing start with
  | nil => cases taken
  | cons event rest ih =>
    cases List.mem_cons.mp taken with
    | inl first => exact first ▸ rfl
    | inr later => exact ih later

variable {earlier later : List (Transition σ ε ω)}

theorem run_suffix (split : run step start events = earlier ++ t :: later) :
    ∃ rest, later = run step t.after rest ∧ final step start events = final step t.after rest := by
  induction earlier generalizing start events with
  | nil =>
    cases events with
    | nil => cases split
    | cons event rest =>
      obtain ⟨first, rfl⟩ := List.cons.inj split
      subst first
      exact ⟨rest, rfl, rfl⟩
  | cons head earlier ih =>
    cases events with
    | nil => cases split
    | cons event rest =>
      have tail : run step (step start event).1 rest = earlier ++ t :: later :=
        (List.cons.inj split).2
      obtain ⟨after, follows, ends⟩ := ih tail
      exact ⟨after, follows, ends⟩

theorem run_prefix (split : run step start events = earlier ++ t :: later) :
    ∃ before, earlier = run step start before ∧ t.before = final step start before := by
  induction earlier generalizing start events with
  | nil =>
    cases events with
    | nil => cases split
    | cons event rest =>
      obtain ⟨first, -⟩ := List.cons.inj split
      exact ⟨[], rfl, congrArg Transition.before first.symm⟩
  | cons head earlier ih =>
    cases events with
    | nil => cases split
    | cons event rest =>
      obtain ⟨rfl, tail⟩ := List.cons.inj split
      obtain ⟨before, own, ends⟩ := ih tail
      exact ⟨event :: before, by rw [run, own], ends⟩

theorem run_events (start : σ) (events : List ε) :
    (run step start events).map (·.event) = events := by
  induction events generalizing start with
  | nil => rfl
  | cons event rest ih => simp [run, ih]

theorem mem_events (taken : t ∈ run step start events) : t.event ∈ events := by
  have listed := List.mem_map_of_mem (f := Transition.event) taken
  rwa [run_events] at listed

/-! ## Rules -/

theorem run_invariant {Invariant : σ → Prop} (holds : Invariant start)
    (preserved : ∀ t ∈ run step start events, Invariant t.before → Invariant t.after) :
    Invariant (final step start events) ∧ ∀ t ∈ run step start events, Invariant t.before := by
  induction events generalizing start with
  | nil => exact ⟨holds, by simp [run]⟩
  | cons event rest ih =>
    have next : Invariant (step start event).1 :=
      preserved ⟨start, event, _, _⟩ (List.mem_cons_self ..) holds
    obtain ⟨atEnd, throughout⟩ :=
      ih next fun t taken => preserved t (List.mem_cons_of_mem _ taken)
    refine ⟨atEnd, ?_⟩
    intro t taken
    cases List.mem_cons.mp taken with
    | inl first => exact first ▸ holds
    | inr later => exact throughout t later

theorem mem_run {earlier later : List ε} {event : ε} (split : events = earlier ++ event :: later) :
    (⟨final step start earlier, event, (step (final step start earlier) event).2,
      (step (final step start earlier) event).1⟩ : Transition σ ε ω) ∈ run step start events := by
  rw [split, run_append]
  exact List.mem_append_right _ List.mem_cons_self

theorem run_history {Invariant : List ε → σ → Prop} (holds : Invariant [] start)
    (preserved : ∀ earlier event later, events = earlier ++ event :: later →
      Invariant earlier (final step start earlier) →
      Invariant (earlier ++ [event]) (step (final step start earlier) event).1)
    {earlier later : List ε} (split : events = earlier ++ later) :
    Invariant earlier (final step start earlier) := by
  induction earlier using List.reverseRecOn generalizing later with
  | nil => exact holds
  | append_singleton before event ih =>
    rw [List.append_assoc, List.singleton_append] at split
    rw [final_append]
    exact preserved before event later split (ih split)

theorem run_ledger [AddCommMonoid M] {balance : σ → M} {gain loss : Transition σ ε ω → M}
    (balanced : ∀ t ∈ run step start events, balance t.after + loss t = balance t.before + gain t) :
    balance (final step start events) + ((run step start events).map loss).sum =
      balance start + ((run step start events).map gain).sum := by
  induction events generalizing start with
  | nil => simp [run, final]
  | cons event rest ih =>
    have first := balanced ⟨start, event, _, _⟩ (List.mem_cons_self ..)
    have later := ih fun t taken => balanced t (List.mem_cons_of_mem _ taken)
    simp only [run, final, List.map_cons, List.sum_cons] at later ⊢
    rw [← add_assoc, add_right_comm, later, add_right_comm, first]
    exact add_assoc ..

theorem run_potential {potential : σ → ℕ} {cost : Transition σ ε ω → ℕ}
    (pays : ∀ t ∈ run step start events, cost t + potential t.after ≤ potential t.before) :
    ((run step start events).map cost).sum + potential (final step start events) ≤
      potential start := by
  induction events generalizing start with
  | nil => simp [run, final]
  | cons event rest ih =>
    have first := pays ⟨start, event, _, _⟩ (List.mem_cons_self ..)
    have later := ih fun t taken => pays t (List.mem_cons_of_mem _ taken)
    simp only [run, final, List.map_cons, List.sum_cons] at first later ⊢
    omega

/-! ## Observed machines -/

/-- The machine beside a register that every output updates. -/
def observing (step : σ → ε → σ × ω) (observe : ρ → ω → ρ) (state : σ × ρ) (event : ε) :
    (σ × ρ) × ω :=
  let moved := step state.1 event
  ((moved.1, observe state.2 moved.2), moved.2)

/-- A transition of the observed machine, without its register. -/
def Transition.unobserved (t : Transition (σ × ρ) ε ω) : Transition σ ε ω :=
  ⟨t.before.1, t.event, t.output, t.after.1⟩

theorem observing_steps {observe : ρ → ω → ρ} {initial : σ × ρ} {t : Transition (σ × ρ) ε ω}
    (taken : t ∈ run (observing step observe) initial events) :
    step t.before.1 t.event = (t.after.1, t.output) ∧ t.after.2 = observe t.before.2 t.output := by
  have stepped := run_steps taken
  have after : _ = t.after := congrArg Prod.fst stepped
  have output : _ = t.output := congrArg Prod.snd stepped
  rw [← after, ← output]
  exact ⟨rfl, rfl⟩

theorem run_observing {observe : ρ → ω → ρ} (register : ρ) :
    (run (observing step observe) (start, register) events).map Transition.unobserved =
      run step start events := by
  induction events generalizing start register with
  | nil => rfl
  | cons event rest ih =>
    simp only [run, List.map_cons]
    exact congrArg _ (ih _)

/-! ## Families of machines -/

variable [DecidableEq κ] {key : ε → κ} {states : κ → σ}

def keyed (key : ε → κ) (step : σ → ε → σ × ω) (states : κ → σ) (event : ε) :
    (κ → σ) × ω :=
  let moved := step (states (key event)) event
  (Function.update states (key event) moved.1, moved.2)

theorem keyed_same (states : κ → σ) (event : ε) :
    (keyed key step states event).1 (key event) = (step (states (key event)) event).1 := by
  simp [keyed]

theorem keyed_other {k : κ} (event : ε) (other : key event ≠ k) :
    (keyed key step states event).1 k = states k := by
  simp [keyed, Function.update_of_ne (Ne.symm other)]

theorem final_keyed (k : κ) (events : List ε) :
    final (keyed key step) states events k =
      final step (states k) (events.filter fun event => key event = k) := by
  induction events generalizing states with
  | nil => rfl
  | cons event rest ih =>
    rw [final, ih, List.filter_cons]
    by_cases here : key event = k
    · rw [if_pos (decide_eq_true here), final, ← here, keyed_same]
    · rw [if_neg (by simpa using here), keyed_other event here]

/-- What a family puts out at one key is what the machine of that key puts out alone. -/
theorem outputs_keyed (k : κ) (events : List ε) :
    ((run (keyed key step) states events).filter fun t => key t.event = k).map (·.output) =
      (run step (states k) (events.filter fun event => key event = k)).map (·.output) := by
  induction events generalizing states with
  | nil => rfl
  | cons event rest ih =>
    rw [run, List.filter_cons, List.filter_cons]
    by_cases here : key event = k
    · rw [if_pos (decide_eq_true here), if_pos (decide_eq_true here), List.map_cons, ih, run,
        List.map_cons, ← here, keyed_same]
      rfl
    · rw [if_neg (by simpa using here), if_neg (by simpa using here), ih, keyed_other event here]

end Trace
