import Mathlib.Data.List.Basic

/-!
# Code that acts

An `Acting` computation works on variables, does things in a world it does not control and may
raise. What it did is a log. The variables and the log outlive a raise.

1. `Shows pick action entries outcome`: whatever the variables hold, the action ends with
   `outcome`, and `pick` reads `entries` off its log.
2. `Only allowed action`: every entry of its log is allowed.
3. `Keeps field action`: it leaves a field of the variables as it found it.
-/

/-- How a computation over the variables `σ` ended: what it did, the variables and its result. -/
structure Ended (σ ω ε α : Type) where
  did : List ω
  left : σ
  outcome : Except ε α

def Acting (σ ω ε α : Type) := σ → Ended σ ω ε α

namespace Acting

variable {σ ω ε α β τ κ : Type} {value : α} {raised : ε} {pick : ω → Option κ}

def andThen (first : Ended σ ω ε α) (next : α → Acting σ ω ε β) : Ended σ ω ε β :=
  match first.outcome with
  | .error raised => ⟨first.did, first.left, .error raised⟩
  | .ok value =>
    let second := next value first.left
    ⟨first.did ++ second.did, second.left, second.outcome⟩

instance : Monad (Acting σ ω ε) where
  pure value := fun state => ⟨[], state, .ok value⟩
  bind first next := fun state => andThen (first state) next

/-- Does what `entries` says, which may depend on the variables. -/
def note (entries : σ → List ω) : Acting σ ω ε Unit := fun state => ⟨entries state, state, .ok ()⟩

/-- Goes on with an answer, or raises it. -/
def answer (given : Except ε α) : Acting σ ω ε α := fun state => ⟨[], state, given⟩

def update (change : σ → σ) : Acting σ ω ε Unit := fun state => ⟨[], change state, .ok ()⟩

def look (read : σ → α) : Acting σ ω ε α := fun state => ⟨[], state, .ok (read state)⟩

/-- `try: action; except: recover`. -/
def attempt (action : Acting σ ω ε α) (recover : ε → Acting σ ω ε α) : Acting σ ω ε α :=
  fun state =>
    match (action state).outcome with
    | .ok _ => action state
    | .error raised =>
      let second := recover raised (action state).left
      ⟨(action state).did ++ second.did, second.left, second.outcome⟩

/-- The actions of a loop over a list, each with its position, counted from `start`. -/
def forEach (body : ℕ → α → Acting σ ω ε Unit) : ℕ → List α → Acting σ ω ε Unit
  | _, [] => pure ()
  | start, item :: rest => do
      body start item
      forEach body (start + 1) rest

theorem bind_apply (first : Acting σ ω ε α) (next : α → Acting σ ω ε β) (state : σ) :
    (first >>= next) state = andThen (first state) next := rfl

theorem note_apply (entries : σ → List ω) (state : σ) :
    (note entries : Acting σ ω ε Unit) state = ⟨entries state, state, .ok ()⟩ := rfl

theorem andThen_ok {first : Ended σ ω ε α} {next : α → Acting σ ω ε β}
    (outcome : first.outcome = .ok value) :
    andThen first next =
      ⟨first.did ++ (next value first.left).did, (next value first.left).left,
        (next value first.left).outcome⟩ := by
  unfold andThen
  rw [outcome]

theorem andThen_error {first : Ended σ ω ε α} {next : α → Acting σ ω ε β}
    (outcome : first.outcome = .error raised) :
    andThen first next = ⟨first.did, first.left, .error raised⟩ := by
  unfold andThen
  rw [outcome]

variable {state : σ}

section

variable {first : Acting σ ω ε α} {next : α → Acting σ ω ε β}

theorem bind_apply_ok {left : σ} {did : List ω} (returned : first state = ⟨did, left, .ok value⟩) :
    (first >>= next) state =
      ⟨did ++ (next value left).did, (next value left).left, (next value left).outcome⟩ := by
  rw [bind_apply, returned]
  rfl

theorem bind_apply_error {left : σ}
    {did : List ω} (failed : first state = ⟨did, left, .error raised⟩) :
    (first >>= next) state = ⟨did, left, .error raised⟩ := by
  rw [bind_apply, failed]
  rfl

theorem left_bind_ok (outcome : (first state).outcome = .ok value) :
    ((first >>= next) state).left = (next value (first state).left).left := by
  rw [bind_apply, andThen_ok outcome]

theorem left_bind_error (outcome : (first state).outcome = .error raised) :
    ((first >>= next) state).left = (first state).left := by
  rw [bind_apply, andThen_error outcome]

end

theorem look_last {first : Acting σ ω ε α} {read : σ → β} {seen : β}
    (returned : ((first >>= fun _ => look read) state).outcome = .ok seen) :
    seen = read ((first >>= fun _ => look read) state).left := by
  cases ended : (first state).outcome with
  | error raised =>
    rw [bind_apply, andThen_error ended] at returned
    cases returned
  | ok value =>
    rw [bind_apply, andThen_ok ended] at returned ⊢
    exact (Except.ok.inj returned).symm

variable {action : Acting σ ω ε α} {recover : ε → Acting σ ω ε α}

theorem attempt_ok (outcome : (action state).outcome = .ok value) :
    attempt action recover state = action state := by
  unfold attempt
  rw [outcome]

theorem attempt_error (outcome : (action state).outcome = .error raised) :
    attempt action recover state =
      ⟨(action state).did ++ (recover raised (action state).left).did,
        (recover raised (action state).left).left,
        (recover raised (action state).left).outcome⟩ := by
  unfold attempt
  rw [outcome]

/-! ## What an action shows -/

/-- What `pick` reads off the log of the action is `entries`. -/
def Logs (pick : ω → Option κ) (action : Acting σ ω ε α) (entries : List κ) : Prop :=
  ∀ state, (action state).did.filterMap pick = entries

def Yields (action : Acting σ ω ε α) (outcome : Except ε α) : Prop :=
  ∀ state, (action state).outcome = outcome

structure Shows (pick : ω → Option κ) (action : Acting σ ω ε α) (entries : List κ)
    (outcome : Except ε α) : Prop where
  logs : Logs pick action entries
  yields : Yields action outcome

variable {body : ℕ → α → Acting σ ω ε Unit}

namespace Shows

variable {pick : ω → Option κ} {first : Acting σ ω ε α} {next : α → Acting σ ω ε β}
  {entries more : List κ} {raised : ε} {value : α} {outcome : Except ε β}

theorem pure (value : α) : Shows pick (Pure.pure value : Acting σ ω ε α) [] (.ok value) :=
  ⟨fun _ => rfl, fun _ => rfl⟩

theorem answer (given : Except ε α) : Shows pick (answer given : Acting σ ω ε α) [] given :=
  ⟨fun _ => rfl, fun _ => rfl⟩

theorem update (change : σ → σ) : Shows pick (update change : Acting σ ω ε Unit) [] (.ok ()) :=
  ⟨fun _ => rfl, fun _ => rfl⟩

theorem note {noted : σ → List ω} (same : ∀ state, (noted state).filterMap pick = entries) :
    Shows pick (note noted : Acting σ ω ε Unit) entries (.ok ()) :=
  ⟨same, fun _ => rfl⟩

theorem bind_logs (before : Shows pick first entries (.ok value))
    (after : Logs pick (next value) more) : Logs pick (first >>= next) (entries ++ more) := by
  intro state
  rw [bind_apply, andThen_ok (before.yields state), List.filterMap_append, before.logs state, after]

theorem bind (before : Shows pick first entries (.ok value))
    (after : Shows pick (next value) more outcome) :
    Shows pick (first >>= next) (entries ++ more) outcome := by
  refine ⟨bind_logs before after.logs, fun state => ?_⟩
  rw [bind_apply, andThen_ok (before.yields state)]
  exact after.yields _

theorem bind_error (before : Shows pick first entries (.error raised)) :
    Shows pick (first >>= next) entries (.error raised) := by
  constructor
  · intro state
    rw [bind_apply, andThen_error (before.yields state)]
    exact before.logs state
  · intro state
    rw [bind_apply, andThen_error (before.yields state)]

/-- `pick` reads nothing off the log of the first action. -/
theorem bind_quiet (before : Shows pick first [] (.ok value))
    (after : Shows pick (next value) more outcome) :
    Shows pick (first >>= next) more outcome := bind before after

/-- `pick` reads nothing off the log of the second action. -/
theorem bind_last (before : Shows pick first entries (.ok value))
    (after : Shows pick (next value) [] outcome) : Shows pick (first >>= next) entries outcome := by
  have both := bind before after
  rwa [List.append_nil] at both

theorem forEach {shown : ℕ → α → List κ}
    (turn : ∀ position item, Shows pick (body position item) (shown position item) (.ok ())) :
    ∀ (start : ℕ) (items : List α),
      Shows pick (forEach body start items)
        ((items.zipIdx start).flatMap fun indexed => shown indexed.2 indexed.1) (.ok ()) := by
  intro start items
  induction items generalizing start with
  | nil => exact pure ()
  | cons item rest followed => exact bind (turn start item) (followed (start + 1))

theorem forEach_items {shown : α → List κ}
    (turn : ∀ position item, Shows pick (body position item) (shown item) (.ok ())) (start : ℕ)
    (items : List α) :
    Shows pick (Acting.forEach body start items) (items.flatMap shown) (.ok ()) := by
  induction items generalizing start with
  | nil => exact pure ()
  | cons item rest followed =>
    rw [List.flatMap_cons]
    exact bind (turn start item) (followed (start + 1))

/-- A loop `pick` reads nothing off. -/
theorem forEach_quiet (turn : ∀ position item, Shows pick (body position item) [] (.ok ()))
    (start : ℕ) (items : List α) : Shows pick (Acting.forEach body start items) [] (.ok ()) := by
  induction items generalizing start with
  | nil => exact pure ()
  | cons item rest followed => exact bind_quiet (turn start item) (followed (start + 1))

end Shows

/-! ## What an action does not do -/

def Only (allowed : ω → Prop) (action : Acting σ ω ε α) : Prop :=
  ∀ state, ∀ entry ∈ (action state).did, allowed entry

namespace Only

variable {allowed permitted : ω → Prop} {first : Acting σ ω ε α} {next : α → Acting σ ω ε β}

theorem weaken (only : Only allowed first) (permits : ∀ entry, allowed entry → permitted entry) :
    Only permitted first :=
  fun state entry done => permits entry (only state entry done)

theorem pure (value : α) : Only allowed (Pure.pure value : Acting σ ω ε α) := fun _ _ => nofun

theorem answer (given : Except ε α) : Only allowed (answer given : Acting σ ω ε α) := fun _ _ => nofun

theorem update (change : σ → σ) : Only allowed (update change : Acting σ ω ε Unit) := fun _ _ => nofun

theorem look (read : σ → α) : Only allowed (look read : Acting σ ω ε α) := fun _ _ => nofun

theorem note {noted : σ → List ω} (fine : ∀ state, ∀ entry ∈ noted state, allowed entry) :
    Only allowed (note noted : Acting σ ω ε Unit) := fine

theorem bind_outcome (before : Only allowed first)
    (after : ∀ state value, (first state).outcome = .ok value → Only allowed (next value)) :
    Only allowed (first >>= next) := by
  intro state entry done
  rw [bind_apply] at done
  cases ended : (first state).outcome with
  | error raised =>
    rw [andThen_error ended] at done
    exact before state entry done
  | ok value =>
    rw [andThen_ok ended] at done
    rcases List.mem_append.mp done with early | late
    · exact before state entry early
    · exact after state value ended _ entry late

theorem bind (before : Only allowed first) (after : ∀ value, Only allowed (next value)) :
    Only allowed (first >>= next) := before.bind_outcome fun _ value _ => after value

theorem bind_of {outcome : Except ε α} (before : Only allowed first) (known : Yields first outcome)
    (after : ∀ value, outcome = .ok value → Only allowed (next value)) :
    Only allowed (first >>= next) :=
  before.bind_outcome fun state value ended => after value ((known state).symm.trans ended)

/-- `pick` reads nothing off a log without an entry it reads. -/
theorem logs (quiet : Only (fun entry => pick entry = none) first) :
    Logs pick first [] := fun state => List.filterMap_eq_nil_iff.mpr (quiet state)

theorem bind_logs {entries : List κ} (before : Logs pick first entries)
    (quiet : ∀ value, Only (fun entry => pick entry = none) (next value)) :
    Logs pick (first >>= next) entries := by
  intro state
  rw [bind_apply]
  cases ended : (first state).outcome with
  | error raised =>
    rw [andThen_error ended]
    exact before state
  | ok value =>
    rw [andThen_ok ended, List.filterMap_append, before state, (quiet value).logs, List.append_nil]

theorem attempt_logs {entries : List κ} (before : Logs pick action entries)
    (quiet : ∀ raised, Only (fun entry => pick entry = none) (recover raised)) :
    Logs pick (attempt action recover) entries := by
  intro state
  cases ended : (action state).outcome with
  | ok value =>
    rw [Acting.attempt_ok ended]
    exact before state
  | error raised =>
    rw [Acting.attempt_error ended, List.filterMap_append, before state, (quiet raised).logs,
      List.append_nil]

theorem attempt (before : Only allowed action) (after : ∀ raised, Only allowed (recover raised)) :
    Only allowed (attempt action recover) := by
  intro state entry done
  cases ended : (action state).outcome with
  | ok value =>
    rw [Acting.attempt_ok ended] at done
    exact before state entry done
  | error raised =>
    rw [Acting.attempt_error ended] at done
    rcases List.mem_append.mp done with early | late
    · exact before state entry early
    · exact after raised _ entry late

theorem forEach {items : List α}
    (turn : ∀ position, ∀ item ∈ items, Only allowed (body position item)) (start : ℕ) :
    Only allowed (forEach body start items) := by
  induction items generalizing start with
  | nil => exact pure ()
  | cons item rest followed =>
    refine bind (turn start item List.mem_cons_self) fun _ => ?_
    exact followed (fun position item inRest =>
      turn position item (List.mem_cons_of_mem _ inRest)) (start + 1)

end Only

/-! ## What an action leaves -/

def Keeps (field : σ → τ) (action : Acting σ ω ε α) : Prop :=
  ∀ state, field (action state).left = field state

namespace Keeps

variable {field : σ → τ} {first : Acting σ ω ε α} {next : α → Acting σ ω ε β}

theorem pure (value : α) : Keeps field (Pure.pure value : Acting σ ω ε α) := fun _ => rfl

theorem answer (given : Except ε α) : Keeps field (answer given : Acting σ ω ε α) := fun _ => rfl

theorem look (read : σ → α) : Keeps field (look read : Acting σ ω ε α) := fun _ => rfl

theorem note (noted : σ → List ω) : Keeps field (note noted : Acting σ ω ε Unit) := fun _ => rfl

theorem update {change : σ → σ} (same : ∀ state, field (change state) = field state) :
    Keeps field (update change : Acting σ ω ε Unit) := same

theorem after_bind (after : ∀ value, Keeps field (next value)) (state : σ) :
    field ((first >>= next) state).left = field (first state).left := by
  cases ended : (first state).outcome with
  | error raised => rw [left_bind_error ended]
  | ok value =>
    rw [left_bind_ok ended]
    exact after value _

theorem bind (before : Keeps field first) (after : ∀ value, Keeps field (next value)) :
    Keeps field (first >>= next) :=
  fun state => (after_bind after state).trans (before state)

theorem after_attempt (after : ∀ raised, Keeps field (recover raised)) (state : σ) :
    field (attempt action recover state).left = field (action state).left := by
  cases ended : (action state).outcome with
  | ok value => rw [attempt_ok ended]
  | error raised =>
    rw [attempt_error ended]
    exact after raised _

theorem forEach (turn : ∀ position item, Keeps field (body position item)) (start : ℕ)
    (items : List α) : Keeps field (forEach body start items) := by
  induction items generalizing start with
  | nil => exact pure ()
  | cons item rest followed => exact bind (turn start item) fun _ => followed (start + 1)

end Keeps

end Acting
