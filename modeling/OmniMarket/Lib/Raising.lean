import Mathlib.Logic.Basic
import Mathlib.Order.Basic
import Mathlib.Data.List.Infix

/-!
# Code that may raise

A computation that may raise is an `Except`. It returns exactly when each of its steps
returns.
-/

namespace Raising

variable {ε α β : Type} {next : α → Except ε β}

theorem bind_eq_ok {first : Except ε α} {result : β} :
    (first >>= next) = .ok result ↔ ∃ value, first = .ok value ∧ next value = .ok result := by
  cases first with
  | error raised =>
    constructor
    · exact nofun
    · rintro ⟨_, impossible, _⟩
      cases impossible
  | ok value =>
    constructor
    · intro returned
      exact ⟨value, rfl, returned⟩
    · rintro ⟨_, ⟨⟩, returned⟩
      exact returned

theorem map_eq_ok {first : Except ε α} {convert : α → β} {result : β} :
    first.map convert = .ok result ↔ ∃ value, first = .ok value ∧ convert value = result := by
  cases first with
  | error raised =>
    constructor
    · exact nofun
    · rintro ⟨_, impossible, _⟩
      cases impossible
  | ok value => simp [Except.map]

theorem bind_error {raised : ε} :
    ((.error raised : Except ε α) >>= next) = .error raised := rfl

theorem bind_ok {value : α} :
    ((.ok value : Except ε α) >>= next) = next value := rfl

end Raising

/-!
# Loops that may raise

A `while True` loop whose body either goes on from a new state, returns or
raises. `run` executes it for a bounded number of iterations.
-/

namespace Loop

variable {σ ρ ε : Type}

/-- At most `fuel` iterations from the one numbered `index`. A result comes with
the number and the state of the iteration that returned it; `none` means that
the fuel ran out. -/
def run (body : ℕ → σ → Except ε (σ ⊕ ρ)) : ℕ → ℕ → σ → Except ε (Option (ℕ × σ × ρ))
  | 0, _, _ => .ok none
  | fuel + 1, index, state =>
    match body index state with
    | .error raised => .error raised
    | .ok (.inr result) => .ok (some (index, state, result))
    | .ok (.inl next) => run body fuel (index + 1) next

variable {body : ℕ → σ → Except ε (σ ⊕ ρ)}

theorem run_ne_none {measure : σ → ℕ}
    (decreases : ∀ index state next, body index state = .ok (.inl next) →
      measure next < measure state) {fuel index : ℕ} {state : σ} (enough : measure state < fuel) :
    run body fuel index state ≠ .ok none := by
  induction fuel generalizing index state with
  | zero => omega
  | succ fuel ih =>
    unfold run
    match stepped : body index state with
    | .error raised => simp
    | .ok (.inr result) => simp
    | .ok (.inl next) =>
      have smaller := decreases index state next stepped
      exact ih (by omega)

theorem run_result_at {Invariant : ℕ → σ → Prop}
    (preserved : ∀ index state next, Invariant index state →
      body index state = .ok (.inl next) → Invariant (index + 1) next)
    {fuel index last : ℕ} {state final : σ} {result : ρ} (holds : Invariant index state)
    (returned : run body fuel index state = .ok (some (last, final, result))) :
    Invariant last final ∧ body last final = .ok (.inr result) := by
  induction fuel generalizing index state with
  | zero => simp [run] at returned
  | succ fuel ih =>
    unfold run at returned
    match stepped : body index state with
    | .error raised => simp [stepped] at returned
    | .ok (.inr other) =>
      simp only [stepped, Except.ok.injEq, Option.some.injEq, Prod.mk.injEq] at returned
      obtain ⟨rfl, rfl, rfl⟩ := returned
      exact ⟨holds, stepped⟩
    | .ok (.inl next) =>
      simp only [stepped] at returned
      exact ih (preserved index state next holds stepped) returned

theorem run_result {Invariant : σ → Prop}
    (preserved : ∀ index state next, Invariant state → body index state = .ok (.inl next) →
      Invariant next) {fuel index last : ℕ} {state final : σ} {result : ρ} (holds : Invariant state)
    (returned : run body fuel index state = .ok (some (last, final, result))) :
    Invariant final ∧ body last final = .ok (.inr result) :=
  @run_result_at _ _ _ _ (fun _ => Invariant) preserved _ _ _ _ _ _ holds returned

end Loop

/-!
# The first element that is not accepted

A loop goes through a list as long as what it has seen is accepted. Every shorter beginning of
an accepted list is accepted, so the loop stops at one place at most.
-/

namespace FirstFailure

variable {α : Type} {Accepts : List α → Prop}

def PrefixClosed (Accepts : List α → Prop) : Prop :=
  ∀ before after, Accepts (before ++ after) → Accepts before

structure FailsAt (Accepts : List α → Prop) (items before : List α) (item : α) (after : List α) :
    Prop where
  split : items = before ++ item :: after
  accepted : Accepts before
  fails : ¬ Accepts (before ++ [item])

theorem accepts_or_fails (empty : Accepts []) (items : List α) :
    Accepts items ∨ ∃ before item after, FailsAt Accepts items before item after := by
  -- induction on what is left, with the accepted beginning kept
  have rest : ∀ left before, Accepts before → items = before ++ left →
      Accepts items ∨ ∃ before item after, FailsAt Accepts items before item after := by
    intro left
    induction left with
    | nil =>
      intro before accepted split
      rw [List.append_nil] at split
      exact .inl (split ▸ accepted)
    | cons item left ih =>
      intro before accepted split
      by_cases more : Accepts (before ++ [item])
      · exact ih (before ++ [item]) more (by rw [split, List.append_assoc, List.singleton_append])
      · exact .inr ⟨before, item, left, split, accepted, more⟩
  exact rest items [] empty rfl

variable {items before before' after after' : List α} {item item' : α}

section

variable (closed : PrefixClosed Accepts) (fails : FailsAt Accepts items before item after)

include closed fails

theorem FailsAt.not_accepted : ¬ Accepts items := by
  intro accepted
  refine fails.fails (closed _ after ?_)
  rw [List.append_assoc, List.singleton_append, ← fails.split]
  exact accepted

theorem FailsAt.length_le
    (other : FailsAt Accepts items before' item' after') : before'.length ≤ before.length := by
  refine Nat.le_of_not_lt ?_
  intro longer
  -- the longer beginning contains the item at which the shorter one fails
  have here : before ++ [item] <+: items := ⟨after, by rw [fails.split, List.append_assoc,
    List.singleton_append]⟩
  have there : before' <+: items := ⟨item' :: after', other.split.symm⟩
  have fits : (before ++ [item]).length ≤ before'.length := by
    rw [List.length_append]
    exact longer
  obtain ⟨rest, whole⟩ := List.prefix_of_prefix_length_le here there fits
  exact fails.fails (closed _ rest (whole ▸ other.accepted))

theorem FailsAt.unique
    (other : FailsAt Accepts items before' item' after') : before = before' ∧ item = item' := by
  have same : before.length = before'.length :=
    Nat.le_antisymm (other.length_le closed fails) (fails.length_le closed other)
  have split := fails.split.symm.trans other.split
  obtain ⟨begins, rest⟩ := List.append_inj split same
  exact ⟨begins, (List.cons.inj rest).1⟩

end

end FirstFailure
