import Mathlib

/-!
# A running mean over samples of which some are missing

A mean that is updated by each sample that is there, with the count of all samples so far as the
weight of what it held. A missing sample leaves the mean and still counts.
-/

namespace RunningMean

variable {K : Type}

section

variable (samples : List (Option K))

def present : List K := samples.reduceOption

theorem present_snoc_some (value : K) :
    present (samples ++ [some value]) = present samples ++ [value] := by
  unfold present
  rw [List.reduceOption_append]
  rfl

theorem present_snoc_none : present (samples ++ [none]) = present samples := by
  unfold present
  rw [List.reduceOption_append]
  exact List.append_nil _

theorem length_present_eq_iff : (present samples).length = samples.length ↔ none ∉ samples := by
  induction samples with
  | nil => simp [present]
  | cons sample rest ih =>
    have short : (present rest).length ≤ rest.length := List.reduceOption_length_le rest
    cases sample with
    | none =>
      have same : present (none :: rest) = present rest := List.reduceOption_cons_of_none rest
      rw [same, List.length_cons]
      constructor
      · intro equal
        omega
      · intro absent
        exact absurd List.mem_cons_self absent
    | some value =>
      have same : present (some value :: rest) = value :: present rest :=
        List.reduceOption_cons_of_some value rest
      rw [same, List.length_cons, List.length_cons, Nat.add_right_cancel_iff, ih]
      simp

end

variable [Field K]

def mean (values : List K) : K := values.sum / values.length

/-- The mean that is held after one sample more; `count` is the number of samples before it. -/
def update (held : K) (count : ℕ) : Option K → K
  | none => held
  | some value => (held * count + value) / ((count + 1 : ℕ) : K)

/-- The mean that is held after the samples, oldest first. -/
def running (samples : List (Option K)) : K :=
  (samples.foldl (fun held sample => (update held.1 held.2 sample, held.2 + 1)) (0, 0)).1

theorem foldl_count (samples : List (Option K)) (held : K) (count : ℕ) :
    (samples.foldl (fun held sample => (update held.1 held.2 sample, held.2 + 1))
      (held, count)).2 = count + samples.length := by
  induction samples generalizing held count with
  | nil => rfl
  | cons sample rest ih =>
    rw [List.foldl_cons, ih, List.length_cons]
    omega

theorem running_snoc (samples : List (Option K)) (sample : Option K) :
    running (samples ++ [sample]) = update (running samples) samples.length sample := by
  have count := foldl_count samples (0 : K) 0
  rw [Nat.zero_add] at count
  unfold running
  rw [List.foldl_append, List.foldl_cons, List.foldl_nil, count]

variable [CharZero K]

theorem mean_mul_length (values : List K) : mean values * values.length = values.sum := by
  rcases values.eq_nil_or_concat with rfl | ⟨_, _, rfl⟩
  · simp
  · unfold mean
    rw [div_mul_cancel₀]
    exact Nat.cast_ne_zero.2 (by simp)

theorem running_snoc_eq_mean_iff {samples : List (Option K)}
    (settled : running samples = mean (present samples)) (value : K) :
    running (samples ++ [some value]) = mean (present (samples ++ [some value])) ↔
      none ∉ samples ∨ value = mean (present samples) := by
  have held := mean_mul_length (present samples)
  rw [running_snoc, present_snoc_some, settled, ← length_present_eq_iff]
  generalize mean (present samples) = held_mean at *
  unfold update mean
  rw [List.sum_append, List.sum_singleton, ← held, List.length_append, List.length_singleton,
    div_eq_div_iff (Nat.cast_ne_zero.2 (Nat.succ_ne_zero _))
      (Nat.cast_ne_zero.2 (Nat.succ_ne_zero _))]
  have difference : (held_mean * samples.length + value) * (((present samples).length + 1 : ℕ) : K) -
      (held_mean * (present samples).length + value) * ((samples.length + 1 : ℕ) : K) =
        (held_mean - value) * ((samples.length : K) - (present samples).length) := by
    push_cast
    ring
  rw [← sub_eq_zero, difference, mul_eq_zero, sub_eq_zero, sub_eq_zero, Nat.cast_inj, or_comm,
    eq_comm (a := held_mean), eq_comm (a := samples.length)]

end RunningMean
