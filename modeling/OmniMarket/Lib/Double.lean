import OmniMarket.Lib.PyValue

/-!
# Arithmetic of doubles

Rounding to 53 binary digits, to even on a tie, and the operations that round their exact
result. The exponent is not bounded, so underflow and overflow are outside of this model.
-/

namespace Double

/-- The distance of neighbouring doubles of the size of `value`. -/
def ulp (value : ℚ) : ℚ := 2 ^ (Int.log 2 value - 52)

/-- The double nearest to a number that is not negative. -/
def nearest (value : ℚ) : ℚ := PyNumber.roundHalfEven (value / ulp value) * ulp value

def add (a b : ℚ) : ℚ := nearest (a + b)

def mul (a b : ℚ) : ℚ := nearest (a * b)

def div (a b : ℚ) : ℚ := nearest (a / b)

variable {a a' b b' value other : ℚ}

theorem ulp_pos (value : ℚ) : 0 < ulp value := zpow_pos two_pos _

theorem two_zpow_add (n : ℤ) (digits : ℕ) :
    (2 : ℚ) ^ (n - 52) * 2 ^ digits = 2 ^ (n - 52 + digits) := by
  rw [zpow_add₀ two_ne_zero, zpow_natCast]

/-- A positive number has 53 binary digits before its point, counted in units of its size. -/
theorem scaled_bounds (positive : 0 < value) :
    2 ^ 52 ≤ value / ulp value ∧ value / ulp value < 2 ^ 53 := by
  rw [le_div_iff₀ (ulp_pos value), div_lt_iff₀ (ulp_pos value), mul_comm, mul_comm (2 ^ 53)]
  unfold ulp
  rw [two_zpow_add, two_zpow_add]
  have lower := Int.zpow_log_le_self one_lt_two positive
  have upper := Int.lt_zpow_succ_log_self one_lt_two value
  constructor
  · exact (congrArg _ (by ring)).trans_le lower
  · exact upper.trans_eq (congrArg _ (by push_cast; ring))

theorem nearest_zero : nearest 0 = 0 := by
  have rounded := PyNumber.roundHalfEven_intCast 0
  rw [Int.cast_zero] at rounded
  rw [nearest, zero_div, rounded, Int.cast_zero, zero_mul]

theorem nearest_nonneg (nonneg : 0 ≤ value) : 0 ≤ nearest value := by
  have units := PyNumber.roundHalfEven_nonneg (div_nonneg nonneg (ulp_pos value).le)
  exact mul_nonneg (by exact_mod_cast units) (ulp_pos value).le

/-- What has at most 53 binary digits is a double. -/
theorem nearest_digits {digits : ℕ} (few : digits ≤ 2 ^ 53) (exponent : ℤ) :
    nearest (digits * 2 ^ exponent) = digits * 2 ^ exponent := by
  rcases Nat.eq_zero_or_pos digits with rfl | some_digit
  · rw [Nat.cast_zero, zero_mul, nearest_zero]
  have positive : (0 : ℚ) < digits * 2 ^ exponent :=
    mul_pos (by exact_mod_cast some_digit) (zpow_pos two_pos _)
  obtain ⟨lower, upper⟩ := scaled_bounds positive
  have few' : (digits : ℚ) ≤ 2 ^ 53 := by exact_mod_cast few
  -- the number is a whole number of units of its size
  have whole : ∃ units : ℤ, digits * 2 ^ exponent / ulp (digits * 2 ^ exponent) = (units : ℚ) := by
    set size := Int.log 2 ((digits : ℚ) * 2 ^ exponent) - 52 with sized
    have scaled : digits * 2 ^ exponent / ulp (digits * 2 ^ exponent) =
        (digits : ℚ) * 2 ^ (exponent - size) := by
      rw [ulp, ← sized, mul_div_assoc, ← zpow_sub₀ two_ne_zero]
    rw [scaled] at lower upper ⊢
    rcases le_or_gt 0 (exponent - size) with above | below
    · obtain ⟨more, more_eq⟩ := Int.eq_ofNat_of_zero_le above
      exact ⟨digits * 2 ^ more, by rw [more_eq, zpow_natCast]; push_cast; rfl⟩
    · -- all 53 digits are there, and the last one is a zero
      have small : (2 : ℚ) ^ (exponent - size) ≤ 2 ^ (-1 : ℤ) :=
        zpow_le_zpow_right₀ one_le_two (by omega)
      have half : (2 : ℚ) ^ (-1 : ℤ) = 1 / 2 := by norm_num
      rw [half] at small
      have bounded : (digits : ℚ) * 2 ^ (exponent - size) ≤ 2 ^ 53 * (1 / 2) :=
        mul_le_mul few' small (zpow_pos two_pos _).le (by positivity)
      refine ⟨2 ^ 52, ?_⟩
      push_cast
      linarith
  obtain ⟨units, scaled⟩ := whole
  rw [nearest, scaled, PyNumber.roundHalfEven_intCast, ← scaled, div_mul_cancel₀ _ (ulp_pos _).ne']

theorem nearest_one : nearest 1 = 1 := by
  have digit := nearest_digits (by norm_num : 1 ≤ 2 ^ 53) 0
  rwa [Nat.cast_one, zpow_zero, mul_one] at digit

/-- The units of a rounded number are a natural number of 53 binary digits. -/
theorem units_bounds (positive : 0 < value) :
    2 ^ 52 ≤ PyNumber.roundHalfEven (value / ulp value) ∧
      PyNumber.roundHalfEven (value / ulp value) ≤ 2 ^ 53 := by
  obtain ⟨lower, upper⟩ := scaled_bounds positive
  constructor
  · exact (Int.le_floor.2 (by push_cast; exact lower)).trans (PyNumber.floor_le_roundHalfEven _)
  · exact PyNumber.roundHalfEven_le (by push_cast; exact upper.le)

theorem nearest_pos (positive : 0 < value) : 0 < nearest value := by
  have units := (units_bounds positive).1
  exact mul_pos (by exact_mod_cast lt_of_lt_of_le (by norm_num) units) (ulp_pos value)

theorem nearest_nearest (nonneg : 0 ≤ value) : nearest (nearest value) = nearest value := by
  rcases nonneg.eq_or_lt with rfl | positive
  · rw [nearest_zero, nearest_zero]
  obtain ⟨lower, upper⟩ := units_bounds positive
  obtain ⟨units, units_eq⟩ := Int.eq_ofNat_of_zero_le (by omega :
    0 ≤ PyNumber.roundHalfEven (value / ulp value))
  have digits : nearest value = (units : ℚ) * 2 ^ (Int.log 2 value - 52) := by
    rw [nearest, units_eq, ulp]
    rfl
  rw [digits]
  exact nearest_digits (by omega) _

theorem nearest_mono (nonneg : 0 ≤ value) (le : value ≤ other) : nearest value ≤ nearest other := by
  rcases nonneg.eq_or_lt with rfl | positive
  · rw [nearest_zero]
    exact nearest_nonneg le
  have sizes : Int.log 2 value ≤ Int.log 2 other := Int.log_mono_right positive le
  rcases sizes.eq_or_lt with same | less
  · have same' : ulp value = ulp other := by rw [ulp, ulp, same]
    have units := PyNumber.roundHalfEven_mono (div_le_div_of_nonneg_right le (ulp_pos other).le)
    rw [nearest, nearest, same']
    exact mul_le_mul_of_nonneg_right (by exact_mod_cast units) (ulp_pos other).le
  · -- a power of two lies between them
    have upper : (PyNumber.roundHalfEven (value / ulp value) : ℚ) ≤ 2 ^ 53 := by
      exact_mod_cast (units_bounds positive).2
    have lower : (2 ^ 52 : ℚ) ≤ PyNumber.roundHalfEven (other / ulp other) := by
      exact_mod_cast (units_bounds (positive.trans_le le)).1
    calc nearest value ≤ 2 ^ 53 * ulp value := mul_le_mul_of_nonneg_right upper (ulp_pos value).le
      _ = 2 ^ (Int.log 2 value - 52 + (53 : ℕ)) := by rw [mul_comm, ulp, two_zpow_add]
      _ ≤ 2 ^ (Int.log 2 other - 52 + (52 : ℕ)) :=
        zpow_le_zpow_right₀ one_le_two (by push_cast; omega)
      _ = 2 ^ 52 * ulp other := by rw [mul_comm, ulp, two_zpow_add]
      _ ≤ nearest other := mul_le_mul_of_nonneg_right lower (ulp_pos other).le

/-! ## The operations -/

theorem nonneg_add (nonneg : 0 ≤ a) (nonneg' : 0 ≤ b) : 0 ≤ add a b :=
  nearest_nonneg (add_nonneg nonneg nonneg')

theorem nonneg_mul (nonneg : 0 ≤ a) (nonneg' : 0 ≤ b) : 0 ≤ mul a b :=
  nearest_nonneg (mul_nonneg nonneg nonneg')

theorem nonneg_div (nonneg : 0 ≤ a) (nonneg' : 0 ≤ b) : 0 ≤ div a b :=
  nearest_nonneg (div_nonneg nonneg nonneg')

theorem add_mono (nonneg : 0 ≤ a + b) (le : a ≤ a') (le' : b ≤ b') : add a b ≤ add a' b' :=
  nearest_mono nonneg (add_le_add le le')

theorem mul_mono_right (nonneg : 0 ≤ a) (nonneg' : 0 ≤ b) (le : b ≤ b') : mul a b ≤ mul a b' :=
  nearest_mono (mul_nonneg nonneg nonneg') (mul_le_mul_of_nonneg_left le nonneg)

theorem div_mono_left (nonneg : 0 ≤ a) (nonneg' : 0 ≤ b) (le : a ≤ a') : div a b ≤ div a' b :=
  nearest_mono (div_nonneg nonneg nonneg') (div_le_div_of_nonneg_right le nonneg')

theorem mul_one_right (double : nearest a = a) : mul a 1 = a := by rw [mul, mul_one, double]

theorem div_one_right (double : nearest a = a) : div a 1 = a := by rw [div, div_one, double]

theorem div_self_eq (positive : 0 < a) : div a a = 1 := by
  rw [div, div_self positive.ne', nearest_one]

theorem mul_le_left (double : nearest a = a) (nonneg : 0 ≤ a) (nonneg' : 0 ≤ b) (upper : b ≤ 1) :
    mul a b ≤ a :=
  (mul_mono_right nonneg nonneg' upper).trans_eq (mul_one_right double)

theorem div_le_one_of_le (nonneg : 0 ≤ a) (positive : 0 < b) (le : a ≤ b) : div a b ≤ 1 :=
  (div_mono_left nonneg positive.le le).trans_eq (div_self_eq positive)

end Double
