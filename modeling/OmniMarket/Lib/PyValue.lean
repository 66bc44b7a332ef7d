import Mathlib

/-!
# Python values

Configuration values, numbers with their rounding, and datetimes.
-/

/-!
# Values read from configuration files

`PyFloat` is a double as configuration arithmetic sees it: a finite value,
one of the two infinities or not-a-number. Finite values are kept as exact
rationals; sums are exact.

`PyValue` is a parsed document: what a YAML or JSON loader returns. A mapping
keeps its string keys only, since every lookup below is by a string key.
-/

inductive PyFloat where
  | finite (value : ℚ)
  | posInf
  | negInf
  | nan
deriving DecidableEq

namespace PyFloat

/-- `a < b` on doubles: false as soon as one side is not a number. -/
def lt : PyFloat → PyFloat → Bool
  | .nan, _ => false
  | _, .nan => false
  | .posInf, _ => false
  | _, .negInf => false
  | .negInf, _ => true
  | _, .posInf => true
  | .finite a, .finite b => decide (a < b)

/-- `a <= b` on doubles. -/
def le : PyFloat → PyFloat → Bool
  | .nan, _ => false
  | _, .nan => false
  | .negInf, _ => true
  | _, .posInf => true
  | .posInf, _ => false
  | _, .negInf => false
  | .finite a, .finite b => decide (a ≤ b)

def add : PyFloat → PyFloat → PyFloat
  | .nan, _ => .nan
  | _, .nan => .nan
  | .posInf, .negInf => .nan
  | .negInf, .posInf => .nan
  | .posInf, _ => .posInf
  | _, .posInf => .posInf
  | .negInf, _ => .negInf
  | _, .negInf => .negInf
  | .finite a, .finite b => .finite (a + b)

def isFinite : PyFloat → Bool
  | .finite _ => true
  | _ => false

/-- The largest magnitude below which an integer converts to a double without
an overflow error: halfway between the largest double and `2 ^ 1024`. -/
def overflowThreshold : ℕ := 2 ^ 1024 - 2 ^ 970

/-- `float(n)`; `none` is the overflow error. -/
def ofInt (n : ℤ) : Option PyFloat :=
  if n.natAbs < overflowThreshold then some (.finite n) else none

@[simp] theorem lt_finite (a b : ℚ) : lt (.finite a) (.finite b) = decide (a < b) := rfl

@[simp] theorem le_finite (a b : ℚ) : le (.finite a) (.finite b) = decide (a ≤ b) := rfl

end PyFloat

inductive PyValue where
  | none
  | bool (value : Bool)
  | int (value : ℤ)
  | float (value : PyFloat)
  | str (value : String)
  | list (items : List PyValue)
  | dict (entries : List (String × PyValue))

/-- A mapping with string keys, in insertion order. -/
abbrev PyDict := List (String × PyValue)

namespace PyValue

/-- `isinstance(v, dict)`. -/
def asDict? : PyValue → Option PyDict
  | .dict entries => some entries
  | _ => Option.none

/-- `isinstance(v, str)`. -/
def asStr? : PyValue → Option String
  | .str value => some value
  | _ => Option.none

/-- `isinstance(v, list)`. -/
def asList? : PyValue → Option (List PyValue)
  | .list items => some items
  | _ => Option.none

/-- `v is None`. -/
def isNone : PyValue → Bool
  | .none => true
  | _ => false

/-- The truth value of `bool(v)`. -/
def truthy : PyValue → Bool
  | .none => false
  | .bool value => value
  | .int value => value != 0
  | .float (.finite value) => value != 0
  | .float _ => true
  | .str value => !value.isEmpty
  | .list items => !items.isEmpty
  | .dict entries => !entries.isEmpty

/-! ## Equality -/

mutual

/-- Structural equality. -/
def beq : PyValue → PyValue → Bool
  | .none, .none => true
  | .bool a, .bool b => a == b
  | .int a, .int b => a == b
  | .float a, .float b => a == b
  | .str a, .str b => a == b
  | .list a, .list b => beqItems a b
  | .dict a, .dict b => beqEntries a b
  | _, _ => false

def beqItems : List PyValue → List PyValue → Bool
  | [], [] => true
  | a :: as, b :: bs => beq a b && beqItems as bs
  | _, _ => false

def beqEntries : List (String × PyValue) → List (String × PyValue) → Bool
  | [], [] => true
  | (k, a) :: as, (l, b) :: bs => k == l && beq a b && beqEntries as bs
  | _, _ => false

end

mutual

theorem beq_iff : (a b : PyValue) → (beq a b = true ↔ a = b)
  | .none, b | .bool _, b | .int _, b | .float _, b | .str _, b => by cases b <;> simp [beq]
  | .list a, b => by cases b <;> simp [beq, beqItems_iff a]
  | .dict a, b => by cases b <;> simp [beq, beqEntries_iff a]

theorem beqItems_iff : (a b : List PyValue) → (beqItems a b = true ↔ a = b)
  | [], b => by cases b <;> simp [beqItems]
  | a :: as, b => by cases b <;> simp [beqItems, beq_iff a, beqItems_iff as]

theorem beqEntries_iff : (a b : List (String × PyValue)) → (beqEntries a b = true ↔ a = b)
  | [], b => by cases b <;> simp [beqEntries]
  | (k, a) :: as, b => by
      cases b with
      | nil => simp [beqEntries]
      | cons entry bs =>
        obtain ⟨l, b⟩ := entry
        simp [beqEntries, beq_iff a, beqEntries_iff as]

end

instance decidableEq : DecidableEq PyValue := fun a b => decidable_of_iff _ (beq_iff a b)

end PyValue

namespace PyDict

/-- `d.get(key)`, with `none` for an absent key. -/
def get? (entries : PyDict) (key : String) : Option PyValue :=
  List.lookup key entries

/-- `d.get(key)` with Python's `None` for an absent key. -/
def get (entries : PyDict) (key : String) : PyValue :=
  (entries.get? key).getD .none

end PyDict

/-- The outcome of `json.loads`. -/
inductive Loaded where
  | value (value : PyValue)
  /-- A `JSONDecodeError`, with its text. -/
  | malformed (text : String)
  /-- Another exception. -/
  | raised (text : String)

/-!
# Rounding and formatting of numbers

`round(x, n)` and the `.nf` format, both to even on a tie.
-/

namespace PyNumber

/-- The nearest integer, the even one on a tie. -/
def roundHalfEven (value : ℚ) : ℤ :=
  let below := ⌊value⌋
  let rest := value - below
  if rest < 1 / 2 then below
  else if 1 / 2 < rest then below + 1
  else if below % 2 = 0 then below else below + 1

/-- `round(value, digits)`. -/
def round (digits : ℕ) (value : ℚ) : ℚ :=
  roundHalfEven (value * 10 ^ digits) / 10 ^ digits

def padLeft (width : ℕ) (text : String) : String :=
  String.ofList (List.replicate (width - text.length) '0') ++ text

/-- `f"{value:.nf}"` for `n ≥ 1` and a finite value. -/
def formatFixed (digits : ℕ) (value : ℚ) : String :=
  let scaled := (roundHalfEven (|value| * 10 ^ digits)).toNat
  (if value < 0 then "-" else "") ++ toString (scaled / 10 ^ digits) ++ "." ++
    padLeft digits (toString (scaled % 10 ^ digits))

/-- `f"{value:.nf}"` of a double. -/
def formatFloat (digits : ℕ) : PyFloat → String
  | .finite value => formatFixed digits value
  | .posInf => "inf"
  | .negInf => "-inf"
  | .nan => "nan"

theorem floor_le_roundHalfEven (value : ℚ) : ⌊value⌋ ≤ roundHalfEven value := by
  simp only [roundHalfEven]
  split_ifs <;> omega

theorem roundHalfEven_le_floor_add_one (value : ℚ) : roundHalfEven value ≤ ⌊value⌋ + 1 := by
  simp only [roundHalfEven]
  split_ifs <;> omega

theorem roundHalfEven_intCast (n : ℤ) : roundHalfEven n = n := by
  simp [roundHalfEven]

theorem roundHalfEven_nonneg {value : ℚ} (nonneg : 0 ≤ value) : 0 ≤ roundHalfEven value :=
  (Int.floor_nonneg.mpr nonneg).trans (floor_le_roundHalfEven value)

theorem roundHalfEven_le {value : ℚ} {n : ℤ} (upper : value ≤ n) : roundHalfEven value ≤ n := by
  rcases eq_or_lt_of_le upper with equal | below
  · rw [equal, roundHalfEven_intCast]
  · have floor_lt : ⌊value⌋ < n := Int.floor_lt.mpr below
    have step := roundHalfEven_le_floor_add_one value
    omega

theorem round_nonneg {digits : ℕ} {value : ℚ} (nonneg : 0 ≤ value) : 0 ≤ round digits value := by
  have scaled : 0 ≤ value * 10 ^ digits := by positivity
  have rounded : (0 : ℚ) ≤ roundHalfEven (value * 10 ^ digits) := by
    exact_mod_cast roundHalfEven_nonneg scaled
  unfold round
  positivity

theorem round_le_one {digits : ℕ} {value : ℚ} (upper : value ≤ 1) : round digits value ≤ 1 := by
  have scaled : value * 10 ^ digits ≤ ((10 ^ digits : ℤ) : ℚ) := by
    push_cast
    have positive : (0 : ℚ) ≤ 10 ^ digits := by positivity
    exact mul_le_of_le_one_left positive upper
  have rounded : ((roundHalfEven (value * 10 ^ digits) : ℤ) : ℚ) ≤ ((10 ^ digits : ℤ) : ℚ) := by
    exact_mod_cast roundHalfEven_le scaled
  unfold round
  rw [div_le_one (by positivity)]
  simpa using rounded

/-!
# The order of rounded numbers
-/

section

variable {value other : ℚ} {digits : ℕ}

theorem roundHalfEven_mono (le : value ≤ other) : roundHalfEven value ≤ roundHalfEven other := by
  rcases lt_or_eq_of_le (Int.floor_le_floor le) with below | same
  · have upper := roundHalfEven_le_floor_add_one value
    have lower := floor_le_roundHalfEven other
    omega
  · -- of one floor: the larger rest is the one that is rounded up
    have rests : value - ⌊value⌋ ≤ other - ⌊other⌋ := by
      rw [same]
      linarith
    simp only [roundHalfEven]
    rw [← same] at rests ⊢
    split_ifs
    all_goals first | omega | linarith

theorem round_mono (le : value ≤ other) : round digits value ≤ round digits other := by
  have positive : (0 : ℚ) < 10 ^ digits := by positivity
  have scaled : value * 10 ^ digits ≤ other * 10 ^ digits :=
    mul_le_mul_of_nonneg_right le positive.le
  have rounded : ((roundHalfEven (value * 10 ^ digits) : ℤ) : ℚ) ≤
      roundHalfEven (other * 10 ^ digits) := by
    exact_mod_cast roundHalfEven_mono scaled
  unfold round
  exact div_le_div_of_nonneg_right rounded positive.le

theorem roundHalfEven_eq_iff {n : ℤ} (even : n % 2 = 0) (upper : value ≤ n) :
    roundHalfEven value = n ↔ (n : ℚ) - 1 / 2 ≤ value := by
  constructor
  · intro rounded
    by_contra below
    rw [not_le] at below
    have floor_lt : ⌊value⌋ < n := Int.floor_lt.2 (by linarith)
    have step := roundHalfEven_le_floor_add_one value
    have same : ⌊value⌋ = n - 1 := by omega
    have rest : value - ⌊value⌋ < 1 / 2 := by
      rw [same]
      push_cast
      linarith
    simp only [roundHalfEven] at rounded
    rw [if_pos rest] at rounded
    omega
  · intro near
    rcases eq_or_lt_of_le upper with equal | below
    · rw [equal, roundHalfEven_intCast]
    · have floor_lt : ⌊value⌋ < n := Int.floor_lt.2 below
      have le_floor : n - 1 ≤ ⌊value⌋ := Int.le_floor.2 (by push_cast; linarith)
      have same : ⌊value⌋ = n - 1 := by omega
      have rest : ¬ value - ⌊value⌋ < 1 / 2 := by
        rw [same]
        push_cast
        linarith
      simp only [roundHalfEven]
      rw [if_neg rest, same, if_neg (by omega : ¬ (n - 1) % 2 = 0)]
      split <;> omega

theorem round_eq_one_iff (some_digit : digits ≠ 0) (upper : value ≤ 1) :
    round digits value = 1 ↔ 1 - value ≤ 1 / (2 * 10 ^ digits) := by
  have positive : (0 : ℚ) < 10 ^ digits := by positivity
  have scaled : value * 10 ^ digits ≤ ((10 ^ digits : ℤ) : ℚ) := by
    push_cast
    exact mul_le_of_le_one_left positive.le upper
  have even : (10 ^ digits : ℤ) % 2 = 0 := by
    obtain ⟨more, rfl⟩ := Nat.exists_eq_succ_of_ne_zero some_digit
    rw [pow_succ]
    omega
  have whole := roundHalfEven_eq_iff even scaled
  unfold round
  rw [div_eq_one_iff_eq positive.ne']
  have cast : ((roundHalfEven (value * 10 ^ digits) : ℤ) : ℚ) = 10 ^ digits ↔
      roundHalfEven (value * 10 ^ digits) = (10 ^ digits : ℤ) := by
    rw [← Int.cast_inj (α := ℚ)]
    push_cast
    rfl
  rw [cast, whole, le_div_iff₀ (by positivity)]
  push_cast
  constructor
  · intro near
    linarith
  · intro near
    linarith

end

end PyNumber

/-!
# Python datetimes

A `datetime` is aware or naive, and the two kinds are not ordered with each other:
`a > b` raises as soon as one side has an offset and the other has none.
-/

/-- A `datetime`: the wall clock in microseconds since 1970 and the offset from UTC, absent
for a naive value. -/
structure PyDatetime where
  wallClock : ℤ
  utcOffset : Option ℤ
deriving DecidableEq

namespace PyDatetime

/-- Both aware or both naive. -/
def Comparable (a b : PyDatetime) : Prop := a.utcOffset.isSome = b.utcOffset.isSome

instance (a b : PyDatetime) : Decidable (Comparable a b) :=
  inferInstanceAs (Decidable (a.utcOffset.isSome = b.utcOffset.isSome))

/-- The point of time that a comparison reads. -/
def instant (moment : PyDatetime) : ℤ := moment.wallClock - moment.utcOffset.getD 0

/-- `moment.astimezone(UTC)` of an aware moment; `none` is the overflow outside the years 1 to
9999. -/
def astimezoneUtc (moment : PyDatetime) : Option PyDatetime :=
  if -62135596800000000 ≤ moment.instant ∧ moment.instant ≤ 253402300799999999 then
    some ⟨moment.instant, some 0⟩
  else none

/-- `a > b`; `none` is the type error of a naive value against an aware one. -/
def gt? (a b : PyDatetime) : Option Bool :=
  if Comparable a b then some (decide (b.instant < a.instant)) else none

/-- `a` is ordered with `b` and not later. -/
def NotAfter (a b : PyDatetime) : Prop := Comparable a b ∧ a.instant ≤ b.instant

instance (a b : PyDatetime) : Decidable (NotAfter a b) :=
  inferInstanceAs (Decidable (Comparable a b ∧ a.instant ≤ b.instant))

/-- `a` is ordered with `b` and later. -/
def After (a b : PyDatetime) : Prop := Comparable a b ∧ b.instant < a.instant

instance (a b : PyDatetime) : Decidable (After a b) :=
  inferInstanceAs (Decidable (Comparable a b ∧ b.instant < a.instant))

variable {a b : PyDatetime}

theorem gt?_eq_some_false : gt? a b = some false ↔ NotAfter a b := by
  unfold gt? NotAfter
  split <;> simp_all

theorem gt?_eq_some_true : gt? a b = some true ↔ After a b := by
  unfold gt? After
  split <;> simp_all

theorem Comparable.notAfter_or_after (comparable : Comparable a b) : NotAfter a b ∨ After a b := by
  rcases le_or_gt a.instant b.instant with early | late
  · exact Or.inl ⟨comparable, early⟩
  · exact Or.inr ⟨comparable, late⟩

end PyDatetime
