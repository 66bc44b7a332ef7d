import Mathlib.Data.List.DropRight

/-!
# Python text operations

A `str` is a list of code points. Whitespace and line boundaries are fixed by
the language reference and are defined here. Lower-casing, the digit and
alphanumeric categories and case variants come from the interpreter's Unicode
database; they are a parameter, `UnicodeTable`.
-/

/-- The facts of the Unicode database that `str` methods and `re` consult. -/
structure UnicodeTable where
  /-- `str.lower()` of a whole string. -/
  lower : List Char → List Char
  /-- Category `Nd`: what `\d` matches. -/
  isDecimal : Char → Bool
  /-- The value of a decimal digit, as `int()` reads it. -/
  decimalValue : Char → ℕ
  /-- `str.isalnum()` of one character: what `\w` matches besides `_`. -/
  isAlnum : Char → Bool
  /-- The characters that `re.IGNORECASE` identifies with a character. -/
  caseVariants : Char → List Char
  /-- `repr()` of a string. -/
  repr : List Char → List Char

namespace PyText
variable {own : List Char}

/-- `str.isspace()` of one character. -/
def isSpace (c : Char) : Bool :=
  let n := c.toNat
  (0x09 ≤ n && n ≤ 0x0d) || (0x1c ≤ n && n ≤ 0x20) || n == 0x85 || n == 0xa0 ||
  n == 0x1680 || (0x2000 ≤ n && n ≤ 0x200a) || n == 0x2028 || n == 0x2029 ||
  n == 0x202f || n == 0x205f || n == 0x3000

/-- The characters at which `str.splitlines()` ends a line. -/
def isLineBreak (c : Char) : Bool :=
  let n := c.toNat
  (0x0a ≤ n && n ≤ 0x0d) || (0x1c ≤ n && n ≤ 0x1e) || n == 0x85 || n == 0x2028 || n == 0x2029

def lstripWith (drop : Char → Bool) (text : List Char) : List Char :=
  text.dropWhile drop

def rstripWith (drop : Char → Bool) (text : List Char) : List Char :=
  text.rdropWhile drop

def lstrip : List Char → List Char := lstripWith isSpace

def rstrip : List Char → List Char := rstripWith isSpace

def strip (text : List Char) : List Char := lstrip (rstrip text)

/-- `text.strip(chars)`. -/
def stripChars (chars : List Char) (text : List Char) : List Char :=
  lstripWith chars.contains (rstripWith chars.contains text)

/-- `needle in text`. -/
def containsText (needle : List Char) (text : List Char) : Bool :=
  text.tails.any needle.isPrefixOf

/-- `text.split()`: the maximal runs of non-whitespace. -/
def splitWords (text : List Char) : List (List Char) :=
  (text.splitOnP isSpace).filter (fun word => !word.isEmpty)

/-- `text.splitlines()`. A carriage return and the line feed after it are one
boundary, and a boundary at the very end starts no further line. -/
def splitLinesAux (line : List Char) : List Char → List (List Char)
  | [] => if line.isEmpty then [] else [line.reverse]
  | '\r' :: '\n' :: rest => line.reverse :: splitLinesAux [] rest
  | c :: rest =>
    if isLineBreak c then line.reverse :: splitLinesAux [] rest
    else splitLinesAux (c :: line) rest

def splitLines (text : List Char) : List (List Char) := splitLinesAux [] text

/-- `text.replace(needle, replacement)` for a non-empty needle. `skip` counts the
characters of a replaced occurrence that are still to be dropped. -/
def replaceText (needle replacement : List Char) : ℕ → List Char → List Char
  | _, [] => []
  | skip + 1, _ :: rest => replaceText needle replacement skip rest
  | 0, c :: rest =>
    if needle.isPrefixOf (c :: rest) then
      replacement ++ replaceText needle replacement (needle.length - 1) rest
    else c :: replaceText needle replacement 0 rest

/-- `text.lower()` of a string. -/
def lowerString (unicode : UnicodeTable) (text : String) : List Char :=
  unicode.lower text.toList

/-- `repr(text)`. -/
def reprString (unicode : UnicodeTable) (text : String) : String :=
  String.ofList (unicode.repr text.toList)

/-- `str(items)` of a list of strings. -/
def reprList (unicode : UnicodeTable) (items : List String) : String :=
  "[" ++ ", ".intercalate (items.map (reprString unicode)) ++ "]"

/-- `text.strip()` of a string. -/
def stripString (text : String) : String :=
  String.ofList (strip text.toList)

/-- A table for printable ASCII text without quotes or backslashes. -/
def asciiTable : UnicodeTable where
  lower := List.map Char.toLower
  isDecimal := Char.isDigit
  decimalValue c := c.toNat - '0'.toNat
  isAlnum := Char.isAlphanum
  caseVariants c := [c, c.toLower, c.toUpper]
  repr text := ('\'' :: text) ++ ['\'']

theorem strip_ne_nil {text : List Char} {c : Char} (listed : c ∈ text)
    (visible : isSpace c = false) : strip text ≠ [] := by
  intro blank
  have spaces : ∀ d ∈ rstrip text, isSpace d = true := List.dropWhile_eq_nil_iff.1 blank
  by_cases some_left : rstrip text = []
  · have space := List.rdropWhile_eq_nil_iff.1 some_left c listed
    rw [visible] at space
    cases space
  · exact List.rdropWhile_last_not isSpace text some_left (spaces _ (List.getLast_mem some_left))

theorem dropWhile_append_visible {drop : Char → Bool} {before : List Char}
    (first : ∀ c ∈ own.head?, drop c = false) :
    (before ++ own).dropWhile drop = before.dropWhile drop ++ own := by
  induction before with
  | nil =>
    cases own with
    | nil => rfl
    | cons c own => simp [first c rfl]
  | cons c before ih =>
    cases dropped : drop c with
    | false => simp [dropped]
    | true => simpa [dropped] using ih

theorem rdropWhile_visible_append {drop : Char → Bool} {after : List Char}
    (last : ∀ c ∈ own.getLast?, drop c = false) :
    (own ++ after).rdropWhile drop = own ++ after.rdropWhile drop := by
  have first : ∀ c ∈ own.reverse.head?, drop c = false := by
    rwa [List.head?_reverse]
  rw [List.rdropWhile, List.reverse_append, dropWhile_append_visible first, List.reverse_append,
    List.reverse_reverse]
  rfl

theorem strip_around (some_text : own ≠ []) (first : ∀ c ∈ own.head?, isSpace c = false)
    (last : ∀ c ∈ own.getLast?, isSpace c = false) (before after : List Char) :
    ∃ lead trail, lead <:+ before ∧ trail <+: after ∧
      strip (before ++ (own ++ after)) = lead ++ (own ++ trail) := by
  refine ⟨before.dropWhile isSpace, after.rdropWhile isSpace, List.dropWhile_suffix isSpace,
    List.rdropWhile_prefix isSpace after, ?_⟩
  have ends : ∀ c ∈ (before ++ own).getLast?, isSpace c = false := by
    rwa [List.getLast?_append_of_ne_nil before some_text]
  have begins : ∀ c ∈ (own ++ after.rdropWhile isSpace).head?, isSpace c = false := by
    rwa [List.head?_append_of_ne_nil own some_text]
  rw [strip, rstrip, rstripWith, ← List.append_assoc, rdropWhile_visible_append ends,
    List.append_assoc, lstrip, lstripWith, dropWhile_append_visible begins]

end PyText

/-!
# Checked text fields

`NonEmptyString` is a `str` field declared with `min_length=1`. `textOr` is Python's `or`
between optional strings, where the empty string counts as absent. `Uuid` is a correlation
id.
-/

/-- A `UUID`: one of the `2 ^ 128` values. -/
abbrev Uuid := Fin 340282366920938463463374607431768211456

instance uuidCountNeZero : @NeZero Nat Zero.ofOfNat0 340282366920938463463374607431768211456 :=
  @NeZero.mk Nat Zero.ofOfNat0 _ (Nat.succ_ne_zero _)

@[ext] structure NonEmptyString where
  value : String
  nonempty : value ≠ ""

instance : DecidableEq NonEmptyString := fun _ _ => decidable_of_iff _ NonEmptyString.ext_iff.symm

namespace NonEmptyString

/-- The check of `min_length=1`. -/
def validate? (text : String) : Option NonEmptyString :=
  if nonempty : text = "" then none else some ⟨text, nonempty⟩

def append (lead : NonEmptyString) (text : String) : NonEmptyString where
  value := lead.value ++ text
  nonempty := by
    intro blank
    exact lead.nonempty (String.append_eq_empty_iff.1 blank).1

theorem validate?_eq_some {text : String} {checked : NonEmptyString} :
    validate? text = some checked ↔ checked.value = text := by
  unfold validate?
  split
  · next blank =>
    constructor
    · exact nofun
    · intro same
      exact absurd (same.trans blank) checked.nonempty
  · rw [Option.some.injEq, NonEmptyString.ext_iff]
    exact eq_comm

end NonEmptyString

namespace PyText

/-- The truth value of an optional string: present and not empty. -/
def textTruthy : Option String → Bool
  | none => false
  | some text => text != ""

/-- `first or second`. -/
def textOr (first second : Option String) : Option String :=
  if textTruthy first then first else second

/-- `first or second` with a text that is never absent. -/
def textOrElse (first : Option String) (second : String) : String :=
  if textTruthy first then first.getD second else second

/-- `text is None or not text.strip()`. -/
def blankText : Option String → Bool
  | none => true
  | some text => stripString text == ""

/-- `repr(text)` of an optional string. -/
def reprOption (unicode : UnicodeTable) : Option String → String
  | none => "None"
  | some text => reprString unicode text

end PyText
