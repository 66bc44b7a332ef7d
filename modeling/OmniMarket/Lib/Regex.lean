import Mathlib.Data.List.Basic
import OmniMarket.Lib.PyText

/-!
# Backtracking regular expressions

The part of Python's `re` that the handlers use. `Pattern.run` lists the ways in
which a pattern can match at a position, the preferred one first, so alternatives,
greedy and lazy repetitions are explored in the order of the backtracking engine.

A repetition whose body matches the empty text stops there; scanning passes over
empty matches. No pattern of this development matches the empty text.
-/

namespace Regex

section

/-- A set of characters; what belongs to it may depend on the Unicode database. -/
abbrev CharSet := UnicodeTable → Char → Bool

inductive Pattern where
  | empty
  /-- One character; with `fold` a case variant of it may be in the set instead. -/
  | one (fold : Bool) (set : CharSet)
  | seq (first second : Pattern)
  | alt (preferred other : Pattern)
  | star (greedy : Bool) (body : Pattern)
  /-- A capturing group. -/
  | group (body : Pattern)
  /-- `\b`. -/
  | wordBoundary
  /-- `(?<![...])` for one character. -/
  | notAfter (fold : Bool) (set : CharSet)
  /-- `^`. -/
  | start
  /-- `$`: the end, or a line feed that ends the text. -/
  | finish

/-- A position in a text, with the groups captured on the way there. -/
structure Position where
  before : Option Char := none
  rest : List Char
  groups : List (List Char) := []

/-! ## Matching -/

variable (unicode : UnicodeTable)

def admits (fold : Bool) (set : CharSet) (c : Char) : Bool :=
  set unicode c || (fold && (unicode.caseVariants c).any (set unicode))

/-- `\w`. -/
def isWordChar (c : Char) : Bool := unicode.isAlnum c || c == '_'

def atWordBoundary (position : Position) : Bool :=
  (position.before.elim false (isWordChar unicode)) !=
    (position.rest.head?.elim false (isWordChar unicode))

/-- The ways to repeat `body`, each turn of which consumes some text. -/
def repeated (greedy : Bool) (body : Position → List Position) : ℕ → Position → List Position
  | 0, position => [position]
  | turns + 1, position =>
    let again := (body position).filter fun next =>
      decide (next.rest.length < position.rest.length)
    let more := again.flatMap (repeated greedy body turns)
    if greedy then more ++ [position] else position :: more

def consumed (position later : Position) : List Char :=
  position.rest.take (position.rest.length - later.rest.length)

def Pattern.run : Pattern → Position → List Position
  | .empty, position => [position]
  | .one fold set, position =>
    match position.rest with
    | [] => []
    | c :: rest =>
      if admits unicode fold set c then [{ position with before := some c, rest }] else []
  | .seq first second, position => (first.run position).flatMap second.run
  | .alt preferred other, position => preferred.run position ++ other.run position
  | .star greedy body, position => repeated greedy body.run position.rest.length position
  | .group body, position =>
    (body.run { position with groups := [] }).map fun later =>
      { later with groups := position.groups ++ consumed position later :: later.groups }
  | .wordBoundary, position => if atWordBoundary unicode position then [position] else []
  | .notAfter fold set, position =>
    if position.before.elim false (admits unicode fold set) then [] else [position]
  | .start, position => if position.before.isNone then [position] else []
  | .finish, position =>
    if position.rest.isEmpty || position.rest == ['\n'] then [position] else []

def Pattern.matchAt (pattern : Pattern) (position : Position) : Option Position :=
  (pattern.run unicode position).head?

/-- `pattern.match(text)`. -/
def Pattern.match? (pattern : Pattern) (text : List Char) : Option Position :=
  pattern.matchAt unicode { rest := text }

/-- Whether the pattern matches somewhere from a position on. -/
def Pattern.searchFrom (pattern : Pattern) (before : Option Char) : List Char → Bool
  | [] => (pattern.matchAt unicode { before, rest := [] }).isSome
  | c :: rest =>
    (pattern.matchAt unicode { before, rest := c :: rest }).isSome ||
      pattern.searchFrom (some c) rest

/-- `pattern.search(text) is not None`. -/
def Pattern.search (pattern : Pattern) (text : List Char) : Bool :=
  pattern.searchFrom unicode none text

/-- A piece of a scanned text: a character outside the matches, or a match. -/
inductive Piece where
  | outside (c : Char)
  | found (text : List Char) (groups : List (List Char))

/-- The matches of a text from left to right, and what lies between them. -/
def Pattern.scan (pattern : Pattern) : ℕ → Position → List Piece
  | 0, _ => []
  | fuel + 1, position =>
    match position.rest with
    | [] => []
    | c :: rest =>
      match pattern.matchAt unicode { position with groups := [] } with
      | some later =>
        if later.rest.length < position.rest.length then
          .found (consumed position later) later.groups ::
            pattern.scan fuel { before := later.before, rest := later.rest }
        else .outside c :: pattern.scan fuel { before := some c, rest }
      | none => .outside c :: pattern.scan fuel { before := some c, rest }

def Pattern.pieces (pattern : Pattern) (text : List Char) : List Piece :=
  pattern.scan unicode text.length { rest := text }

/-- `pattern.sub("", text)`. -/
def Pattern.removeAll (pattern : Pattern) (text : List Char) : List Char :=
  (pattern.pieces unicode text).filterMap fun
    | .outside c => some c
    | .found _ _ => none

/-- `match.group(0)` of every match of `pattern.finditer(text)`. -/
def Pattern.findTexts (pattern : Pattern) (text : List Char) : List (List Char) :=
  (pattern.pieces unicode text).filterMap fun
    | .outside _ => none
    | .found text _ => some text

/-- `match.groups()` of every match. -/
def Pattern.findGroups (pattern : Pattern) (text : List Char) : List (List (List Char)) :=
  (pattern.pieces unicode text).filterMap fun
    | .outside _ => none
    | .found _ groups => some groups

/-! ## Sets and combinators -/

namespace CharSet

def single (c : Char) : CharSet := fun _ other => other == c

def within (low high : Char) : CharSet := fun _ c => decide (low ≤ c ∧ c ≤ high)

def either (a b : CharSet) : CharSet := fun unicode c => a unicode c || b unicode c

def anyOf (chars : String) : CharSet := fun _ c => chars.toList.contains c

def except (set : CharSet) : CharSet := fun unicode c => !set unicode c

/-- `.` under `re.DOTALL`. -/
def any : CharSet := fun _ _ => true

/-- `\d`. -/
def digit : CharSet := fun unicode c => unicode.isDecimal c

/-- `\s`. -/
def space : CharSet := fun _ c => PyText.isSpace c

/-- `[A-Za-z]`. -/
def letter : CharSet := either (within 'A' 'Z') (within 'a' 'z')

end CharSet

namespace Pattern

def sequence (patterns : List Pattern) : Pattern := patterns.foldr seq empty

/-- The first alternative is preferred. -/
def oneOf : List Pattern → Pattern
  | [] => one false (CharSet.except CharSet.any)
  | [last] => last
  | head :: rest => alt head (oneOf rest)

def literal (fold : Bool) (text : String) : Pattern :=
  sequence (text.toList.map fun c => one fold (CharSet.single c))

/-- `p?`. -/
def optional (body : Pattern) : Pattern := alt body empty

/-- `p+`. -/
def plus (body : Pattern) : Pattern := seq body (star true body)

end Pattern

end

/-!
# The pieces of a scanned text
-/

section

variable {unicode : UnicodeTable}

structure Later (position later : Position) : Prop where
  rest : later.rest <:+ position.rest
  groups : position.groups <+: later.groups

theorem Later.refl (position : Position) : Later position position :=
  ⟨List.suffix_refl _, List.prefix_refl _⟩

theorem Later.trans {first second third : Position} (before : Later first second)
    (after : Later second third) : Later first third :=
  ⟨after.rest.trans before.rest, before.groups.trans after.groups⟩

theorem repeated_later {greedy : Bool} {body : Position → List Position}
    (step : ∀ position, ∀ later ∈ body position, Later position later) (turns : ℕ)
    (position : Position) :
    ∀ later ∈ repeated greedy body turns position, Later position later := by
  induction turns generalizing position with
  | zero =>
    intro later listed
    rw [repeated, List.mem_singleton] at listed
    exact listed ▸ Later.refl position
  | succ turns ih =>
    intro later listed
    have more : ∀ next ∈ ((body position).filter fun next =>
          decide (next.rest.length < position.rest.length)).flatMap
        (repeated greedy body turns), Later position next := by
      intro next among
      obtain ⟨middle, again, reached⟩ := List.mem_flatMap.1 among
      exact (step position middle (List.mem_filter.1 again).1).trans (ih middle next reached)
    rw [repeated] at listed
    split at listed
    · rcases List.mem_append.1 listed with again | stays
      · exact more later again
      · exact List.mem_singleton.1 stays ▸ Later.refl position
    · rcases List.mem_cons.1 listed with rfl | again
      · exact Later.refl later
      · exact more later again

theorem run_later (pattern : Pattern) (position : Position) :
    ∀ later ∈ pattern.run unicode position, Later position later := by
  induction pattern generalizing position with
  | empty =>
    intro later listed
    exact List.mem_singleton.1 listed ▸ Later.refl position
  | one fold set =>
    intro later listed
    rw [Pattern.run] at listed
    split at listed
    · cases listed
    · next c rest given =>
      split at listed
      · rw [List.mem_singleton.1 listed]
        exact ⟨given ▸ List.suffix_cons c rest, List.prefix_refl _⟩
      · cases listed
  | seq first second ihFirst ihSecond =>
    intro later listed
    obtain ⟨middle, reached, onward⟩ := List.mem_flatMap.1 listed
    exact (ihFirst position middle reached).trans (ihSecond middle later onward)
  | alt preferred other ihPreferred ihOther =>
    intro later listed
    rcases List.mem_append.1 listed with left | right
    · exact ihPreferred position later left
    · exact ihOther position later right
  | star greedy body ih => exact repeated_later ih _ position
  | group body ih =>
    intro later listed
    obtain ⟨inner, reached, rfl⟩ := List.mem_map.1 listed
    exact ⟨(ih _ inner reached).rest, List.prefix_append _ _⟩
  | wordBoundary | start | finish =>
    intro later listed
    rw [Pattern.run] at listed
    split at listed
    · exact List.mem_singleton.1 listed ▸ Later.refl position
    · cases listed
  | notAfter fold set =>
    intro later listed
    rw [Pattern.run] at listed
    split at listed
    · cases listed
    · exact List.mem_singleton.1 listed ▸ Later.refl position

variable {position : Position}

theorem consumed_append {later : Position} (suffix' : later.rest <:+ position.rest) :
    consumed position later ++ later.rest = position.rest := by
  obtain ⟨taken, split⟩ := suffix'
  have length : position.rest.length - later.rest.length = taken.length := by
    rw [← split, List.length_append, Nat.add_sub_cancel_right]
  rw [consumed, length, ← split, List.take_left]

def Piece.text : Piece → List Char
  | .outside c => [c]
  | .found text _ => text

theorem matchAt_later {pattern : Pattern} {later : Position}
    (matched : pattern.matchAt unicode position = some later) : Later position later :=
  run_later pattern position later (List.mem_of_mem_head? matched)

theorem scan_join (pattern : Pattern) (fuel : ℕ) (position : Position)
    (enough : position.rest.length ≤ fuel) :
    (pattern.scan unicode fuel position).flatMap Piece.text = position.rest := by
  induction fuel generalizing position with
  | zero => rw [List.eq_nil_of_length_eq_zero (Nat.le_zero.1 enough)]; rfl
  | succ fuel ih =>
    rw [Pattern.scan]
    split
    · next blank => exact blank.symm
    · next c rest given =>
      have fewer : rest.length ≤ fuel := by
        rw [given] at enough
        exact Nat.le_of_succ_le_succ enough
      have skip : (Piece.outside c :: pattern.scan unicode fuel
          { before := some c, rest }).flatMap Piece.text = position.rest := by
        rw [List.flatMap_cons, ih _ fewer, given]
        rfl
      split
      · next later matched =>
        split
        · next shorter =>
          rw [List.flatMap_cons, ih]
          · exact consumed_append (matchAt_later matched).rest
          · exact Nat.le_of_lt_succ (shorter.trans_le enough)
        · exact skip
      · exact skip

theorem pieces_join (pattern : Pattern) (text : List Char) :
    (pattern.pieces unicode text).flatMap Piece.text = text :=
  scan_join pattern text.length { rest := text } le_rfl

theorem found_of_scan {pattern : Pattern} {fuel : ℕ} {text : List Char} {groups : List (List Char)}
    (listed : .found text groups ∈ pattern.scan unicode fuel position) :
    ∃ here later, here.groups = [] ∧ later ∈ pattern.run unicode here ∧
      later.rest.length < here.rest.length ∧ text = consumed here later ∧
      groups = later.groups := by
  induction fuel generalizing position with
  | zero => cases listed
  | succ fuel ih =>
    rw [Pattern.scan] at listed
    split at listed
    · cases listed
    · split at listed
      · next later matched =>
        split at listed
        · next shorter =>
          rcases List.mem_cons.1 listed with same | after
          · obtain ⟨rfl, rfl⟩ := Piece.found.inj same
            exact ⟨{ position with groups := [] }, later, rfl,
              List.mem_of_mem_head? matched, shorter, rfl, rfl⟩
          · exact ih after
        · rcases List.mem_cons.1 listed with other | after
          · cases other
          · exact ih after
      · rcases List.mem_cons.1 listed with other | after
        · cases other
        · exact ih after

end

end Regex
