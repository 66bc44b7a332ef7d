import Mathlib.Data.List.Basic
import Mathlib.Logic.Basic

/-!
# Comment lines in front of a document

A document of a line-oriented format may have comments and blank lines before it. A line is a
comment from its first `#` on, if only spaces stand before it; a line ends at one of the breaks of
the format. A loader that passes over such lines is `dropComments`.
-/

namespace CommentLines

/-! ## Lines -/

/-- Where in a line of the preamble a character stands. -/
inductive LineState where
  | start
  | blank
  | comment
deriving DecidableEq

/-- The characters that end a line. -/
def isBreak (c : Char) : Bool :=
  let n := c.toNat
  n == 0x0a || n == 0x0d || n == 0x85 || n == 0x2028 || n == 0x2029

/-- The state after a character; there is none when the character is content. -/
def LineState.step (state : LineState) (c : Char) : Option LineState :=
  if isBreak c then some .start
  else if state = .comment then some .comment
  else if c = '#' then some .comment
  else if c = ' ' then some .blank
  else none

/-- The state after a text. -/
def run : LineState → List Char → Option LineState
  | state, [] => some state
  | state, c :: rest => (state.step c).bind fun next => run next rest

/-- Complete lines, each of them blank or a comment. -/
def Comments (text : List Char) : Prop := run .start text = some .start

instance (text : List Char) : Decidable (Comments text) := inferInstanceAs (Decidable (_ = _))

/-! ## Pieces of a preamble -/

theorem run_append (state : LineState) (first second : List Char) :
    run state (first ++ second) = (run state first).bind fun next => run next second := by
  induction first generalizing state with
  | nil => rfl
  | cons c first ih =>
    rw [List.cons_append, run, run]
    cases state.step c with
    | none => rfl
    | some next => exact ih next

theorem run_break {c : Char} (ends : isBreak c = true) (state : LineState) :
    run state [c] = some .start := by
  simp [run, LineState.step, ends]

theorem run_concat_break {state : LineState} {text : List Char} {c : Char}
    (ends : isBreak c = true) (noContent : (run state text).isSome = true) :
    run state (text ++ [c]) = some .start := by
  obtain ⟨next, reached⟩ := Option.isSome_iff_exists.1 noContent
  rw [run_append, reached, Option.bind_some, run_break ends]

/-! ## Passing over comments -/

/-- The text without the comments and blank lines at its front. -/
def dropComments : LineState → List Char → List Char
  | _, [] => []
  | state, c :: rest =>
    match state.step c with
    | some next => dropComments next rest
    | none => c :: rest

theorem dropComments_append {state next : LineState} {preamble : List Char}
    (passed : run state preamble = some next) (text : List Char) :
    dropComments state (preamble ++ text) = dropComments next text := by
  induction preamble generalizing state with
  | nil =>
    obtain rfl := Option.some.inj passed
    rfl
  | cons c preamble ih =>
    obtain ⟨middle, stepped, onward⟩ := Option.bind_eq_some_iff.1 passed
    rw [List.cons_append, dropComments, stepped]
    exact ih onward

end CommentLines
