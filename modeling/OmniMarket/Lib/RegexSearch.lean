import OmniMarket.Lib.Regex
import Mathlib

/-!
# The first match of a text

What a match has passed over, and which of the ways to match is the preferred one.
-/

namespace Regex

section

variable {unicode : UnicodeTable}

/-! ## The preferred way to match -/

/-- Of the ways in which the pattern matches at a position, this one comes first. -/
def Prefers (unicode : UnicodeTable) (pattern : Pattern) (position later : Position) : Prop :=
  ∃ more, pattern.run unicode position = later :: more

variable {position later : Position}

theorem Prefers.matchAt {pattern : Pattern} (preferred : Prefers unicode pattern position later) :
    pattern.matchAt unicode position = some later := by
  obtain ⟨more, ways⟩ := preferred
  rw [Pattern.matchAt, ways]
  rfl

theorem Prefers.seq {first second : Pattern} {middle : Position}
    (before : Prefers unicode first position middle) (after : Prefers unicode second middle later) :
    Prefers unicode (.seq first second) position later := by
  obtain ⟨more, ways⟩ := before
  obtain ⟨others, onward⟩ := after
  exact ⟨others ++ more.flatMap (second.run unicode), by
    rw [Pattern.run, ways, List.flatMap_cons, onward, List.cons_append]⟩

theorem run_optional {body : Pattern} :
    (Pattern.optional body).run unicode position = body.run unicode position ++ [position] := rfl

theorem Prefers.optional {body : Pattern} (preferred : Prefers unicode body position later) :
    Prefers unicode (Pattern.optional body) position later := by
  obtain ⟨more, ways⟩ := preferred
  exact ⟨more ++ [position], by rw [run_optional, ways, List.cons_append]⟩

theorem prefers_empty : Prefers unicode .empty position position :=
  ⟨[], rfl⟩

/-! ## Literals -/

variable {c : Char}

theorem admits_single {d : Char} : admits unicode false (CharSet.single c) d = true ↔ d = c := by
  simp [admits, CharSet.single]

variable {set : CharSet} {before : Option Char} {rest : List Char} {groups : List (List Char)}

theorem run_one_cons {fold : Bool} :
    (Pattern.one fold set).run unicode ⟨before, c :: rest, groups⟩ =
      if admits unicode fold set c then [⟨some c, rest, groups⟩] else [] := rfl

theorem mem_run_one {fold : Bool} (reached : later ∈ (Pattern.one fold set).run unicode position) :
    ∃ c, admits unicode fold set c = true ∧ position.rest = c :: later.rest := by
  rw [Pattern.run] at reached
  split at reached
  · cases reached
  · next c rest given =>
    split at reached
    · next admitted =>
      rw [List.mem_singleton.1 reached]
      exact ⟨c, admitted, given⟩
    · cases reached

theorem run_chars_append (chars rest : List Char) (before : Option Char)
    (groups : List (List Char)) :
    ∃ last, (Pattern.sequence (chars.map fun c =>
        Pattern.one false (CharSet.single c))).run unicode ⟨before, chars ++ rest, groups⟩ =
      [⟨last, rest, groups⟩] := by
  induction chars generalizing before with
  | nil => exact ⟨before, rfl⟩
  | cons c chars ih =>
    obtain ⟨last, same⟩ := ih (some c)
    refine ⟨last, ?_⟩
    rw [List.map_cons, Pattern.sequence, List.foldr_cons, Pattern.run, List.cons_append,
      run_one_cons, if_pos (admits_single.2 rfl), List.flatMap_cons, List.flatMap_nil,
      List.append_nil]
    exact same

theorem prefers_literal (text : String) (rest : List Char) (before : Option Char)
    (groups : List (List Char)) :
    ∃ last, Prefers unicode (Pattern.literal false text) ⟨before, text.toList ++ rest, groups⟩
      ⟨last, rest, groups⟩ := by
  obtain ⟨last, same⟩ := run_chars_append text.toList rest before groups
  exact ⟨last, [], same⟩

theorem mem_run_chars {chars : List Char}
    (reached : later ∈ (Pattern.sequence (chars.map fun c =>
      Pattern.one false (CharSet.single c))).run unicode position) :
    position.rest = chars ++ later.rest := by
  induction chars generalizing position with
  | nil => rw [List.mem_singleton.1 reached]; rfl
  | cons c chars ih =>
    rw [List.map_cons, Pattern.sequence, List.foldr_cons, Pattern.run] at reached
    obtain ⟨middle, first, onward⟩ := List.mem_flatMap.1 reached
    obtain ⟨d, admitted, split⟩ := mem_run_one first
    rw [split, ih onward, admits_single.1 admitted]
    rfl

theorem mem_run_literal {text : String}
    (reached : later ∈ (Pattern.literal false text).run unicode position) :
    position.rest = text.toList ++ later.rest := mem_run_chars reached

/-! ## Repetitions -/

theorem mem_repeated {greedy : Bool} {turns : ℕ}
    (reached : later ∈ repeated greedy ((Pattern.one false set).run unicode) turns position) :
    ∃ passed, (∀ c ∈ passed, set unicode c = true) ∧ position.rest = passed ++ later.rest := by
  induction turns generalizing position with
  | zero =>
    rw [repeated, List.mem_singleton] at reached
    exact ⟨[], by simp, by rw [reached]; rfl⟩
  | succ turns ih =>
    rw [repeated] at reached
    have either : later = position ∨
        ∃ next ∈ (Pattern.one false set).run unicode position,
          later ∈ repeated greedy ((Pattern.one false set).run unicode) turns next := by
      split at reached <;> simp only [List.mem_append, List.mem_cons, List.mem_flatMap,
        List.mem_filter, List.not_mem_nil, or_false] at reached
      · rcases reached with ⟨next, ⟨first, -⟩, onward⟩ | stays
        · exact .inr ⟨next, first, onward⟩
        · exact .inl stays
      · rcases reached with stays | ⟨next, ⟨first, -⟩, onward⟩
        · exact .inl stays
        · exact .inr ⟨next, first, onward⟩
    rcases either with stays | ⟨next, first, onward⟩
    · exact ⟨[], by simp, by rw [stays]; rfl⟩
    · obtain ⟨c, admitted, split⟩ := mem_run_one first
      obtain ⟨passed, all, rests⟩ := ih onward
      refine ⟨c :: passed, ?_, by rw [split, rests]; rfl⟩
      rw [List.forall_mem_cons]
      exact ⟨by simpa [admits] using admitted, all⟩

theorem repeated_lazy {turns : ℕ} (listed : set unicode c = true) :
    repeated false ((Pattern.one false set).run unicode) (turns + 1) ⟨before, c :: rest, groups⟩ =
      ⟨before, c :: rest, groups⟩ ::
        repeated false ((Pattern.one false set).run unicode) turns ⟨some c, rest, groups⟩ := by
  have admitted : admits unicode false set c = true := by simp [admits, listed]
  rw [repeated, run_one_cons, if_pos admitted]
  simp

theorem prefers_optional_one (listed : set unicode c = true) :
    Prefers unicode (Pattern.optional (Pattern.one false set)) ⟨before, c :: rest, groups⟩
      ⟨some c, rest, groups⟩ := by
  have admitted : admits unicode false set c = true := by simp [admits, listed]
  exact Prefers.optional ⟨[], by rw [run_one_cons, if_pos admitted]⟩

theorem prefers_optional_stops (other : set unicode c = false) :
    Prefers unicode (Pattern.optional (Pattern.one false set)) ⟨before, c :: rest, groups⟩
      ⟨before, c :: rest, groups⟩ := by
  have refused : admits unicode false set c = false := by simp [admits, other]
  exact ⟨[], by rw [run_optional, run_one_cons, refused]; rfl⟩

theorem run_star_stops {greedy : Bool} (stops : ∀ c ∈ position.rest.head?, set unicode c = false) :
    (Pattern.star greedy (Pattern.one false set)).run unicode position = [position] := by
  obtain ⟨before, rest, groups⟩ := position
  cases rest with
  | nil => rfl
  | cons c rest =>
    have refused : admits unicode false set c = false := by
      simpa [admits] using stops c rfl
    rw [Pattern.run, List.length_cons, repeated, run_one_cons, refused]
    cases greedy <;> rfl

theorem prefers_star_one (listed : set unicode c = true)
    (stops : ∀ d ∈ rest.head?, set unicode d = false) :
    Prefers unicode (Pattern.star true (Pattern.one false set)) ⟨before, c :: rest, groups⟩
      ⟨some c, rest, groups⟩ := by
  have admitted : admits unicode false set c = true := by simp [admits, listed]
  have stays : (Pattern.star true (Pattern.one false set)).run unicode ⟨some c, rest, groups⟩ =
      [⟨some c, rest, groups⟩] := run_star_stops stops
  rw [Pattern.run] at stays
  refine ⟨[⟨before, c :: rest, groups⟩], ?_⟩
  rw [Pattern.run, List.length_cons, repeated, run_one_cons, if_pos admitted]
  simp only [List.length_cons, Nat.lt_succ_self, decide_true, List.filter_cons_of_pos,
    List.filter_nil, List.flatMap_cons, List.flatMap_nil, List.append_nil, stays, if_true,
    List.singleton_append]

theorem mem_run_gap {text : String} (listed : set unicode c = true)
    (reached : later ∈ (Pattern.sequence [Pattern.optional (Pattern.one false (CharSet.single c)),
      Pattern.star true (Pattern.one false set), Pattern.literal false text]).run unicode position)
    :
    ∃ gap, (∀ d ∈ gap, set unicode d = true) ∧
      position.rest = gap ++ (text.toList ++ later.rest) := by
  simp only [Pattern.sequence, List.foldr_cons, List.foldr_nil, Pattern.run] at reached
  obtain ⟨first, optional', reached⟩ := List.mem_flatMap.1 reached
  obtain ⟨second, star, reached⟩ := List.mem_flatMap.1 reached
  obtain ⟨third, literal, last⟩ := List.mem_flatMap.1 reached
  obtain rfl := List.mem_singleton.1 last
  obtain ⟨passed, all, rests⟩ := mem_repeated star
  rw [mem_run_literal literal] at rests
  rcases List.mem_append.1 optional' with one | none'
  · obtain ⟨d, admitted, split⟩ := mem_run_one one
    refine ⟨d :: passed, List.forall_mem_cons.2 ⟨?_, all⟩, by rw [split, rests]; rfl⟩
    rw [admits_single.1 admitted]
    exact listed
  · rw [List.mem_singleton.1 none'] at rests
    exact ⟨passed, all, rests⟩

/-! ## Lazy groups -/

theorem repeated_lazy_head (body : Position → List Position) (turns : ℕ) (position : Position) :
    ∃ more, repeated false body turns position = position :: more := by
  cases turns with
  | zero => exact ⟨[], rfl⟩
  | succ turns => exact ⟨_, rfl⟩

theorem lazy_skip (goOn : Position → List Position) {own : List Char} {turns : ℕ}
    (before : Option Char) (enough : own.length ≤ turns)
    (fails : ∀ part, part ≠ [] → part <:+ own → ∀ last, goOn ⟨last, part ++ rest, []⟩ = []) :
    ∃ last more, (repeated false ((Pattern.one false CharSet.any).run unicode) turns
        ⟨before, own ++ rest, []⟩).flatMap goOn = goOn ⟨last, rest, []⟩ ++ more := by
  induction own generalizing turns before with
  | nil =>
    obtain ⟨more, same⟩ := repeated_lazy_head ((Pattern.one false CharSet.any).run unicode)
      turns ⟨before, rest, []⟩
    rw [List.nil_append, same, List.flatMap_cons]
    exact ⟨before, _, rfl⟩
  | cons c own ih =>
    cases turns with
    | zero => cases enough
    | succ turns =>
      have shorter : ∀ part, part ≠ [] → part <:+ own →
          ∀ last, goOn ⟨last, part ++ rest, []⟩ = [] := fun part some_text within =>
        fails part some_text (within.trans (List.suffix_cons c own))
      have nothing : goOn ⟨before, c :: (own ++ rest), []⟩ = [] :=
        fails (c :: own) (List.cons_ne_nil c own) (List.suffix_refl _) before
      obtain ⟨last, more, same⟩ := ih (some c) (Nat.le_of_succ_le_succ enough) shorter
      refine ⟨last, more, ?_⟩
      rw [List.cons_append, repeated_lazy rfl, List.flatMap_cons, nothing, List.nil_append, same]

theorem lazy_group {next : Pattern} {own after : List Char}
    (fails : ∀ part, part ≠ [] → part <:+ own → ∀ last groups,
      next.run unicode ⟨last, part ++ rest, groups⟩ = [])
    (ends : ∀ last groups, ∃ final,
      Prefers unicode next ⟨last, rest, groups⟩ ⟨final, after, groups⟩) :
    ∃ final, Prefers unicode (Pattern.seq (Pattern.group (Pattern.star false
        (Pattern.one false CharSet.any))) next) ⟨before, own ++ rest, []⟩
      ⟨final, after, [own]⟩ := by
  let goOn (later : Position) : List Position := next.run unicode
    { later with groups := consumed ⟨before, own ++ rest, []⟩ later :: later.groups }
  have unfolded : (Pattern.seq (Pattern.group (Pattern.star false
      (Pattern.one false CharSet.any))) next).run unicode ⟨before, own ++ rest, []⟩ =
      (repeated false ((Pattern.one false CharSet.any).run unicode) (own ++ rest).length
        ⟨before, own ++ rest, []⟩).flatMap goOn := by
    rw [Pattern.run, Pattern.run, Pattern.run, List.flatMap_map]
    rfl
  have enough : own.length ≤ (own ++ rest).length := by simp
  obtain ⟨last, more, same⟩ := lazy_skip goOn before enough
    fun part some_text within last => fails part some_text within last _
  have taken : consumed ⟨before, own ++ rest, []⟩ ⟨last, rest, []⟩ = own := by
    simp [consumed]
  obtain ⟨final, others, ended⟩ := ends last [own]
  have ended : goOn ⟨last, rest, []⟩ = ⟨final, after, [own]⟩ :: others := by
    rw [← ended, ← taken]
  exact ⟨final, others ++ more, by rw [unfolded, same, ended, List.cons_append]⟩

theorem findGroups_head {pattern : Pattern} {text : List Char}
    (matched : pattern.match? unicode text = some later)
    (shorter : later.rest.length < text.length) :
    (pattern.findGroups unicode text).head? = some later.groups := by
  cases text with
  | nil => cases shorter
  | cons c rest =>
    rw [Pattern.match?] at matched
    rw [Pattern.findGroups, Pattern.pieces, List.length_cons, Pattern.scan]
    simp only [matched]
    rw [if_pos shorter]
    rfl

end

end Regex
