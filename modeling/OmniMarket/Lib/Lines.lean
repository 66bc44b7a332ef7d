import Mathlib.Data.List.DropRight
import Mathlib.Data.List.Infix
import Mathlib.Data.Nat.Digits.Lemmas
import OmniMarket.Lib.PyText

/-!
# Texts cut at a separator

Joining and splitting, texts that no separator occurs in, and lines that keep their ends.
-/

/-!
# Splitting what was joined
-/

section Split

variable {α : Type} [BEq α] [LawfulBEq α] {separator : α}

theorem splitOn_intercalate_flatMap {parts : List (List α)} (some' : parts ≠ []) :
    ([separator].intercalate parts).splitOn separator =
      parts.flatMap fun part => part.splitOn separator := by
  induction parts with
  | nil => exact absurd rfl some'
  | cons part rest ih =>
    cases rest with
    | nil => simp
    | cons next rest =>
      rw [List.intercalate_cons_cons, List.append_assoc, List.singleton_append,
        List.splitOn_append_cons_self, ih (List.cons_ne_nil _ _)]
      rfl

theorem not_mem_of_mem_splitOn {text piece : List α} (listed : piece ∈ text.splitOn separator) :
    separator ∉ piece := by
  induction text generalizing piece with
  | nil =>
    rw [List.splitOn_nil, List.mem_singleton] at listed
    rw [listed]
    exact List.not_mem_nil
  | cons c rest ih =>
    rw [List.splitOn_cons_eq_if_modifyHead] at listed
    split at listed
    · rcases List.mem_cons.1 listed with rfl | later
      · exact List.not_mem_nil
      · exact ih later
    · next other =>
      cases pieces : rest.splitOn separator with
      | nil => exact absurd pieces (List.splitOn_ne_nil _ _)
      | cons first later =>
        rw [pieces] at listed ih
        rcases List.mem_cons.1 listed with rfl | listed'
        · rw [List.mem_cons, not_or]
          exact ⟨fun same => other (same ▸ BEq.rfl), ih List.mem_cons_self⟩
        · exact ih (List.mem_cons_of_mem _ listed')

end Split

namespace PyText
variable {text line : List Char}

theorem rstrip_lstrip (text : List Char) : rstrip (lstrip (rstrip text)) = lstrip (rstrip text) := by
  refine List.rdropWhile_eq_self_iff.2 ?_
  intro left
  have suffix' : lstrip (rstrip text) <:+ rstrip text := List.dropWhile_suffix _
  have more : rstrip text ≠ [] := fun blank => left (by rw [blank]; rfl)
  rw [suffix'.getLast left]
  exact List.rdropWhile_last_not isSpace text more

theorem strip_strip (text : List Char) : strip (strip text) = strip text := by
  rw [strip, strip, rstrip_lstrip]
  exact List.dropWhile_idempotent isSpace (rstrip text)

theorem strip_subset (text : List Char) : strip text ⊆ text := by
  intro c listed
  exact (List.rdropWhile_prefix isSpace text).subset ((List.dropWhile_suffix _).subset listed)

end PyText

/-!
# Texts joined with a separator

What two texts that were joined from parts have in common when they are equal.
-/

section

variable {α : Type}

theorem append_separator_inj {separator : α} {first second tail tail' : List α}
    (absent : separator ∉ tail) (absent' : separator ∉ tail')
    (same : first ++ separator :: tail = second ++ separator :: tail') :
    first = second ∧ tail = tail' := by
  induction first generalizing second with
  | nil =>
    cases second with
    | nil => exact ⟨rfl, (List.cons.inj same).2⟩
    | cons head second =>
      have behind := (List.cons.inj same).2
      refine absurd ?_ absent
      rw [behind]
      exact List.mem_append_right _ List.mem_cons_self
  | cons head first ih =>
    cases second with
    | nil =>
      have behind := (List.cons.inj same).2
      refine absurd ?_ absent'
      rw [← behind]
      exact List.mem_append_right _ List.mem_cons_self
    | cons other second =>
      obtain ⟨heads, tails⟩ := List.cons.inj same
      obtain ⟨firsts, rests⟩ := ih tails
      exact ⟨congrArg₂ _ heads firsts, rests⟩

theorem separator_append_inj {separator : α} {head head' last last' : List α}
    (absent : separator ∉ head) (absent' : separator ∉ head')
    (same : head ++ separator :: last = head' ++ separator :: last') :
    head = head' ∧ last = last' := by
  have mirrored := congrArg List.reverse same
  simp only [List.reverse_append, List.reverse_cons, List.append_assoc, List.singleton_append]
    at mirrored
  have parts := append_separator_inj (mt List.mem_reverse.1 absent) (mt List.mem_reverse.1 absent')
    mirrored
  exact ⟨List.reverse_inj.1 parts.2, List.reverse_inj.1 parts.1⟩

variable {texts : List (List α)}

theorem mem_of_mem_intercalate {separator : α} {c : α}
    (listed : c ∈ [separator].intercalate texts) : c = separator ∨ ∃ text ∈ texts, c ∈ text := by
  induction texts with
  | nil => simp at listed
  | cons text rest ih =>
    cases rest with
    | nil => exact .inr ⟨text, List.mem_cons_self, by simpa using listed⟩
    | cons next rest =>
      rw [List.intercalate_cons_cons] at listed
      rcases List.mem_append.1 listed with before | behind
      · rcases List.mem_append.1 before with own | between
        · exact .inr ⟨text, List.mem_cons_self, own⟩
        · exact .inl (List.mem_singleton.1 between)
      · refine (ih behind).imp_right ?_
        rintro ⟨later, among, inLater⟩
        exact ⟨later, List.mem_cons_of_mem _ among, inLater⟩

theorem intercalate_inj {mark : α} {before behind : List α} {others : List (List α)}
    (outside : mark ∉ before) (apart : ∀ text ∈ texts, mark ∉ text)
    (apart' : ∀ text ∈ others, mark ∉ text) (both : texts = [] ↔ others = [])
    (same : (before ++ mark :: behind).intercalate texts =
      (before ++ mark :: behind).intercalate others) : texts = others := by
  induction texts generalizing others with
  | nil => exact (both.1 rfl).symm
  | cons text rest ih =>
    cases others with
    | nil => exact absurd (both.2 rfl) (List.cons_ne_nil _ _)
    | cons other rest' =>
      have own := apart text List.mem_cons_self
      have own' := apart' other List.mem_cons_self
      have heads : ∀ {first : List α}, mark ∉ first → mark ∉ first ++ before := by
        intro first absent listed
        exact (List.mem_append.1 listed).elim absent outside
      cases rest with
      | nil =>
        cases rest' with
        | nil => simpa using same
        | cons next' rest' =>
          rw [List.intercalate_cons_cons, List.intercalate_singleton] at same
          refine absurd ?_ own
          rw [same]
          simp
      | cons next rest =>
        cases rest' with
        | nil =>
          rw [List.intercalate_cons_cons, List.intercalate_singleton] at same
          refine absurd ?_ own'
          rw [← same]
          simp
        | cons next' rest' =>
          rw [List.intercalate_cons_cons, List.intercalate_cons_cons] at same
          have cut : (text ++ before) ++ mark ::
                (behind ++ (before ++ mark :: behind).intercalate (next :: rest)) =
              (other ++ before) ++ mark ::
                (behind ++ (before ++ mark :: behind).intercalate (next' :: rest')) := by
            simpa using same
          obtain ⟨firsts, lasts⟩ := separator_append_inj (heads own) (heads own') cut
          rw [List.append_cancel_right firsts]
          refine congrArg _ (ih (fun t listed => apart t (List.mem_cons_of_mem _ listed))
            (fun t listed => apart' t (List.mem_cons_of_mem _ listed)) ?_
            (List.append_cancel_left lasts))
          simp

/-! ## Two separators -/

section TwoSeparators

variable {left right : α} {first middle last first' middle' last' : List α}

/-- The second first part contains the first text up to somewhere in its last part. -/
def RunsOver (left right : α) (first middle last first' middle' last' : List α) : Prop :=
  ∃ between, first' = first ++ left :: (middle ++ right :: between) ∧
    last = between ++ left :: (middle' ++ right :: last')

theorem RunsOver.same (overrun : RunsOver left right first middle last first' middle' last') :
    first ++ left :: (middle ++ right :: last) = first' ++ left :: (middle' ++ right :: last') := by
  obtain ⟨between, rfl, rfl⟩ := overrun
  simp

theorem runsOver_of_longer {beyond : List α} (apart : left ≠ right) (noLeft : left ∉ middle)
    (longer : beyond ≠ [])
    (same : left :: (middle ++ right :: last) = beyond ++ left :: (middle' ++ right :: last')) :
    RunsOver left right first middle last (first ++ beyond) middle' last' := by
  obtain ⟨head, rest, rfl⟩ := List.exists_cons_of_ne_nil longer
  obtain ⟨rfl, tails⟩ := List.cons.inj same
  rcases List.append_eq_append_iff.1 tails with ⟨overrun, rfl, behind⟩ | ⟨overrun, rfl, behind⟩
  · -- the longer part ends behind the middle
    cases overrun with
    | nil => exact absurd (List.cons.inj behind).1.symm apart
    | cons separator between =>
      obtain ⟨rfl, rfl⟩ := List.cons.inj behind
      exact ⟨between, rfl, rfl⟩
  · -- the longer part ends within the middle, where there is no separator
    cases overrun with
    | nil => exact absurd (List.cons.inj behind).1 apart
    | cons separator between =>
      obtain ⟨rfl, -⟩ := List.cons.inj behind
      exact absurd (List.mem_append_right _ List.mem_cons_self) noLeft

theorem two_separators_iff (apart : left ≠ right) (noLeft : left ∉ middle) (noRight : right ∉ middle)
    (noLeft' : left ∉ middle') (noRight' : right ∉ middle') :
    first ++ left :: (middle ++ right :: last) =
        first' ++ left :: (middle' ++ right :: last') ↔
      (first = first' ∧ middle = middle' ∧ last = last') ∨
        RunsOver left right first middle last first' middle' last' ∨
          RunsOver left right first' middle' last' first middle last := by
  constructor
  · intro same
    rcases List.append_eq_append_iff.1 same with ⟨beyond, rfl, behind⟩ | ⟨beyond, rfl, behind⟩
    · by_cases longer : beyond = []
      · subst longer
        have tails := (List.cons.inj behind).2
        obtain ⟨middles, lasts⟩ := separator_append_inj noRight noRight' tails
        exact .inl ⟨(List.append_nil _).symm, middles, lasts⟩
      · exact .inr (.inl (runsOver_of_longer apart noLeft longer behind))
    · by_cases longer : beyond = []
      · subst longer
        have tails := (List.cons.inj behind).2
        obtain ⟨middles, lasts⟩ := separator_append_inj noRight' noRight tails
        exact .inl ⟨List.append_nil _, middles.symm, lasts.symm⟩
      · exact .inr (.inr (runsOver_of_longer apart noLeft' longer behind))
  · rintro (⟨rfl, rfl, rfl⟩ | overrun | overrun)
    · rfl
    · exact overrun.same
    · exact overrun.same.symm

end TwoSeparators

theorem not_mem_repr {separator : Char} (other : separator.isDigit = false) (number : ℕ) :
    separator ∉ number.repr.toList := by
  intro listed
  have digits : separator ∈ Nat.toDigits 10 number := by
    simpa [Nat.repr] using listed
  have digit : separator.isDigit = true :=
    Nat.isDigit_of_mem_toDigits (by decide) (by decide) digits
  rw [other] at digit
  cases digit

end

/-!
# Lines with their ends

`str.splitlines(keepends=True)` with the end of each line apart. A carriage return and the line
feed behind it are one end; a last line without an end has the empty one.
-/

namespace PyText

structure EndedLine where
  line : List Char
  ending : List Char
deriving DecidableEq

def splitEndsAux (line : List Char) : List Char → List EndedLine
  | [] => if line.isEmpty then [] else [⟨line.reverse, []⟩]
  | '\r' :: '\n' :: rest => ⟨line.reverse, ['\r', '\n']⟩ :: splitEndsAux [] rest
  | c :: rest =>
    if isLineBreak c then ⟨line.reverse, [c]⟩ :: splitEndsAux [] rest
    else splitEndsAux (c :: line) rest

def splitEnds (text : List Char) : List EndedLine := splitEndsAux [] text

def joinEnds (lines : List EndedLine) : List Char :=
  lines.flatMap fun ended => ended.line ++ ended.ending

theorem map_line_splitEndsAux (line text : List Char) :
    (splitEndsAux line text).map (·.line) = splitLinesAux line text := by
  fun_induction splitEndsAux line text with
  | case1 => simp_all [splitLinesAux]
  | case2 => simp_all [splitLinesAux]
  | case3 line rest ih => simpa [splitLinesAux] using ih
  | case4 line c rest other breaks ih =>
    unfold splitLinesAux
    split
    · simp_all
    · simp_all
    · simp_all
  | case5 line c rest other plain ih =>
    unfold splitLinesAux
    split
    · simp_all
    · simp_all
    · simp_all

theorem map_line_splitEnds (text : List Char) :
    (splitEnds text).map (·.line) = splitLines text := map_line_splitEndsAux [] text

theorem joinEnds_splitEndsAux (line text : List Char) :
    joinEnds (splitEndsAux line text) = line.reverse ++ text := by
  unfold joinEnds
  fun_induction splitEndsAux line text with
  | case1 line blank => simp_all
  | case2 line given => simp
  | case3 line rest ih => simpa using ih
  | case4 line c rest other breaks ih => simpa using ih
  | case5 line c rest other plain ih => simpa using ih

theorem joinEnds_splitEnds (text : List Char) : joinEnds (splitEnds text) = text :=
  joinEnds_splitEndsAux [] text

theorem splitEnds_inj {other : List Char} (same : splitEnds text = splitEnds other) :
    text = other := by
  rw [← joinEnds_splitEnds text, same, joinEnds_splitEnds]

theorem newline_not_mem_splitEndsAux {ended : EndedLine} (absent : '\n' ∉ line)
    (listed : ended ∈ splitEndsAux line text) : '\n' ∉ ended.line := by
  fun_induction splitEndsAux line text with
  | case1 => cases listed
  | case2 line given =>
    cases List.mem_singleton.1 listed
    simpa using absent
  | case3 line rest ih =>
    rcases List.mem_cons.1 listed with rfl | later
    · simpa using absent
    · exact ih (by simp) later
  | case4 line c rest other breaks ih =>
    rcases List.mem_cons.1 listed with rfl | later
    · simpa using absent
    · exact ih (by simp) later
  | case5 line c rest other plain ih =>
    refine ih ?_ listed
    intro within
    rcases List.mem_cons.1 within with rfl | earlier
    · exact plain (by decide)
    · exact absent earlier

theorem newline_not_mem_line {ended : EndedLine} (listed : ended ∈ splitEnds text) :
    '\n' ∉ ended.line :=
  newline_not_mem_splitEndsAux (by simp) listed

theorem splitLinesAux_append (line text rest : List Char) :
    splitLinesAux line (text ++ '\n' :: rest) =
      splitLinesAux line (text ++ ['\n']) ++ splitLines rest := by
  fun_induction splitLinesAux line text with
  | case1 => simp_all [splitLinesAux, splitLines, isLineBreak]
  | case2 => simp_all [splitLinesAux, splitLines, isLineBreak]
  | case3 line text ih => simpa [splitLinesAux] using ih
  | case4 line c text other breaks ih =>
    cases text with
    | nil =>
      by_cases carriage : c = '\r'
      · subst carriage
        simp [splitLinesAux, splitLines]
      · simp_all [splitLinesAux, splitLines]
    | cons next text => simp_all [splitLinesAux]
  | case5 line c text other plain ih =>
    cases text with
    | nil =>
      by_cases carriage : c = '\r'
      · subst carriage
        exact absurd rfl plain
      · simp_all [splitLinesAux, splitLines]
    | cons next text => simp_all [splitLinesAux]

theorem splitLines_append (text rest : List Char) :
    splitLines (text ++ '\n' :: rest) = splitLines (text ++ ['\n']) ++ splitLines rest :=
  splitLinesAux_append [] text rest

theorem infix_of_mem_splitLinesAux {held : List Char} (listed : line ∈ splitLinesAux held text) :
    line <:+: held.reverse ++ text := by
  fun_induction splitLinesAux held text with
  | case1 held empty => cases listed
  | case2 held nonempty =>
    rw [List.mem_singleton] at listed
    rw [listed, List.append_nil]
  | case3 held rest ih =>
    rcases List.mem_cons.1 listed with first | later
    · rw [first]
      exact (List.prefix_append ..).isInfix
    · exact (ih later).trans ⟨held.reverse ++ ['\r', '\n'], [], by simp⟩
  | case4 held c rest differs breaks ih =>
    rcases List.mem_cons.1 listed with first | later
    · rw [first]
      exact (List.prefix_append ..).isInfix
    · exact (ih later).trans ⟨held.reverse ++ [c], [], by simp⟩
  | case5 held c rest differs stays ih =>
    have inner := ih listed
    rwa [List.reverse_cons, List.append_assoc, List.singleton_append] at inner

theorem infix_of_mem_splitLines (listed : line ∈ splitLines text) : line <:+: text :=
  infix_of_mem_splitLinesAux listed

theorem containsText_of_isInfix {needle text : List Char} (inside : needle <:+: text) :
    containsText needle text = true := by
  obtain ⟨before, after, whole⟩ := inside
  unfold containsText
  rw [List.any_eq_true]
  refine ⟨needle ++ after, ?_, ?_⟩
  · rw [List.mem_tails, ← whole, List.append_assoc]
    exact List.suffix_append ..
  · rw [List.isPrefixOf_iff_prefix]
    exact List.prefix_append ..

theorem infix_of_containsText {needle text : List Char} (held : containsText needle text = true) :
    needle <:+: text := by
  obtain ⟨tail, listed, starts⟩ := List.any_eq_true.1 held
  exact (List.isPrefixOf_iff_prefix.1 starts).isInfix.trans ((List.mem_tails _ _).1 listed).isInfix

end PyText
