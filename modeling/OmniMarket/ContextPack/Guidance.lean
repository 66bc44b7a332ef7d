import OmniMarket.Lib.Regex

/-!
# The sections of a guidance file

`GuidanceSectionParser.parse` cuts a text at its headings. The heading path of a section is
collected backwards with one target level at a time, starting one below the heading's own.

The digest of a content is a parameter, and the offsets count characters.
-/

namespace OmniMarket.ContextPack

section

open Regex

/-! ## Headings -/

/-- `^` under `re.MULTILINE`. -/
def lineStart : Pattern := .notAfter false (CharSet.except (CharSet.single '\n'))

/-- `#{1,6}`. -/
def headingMarks : Pattern :=
  let mark := Pattern.one false (CharSet.single '#')
  .seq mark (.optional (.seq mark (.optional (.seq mark (.optional (.seq mark (.optional
    (.seq mark (.optional mark)))))))))

/-- `_HEADING_RE`; a `.+` that takes all it can leaves nothing of the line for `$`. -/
def headingPattern : Pattern :=
  .sequence [lineStart, .group headingMarks, .plus (.one false CharSet.space),
    .group (.plus (.one false (CharSet.except (CharSet.single '\n'))))]

structure HeadingSpan where
  level : ℕ
  title : String
  start : ℕ

/-- The spans of the matches among the pieces, of which the first is at `start`. -/
def spansOf (start : ℕ) : List Piece → List HeadingSpan
  | [] => []
  | .outside _ :: rest => spansOf (start + 1) rest
  | .found text groups :: rest =>
    { level := (groups.headD []).length
      title := String.ofList (PyText.strip (groups.getD 1 []))
      start := start } :: spansOf (start + text.length) rest

def headingSpans (unicode : UnicodeTable) (text : List Char) : List HeadingSpan :=
  spansOf 0 (headingPattern.pieces unicode text)

/-- The loop of `_heading_path` over the preceding spans, the nearest one first. -/
def walkPath (targetLevel : ℕ) (path : List String) : List HeadingSpan → List String
  | [] => path
  | prev :: earlier =>
    if targetLevel = 0 then path
    else if prev.level = targetLevel then walkPath (targetLevel - 1) (prev.title :: path) earlier
    else walkPath targetLevel path earlier

/-- `_heading_path`; `preceding` is `reversed(spans[:idx])`. -/
def headingPath (current : HeadingSpan) (preceding : List HeadingSpan) : List String :=
  walkPath (current.level - 1) [current.title] preceding

/-! ## Sections -/

structure ParsedSection where
  sourceFile : String
  headingPath : List String
  content : String
  contentHash : String
  charCount : ℕ
  reasonSelected : String

section Parse

variable (contentHash : String → String) (text : List Char) (sourceFile reasonSelected : String)

/-- The loop of `parse`, with the spans before, the nearest one first. -/
def sectionsFrom (preceding : List HeadingSpan) : List HeadingSpan → List ParsedSection
  | [] => []
  | span :: rest =>
    let stop := (rest.head?.map (·.start)).getD text.length
    let rawContent := PyText.rstripWith (· == '\n') ((text.take stop).drop span.start)
    let later := sectionsFrom (span :: preceding) rest
    if rawContent.isEmpty then later
    else
      { sourceFile := sourceFile
        headingPath := headingPath span preceding
        content := String.ofList rawContent
        contentHash := contentHash (String.ofList rawContent)
        charCount := rawContent.length
        reasonSelected := reasonSelected } :: later

def parse (unicode : UnicodeTable) : List ParsedSection :=
  sectionsFrom contentHash text sourceFile reasonSelected [] (headingSpans unicode text)

end Parse

end

/-!
# Paths and coverage of the sections

The nesting path of a heading takes, again and again, the nearest preceding heading of a lower
level. `_heading_path` looks for exactly one level lower each time, so a skipped level ends its
path, or lets it go on to a heading that an outer one has closed.
-/

section

open Regex

theorem found_heading {unicode : UnicodeTable} {text matched : List Char}
    {groups : List (List Char)}
    (listed : .found matched groups ∈ headingPattern.pieces unicode text) :
    (∃ tail, matched = '#' :: tail) ∧ 0 < (groups.headD []).length := by
  obtain ⟨here, later, fresh, reached, shorter, rfl, rfl⟩ := found_of_scan listed
  -- the first mark, then the group of the marks, then the rest of the match
  obtain ⟨start, atStart, reached⟩ := List.mem_flatMap.1 reached
  obtain ⟨marked, grouped, reached⟩ := List.mem_flatMap.1 reached
  have same : start = here := by
    rw [lineStart, Pattern.run] at atStart
    split at atStart
    · cases atStart
    · exact List.mem_singleton.1 atStart
  subst same
  obtain ⟨inner, marks, rfl⟩ := List.mem_map.1 grouped
  obtain ⟨first, one, more⟩ := List.mem_flatMap.1 marks
  obtain ⟨tail, given, left⟩ : ∃ tail, start.rest = '#' :: tail ∧ first.rest = tail := by
    rw [Pattern.run] at one
    split at one
    · cases one
    · next c tail given =>
      split at one
      · next admitted =>
        have mark : c = '#' := by
          simpa [admits, CharSet.single] using admitted
        exact ⟨tail, mark ▸ given, by rw [List.mem_singleton.1 one]⟩
      · cases one
  constructor
  · have some' : start.rest.length - later.rest.length ≠ 0 := Nat.sub_ne_zero_of_lt shorter
    obtain ⟨n, count⟩ := Nat.exists_eq_succ_of_ne_zero some'
    exact ⟨tail.take n, by rw [consumed, count, given]; rfl⟩
  · obtain ⟨after, same⟩ := (run_later _ _ later reached).groups
    have fewer : inner.rest.length ≤ tail.length := left ▸ (run_later _ _ inner more).rest.length_le
    have head : later.groups.headD [] = consumed start inner := by
      rw [← same]
      simp [fresh]
    rw [head, consumed, List.length_take, given, List.length_cons]
    omega

/-! ## Cuts -/

/-- What lies before the first match. -/
def gapOf : List Piece → List Char
  | .outside c :: rest => c :: gapOf rest
  | .found _ _ :: _ => []
  | [] => []

/-- The text of each match with what lies before the next one. -/
def cutsOf : List Piece → List (List Char)
  | [] => []
  | .outside _ :: rest => cutsOf rest
  | .found matched _ :: rest => (matched ++ gapOf rest) :: cutsOf rest

theorem gap_append_cuts (pieces : List Piece) :
    gapOf pieces ++ (cutsOf pieces).flatten = pieces.flatMap Piece.text := by
  induction pieces with
  | nil => rfl
  | cons piece rest ih =>
    rw [List.flatMap_cons, ← ih]
    cases piece with
    | outside c => rfl
    | found matched groups => simp [gapOf, cutsOf, Piece.text]

theorem spansOf_head (start : ℕ) (pieces : List Piece) :
    ((spansOf start pieces).head?.map (·.start)).getD
        (start + (pieces.flatMap Piece.text).length) = start + (gapOf pieces).length := by
  induction pieces generalizing start with
  | nil => rfl
  | cons piece rest ih =>
    cases piece with
    | outside c =>
      have one : start + ((Piece.outside c :: rest).flatMap Piece.text).length =
          start + 1 + (rest.flatMap Piece.text).length := by
        rw [List.flatMap_cons, List.length_append, Piece.text, List.length_singleton]
        omega
      rw [spansOf, one, ih, gapOf, List.length_cons]
      omega
    | found matched groups => rfl

/-- Something of each span and the spans before it, the nearest one first. -/
def withPreceding {β : Type} (f : HeadingSpan → List HeadingSpan → β)
    (preceding : List HeadingSpan) : List HeadingSpan → List β
  | [] => []
  | span :: rest => f span preceding :: withPreceding f (span :: preceding) rest

theorem withPreceding_eq_iff {β : Type} {f g : HeadingSpan → List HeadingSpan → β}
    (preceding spans : List HeadingSpan) :
    withPreceding f preceding spans = withPreceding g preceding spans ↔
      ∀ earlier span later, spans = earlier ++ span :: later →
        f span (earlier.reverse ++ preceding) = g span (earlier.reverse ++ preceding) := by
  induction spans generalizing preceding with
  | nil => simp [withPreceding]
  | cons head rest ih =>
    rw [withPreceding, withPreceding, List.cons.injEq, ih]
    constructor
    · rintro ⟨first, others⟩ earlier span later split
      cases earlier with
      | nil =>
        obtain ⟨rfl, rfl⟩ := List.cons.inj split
        exact first
      | cons before earlier =>
        obtain ⟨rfl, split'⟩ := List.cons.inj split
        rw [List.reverse_cons, List.append_assoc]
        exact others earlier span later split'
    · intro all
      refine ⟨all [] head rest rfl, ?_⟩
      intro earlier span later split
      have next := all (head :: earlier) span later (by rw [split]; rfl)
      rwa [List.reverse_cons, List.append_assoc] at next

/-! ## Paths -/

def exactTitles (targetLevel : ℕ) : List HeadingSpan → List String
  | [] => []
  | prev :: earlier =>
    if targetLevel = 0 then []
    else if prev.level = targetLevel then prev.title :: exactTitles (targetLevel - 1) earlier
    else exactTitles targetLevel earlier

theorem walkPath_eq (targetLevel : ℕ) (path : List String) (preceding : List HeadingSpan) :
    walkPath targetLevel path preceding = (exactTitles targetLevel preceding).reverse ++ path := by
  induction preceding generalizing targetLevel path with
  | nil => rfl
  | cons prev earlier ih =>
    rw [walkPath, exactTitles]
    split
    · rfl
    · split
      · rw [ih, List.reverse_cons, List.append_assoc]
        rfl
      · rw [ih]

theorem exactTitles_zero (preceding : List HeadingSpan) : exactTitles 0 preceding = [] := by
  cases preceding <;> rfl

/-- The titles of the chain of a heading of this level: the nearest preceding one of a lower level,
then again from there. -/
def nestingTitles (level : ℕ) : List HeadingSpan → List String
  | [] => []
  | prev :: earlier =>
    if prev.level < level then prev.title :: nestingTitles prev.level earlier
    else nestingTitles level earlier

def nestingPath (current : HeadingSpan) (preceding : List HeadingSpan) : List String :=
  (current.title :: nestingTitles current.level preceding).reverse

/-- The chain falls by exactly one level at each step, or, where a step first falls further,
headings of exactly the next lower levels further back have the titles of the rest of the chain. -/
def Stepwise (level : ℕ) : List HeadingSpan → Prop
  | [] => True
  | prev :: earlier =>
    if prev.level < level then
      if prev.level + 1 = level then Stepwise prev.level earlier
      else exactTitles (level - 1) earlier = prev.title :: nestingTitles prev.level earlier
    else Stepwise level earlier

variable {preceding : List HeadingSpan}

theorem exactTitles_eq_iff {level : ℕ} (positive : 0 < level)
    (levels : ∀ span ∈ preceding, 0 < span.level) :
    exactTitles (level - 1) preceding = nestingTitles level preceding ↔
      Stepwise level preceding := by
  induction preceding generalizing level with
  | nil => exact iff_of_true rfl trivial
  | cons prev earlier ih =>
    rw [List.forall_mem_cons] at levels
    obtain ⟨prevPositive, levels⟩ := levels
    rcases Nat.lt_or_ge prev.level level with lower | higher
    · have target : level - 1 ≠ 0 := by omega
      rw [exactTitles, nestingTitles, Stepwise, if_neg target, if_pos lower, if_pos lower]
      rcases eq_or_ne (prev.level + 1) level with next | further
      · have exact : prev.level = level - 1 := by omega
        rw [if_pos exact, if_pos next, List.cons.injEq, ← ih prevPositive levels, ← exact]
        simp
      · rw [if_neg (by omega : prev.level ≠ level - 1), if_neg further]
    · rw [nestingTitles, Stepwise, if_neg (not_lt.2 higher), if_neg (not_lt.2 higher),
        ← ih positive levels, exactTitles]
      split
      · next none' => rw [none', exactTitles_zero]
      · rw [if_neg (by omega : prev.level ≠ level - 1)]

theorem headingPath_eq_iff {current : HeadingSpan} (positive : 0 < current.level)
    (levels : ∀ span ∈ preceding, 0 < span.level) :
    headingPath current preceding = nestingPath current preceding ↔
      Stepwise current.level preceding := by
  rw [← exactTitles_eq_iff positive levels, headingPath, walkPath_eq, nestingPath,
    List.reverse_cons, List.append_cancel_right_eq, List.reverse_inj]

/-! ## Sections -/

/-- `text.rstrip("\n")`. -/
def stripEnd (text : List Char) : List Char := PyText.rstripWith (· == '\n') text

theorem stripEnd_append (text : List Char) :
    ∃ count, stripEnd text ++ List.replicate count '\n' = text := by
  refine ⟨(text.rtakeWhile (· == '\n')).length, ?_⟩
  have ends : List.replicate (text.rtakeWhile (· == '\n')).length '\n' =
      text.rtakeWhile (· == '\n') := by
    refine (List.eq_replicate_iff.2 ⟨rfl, ?_⟩).symm
    intro c listed
    exact beq_iff_eq.1 (@List.mem_rtakeWhile_imp _ (· == '\n') _ _ listed)
  rw [ends]
  exact List.rdropWhile_append_rtakeWhile

theorem stripEnd_heading (tail : List Char) : (stripEnd ('#' :: tail)).isEmpty = false := by
  rw [List.isEmpty_eq_false_iff]
  intro blank
  exact absurd (List.rdropWhile_eq_nil_iff.1 blank '#' List.mem_cons_self) (by decide)

section Sections

variable (contentHash : String → String) (sourceFile reasonSelected : String)

theorem sections_cuts {text before : List Char} {pieces : List Piece}
    (joined : text = before ++ pieces.flatMap Piece.text)
    (marks : ∀ matched groups, .found matched groups ∈ pieces → ∃ tail, matched = '#' :: tail)
    (preceding : List HeadingSpan) :
    let sections := sectionsFrom contentHash text sourceFile reasonSelected preceding
      (spansOf before.length pieces)
    sections.map (·.headingPath) =
        withPreceding headingPath preceding (spansOf before.length pieces) ∧
      sections.map (·.content.toList) = (cutsOf pieces).map stripEnd ∧
      List.Forall₂ (fun parsed span => parsed.content.toList <+: text.drop span.start) sections
        (spansOf before.length pieces) := by
  induction pieces generalizing before preceding with
  | nil => exact ⟨rfl, rfl, .nil⟩
  | cons piece rest ih =>
    rw [List.flatMap_cons, ← List.append_assoc] at joined
    have marks' : ∀ matched groups, .found matched groups ∈ rest → ∃ tail, matched = '#' :: tail :=
      fun matched groups listed => marks matched groups (List.mem_cons_of_mem _ listed)
    cases piece with
    | outside c =>
      have next := ih joined marks' preceding
      rw [Piece.text, List.length_append, List.length_singleton] at next
      exact next
    | found matched groups =>
      obtain ⟨tail, begins⟩ := marks matched groups List.mem_cons_self
      have length : text.length =
          before.length + matched.length + (rest.flatMap Piece.text).length := by
        rw [joined, List.length_append, List.length_append, Piece.text]
      -- the slice is the match with the gap behind it
      have slice : (text.take (((spansOf (before.length + matched.length) rest).head?.map
          (·.start)).getD text.length)).drop before.length = matched ++ gapOf rest := by
        have whole : text = (before ++ (matched ++ gapOf rest)) ++ (cutsOf rest).flatten := by
          rw [joined, ← gap_append_cuts]
          simp [Piece.text]
        rw [length, spansOf_head]
        conv_lhs => rw [whole]
        rw [List.take_left' (by simp [Nat.add_assoc]), List.drop_left]
      have filled : (stripEnd (matched ++ gapOf rest)).isEmpty = false := by
        rw [begins]
        exact stripEnd_heading _
      have next := ih joined marks' ({
        level := (groups.headD []).length
        title := String.ofList (PyText.strip (groups.getD 1 []))
        start := before.length } :: preceding)
      rw [Piece.text, List.length_append] at next
      obtain ⟨paths, contents, starts⟩ := next
      have prefix' : stripEnd (matched ++ gapOf rest) <+: text.drop before.length := by
        refine (List.rdropWhile_prefix _ _).trans ?_
        rw [← slice, List.drop_take]
        exact List.take_prefix _ _
      have cut : PyText.rstripWith (· == '\n') ((text.take
          (((spansOf (before.length + matched.length) rest).head?.map (·.start)).getD
            text.length)).drop before.length) = stripEnd (matched ++ gapOf rest) :=
        congrArg stripEnd slice
      rw [spansOf, sectionsFrom]
      dsimp only
      rw [cut, filled, if_neg Bool.false_ne_true]
      refine ⟨?_, ?_, ?_⟩
      · rw [List.map_cons, withPreceding, paths]
      · rw [List.map_cons, cutsOf, List.map_cons, contents, String.toList_ofList]
      · refine .cons ?_ starts
        rw [String.toList_ofList]
        exact prefix'

structure Faithful (unicode : UnicodeTable) (text : List Char) (sections : List ParsedSection) :
    Prop where
  starts : List.Forall₂ (fun parsed span => parsed.content.toList <+: text.drop span.start)
    sections (headingSpans unicode text)
  paths : sections.map (·.headingPath) = withPreceding nestingPath [] (headingSpans unicode text)
  whole : ∃ newlines : List ℕ, newlines.length = sections.length ∧
    (List.zipWith (fun parsed count => parsed.content.toList ++ List.replicate count '\n')
      sections newlines).flatten =
      text.drop (((headingSpans unicode text).head?.map (·.start)).getD text.length)

theorem spans_positive {start : ℕ} {pieces : List Piece}
    (marks : ∀ matched groups, .found matched groups ∈ pieces → 0 < (groups.headD []).length) :
    ∀ span ∈ spansOf start pieces, 0 < span.level := by
  induction pieces generalizing start with
  | nil => exact fun _ listed => absurd listed List.not_mem_nil
  | cons piece rest ih =>
    have rest' : ∀ matched groups, .found matched groups ∈ rest → 0 < (groups.headD []).length :=
      fun matched groups listed => marks matched groups (List.mem_cons_of_mem _ listed)
    cases piece with
    | outside c => exact ih rest'
    | found matched groups =>
      rw [spansOf, List.forall_mem_cons]
      exact ⟨marks matched groups List.mem_cons_self, ih rest'⟩

theorem cuts_whole {sections : List ParsedSection} {cuts : List (List Char)}
    (contents : sections.map (·.content.toList) = cuts.map stripEnd) :
    ∃ newlines : List ℕ, newlines.length = sections.length ∧
      (List.zipWith (fun parsed count => parsed.content.toList ++ List.replicate count '\n')
        sections newlines).flatten = cuts.flatten := by
  induction sections generalizing cuts with
  | nil =>
    obtain rfl : cuts = [] := List.map_eq_nil_iff.1 contents.symm
    exact ⟨[], rfl, rfl⟩
  | cons parsed rest ih =>
    cases cuts with
    | nil => cases contents
    | cons cut cuts =>
      rw [List.map_cons, List.map_cons, List.cons.injEq] at contents
      obtain ⟨newlines, length, others⟩ := ih contents.2
      obtain ⟨count, whole⟩ := stripEnd_append cut
      refine ⟨count :: newlines, congrArg Nat.succ length, ?_⟩
      rw [List.zipWith_cons_cons, List.flatten_cons, others, contents.1, whole, List.flatten_cons]

/-- The sections of a text are right exactly when the nesting chain of each of its headings falls
by one level at each step, or runs along headings with the same titles that do. -/
theorem parse_faithful_iff (unicode : UnicodeTable) (text : List Char) :
    Faithful unicode text (parse contentHash text sourceFile reasonSelected unicode) ↔
      ∀ earlier span later, headingSpans unicode text = earlier ++ span :: later →
        Stepwise span.level earlier.reverse := by
  have joined : text = [] ++ (headingPattern.pieces unicode text).flatMap Piece.text :=
    (pieces_join headingPattern text).symm
  obtain ⟨paths, contents, starts⟩ := sections_cuts contentHash sourceFile reasonSelected joined
    (fun matched groups listed => (found_heading listed).1) []
  have positive : ∀ span ∈ headingSpans unicode text, 0 < span.level :=
    spans_positive fun matched groups listed => (found_heading listed).2
  have nested : (∀ earlier span later, headingSpans unicode text = earlier ++ span :: later →
        headingPath span (earlier.reverse ++ []) = nestingPath span (earlier.reverse ++ [])) ↔
      ∀ earlier span later, headingSpans unicode text = earlier ++ span :: later →
        Stepwise span.level earlier.reverse := by
    refine forall_congr' fun earlier => forall_congr' fun span => forall_congr' fun later =>
      forall_congr' fun split => ?_
    rw [split, List.forall_mem_append, List.forall_mem_cons] at positive
    rw [List.append_nil]
    refine headingPath_eq_iff positive.2.1 ?_
    exact fun before listed => positive.1 before (List.mem_reverse.1 listed)
  rw [← nested, ← withPreceding_eq_iff]
  constructor
  · intro faithful
    exact paths.symm.trans faithful.paths
  · intro same
    refine ⟨starts, paths.trans same, ?_⟩
    obtain ⟨newlines, length, whole⟩ := cuts_whole contents
    refine ⟨newlines, length, whole.trans ?_⟩
    have first := spansOf_head 0 (headingPattern.pieces unicode text)
    rw [pieces_join, Nat.zero_add, Nat.zero_add] at first
    have split := gap_append_cuts (headingPattern.pieces unicode text)
    rw [pieces_join] at split
    rw [headingSpans, first]
    exact ((congrArg (List.drop _) split).symm.trans List.drop_left).symm

end Sections

/-- Under a heading of level one, a heading of level three has no path to it. -/
theorem skipped_level_loses_path :
    (parse id "# A\n### B\n".toList "CLAUDE.md" "heading_boundary" PyText.asciiTable).map
        (·.headingPath) = [["A"], ["B"]] ∧
      ¬ Faithful PyText.asciiTable "# A\n### B\n".toList
        (parse id "# A\n### B\n".toList "CLAUDE.md" "heading_boundary" PyText.asciiTable) := by
  have collected : (parse id "# A\n### B\n".toList "CLAUDE.md" "heading_boundary"
      PyText.asciiTable).map (·.headingPath) = [["A"], ["B"]] := by decide +kernel
  refine ⟨collected, ?_⟩
  intro faithful
  have nested : withPreceding nestingPath [] (headingSpans PyText.asciiTable
      "# A\n### B\n".toList) = [["A"], ["A", "B"]] := by decide +kernel
  rw [faithful.paths, nested] at collected
  exact absurd collected (by decide)

end

end OmniMarket.ContextPack
