import Mathlib
import OmniMarket.ConflictHunk.Handler
import OmniMarket.Lib.MarkedBlocks

/-!
# The lines around the conflict blocks

A conflict block is a `<<<<<<<` line with the lines up to the next `>>>>>>>` line, or to the end
of the text. `_extract_hunk_context` collects starts and ends in two lists and pairs them by
position, so a start without an end is in no pair: the lines around a block that is not closed
are left out, unless they are also within the context of one that is.
-/

namespace OmniMarket.ConflictHunk

open MarkedBlocks
variable {scan : HunkScan} {blocks : Scan}

def opensHunk (line : List Char) : Bool := conflictMarker.isPrefixOf line

def closesHunk (line : List Char) : Bool := endMarker.isPrefixOf line

theorem hunk_marks_apart (line : List Char) (opening : opensHunk line = true) :
    closesHunk line = false := by
  cases line with
  | nil => exact absurd opening (by decide)
  | cons c rest =>
    rw [opensHunk, conflictMarker, String.toList_ofList, List.isPrefixOf_cons_cons,
      Bool.and_eq_true, beq_iff_eq] at opening
    rw [← opening.1]
    rfl

/-- The lines of a text within `contextLines` lines of a conflict block, in their order. -/
def coveredLines (text : String) (contextLines : ℕ) : List (List Char) :=
  let lines := PyText.splitLines text.toList
  (lines.zipIdx.filter fun numbered =>
    Near opensHunk closesHunk contextLines lines numbered.2).map Prod.fst

/-! ## The scan -/

structure Pairs (scan : HunkScan) (blocks : Scan) : Prop where
  starts : scan.starts = blocks.closed.map Prod.fst ++ blocks.opened.toList
  ends : scan.ends = blocks.closed.map Prod.snd
  inConflict : scan.inConflict = blocks.opened.isSome

theorem Pairs.scanLine (pairs : Pairs scan blocks) (numbered : List Char × ℕ) :
    Pairs (scanLine scan numbered) (scanItem opensHunk closesHunk blocks numbered) := by
  obtain ⟨starts, ends, inConflict⟩ := pairs
  rw [ConflictHunk.scanLine, scanItem, inConflict]
  cases opened : blocks.opened with
  | none =>
    rw [opened, Option.toList_none, List.append_nil] at starts
    simp only [Option.isSome_none, Bool.not_false, Bool.and_true, Bool.and_false,
      Bool.false_eq_true, if_false]
    split
    · next marked =>
      rw [if_pos (show opensHunk numbered.1 = true from marked)]
      exact ⟨by rw [starts]; rfl, ends, rfl⟩
    · next plain =>
      rw [if_neg (show ¬ opensHunk numbered.1 = true from plain)]
      exact ⟨by rw [starts, opened, Option.toList_none, List.append_nil], ends, by rw [inConflict]⟩
  | some start =>
    rw [opened, Option.toList_some] at starts
    simp only [Option.isSome_some, Bool.not_true, Bool.and_false, Bool.false_eq_true, if_false,
      Bool.and_true]
    split
    · next marked =>
      rw [if_pos (show closesHunk numbered.1 = true from marked)]
      refine ⟨?_, ?_, rfl⟩
      · rw [starts, List.map_append, Option.toList_none, List.append_nil]
        rfl
      · rw [ends, List.map_append]
        rfl
    · next plain =>
      rw [if_neg (show ¬ closesHunk numbered.1 = true from plain)]
      exact ⟨by rw [starts, opened]; rfl, ends, by rw [inConflict]⟩

theorem scan_pairs (lines : List (List Char)) :
    Pairs (lines.zipIdx.foldl scanLine {}) (scanItems opensHunk closesHunk lines) := by
  rw [scanItems]
  induction lines.zipIdx using List.reverseRecOn with
  | nil => exact ⟨rfl, rfl, rfl⟩
  | append_singleton before numbered ih =>
    rw [List.foldl_append, List.foldl_append]
    exact ih.scanLine numbered

theorem Pairs.zip (pairs : Pairs scan blocks) : scan.starts.zip scan.ends = blocks.closed := by
  rw [pairs.starts, pairs.ends, ← List.append_nil (blocks.closed.map Prod.snd),
    List.zip_append (by rw [List.length_map, List.length_map]), List.zip_nil_right, List.append_nil,
    List.zip_map']
  exact List.map_id _

/-- A text with a `<<<<<<<` line has a start. -/
theorem Pairs.started {lines : List (List Char)} (pairs : Pairs scan blocks)
    (reads : Reads opensHunk closesHunk lines lines.length blocks) {start : ℕ}
    (within : start < lines.length) (opens : MarkAt opensHunk lines start) :
    scan.starts.isEmpty = false := by
  rw [pairs.starts, List.isEmpty_eq_false_iff]
  rcases reads.all start within opens with ⟨block, closed, -⟩ | ⟨held, opened, -⟩
  · exact List.append_ne_nil_of_left_ne_nil
      (List.ne_nil_of_mem (List.mem_map_of_mem closed)) _
  · rw [Option.mem_def.1 opened]
    exact List.append_ne_nil_of_right_ne_nil _ (List.cons_ne_nil held [])

/-! ## Fewer lines -/

theorem eq_of_sum_eq {α : Type} {weight : α → ℕ} (positive : ∀ a, 0 < weight a)
    {part whole : List α} (sublist : part.Sublist whole)
    (same : (part.map weight).sum = (whole.map weight).sum) : part = whole := by
  induction sublist with
  | slnil => rfl
  | cons a rest ih =>
    rename_i part whole
    have below : (part.map weight).sum ≤ (whole.map weight).sum :=
      (rest.map weight).sum_le_sum fun _ _ => Nat.zero_le _
    rw [List.map_cons, List.sum_cons] at same
    exact absurd (positive a) (by omega)
  | cons_cons a rest ih =>
    rw [List.map_cons, List.map_cons, List.sum_cons, List.sum_cons, Nat.add_right_inj] at same
    rw [ih same]

theorem length_joined {lines : List (List Char)} (some' : lines ≠ []) :
    (['\n'].intercalate lines).length + 1 = (lines.map fun line => line.length + 1).sum := by
  induction lines with
  | nil => exact absurd rfl some'
  | cons line rest ih =>
    cases rest with
    | nil => simp [List.intercalate]
    | cons next rest =>
      rw [List.intercalate_cons_cons, List.length_append, List.length_append, List.map_cons,
        List.sum_cons, ← ih (List.cons_ne_nil _ _), List.length_singleton]
      omega

theorem joined_filter_inj {α : Type} {lineOf : α → List Char} {part whole : List α}
    (sublist : part.Sublist whole) {full : α} (listed : full ∈ whole) (long : lineOf full ≠ [])
    (same : ['\n'].intercalate (part.map lineOf) = ['\n'].intercalate (whole.map lineOf)) :
    part = whole := by
  have whole' : whole.map lineOf ≠ [] := List.ne_nil_of_mem (List.mem_map_of_mem listed)
  have total := length_joined whole'
  rw [List.map_map] at total
  by_cases none' : part = []
  · -- the whole has a line that is not blank
    subst none'
    have above : (lineOf full).length + 1 ≤
        (whole.map ((fun line => line.length + 1) ∘ lineOf)).sum :=
      List.single_le_sum (fun _ _ => Nat.zero_le _) _
        (List.mem_map_of_mem (f := (fun line => line.length + 1) ∘ lineOf) listed)
    have filled : 0 < (lineOf full).length := List.length_pos_of_ne_nil long
    rw [← same] at total
    simp only [List.map_nil, List.intercalate_nil, List.length_nil] at total
    omega
  · have total' := length_joined fun blank : part.map lineOf = [] =>
      none' (List.map_eq_nil_iff.1 blank)
    rw [List.map_map, same, total] at total'
    exact eq_of_sum_eq (fun _ => Nat.succ_pos _) sublist total'.symm

theorem intercalate_lines (numbered : List (List Char × ℕ)) :
    "\n".intercalate (numbered.map fun line => String.ofList line.1) =
      String.ofList (['\n'].intercalate (numbered.map Prod.fst)) := by
  rw [← String.toList_inj, String.toList_intercalate, String.toList_ofList, List.map_map]
  simp [Function.comp_def]

/-! ## Coverage -/

theorem filter_eq_iff {α : Type} {part whole : α → Bool} {items : List α}
    (within : ∀ item ∈ items, part item = true → whole item = true) :
    items.filter part = items.filter whole ↔ ∀ item ∈ items, whole item = true → part item = true := by
  constructor
  · intro same item listed held
    have kept : item ∈ items.filter part := same ▸ List.mem_filter.2 ⟨listed, held⟩
    exact (List.mem_filter.1 kept).2
  · intro back
    refine List.filter_congr ?_
    intro item listed
    exact Bool.eq_iff_iff.2 ⟨within item listed, back item listed⟩

/-- For a text with a `<<<<<<<` line, the context has every line within `contextLines` of a
conflict block, in order, and no other line, exactly when every `<<<<<<<` line has a `>>>>>>>` line
after it or one that ends a block is within `contextLines` of the last line. -/
theorem hunkContext_covers_iff {text : String} (contextLines : ℕ)
    (marked : ∃ line ∈ PyText.splitLines text.toList, opensHunk line = true) :
    extractHunkContext text contextLines =
        "\n".intercalate ((coveredLines text contextLines).map String.ofList) ↔
      AllClosed opensHunk closesHunk (PyText.splitLines text.toList) ∨
        ∃ e < (PyText.splitLines text.toList).length,
          EndsBlock opensHunk closesHunk (PyText.splitLines text.toList) e ∧
            (PyText.splitLines text.toList).length ≤ e + contextLines + 1 := by
  rw [coveredLines, extractHunkContext]
  generalize PyText.splitLines text.toList = lines at marked ⊢
  have reads := scan_reads hunk_marks_apart lines
  have pairs := scan_pairs lines
  simp only [pairs.zip]
  generalize scanItems opensHunk closesHunk lines = blocks at reads pairs
  obtain ⟨line, listed, opening⟩ := marked
  obtain ⟨start, within, rfl⟩ := List.mem_iff_getElem.1 listed
  have here : lines[start]? = some lines[start] := List.getElem?_eq_getElem within
  have opens : MarkAt opensHunk lines start := (markAt_item here).2 opening
  rw [pairs.started reads within opens, if_neg Bool.false_ne_true, ← near_closed_iff reads hunk_marks_apart contextLines]
  have kept (numbered : List Char × ℕ) :
      (blocks.closed.any fun bounds =>
          bounds.1 - contextLines ≤ numbered.2 && numbered.2 < bounds.2 + contextLines + 1) = true ↔
        ∃ block ∈ blocks.closed, block.1 ≤ numbered.2 + contextLines ∧
          numbered.2 ≤ block.2 + contextLines := by
    simp only [List.any_eq_true, Bool.and_eq_true, decide_eq_true_eq, Nat.sub_le_iff_le_add,
      Nat.lt_succ_iff]
  have near (numbered : List Char × ℕ)
      (held : (blocks.closed.any fun bounds =>
        bounds.1 - contextLines ≤ numbered.2 && numbered.2 < bounds.2 + contextLines + 1) = true) :
      decide (Near opensHunk closesHunk contextLines lines numbered.2) = true := by
    obtain ⟨block, closed, left, right⟩ := (kept numbered).1 held
    exact decide_eq_true (near_of_closed reads closed left right)
  -- the line that opens a block is covered and not blank
  have full : (lines[start], start) ∈ lines.zipIdx.filter fun numbered =>
      decide (Near opensHunk closesHunk contextLines lines numbered.2) := by
    refine List.mem_filter.2 ⟨List.mk_mem_zipIdx_iff_getElem?.2 here, decide_eq_true ?_⟩
    exact ⟨start, within, ⟨start, le_rfl, opens, fun j before after => by omega⟩,
      Nat.le_add_right _ _, Nat.le_add_right _ _⟩
  have long : lines[start] ≠ [] := by
    intro blank
    rw [blank] at opening
    exact absurd opening (by decide)
  calc _ ↔ lines.zipIdx.filter (fun numbered => blocks.closed.any fun bounds =>
          bounds.1 - contextLines ≤ numbered.2 && numbered.2 < bounds.2 + contextLines + 1) =
        lines.zipIdx.filter fun numbered =>
          decide (Near opensHunk closesHunk contextLines lines numbered.2) := by
        rw [List.map_map, show String.ofList ∘ Prod.fst = fun numbered : List Char × ℕ =>
          String.ofList numbered.1 from rfl, intercalate_lines, intercalate_lines]
        constructor
        · intro same
          exact joined_filter_inj (List.monotone_filter_right _ near) full long
            (String.ofList_inj.1 same)
        · intro same
          rw [same]
    _ ↔ _ := by
        rw [filter_eq_iff fun numbered _ => near numbered]
        constructor
        · intro back i within' close
          refine (kept (lines[i], i)).1 (back (lines[i], i) ?_ (decide_eq_true close))
          exact List.mk_mem_zipIdx_iff_getElem?.2 (List.getElem?_eq_getElem within')
        · intro covered numbered listed' close
          have within' : numbered.2 < lines.length :=
            (List.getElem?_eq_some_iff.1 (List.mem_zipIdx_iff_getElem?.1 listed')).1
          exact (kept numbered).2 (covered numbered.2 within' (of_decide_eq_true close))

/-- A block that is closed between two lines of text, and a stray end. -/
theorem hunkContext_covers_closed :
    (∃ line ∈ PyText.splitLines "a\n<<<<<<< x\nb\n>>>>>>> y\n>>>>>>>".toList,
        opensHunk line = true) ∧
      extractHunkContext "a\n<<<<<<< x\nb\n>>>>>>> y\n>>>>>>>" 1 =
        "\n".intercalate
          ((coveredLines "a\n<<<<<<< x\nb\n>>>>>>> y\n>>>>>>>" 1).map String.ofList) := by
  have marked : ∃ line ∈ PyText.splitLines "a\n<<<<<<< x\nb\n>>>>>>> y\n>>>>>>>".toList,
      opensHunk line = true := by decide +kernel
  exact ⟨marked, (hunkContext_covers_iff 1 marked).2 (.inl (by decide +kernel))⟩

/-- A text whose one block is not closed: the context is empty. -/
theorem hunkContext_drops_open_block :
    (∃ line ∈ PyText.splitLines "a\n<<<<<<< x\nb".toList, opensHunk line = true) ∧
      extractHunkContext "a\n<<<<<<< x\nb" 1 = "" ∧
      "\n".intercalate ((coveredLines "a\n<<<<<<< x\nb" 1).map String.ofList) = "a\n<<<<<<< x\nb" ∧
      extractHunkContext "a\n<<<<<<< x\nb" 1 ≠
        "\n".intercalate ((coveredLines "a\n<<<<<<< x\nb" 1).map String.ofList) := by
  decide +kernel

end OmniMarket.ConflictHunk
