import Mathlib.Data.List.Basic
import Mathlib.Order.Lattice
import Mathlib.Tactic.Common

/-!
# Blocks between marks

A block begins at an item that opens one and goes on to the next item that closes one, or to the
end of the items. `scanItem` is a scanner with one block open at a time; what it collects are the
blocks.
-/

namespace MarkedBlocks

variable {α : Type} (opens closes : α → Bool)

def MarkAt (marked : α → Bool) (items : List α) (i : ℕ) : Prop :=
  (items[i]?).any marked = true

instance (marked : α → Bool) (items : List α) : DecidablePred (MarkAt marked items) := fun _ =>
  inferInstanceAs (Decidable (_ = true))

def InBlock (items : List α) (i : ℕ) : Prop :=
  ∃ start ≤ i, MarkAt opens items start ∧ ∀ j < i, start ≤ j → ¬ MarkAt closes items j

instance (items : List α) : DecidablePred (InBlock opens closes items) := fun i =>
  inferInstanceAs (Decidable (∃ start ≤ i, _ ∧ ∀ j < i, start ≤ j → _))

def EndsBlock (items : List α) (i : ℕ) : Prop :=
  MarkAt closes items i ∧ InBlock opens closes items i

instance (items : List α) : DecidablePred (EndsBlock opens closes items) := fun _ =>
  inferInstanceAs (Decidable (_ ∧ _))

def AllClosed (items : List α) : Prop :=
  ∀ start < items.length, MarkAt opens items start →
    ∃ i < items.length, start < i ∧ MarkAt closes items i

instance (items : List α) : Decidable (AllClosed opens closes items) :=
  inferInstanceAs (Decidable (∀ start < items.length, _ → ∃ i < items.length, _ ∧ _))

/-- Within `n` items of a block. -/
def Near (n : ℕ) (items : List α) (i : ℕ) : Prop :=
  ∃ k < items.length, InBlock opens closes items k ∧ i ≤ k + n ∧ k ≤ i + n

instance (n : ℕ) (items : List α) : DecidablePred (Near opens closes n items) := fun _ =>
  inferInstanceAs (Decidable (∃ k < items.length, _ ∧ _ ∧ _))

/-! ## The scanner -/

structure Scan where
  closed : List (ℕ × ℕ) := []
  opened : Option ℕ := none

def scanItem (scan : Scan) (numbered : α × ℕ) : Scan :=
  match scan.opened with
  | none => if opens numbered.1 then { scan with opened := some numbered.2 } else scan
  | some start =>
    if closes numbered.1 then
      { closed := scan.closed ++ [(start, numbered.2)], opened := none }
    else scan

def scanItems (items : List α) : Scan := items.zipIdx.foldl (scanItem opens closes) {}

theorem scanItems_concat (items : List α) (item : α) :
    scanItems opens closes (items ++ [item]) =
      scanItem opens closes (scanItems opens closes items) (item, items.length) := by
  rw [scanItems, List.zipIdx_append, List.foldl_append, Nat.zero_add]
  rfl

/-- What the scanner has read after `p` items. -/
structure Reads (items : List α) (p : ℕ) (scan : Scan) : Prop where
  closed : ∀ block ∈ scan.closed, block.1 < block.2 ∧ block.2 < p ∧
    MarkAt opens items block.1 ∧ MarkAt closes items block.2 ∧
    ∀ j < block.2, block.1 ≤ j → ¬ MarkAt closes items j
  opened : ∀ start ∈ scan.opened, start < p ∧ MarkAt opens items start ∧
    ∀ j < p, start ≤ j → ¬ MarkAt closes items j
  all : ∀ i < p, MarkAt opens items i →
    (∃ block ∈ scan.closed, block.1 ≤ i ∧ i ≤ block.2) ∨ ∃ start ∈ scan.opened, start ≤ i

variable {opens closes} {items : List α}

section Steps

variable {p : ℕ} {scan : Scan} {item : α}

theorem markAt_item {marked : α → Bool} (here : items[p]? = some item) :
    MarkAt marked items p ↔ marked item = true := by
  rw [MarkAt, here]
  rfl

section

variable (reads : Reads opens closes items p scan)

include reads

theorem Reads.skip (quiet : MarkAt opens items p → ∃ start, scan.opened = some start)
    (unclosed : MarkAt closes items p → scan.opened = none) :
    Reads opens closes items (p + 1) scan where
  closed block listed := by
    obtain ⟨long, before, rest⟩ := reads.closed block listed
    exact ⟨long, Nat.lt_succ_of_lt before, rest⟩
  opened start held := by
    obtain ⟨before, marked, none'⟩ := reads.opened start held
    refine ⟨Nat.lt_succ_of_lt before, marked, ?_⟩
    intro j within above
    rcases Nat.lt_succ_iff_lt_or_eq.1 within with earlier | rfl
    · exact none' j earlier above
    · intro closing
      rw [Option.mem_def, unclosed closing] at held
      cases held
  all i within marked := by
    rcases Nat.lt_succ_iff_lt_or_eq.1 within with earlier | rfl
    · exact reads.all i earlier marked
    · obtain ⟨start, held⟩ := quiet marked
      exact .inr ⟨start, held, (reads.opened start held).1.le⟩

theorem Reads.open (idle : scan.opened = none)
    (marked : MarkAt opens items p) (apart : ¬ MarkAt closes items p) :
    Reads opens closes items (p + 1) { scan with opened := some p } where
  closed block listed := by
    obtain ⟨long, before, rest⟩ := reads.closed block listed
    exact ⟨long, Nat.lt_succ_of_lt before, rest⟩
  opened start held := by
    obtain rfl : p = start := Option.some.inj held
    refine ⟨Nat.lt_succ_self p, marked, ?_⟩
    intro j within above
    obtain rfl : p = j := Nat.le_antisymm above (Nat.lt_succ_iff.1 within)
    exact apart
  all i within marked' := by
    rcases Nat.lt_succ_iff_lt_or_eq.1 within with earlier | rfl
    · rcases reads.all i earlier marked' with found | ⟨start, held, -⟩
      · exact .inl found
      · rw [Option.mem_def, idle] at held
        cases held
    · exact .inr ⟨i, rfl, le_rfl⟩

theorem Reads.close {start : ℕ}
    (busy : scan.opened = some start) (marked : MarkAt closes items p) :
    Reads opens closes items (p + 1) { closed := scan.closed ++ [(start, p)], opened := none } where
  closed block listed := by
    rcases List.mem_append.1 listed with old | new
    · obtain ⟨long, before, rest⟩ := reads.closed block old
      exact ⟨long, Nat.lt_succ_of_lt before, rest⟩
    · obtain rfl : block = (start, p) := List.mem_singleton.1 new
      obtain ⟨before, opening, none'⟩ := reads.opened start busy
      exact ⟨before, Nat.lt_succ_self p, opening, marked, none'⟩
  opened _ held := by cases held
  all i within marked' := by
    have inside (above : start ≤ i) :
        ∃ block ∈ scan.closed ++ [(start, p)], block.1 ≤ i ∧ i ≤ block.2 :=
      ⟨(start, p), List.mem_append_right _ (List.mem_singleton_self _), above,
        Nat.lt_succ_iff.1 within⟩
    rcases Nat.lt_succ_iff_lt_or_eq.1 within with earlier | rfl
    · rcases reads.all i earlier marked' with ⟨block, listed, holds⟩ | ⟨start', held, above⟩
      · exact .inl ⟨block, List.mem_append_left _ listed, holds⟩
      · obtain rfl : start = start' := Option.some.inj (busy.symm.trans held)
        exact .inl (inside above)
    · exact .inl (inside (reads.opened start busy).1.le)

end

theorem Reads.scanItem (apart : ∀ item, opens item = true → closes item = false)
    (reads : Reads opens closes items p scan) (here : items[p]? = some item) :
    Reads opens closes items (p + 1) (scanItem opens closes scan (item, p)) := by
  have opening : MarkAt opens items p ↔ opens item = true := markAt_item here
  have closing : MarkAt closes items p ↔ closes item = true := markAt_item here
  rw [MarkedBlocks.scanItem]
  split
  · next idle =>
    split
    · next marked =>
      refine reads.open idle (opening.2 marked) ?_
      rw [closing, apart item marked]
      exact Bool.false_ne_true
    · next plain => exact reads.skip (fun marked => absurd (opening.1 marked) plain) fun _ => idle
  · next start busy =>
    split
    · next marked => exact reads.close busy (closing.2 marked)
    · next plain =>
      exact reads.skip (fun _ => ⟨start, busy⟩) fun marked => absurd (closing.1 marked) plain

end Steps

theorem scan_reads (apart : ∀ item, opens item = true → closes item = false) (items : List α) :
    Reads opens closes items items.length (scanItems opens closes items) := by
  have upTo (p : ℕ) (within : p ≤ items.length) :
      Reads opens closes items p (scanItems opens closes (items.take p)) := by
    induction p with
    | zero =>
      exact ⟨fun _ listed => absurd listed List.not_mem_nil,
        fun start held => absurd held (Option.not_mem_none start),
        fun i within' => absurd within' (Nat.not_lt_zero i)⟩
    | succ p ih =>
      rw [List.take_succ_eq_append_getElem within, scanItems_concat, List.length_take,
        Nat.min_eq_left (Nat.le_of_lt within)]
      exact (ih (Nat.le_of_lt within)).scanItem apart (List.getElem?_eq_getElem within)
  have whole := upTo items.length le_rfl
  rwa [List.take_length] at whole

section Scanned

variable {scan : Scan} (reads : Reads opens closes items items.length scan)

include reads

theorem inBlock_iff {i : ℕ} (within : i < items.length) :
    InBlock opens closes items i ↔
      (∃ block ∈ scan.closed, block.1 ≤ i ∧ i ≤ block.2) ∨ ∃ start ∈ scan.opened, start ≤ i := by
  constructor
  · rintro ⟨start, above, marked, none'⟩
    rcases reads.all start (above.trans_lt within) marked with
      ⟨block, listed, left, right⟩ | ⟨start', held, left⟩
    · -- the block's end is not before the item, where nothing closes
      refine .inl ⟨block, listed, left.trans above, ?_⟩
      by_contra past
      exact none' block.2 (not_le.1 past) right (reads.closed block listed).2.2.2.1
    · exact .inr ⟨start', held, left.trans above⟩
  · rintro (⟨block, listed, left, right⟩ | ⟨start, held, left⟩)
    · obtain ⟨-, -, marked, -, none'⟩ := reads.closed block listed
      exact ⟨block.1, left, marked, fun j before => none' j (before.trans_le right)⟩
    · obtain ⟨-, marked, none'⟩ := reads.opened start held
      exact ⟨start, left, marked, fun j before => none' j (before.trans within)⟩

theorem allClosed_iff (apart : ∀ item, opens item = true → closes item = false) :
    AllClosed opens closes items ↔ scan.opened = none := by
  constructor
  · intro allClosed
    cases held : scan.opened with
    | none => rfl
    | some start =>
      obtain ⟨within, marked, none'⟩ := reads.opened start held
      obtain ⟨i, within', after, closing⟩ := allClosed start within marked
      exact absurd closing (none' i within' after.le)
  · intro idle start within marked
    rcases reads.all start within marked with ⟨block, listed, left, right⟩ | ⟨start', held, -⟩
    · obtain ⟨-, before, -, closing, -⟩ := reads.closed block listed
      refine ⟨block.2, before, lt_of_le_of_ne right ?_, closing⟩
      -- the item opens a block, so it does not close one
      rintro rfl
      obtain ⟨item, here, opening⟩ := (Option.any_eq_true _ _).1 marked
      rw [markAt_item here, apart item opening] at closing
      cases closing
    · rw [Option.mem_def, idle] at held
      cases held

theorem endsBlock_iff {i : ℕ} (within : i < items.length) :
    EndsBlock opens closes items i ↔ ∃ block ∈ scan.closed, block.2 = i := by
  constructor
  · rintro ⟨closing, inside⟩
    rcases (inBlock_iff reads within).1 inside with ⟨block, listed, left, right⟩ | ⟨start, held, left⟩
    · refine ⟨block, listed, ?_⟩
      by_contra apart
      exact (reads.closed block listed).2.2.2.2 i (lt_of_le_of_ne right (Ne.symm apart)) left closing
    · exact absurd closing ((reads.opened start held).2.2 i within left)
  · rintro ⟨block, listed, rfl⟩
    obtain ⟨long, -, -, closing, -⟩ := reads.closed block listed
    exact ⟨closing, (inBlock_iff reads within).2 (.inl ⟨block, listed, long.le, le_rfl⟩)⟩

/-- An item within `n` of a block that was closed is near. -/
theorem near_of_closed {n i : ℕ} {block : ℕ × ℕ} (listed : block ∈ scan.closed)
    (left : block.1 ≤ i + n) (right : i ≤ block.2 + n) : Near opens closes n items i := by
  obtain ⟨long, before, -⟩ := reads.closed block listed
  have inside {k : ℕ} (left' : block.1 ≤ k) (right' : k ≤ block.2) :
      k < items.length ∧ InBlock opens closes items k :=
    have within' : k < items.length := right'.trans_lt before
    ⟨within', (inBlock_iff reads within').2 (.inl ⟨block, listed, left', right'⟩)⟩
  rcases Nat.lt_or_ge i block.1 with ahead | left'
  · obtain ⟨kept, held⟩ := inside le_rfl long.le
    exact ⟨block.1, kept, held, by omega, left⟩
  rcases Nat.lt_or_ge block.2 i with behind | right'
  · obtain ⟨kept, held⟩ := inside long.le le_rfl
    exact ⟨block.2, kept, held, right, by omega⟩
  · obtain ⟨kept, held⟩ := inside left' right'
    exact ⟨i, kept, held, Nat.le_add_right i n, Nat.le_add_right i n⟩

theorem near_closed_iff (apart : ∀ item, opens item = true → closes item = false) (n : ℕ) :
    (∀ i < items.length, Near opens closes n items i →
        ∃ block ∈ scan.closed, block.1 ≤ i + n ∧ i ≤ block.2 + n) ↔
      AllClosed opens closes items ∨
        ∃ e < items.length, EndsBlock opens closes items e ∧ items.length ≤ e + n + 1 := by
  rw [allClosed_iff reads apart]
  constructor
  · intro covered
    cases opened : scan.opened with
    | none => exact .inl rfl
    | some start =>
      -- the open block reaches the last item, so the last item is near a closed one
      have before : start < items.length := (reads.opened start opened).1
      have last : items.length - 1 < items.length := by omega
      have inside : InBlock opens closes items (items.length - 1) :=
        (inBlock_iff reads last).2 (.inr ⟨start, opened, by omega⟩)
      obtain ⟨block, listed, -, near⟩ := covered (items.length - 1) last
        ⟨items.length - 1, last, inside, Nat.le_add_right _ n, Nat.le_add_right _ n⟩
      have within : block.2 < items.length := (reads.closed block listed).2.1
      exact .inr ⟨block.2, within, (endsBlock_iff reads within).2 ⟨block, listed, rfl⟩, by omega⟩
  · intro enough i within near
    obtain ⟨k, within', inside, close, close'⟩ := near
    rcases (inBlock_iff reads within').1 inside with
      ⟨block, listed, left, right⟩ | ⟨start, held, left⟩
    · exact ⟨block, listed, by omega, by omega⟩
    rcases enough with idle | ⟨e, before, ends, near⟩
    · rw [Option.mem_def, idle] at held
      cases held
    · obtain ⟨block, listed, rfl⟩ := (endsBlock_iff reads before).1 ends
      obtain ⟨long, -, -, closing, -⟩ := reads.closed block listed
      -- the open block starts behind every closed one
      have behind : block.2 < start := by
        by_contra early
        exact (reads.opened start held).2.2 block.2 before (not_lt.1 early) closing
      exact ⟨block, listed, by omega, by omega⟩

end Scanned

end MarkedBlocks
