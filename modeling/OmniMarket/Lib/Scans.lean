import Mathlib.Data.List.Dedup
import Mathlib.Data.List.Nodup
import Mathlib.Order.Basic
import Mathlib.Data.List.Basic
import Mathlib.Data.List.Sort

/-!
# What a scan of a list keeps

First occurrences, the first element of the highest score, and sorting by a key.
-/

/-!
# First occurrences

The elements of a list whose key does not occur before them, in their order.
-/

section

variable {α κ : Type} [DecidableEq κ]

def firstSeen (key : α → κ) : List α → List α
  | [] => []
  | first :: rest => first :: (firstSeen key rest).filter fun later => key later ≠ key first

variable {key : α → κ}

variable {list : List α}

theorem mem_firstSeen_keys {k : κ} : k ∈ (firstSeen key list).map key ↔ k ∈ list.map key := by
  induction list with
  | nil => exact Iff.rfl
  | cons first rest ih =>
    simp only [firstSeen, List.map_cons, List.mem_cons]
    by_cases own : k = key first
    · simp [own]
    · rw [← ih]
      simp only [List.mem_map, List.mem_filter, decide_eq_true_eq]
      constructor
      · rintro (same | ⟨later, ⟨seen, -⟩, found⟩)
        · exact absurd same own
        · exact .inr ⟨later, seen, found⟩
      · rintro (same | ⟨later, seen, found⟩)
        · exact absurd same own
        · exact .inr ⟨later, ⟨seen, found ▸ own⟩, found⟩

theorem firstSeen_keys_nodup (list : List α) : ((firstSeen key list).map key).Nodup := by
  induction list with
  | nil => exact List.nodup_nil
  | cons first rest ih =>
    rw [firstSeen, List.map_cons, List.nodup_cons]
    refine ⟨?_, (List.filter_sublist.map key).nodup ih⟩
    intro again
    obtain ⟨later, kept, same⟩ := List.mem_map.1 again
    exact of_decide_eq_true (List.mem_filter.1 kept).2 same

theorem firstSeen_snoc_new {last : α} (new : key last ∉ list.map key) :
    firstSeen key (list ++ [last]) = firstSeen key list ++ [last] := by
  induction list with
  | nil => rfl
  | cons first rest ih =>
    rw [List.map_cons, List.mem_cons, not_or] at new
    rw [List.cons_append, firstSeen, ih new.2, firstSeen, List.filter_append]
    simp [new.1]

theorem firstSeen_snoc_known {last : α} (known : key last ∈ list.map key) :
    firstSeen key (list ++ [last]) = firstSeen key list := by
  induction list with
  | nil => cases known
  | cons first rest ih =>
    rw [List.cons_append, firstSeen, firstSeen]
    by_cases seen : key last ∈ rest.map key
    · rw [ih seen]
    · have own : key last = key first := by
        rw [List.map_cons, List.mem_cons] at known
        exact known.resolve_right seen
      rw [firstSeen_snoc_new seen, List.filter_append]
      simp [own]

theorem firstSeen_eq_self (distinct : (list.map key).Nodup) : firstSeen key list = list := by
  induction list with
  | nil => rfl
  | cons first rest ih =>
    rw [List.map_cons, List.nodup_cons] at distinct
    rw [firstSeen, ih distinct.2, List.filter_eq_self.2]
    intro later listed
    refine decide_eq_true ?_
    intro same
    exact distinct.1 (same ▸ List.mem_map_of_mem listed)

theorem firstSeen_length (list : List α) :
    (firstSeen key list).length = (list.map key).dedup.length := by
  have same : ((firstSeen key list).map key).Perm (list.map key).dedup := by
    refine (List.perm_ext_iff_of_nodup (firstSeen_keys_nodup list) (List.nodup_dedup _)).2 ?_
    intro k
    rw [mem_firstSeen_keys, List.mem_dedup]
  rw [← same.length_eq, List.length_map]

end

/-!
# The first element of the highest score

What a scan keeps that replaces its best element only by a strictly better one.
-/

section

variable {α β : Type} [LinearOrder β] {score : α → β} {items : List α} {best item : α}

/-- `best` has the highest score of the list, and is the first one with it. -/
def FirstMax (score : α → β) (items : List α) (best : α) : Prop :=
  ∃ before after, items = before ++ best :: after ∧
    (∀ item ∈ before, score item < score best) ∧ ∀ item ∈ after, score item ≤ score best

namespace FirstMax

theorem singleton : FirstMax score [item] item :=
  ⟨[], [], rfl, by simp, by simp⟩

section

variable (first : FirstMax score items best)

include first

theorem score_le (member : item ∈ items) : score item ≤ score best := by
  obtain ⟨before, after, rfl, lower, notHigher⟩ := first
  rw [List.mem_append, List.mem_cons] at member
  rcases member with earlier | rfl | later
  · exact (lower item earlier).le
  · exact le_refl _
  · exact notHigher item later

theorem snoc_of_le (notHigher : score item ≤ score best) :
    FirstMax score (items ++ [item]) best := by
  obtain ⟨before, after, rfl, lower, noneHigher⟩ := first
  refine ⟨before, after ++ [item], by simp, lower, ?_⟩
  intro later member
  rw [List.mem_append, List.mem_singleton] at member
  rcases member with present | rfl
  · exact noneHigher later present
  · exact notHigher

theorem snoc_of_lt (higher : score best < score item) : FirstMax score (items ++ [item]) item := by
  refine ⟨items, [], rfl, ?_, by simp⟩
  intro earlier member
  exact lt_of_le_of_lt (first.score_le member) higher

theorem mem : best ∈ items := by
  obtain ⟨before, after, rfl, -⟩ := first
  exact List.mem_append_right _ List.mem_cons_self

theorem find?_eq {top : β} (highest : score best = top) :
    items.find? (fun item => decide (top ≤ score item)) = some best := by
  obtain ⟨before, after, rfl, lower, -⟩ := first
  have skipped : before.find? (fun item => decide (top ≤ score item)) = none := by
    rw [List.find?_eq_none]
    intro item earlier reaches
    exact absurd (of_decide_eq_true reaches) (not_le_of_gt (highest ▸ lower item earlier))
  rw [List.find?_append, skipped, Option.none_or, List.find?_cons_of_pos]
  exact decide_eq_true highest.ge

end

theorem unique {other : α} (first : FirstMax score items best)
    (second : FirstMax score items other) : best = other := by
  have same : score other = score best :=
    le_antisymm (first.score_le second.mem) (second.score_le first.mem)
  exact Option.some_inj.1 ((first.find?_eq rfl).symm.trans (second.find?_eq same))

theorem foldl (first : FirstMax score items best) (more : List α) : FirstMax score (items ++ more)
      (more.foldl (fun best item => if score best < score item then item else best) best) := by
  induction more generalizing items best with
  | nil => rwa [List.append_nil]
  | cons item rest ih =>
    rw [List.append_cons, List.foldl_cons]
    refine ih ?_
    split
    · next higher => exact first.snoc_of_lt higher
    · next notHigher => exact first.snoc_of_le (not_lt.1 notHigher)

theorem exists_of_ne_nil (filled : items ≠ []) : ∃ best, FirstMax score items best := by
  cases items with
  | nil => exact absurd rfl filled
  | cons first rest => exact ⟨_, singleton.foldl rest⟩

theorem map_iff {γ : Type} {f : γ → α} {sources : List γ} :
    FirstMax score (sources.map f) best ↔
      ∃ source, FirstMax (fun source => score (f source)) sources source ∧ f source = best := by
  have map {source : γ} (first : FirstMax (fun source => score (f source)) sources source) :
      FirstMax score (sources.map f) (f source) := by
    obtain ⟨before, after, rfl, lower, notHigher⟩ := first
    refine ⟨before.map f, after.map f, by simp, ?_, ?_⟩
    · simpa only [List.forall_mem_map] using lower
    · simpa only [List.forall_mem_map] using notHigher
  constructor
  · intro first
    have filled : sources ≠ [] := by
      rintro rfl
      exact absurd first.mem List.not_mem_nil
    have leader : ∃ source, FirstMax (fun source => score (f source)) sources source :=
      exists_of_ne_nil filled
    obtain ⟨source, leads⟩ := leader
    exact ⟨source, leads, (map leads).unique first⟩
  · rintro ⟨source, leads, rfl⟩
    exact map leads

end FirstMax

end

/-!
# Sorting in any order of the input

A stable sort leaves what the order does not tell apart in the order of the input.
-/

section

variable {α β : Type} {r : α → α → Prop} [DecidableRel r]

theorem insertionSort_perm [IsTrans α r] [Std.Total r] {first second : List α}
    (same : first.Perm second) (apart : ∀ a ∈ second, ∀ b ∈ second, r a b → r b a → a = b) :
    first.insertionSort r = second.insertionSort r := by
  have sorted := (List.perm_insertionSort r first).trans same
  refine List.Perm.eq_of_pairwise ?_ (List.pairwise_insertionSort r first)
    (List.pairwise_insertionSort r second) (sorted.trans (List.perm_insertionSort r second).symm)
  intro a b inFirst inSecond below above
  exact apart a (sorted.subset inFirst) b ((List.perm_insertionSort r second).subset inSecond) below
    above

theorem not_sublist_swap {values : List β} (distinct : values.Nodup) {x y : β}
    (listed : [x, y].Sublist values) : ¬ [y, x].Sublist values := by
  induction values with
  | nil => cases listed
  | cons head rest ih =>
    intro swapped
    rw [List.nodup_cons] at distinct
    cases listed with
    | cons _ later =>
      cases swapped with
      | cons _ later' => exact ih distinct.2 later later'
      | cons_cons _ _ =>
        exact distinct.1 (later.subset (List.mem_cons_of_mem _ (List.mem_singleton_self _)))
    | cons_cons _ later =>
      cases swapped with
      | cons _ later' =>
        exact distinct.1 (later'.subset (List.mem_cons_of_mem _ (List.mem_singleton_self _)))
      | cons_cons _ _ => exact distinct.1 (later.subset (List.mem_singleton_self _))

theorem pair_sublist_or {values : List α} {x y : α} (differ : x ≠ y) (first : x ∈ values)
    (second : y ∈ values) : [x, y].Sublist values ∨ [y, x].Sublist values := by
  induction values with
  | nil => cases first
  | cons head rest ih =>
    rcases List.mem_cons.1 first with rfl | first'
    · have later : y ∈ rest := (List.mem_cons.1 second).resolve_left (Ne.symm differ)
      exact .inl ((List.singleton_sublist.2 later).cons_cons x)
    · rcases List.mem_cons.1 second with rfl | second'
      · exact .inr ((List.singleton_sublist.2 first').cons_cons y)
      · exact (ih first' second').imp (List.Sublist.cons head) (List.Sublist.cons head)

theorem sort_map_independent_iff [IsTrans α r] [Std.Total r] {read : α → β} {items : List α}
    (distinct : (items.map read).Nodup) :
    (∀ other : List α, other.Perm items →
        (other.insertionSort r).map read = (items.insertionSort r).map read) ↔
      ∀ a ∈ items, ∀ b ∈ items, r a b → r b a → read a = read b := by
  constructor
  · intro independent a inItems b inItems' below above
    by_contra differ
    have nodup : ((items.insertionSort r).map read).Nodup :=
      ((List.perm_insertionSort r items).map read).nodup_iff.2 distinct
    have reversed := independent items.reverse (List.reverse_perm items)
    -- both orders of the two, in the input and in its reverse, are those of the sorted list
    have both {x y : α} (tied : r x y) (tied' : r y x) (order : [x, y].Sublist items)
        : [read x, read y].Sublist ((items.insertionSort r).map read) ∧
          [read y, read x].Sublist ((items.insertionSort r).map read) := by
      refine ⟨(List.pair_sublist_insertionSort tied order).map read, ?_⟩
      rw [← reversed]
      exact (List.pair_sublist_insertionSort tied' order.reverse).map read
    rcases pair_sublist_or (fun same => differ (congrArg read same)) inItems inItems' with
      order | order
    · exact not_sublist_swap nodup (both below above order).1 (both below above order).2
    · exact not_sublist_swap nodup (both above below order).1 (both above below order).2
  · intro same other arranged
    rw [insertionSort_perm arranged]
    intro a inItems b inItems' below above
    exact List.inj_on_of_nodup_map distinct inItems inItems' (same a inItems b inItems' below above)

end
