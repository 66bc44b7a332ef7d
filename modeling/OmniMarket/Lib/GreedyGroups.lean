import Mathlib

/-!
# Greedy grouping

Items are taken in order. Each joins the first group whose leader it fits, or leads a new group.
Which items fit need not be symmetric or transitive, so the groups depend on the order; the items
they have together do not.
-/

namespace GreedyGroups

variable {α β : Type}

/-- Changes the first entry that passes the test, or appends a fresh one. -/
def settle (test : β → Bool) (change : β → β) (fresh : β) : List β → List β
  | [] => [fresh]
  | held :: rest => if test held then change held :: rest else held :: settle test change fresh rest

structure LedGroup (α : Type) where
  leader : α
  followers : List α

def LedGroup.members (group : LedGroup α) : List α := group.leader :: group.followers

def LedGroup.add (item : α) (group : LedGroup α) : LedGroup α :=
  { group with followers := group.followers ++ [item] }

theorem LedGroup.members_add (item : α) (group : LedGroup α) :
    (group.add item).members = group.members ++ [item] := rfl

def place (fits : α → α → Bool) (item : α) : List (LedGroup α) → List (LedGroup α) :=
  settle (fun group => fits group.leader item) (LedGroup.add item) ⟨item, []⟩

def grouped (fits : α → α → Bool) (items : List α) : List (LedGroup α) :=
  items.foldl (fun groups item => place fits item groups) []

theorem grouped_snoc (fits : α → α → Bool) (items : List α) (item : α) :
    grouped fits (items ++ [item]) = place fits item (grouped fits items) := by
  unfold grouped
  rw [List.foldl_append, List.foldl_cons, List.foldl_nil]

variable {fits : α → α → Bool} {items : List α}

theorem place_perm (item : α) (groups : List (LedGroup α)) :
    ((place fits item groups).flatMap LedGroup.members).Perm
      (groups.flatMap LedGroup.members ++ [item]) := by
  induction groups with
  | nil => exact .refl _
  | cons group rest ih =>
    unfold place settle
    split_ifs
    · rw [List.flatMap_cons, List.flatMap_cons, LedGroup.members_add, List.append_assoc,
        List.append_assoc]
      exact (List.perm_append_comm).append_left _
    · rw [List.flatMap_cons, List.flatMap_cons, List.append_assoc]
      exact ih.append_left _

theorem grouped_perm (fits : α → α → Bool) (items : List α) :
    ((grouped fits items).flatMap LedGroup.members).Perm items := by
  induction items using List.reverseRecOn with
  | nil => exact .refl _
  | append_singleton before item ih =>
    rw [grouped_snoc]
    exact (place_perm item _).trans (ih.append_right _)

theorem place_fits {item : α} {groups : List (LedGroup α)}
    (held : ∀ group ∈ groups, ∀ follower ∈ group.followers, fits group.leader follower = true) :
    ∀ group ∈ place fits item groups, ∀ follower ∈ group.followers,
      fits group.leader follower = true := by
  induction groups with
  | nil =>
    intro group listed follower among
    rw [List.mem_singleton.1 listed] at among
    cases among
  | cons first rest ih =>
    obtain ⟨own, others⟩ := List.forall_mem_cons.1 held
    unfold place settle
    split_ifs with joins
    · refine List.forall_mem_cons.2 ⟨fun follower among => ?_, others⟩
      rcases List.mem_append.1 among with earlier | last
      · exact own follower earlier
      · exact List.mem_singleton.1 last ▸ joins
    · exact List.forall_mem_cons.2 ⟨own, ih others⟩

theorem grouped_fits {group : LedGroup α} (listed : group ∈ grouped fits items) {follower : α}
    (among : follower ∈ group.followers) : fits group.leader follower = true := by
  induction items using List.reverseRecOn generalizing group follower with
  | nil => cases listed
  | append_singleton before item ih =>
    rw [grouped_snoc] at listed
    exact place_fits (fun _ held _ within => ih held within) group listed follower among

variable (fits) in
theorem exists_group {item : α} (listed : item ∈ items) :
    ∃ group ∈ grouped fits items, item ∈ group.members ∧
      (item = group.leader ∨ fits group.leader item = true) := by
  obtain ⟨group, held, member⟩ :=
    List.mem_flatMap.1 ((grouped_perm fits items).mem_iff.2 listed)
  refine ⟨group, held, member, ?_⟩
  rcases List.mem_cons.1 member with leads | follows
  · exact Or.inl leads
  · exact Or.inr (grouped_fits held follows)

end GreedyGroups
