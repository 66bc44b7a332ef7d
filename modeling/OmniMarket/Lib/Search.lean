import Mathlib.Data.List.Forall2

/-!
# Walks over a list that may fail

`List.findSomeM?` over `Except` walks a list until a probe selects an element
or raises. The lemmas invert a finished walk: where it stopped, and what the
probe returned before that point. A walk with `List.mapM` visits every element, so
it finishes exactly if no probe raises.
-/

namespace Search

variable {α β ε : Type} {items : List α}

theorem findSomeM?_nil (probe : α → Except ε (Option β)) :
    List.findSomeM? probe [] = .ok none := rfl

variable {probe : α → Except ε (Option β)} {head : α} {tail : List α}

theorem findSomeM?_cons_none (skipped : probe head = .ok none) :
    (head :: tail).findSomeM? probe = tail.findSomeM? probe := by
  simp only [List.findSomeM?, skipped]
  rfl

theorem findSomeM?_cons_some {found : β} (hit : probe head = .ok (some found)) :
    (head :: tail).findSomeM? probe = .ok (some found) := by
  simp only [List.findSomeM?, hit]
  rfl

theorem findSomeM?_cons_error {raised : ε} (failed : probe head = .error raised) :
    (head :: tail).findSomeM? probe = .error raised := by
  simp only [List.findSomeM?, failed]
  rfl

theorem findSomeM?_eq_ok_some {found : β} :
    items.findSomeM? probe = .ok (some found) ↔
      ∃ before hit after, items = before ++ hit :: after ∧
        (∀ item ∈ before, probe item = .ok none) ∧ probe hit = .ok (some found) := by
  constructor
  · intro walked
    induction items with
    | nil =>
      rw [findSomeM?_nil] at walked
      cases walked
    | cons head tail ih =>
      match probed : probe head with
      | .error raised =>
        rw [findSomeM?_cons_error probed] at walked
        cases walked
      | .ok (some other) =>
        rw [findSomeM?_cons_some probed] at walked
        cases walked
        exact ⟨[], head, tail, rfl, by simp, probed⟩
      | .ok none =>
        rw [findSomeM?_cons_none probed] at walked
        obtain ⟨before, hit, after, split, skipped, selected⟩ := ih walked
        refine ⟨head :: before, hit, after, by simp [split], ?_, selected⟩
        intro item member
        cases List.mem_cons.mp member with
        | inl equal => exact equal ▸ probed
        | inr later => exact skipped item later
  · rintro ⟨before, hit, after, rfl, skipped, selected⟩
    induction before with
    | nil => exact findSomeM?_cons_some selected
    | cons head tail ih =>
      rw [List.cons_append, findSomeM?_cons_none (skipped head (by simp))]
      exact ih fun item member => skipped item (by simp [member])

theorem findSomeM?_eq_ok_none :
    items.findSomeM? probe = .ok none ↔ ∀ item ∈ items, probe item = .ok none := by
  induction items with
  | nil =>
    rw [findSomeM?_nil]
    simp
  | cons head tail ih =>
    rw [List.forall_mem_cons]
    match probed : probe head with
    | .error raised =>
      rw [findSomeM?_cons_error probed]
      simp
    | .ok (some other) =>
      rw [findSomeM?_cons_some probed]
      simp
    | .ok none =>
      rw [findSomeM?_cons_none probed, ih]
      simp

/-! ## Full walks -/

variable {probe : α → Except ε β}

theorem mapM_cons_ok {hit : β} (probed : probe head = .ok hit) :
    (head :: tail).mapM probe = (tail.mapM probe).map (hit :: ·) := by
  rw [List.mapM_cons, probed]
  cases tail.mapM probe <;> rfl

theorem mapM_cons_error {raised : ε}
    (failed : probe head = .error raised) : (head :: tail).mapM probe = .error raised := by
  rw [List.mapM_cons, failed]
  rfl

theorem mapM_map_congr {γ : Type} {f : γ → α} {probe : γ → Except ε β} {probe' : α → Except ε β}
    {items : List γ} (agree : ∀ item ∈ items, probe item = probe' (f item)) :
    items.mapM probe = (items.map f).mapM probe' := by
  induction items with
  | nil => rfl
  | cons head tail ih =>
    have later := ih fun item member => agree item (List.mem_cons_of_mem _ member)
    rw [List.map_cons, List.mapM_cons, List.mapM_cons, agree head List.mem_cons_self, later]

variable {hits : List β}

theorem mapM_eq_ok :
    items.mapM probe = .ok hits ↔ List.Forall₂ (fun item hit => probe item = .ok hit) items hits := by
  induction items generalizing hits with
  | nil =>
    rw [List.mapM_nil, List.forall₂_nil_left_iff]
    exact ⟨fun walked => (Except.ok.inj walked).symm, fun empty => by rw [empty]; rfl⟩
  | cons head tail ih =>
    rw [List.forall₂_cons_left_iff]
    match probed : probe head with
    | .error raised =>
      rw [mapM_cons_error probed]
      constructor
      · exact nofun
      · rintro ⟨hit, rest, found, -⟩
        cases found
    | .ok found =>
      rw [mapM_cons_ok probed]
      constructor
      · intro walked
        match visited : tail.mapM probe with
        | .error raised =>
          rw [visited] at walked
          cases walked
        | .ok rest =>
          rw [visited] at walked
          exact ⟨found, rest, rfl, ih.mp visited, (Except.ok.inj walked).symm⟩
      · rintro ⟨hit, rest, same, visited, rfl⟩
        rw [ih.mpr visited, Except.ok.inj same]
        rfl

theorem exists_mapM_eq_ok :
    (∃ hits, items.mapM probe = .ok hits) ↔ ∀ item ∈ items, ∃ hit, probe item = .ok hit := by
  simp only [mapM_eq_ok]
  induction items with
  | nil => simp
  | cons head tail ih =>
    rw [List.forall_mem_cons, ← ih]
    constructor
    · rintro ⟨_, visited⟩
      obtain ⟨hit, hits, probed, rest, -⟩ := List.forall₂_cons_left_iff.mp visited
      exact ⟨⟨hit, probed⟩, hits, rest⟩
    · rintro ⟨⟨hit, probed⟩, hits, rest⟩
      exact ⟨hit :: hits, .cons probed rest⟩

theorem map_of_mapM_mem {γ : Type} {f : α → γ} {g : β → γ}
    (walked : items.mapM probe = .ok hits)
    (kept : ∀ item ∈ items, ∀ hit, probe item = .ok hit → g hit = f item) :
    hits.map g = items.map f := by
  have pairs := mapM_eq_ok.1 walked
  clear walked
  induction pairs with
  | nil => rfl
  | cons probed _ ih =>
    obtain ⟨first, rest⟩ := List.forall_mem_cons.1 kept
    rw [List.map_cons, List.map_cons, ih rest, first _ probed]

theorem map_of_mapM {γ : Type} {f : α → γ} {g : β → γ} (walked : items.mapM probe = .ok hits)
    (kept : ∀ item hit, probe item = .ok hit → g hit = f item) : hits.map g = items.map f :=
  map_of_mapM_mem walked fun item _ => kept item

theorem mem_of_mapM (walked : items.mapM probe = .ok hits)
    (hit : β) : hit ∈ hits ↔ ∃ item ∈ items, probe item = .ok hit := by
  have visited := mapM_eq_ok.mp walked
  clear walked
  induction visited with
  | nil => simp
  | cons probed _ ih => simp [ih, probed, eq_comm]

theorem nodup_flatten_of_mapM {γ : Type} {trait : β → γ} {probe : α → Except ε (List β)}
    {groups : List (List β)} (walked : items.mapM probe = .ok groups) (distinct : items.Nodup)
    (inside : ∀ item ∈ items, ∀ group, probe item = .ok group → (group.map trait).Nodup)
    (apart : ∀ item ∈ items, ∀ other ∈ items, ∀ group group', probe item = .ok group →
      probe other = .ok group' → ∀ hit ∈ group, ∀ hit' ∈ group', trait hit = trait hit' →
        item = other) : (groups.flatten.map trait).Nodup := by
  have visited := mapM_eq_ok.mp walked
  clear walked
  induction visited with
  | nil => exact List.nodup_nil
  | @cons head group tail groups probed later ih =>
    obtain ⟨unseen, rest⟩ := List.nodup_cons.1 distinct
    rw [List.flatten_cons, List.map_append]
    refine List.nodup_append.2 ⟨inside head List.mem_cons_self group probed, ?_, ?_⟩
    · exact ih rest (fun item member => inside item (List.mem_cons_of_mem _ member))
        fun item member other member' =>
          apart item (List.mem_cons_of_mem _ member) other (List.mem_cons_of_mem _ member')
    · intro first listed second listed' same
      obtain ⟨hit, own, rfl⟩ := List.mem_map.1 listed
      obtain ⟨hit', behind, rfl⟩ := List.mem_map.1 listed'
      obtain ⟨group', among, own'⟩ := List.mem_flatten.1 behind
      obtain ⟨item, member, probed'⟩ := (mem_of_mapM (mapM_eq_ok.mpr later) group').1 among
      have heads := apart head List.mem_cons_self item (List.mem_cons_of_mem _ member) group group'
        probed probed' hit own hit' own' same
      exact unseen (heads ▸ member)

/-! ## Preference -/

/-- `item` is the first of `items` among those that hold and have the least rank. -/
def Preferred (holds : α → Prop) (rank : α → ℕ) (items : List α) (item : α) : Prop :=
  ∃ before after, items = before ++ item :: after ∧ holds item ∧
    (∀ other ∈ before, holds other → rank item < rank other) ∧
    ∀ other ∈ after, holds other → rank item ≤ rank other

section

variable {holds : α → Prop} {rank : α → ℕ} {items : List α} {item item' : α}

section

variable (preferred : Preferred holds rank items item)

include preferred

theorem Preferred.mem : item ∈ items := by
  obtain ⟨before, after, rfl, -⟩ := preferred
  simp

theorem Preferred.held : holds item := by
  obtain ⟨_, _, _, held, _⟩ := preferred
  exact held

theorem Preferred.unique (preferred' : Preferred holds rank items item') : item = item' := by
  obtain ⟨before, after, rfl, held, earlier, later⟩ := preferred
  obtain ⟨before', after', split, held', earlier', later'⟩ := preferred'
  rcases List.append_eq_append_iff.mp split with ⟨middle, left, right⟩ | ⟨middle, left, right⟩
  · rcases List.cons_eq_append_iff.mp right with ⟨-, same⟩ | ⟨rest, rfl, rest_eq⟩
    · exact (List.cons.inj same).1.symm
    · -- `item` stands before `item'`, which would have to be strictly better.
      have worse := earlier' item (by simp [left]) held
      have better := later item' (by simp [rest_eq]) held'
      exact absurd worse (Nat.not_lt.mpr better)
  · rcases List.cons_eq_append_iff.mp right with ⟨-, same⟩ | ⟨rest, rfl, rest_eq⟩
    · exact (List.cons.inj same).1
    · have worse := earlier item' (by simp [left]) held'
      have better := later' item (by simp [rest_eq]) held
      exact absurd worse (Nat.not_lt.mpr better)

end

theorem Preferred.of_find? {test : α → Bool} (found : items.find? test = some item)
    (held : holds item) (least : ∀ other ∈ items, holds other → rank item ≤ rank other)
    (covers : ∀ other ∈ items, holds other → rank other = rank item → test other = true) :
    Preferred holds rank items item := by
  obtain ⟨-, before, after, rfl, skipped⟩ := List.find?_eq_some_iff_append.mp found
  refine ⟨before, after, rfl, held, ?_, ?_⟩
  · intro other member otherHolds
    have bound := least other (List.mem_append_left _ member) otherHolds
    refine Nat.lt_of_le_of_ne bound fun same => ?_
    have tested := covers other (List.mem_append_left _ member) otherHolds same.symm
    have missed := skipped other member
    rw [tested] at missed
    cases missed
  · intro other member otherHolds
    exact least other (by simp [member]) otherHolds

/-! ### Cascades -/

/-- The rank of an element in a cascade of two passes and a last one. -/
def cascadeRank (first second : α → Bool) (item : α) : ℕ :=
  if first item then 0 else if second item then 1 else 2

/-- Three passes over `items`, each of which wants less of an element that `holds`. -/
def cascade (first second holds : α → Bool) (items : List α) : Option α :=
  items.find? (fun item => first item && holds item) <|>
    items.find? (fun item => second item && holds item) <|> items.find? holds

variable {first second test : α → Bool}

theorem cascade_isSome (member : item ∈ items) (held : test item = true) :
    (cascade first second test items).isSome := by
  have found : (items.find? test).isSome := List.find?_isSome.mpr ⟨item, member, held⟩
  unfold cascade
  cases items.find? fun item => first item && test item with
  | some _ => rfl
  | none =>
    cases items.find? fun item => second item && test item with
    | some _ => rfl
    | none => exact found

theorem Preferred.of_cascade (found : cascade first second test items = some item) :
    Preferred (test · = true) (cascadeRank first second) items item := by
  unfold cascade at found
  match one : items.find? fun item => first item && test item with
  | some other =>
    rw [one] at found
    cases found
    have tested := List.find?_some one
    rw [Bool.and_eq_true] at tested
    have rank : cascadeRank first second item = 0 := by rw [cascadeRank, if_pos tested.1]
    refine Preferred.of_find? one tested.2 (fun other _ _ => by omega) ?_
    intro other _ held same
    rw [rank, cascadeRank] at same
    split at same
    · simp [*]
    · split at same <;> cases same
  | none =>
    -- no item passes the first test, so the first rank is empty
    have unmatched : ∀ other ∈ items, test other = true → ¬first other = true := by
      intro other member held matched
      have missed := List.find?_eq_none.mp one other member
      simp [held, matched] at missed
    rw [one] at found
    match two : items.find? fun item => second item && test item with
    | some other =>
      rw [two] at found
      cases found
      have member := List.mem_of_find?_eq_some two
      have tested := List.find?_some two
      rw [Bool.and_eq_true] at tested
      have rank : cascadeRank first second item = 1 := by
        rw [cascadeRank, if_neg (unmatched item member tested.2), if_pos tested.1]
      refine Preferred.of_find? two tested.2 ?_ ?_
      · intro other otherMember held
        rw [rank, cascadeRank, if_neg (unmatched other otherMember held)]
        split <;> omega
      · intro other otherMember held same
        rw [rank, cascadeRank, if_neg (unmatched other otherMember held)] at same
        split at same
        · simp [*]
        · cases same
    | none =>
      rw [two] at found
      have three : items.find? test = some item := found
      have rank : ∀ other ∈ items, test other = true → cascadeRank first second other = 2 := by
        intro other member held
        have missed := List.find?_eq_none.mp two other member
        have unmatched' : ¬second other = true := fun matched => missed (by simp [held, matched])
        rw [cascadeRank, if_neg (unmatched other member held), if_neg unmatched']
      have member := List.mem_of_find?_eq_some three
      have held := List.find?_some three
      refine Preferred.of_find? three held ?_ fun other _ otherHeld _ => otherHeld
      intro other otherMember otherHeld
      exact Nat.le_of_eq
        ((rank item member held).trans (rank other otherMember otherHeld).symm)

theorem cascade_eq_some :
    cascade first second test items = some item ↔
      Preferred (test · = true) (cascadeRank first second) items item := by
  refine ⟨Preferred.of_cascade, fun preferred => ?_⟩
  have some_found := @cascade_isSome _ items item first second test preferred.mem preferred.held
  obtain ⟨found, walked⟩ := Option.isSome_iff_exists.mp some_found
  rw [walked, (Preferred.of_cascade walked).unique preferred]

end

end Search
