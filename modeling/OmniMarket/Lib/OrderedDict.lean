import Mathlib.Data.List.Induction
import Mathlib.Data.List.Nodup

/-!
# Dictionaries in insertion order

A Python `dict`: its keys are distinct and keep the order in which they were first set.
Setting a key that is there replaces its value in place.
-/

structure OrderedDict (κ ν : Type) where
  entries : List (κ × ν)
  nodup : (entries.map Prod.fst).Nodup

namespace OrderedDict

variable {κ ν : Type} [DecidableEq κ] {key : κ}

def lookupEntry (key : κ) : List (κ × ν) → Option ν
  | [] => none
  | (other, value) :: rest => if other = key then some value else lookupEntry key rest

def setEntry (key : κ) (value : ν) : List (κ × ν) → List (κ × ν)
  | [] => [(key, value)]
  | (other, held) :: rest =>
    if other = key then (key, value) :: rest else (other, held) :: setEntry key value rest

theorem lookupEntry_eq_none {entries : List (κ × ν)}
    (absent : key ∉ entries.map Prod.fst) : lookupEntry key entries = none := by
  induction entries with
  | nil => rfl
  | cons entry rest ih =>
    rw [List.map_cons, List.mem_cons, not_or] at absent
    rw [lookupEntry, if_neg (Ne.symm absent.1), ih absent.2]

theorem setEntry_keys (key : κ) (value : ν) (entries : List (κ × ν)) :
    (setEntry key value entries).map Prod.fst =
      if key ∈ entries.map Prod.fst then entries.map Prod.fst
      else entries.map Prod.fst ++ [key] := by
  induction entries with
  | nil => simp [setEntry]
  | cons entry rest ih =>
    obtain ⟨other, held⟩ := entry
    rw [setEntry]
    by_cases same : other = key
    · subst same
      simp
    · by_cases listed : key ∈ rest.map Prod.fst
      · have there : key ∈ ((other, held) :: rest).map Prod.fst :=
          List.mem_cons_of_mem _ listed
        rw [if_pos there, if_neg same, List.map_cons, ih, if_pos listed, List.map_cons]
      · have fresh : key ∉ ((other, held) :: rest).map Prod.fst := by
          rw [List.map_cons, List.mem_cons]
          exact not_or.2 ⟨Ne.symm same, listed⟩
        rw [if_neg fresh, if_neg same, List.map_cons, ih, if_neg listed, List.map_cons,
          List.cons_append]

variable {value : ν}

theorem setEntry_nodup {entries : List (κ × ν)} (nodup : (entries.map Prod.fst).Nodup) :
    ((setEntry key value entries).map Prod.fst).Nodup := by
  rw [setEntry_keys]
  split
  · exact nodup
  · next fresh =>
    rw [List.nodup_append]
    refine ⟨nodup, List.nodup_singleton key, ?_⟩
    intro listed member other single
    rw [List.mem_singleton] at single
    subst single
    intro same
    exact fresh (same ▸ member)

def empty : OrderedDict κ ν := ⟨[], List.nodup_nil⟩

section

variable (dict : OrderedDict κ ν)

/-- `d.get(key)`. -/
def get? (key : κ) : Option ν := lookupEntry key dict.entries

/-- `d[key] = value`. -/
def set (key : κ) (value : ν) : OrderedDict κ ν :=
  ⟨setEntry key value dict.entries, setEntry_nodup dict.nodup⟩

/-- `d.pop(key, None)`, without its result. -/
def erase (key : κ) : OrderedDict κ ν where
  entries := dict.entries.filter fun entry => entry.1 ≠ key
  nodup := (List.filter_sublist.map Prod.fst).nodup dict.nodup

/-- `list(d)`. -/
def keys : List κ := dict.entries.map Prod.fst

def values : List ν := dict.entries.map Prod.snd

/-- `len(d)`. -/
def size : ℕ := dict.entries.length

@[simp] theorem get?_empty (key : κ) : (empty : OrderedDict κ ν).get? key = none := rfl

@[simp] theorem get?_set_self (key : κ) (value : ν) :
    (dict.set key value).get? key = some value := by
  show lookupEntry key (setEntry key value dict.entries) = some value
  induction dict.entries with
  | nil => simp [setEntry, lookupEntry]
  | cons entry rest ih =>
    rw [setEntry]
    split
    · simp [lookupEntry]
    · next differs => rw [lookupEntry, if_neg differs, ih]

end

variable {dict : OrderedDict κ ν}

theorem get?_set_other {key other : κ} (differs : key ≠ other) :
    (dict.set other value).get? key = dict.get? key := by
  show lookupEntry key (setEntry other value dict.entries) = lookupEntry key dict.entries
  induction dict.entries with
  | nil => simp [setEntry, lookupEntry, Ne.symm differs]
  | cons entry rest ih =>
    obtain ⟨first, held⟩ := entry
    rw [setEntry]
    split
    · next same =>
      rw [lookupEntry, lookupEntry, if_neg (Ne.symm differs), if_neg (same ▸ Ne.symm differs)]
    · rw [lookupEntry, lookupEntry, ih]

@[simp] theorem get?_erase_self (dict : OrderedDict κ ν) (key : κ) :
    (dict.erase key).get? key = none := by
  show lookupEntry key (dict.entries.filter fun entry => entry.1 ≠ key) = none
  induction dict.entries with
  | nil => rfl
  | cons entry rest ih =>
    rw [List.filter_cons]
    split
    · next kept => rw [lookupEntry, if_neg (of_decide_eq_true kept), ih]
    · exact ih

theorem get?_erase_other {key other : κ} (differs : key ≠ other) :
    (dict.erase other).get? key = dict.get? key := by
  show lookupEntry key (dict.entries.filter fun entry => entry.1 ≠ other) =
    lookupEntry key dict.entries
  induction dict.entries with
  | nil => rfl
  | cons entry rest ih =>
    rw [List.filter_cons]
    split
    · rw [lookupEntry, lookupEntry, ih]
    · next dropped =>
      have same : entry.1 = other := by simpa using dropped
      rw [ih, lookupEntry, if_neg (same ▸ Ne.symm differs)]

theorem mem_keys : key ∈ dict.keys ↔ ∃ value, dict.get? key = some value := by
  show key ∈ dict.entries.map Prod.fst ↔ ∃ value, lookupEntry key dict.entries = some value
  induction dict.entries with
  | nil => simp [lookupEntry]
  | cons entry rest ih =>
    rw [List.map_cons, List.mem_cons, lookupEntry]
    by_cases same : entry.1 = key
    · simp [same]
    · rw [if_neg same, ← ih]
      exact or_iff_right (Ne.symm same)

omit [DecidableEq κ] in
theorem ext {first second : OrderedDict κ ν} (same : first.entries = second.entries) :
    first = second := by
  cases first
  cases second
  cases same
  rfl

theorem mem_entries : (key, value) ∈ dict.entries ↔ dict.get? key = some value := by
  obtain ⟨entries, nodup⟩ := dict
  show (key, value) ∈ entries ↔ lookupEntry key entries = some value
  induction entries with
  | nil => simp [lookupEntry]
  | cons entry rest ih =>
    obtain ⟨other, held⟩ := entry
    rw [List.map_cons, List.nodup_cons] at nodup
    rw [lookupEntry, List.mem_cons]
    by_cases same : other = key
    · subst same
      rw [if_pos rfl, Option.some_inj, Prod.mk.injEq]
      constructor
      · rintro (⟨-, own⟩ | later)
        · exact own.symm
        · exact absurd (List.mem_map_of_mem later) nodup.1
      · intro own
        exact .inl ⟨rfl, own.symm⟩
    · rw [if_neg same, ← ih nodup.2]
      refine or_iff_right ?_
      intro first
      exact same (Prod.mk.inj first).1.symm

theorem mem_values : value ∈ dict.values ↔ ∃ key, dict.get? key = some value := by
  show value ∈ dict.entries.map Prod.snd ↔ _
  rw [List.mem_map]
  constructor
  · rintro ⟨⟨key, held⟩, listed, rfl⟩
    exact ⟨key, mem_entries.1 listed⟩
  · rintro ⟨key, found⟩
    exact ⟨(key, value), mem_entries.2 found, rfl⟩

theorem set_fresh (fresh : key ∉ dict.keys) :
    (dict.set key value).entries = dict.entries ++ [(key, value)] := by
  obtain ⟨entries, nodup⟩ := dict
  show setEntry key value entries = entries ++ [(key, value)]
  replace fresh : key ∉ entries.map Prod.fst := fresh
  clear nodup
  induction entries with
  | nil => rfl
  | cons entry rest ih =>
    rw [List.map_cons, List.mem_cons, not_or] at fresh
    rw [setEntry, if_neg (Ne.symm fresh.1), ih fresh.2, List.cons_append]

theorem set_get? (held : dict.get? key = some value) : dict.set key value = dict := by
  refine ext ?_
  obtain ⟨entries, nodup⟩ := dict
  show setEntry key value entries = entries
  replace held : lookupEntry key entries = some value := held
  clear nodup
  induction entries with
  | nil => cases held
  | cons entry rest ih =>
    obtain ⟨other, first⟩ := entry
    rw [lookupEntry] at held
    rw [setEntry]
    split
    · next same =>
      rw [if_pos same] at held
      rw [← same, Option.some.inj held]
    · next differs =>
      rw [if_neg differs] at held
      rw [ih held]

theorem entries_perm {first second : OrderedDict κ ν}
    (same : ∀ key, first.get? key = second.get? key) : first.entries.Perm second.entries := by
  refine (List.perm_ext_iff_of_nodup first.nodup.of_map second.nodup.of_map).2 ?_
  rintro ⟨key, value⟩
  rw [mem_entries, mem_entries, same]

/-! ## Folds by key -/

section FoldByKey

variable {ε : Type} {key : ε → κ} {fold : Option ν → ε → ν}

def foldByKey (key : ε → κ) (fold : Option ν → ε → ν) (dict : OrderedDict κ ν) (events : List ε) :
    OrderedDict κ ν :=
  events.foldl (fun dict event => dict.set (key event) (fold (dict.get? (key event)) event)) dict

theorem foldByKey_append (dict : OrderedDict κ ν) (before after : List ε) :
    foldByKey key fold dict (before ++ after) =
      foldByKey key fold (foldByKey key fold dict before) after := by
  rw [foldByKey, List.foldl_append]
  rfl

theorem get?_foldByKey (dict : OrderedDict κ ν) (events : List ε) (k : κ) :
    (foldByKey key fold dict events).get? k =
      (events.filter fun event => key event = k).foldl (fun held event => some (fold held event))
        (dict.get? k) := by
  induction events generalizing dict with
  | nil => rfl
  | cons event rest ih =>
    rw [foldByKey, List.foldl_cons]
    refine (ih _).trans ?_
    rw [List.filter_cons]
    by_cases own : key event = k
    · subst own
      rw [get?_set_self, if_pos (decide_eq_true rfl), List.foldl_cons]
    · rw [get?_set_other (Ne.symm own), if_neg (by simpa using own)]

variable {events : List ε}

theorem keys_foldByKey {k : κ} (listed : k ∈ (foldByKey key fold dict events).keys) :
    k ∈ dict.keys ∨ k ∈ events.map key := by
  induction events generalizing dict with
  | nil => exact .inl listed
  | cons event rest ih =>
    rw [List.map_cons, List.mem_cons]
    rcases ih listed with held | later
    · by_cases own : k = key event
      · exact .inr (.inl own)
      · rw [mem_keys, get?_set_other own, ← mem_keys] at held
        exact .inl held
    · exact .inr (.inr later)

theorem get?_foldByKey_unlisted {k : κ} (unlisted : k ∉ events.map key) :
    (foldByKey key fold empty events).get? k = none := by
  refine Option.eq_none_iff_forall_not_mem.2 ?_
  intro value found
  rcases keys_foldByKey (mem_keys.2 ⟨value, found⟩) with held | listed
  · exact absurd held List.not_mem_nil
  · exact unlisted listed

theorem foldByKey_distinct (distinct : (events.map key).Nodup) :
    (foldByKey key fold empty events).entries =
      events.map fun event => (key event, fold none event) := by
  induction events using List.reverseRecOn with
  | nil => rfl
  | append_singleton before event ih =>
    rw [List.map_append, List.nodup_append] at distinct
    obtain ⟨earlier, -, apart⟩ := distinct
    have fresh : key event ∉ (foldByKey key fold empty before).keys := by
      intro listed
      rcases keys_foldByKey listed with held | again
      · exact absurd held List.not_mem_nil
      · exact apart _ again _ (List.mem_singleton.2 rfl) rfl
    have unset : (foldByKey key fold empty before).get? (key event) = none := by
      refine Option.eq_none_iff_forall_not_mem.2 ?_
      intro value found
      exact fresh (mem_keys.2 ⟨value, found⟩)
    rw [foldByKey_append]
    show ((foldByKey key fold empty before).set (key event)
      (fold ((foldByKey key fold empty before).get? (key event)) event)).entries = _
    rw [set_fresh fresh, unset, ih earlier, List.map_append]
    rfl

theorem keys_foldByKey_distinct (distinct : (events.map key).Nodup) :
    (foldByKey key fold empty events).keys = events.map key := by
  rw [keys, foldByKey_distinct distinct, List.map_map]
  rfl

theorem get?_foldByKey_distinct (distinct : (events.map key).Nodup) {event : ε} :
    (foldByKey key (fun _ later => later) empty events).get? (key event) = some event ↔
      event ∈ events := by
  rw [← mem_entries, foldByKey_distinct distinct, List.mem_map]
  constructor
  · rintro ⟨other, listed, same⟩
    obtain rfl : other = event := (Prod.mk.inj same).2
    exact listed
  · intro listed
    exact ⟨event, listed, rfl⟩

end FoldByKey

/-! ## Values under a function -/

variable {μ : Type}

/-- The dictionary with a function applied to its values. -/
def mapValues (f : ν → μ) (dict : OrderedDict κ ν) : OrderedDict κ μ where
  entries := dict.entries.map fun entry => (entry.1, f entry.2)
  nodup := by
    rw [List.map_map]
    exact dict.nodup

theorem get?_mapValues (f : ν → μ) (dict : OrderedDict κ ν) (key : κ) :
    (dict.mapValues f).get? key = (dict.get? key).map f := by
  show lookupEntry key (dict.entries.map fun entry => (entry.1, f entry.2)) =
    (lookupEntry key dict.entries).map f
  induction dict.entries with
  | nil => rfl
  | cons entry rest ih =>
    rw [List.map_cons, lookupEntry, lookupEntry]
    split
    · rfl
    · exact ih

theorem mapValues_set (f : ν → μ) (dict : OrderedDict κ ν) (key : κ) (value : ν) :
    (dict.mapValues f).set key (f value) = (dict.set key value).mapValues f := by
  refine ext ?_
  show setEntry key (f value) (dict.entries.map fun entry => (entry.1, f entry.2)) =
    (setEntry key value dict.entries).map fun entry => (entry.1, f entry.2)
  induction dict.entries with
  | nil => rfl
  | cons entry rest ih =>
    rw [List.map_cons, setEntry, setEntry]
    split
    · rfl
    · rw [ih]
      rfl

omit [DecidableEq κ] in
theorem filterMap_keys_sublist (f : ν → Option μ) (entries : List (κ × ν)) :
    ((entries.filterMap fun entry => (f entry.2).map (entry.1, ·)).map Prod.fst).Sublist
      (entries.map Prod.fst) := by
  induction entries with
  | nil => exact List.Sublist.refl _
  | cons entry rest ih =>
    rw [List.filterMap_cons]
    cases f entry.2 with
    | none => exact ih.cons entry.1
    | some value => exact ih.cons_cons entry.1

/-- The dictionary of the values that a function keeps. -/
def filterMapValues (f : ν → Option μ) (dict : OrderedDict κ ν) : OrderedDict κ μ where
  entries := dict.entries.filterMap fun entry => (f entry.2).map (entry.1, ·)
  nodup := (filterMap_keys_sublist f dict.entries).nodup dict.nodup

theorem get?_filterMapValues (f : ν → Option μ) (dict : OrderedDict κ ν) (key : κ) :
    (dict.filterMapValues f).get? key = (dict.get? key).bind f := by
  refine Option.ext fun value => ?_
  rw [← mem_entries, Option.bind_eq_some_iff]
  show (key, value) ∈ dict.entries.filterMap _ ↔ _
  rw [List.mem_filterMap]
  constructor
  · rintro ⟨⟨other, held⟩, listed, kept⟩
    obtain ⟨_, found, same⟩ := Option.map_eq_some_iff.1 kept
    cases same
    exact ⟨held, mem_entries.1 listed, found⟩
  · rintro ⟨held, found, kept⟩
    exact ⟨(key, held), mem_entries.2 found, by rw [kept, Option.map_some]⟩

end OrderedDict

/-!
# Items grouped by a key

A Python `defaultdict(list)` to which items are appended under their keys.
-/

namespace OrderedDict

variable {κ ε : Type} [DecidableEq κ] {key : ε → κ}

def groupBy (key : ε → κ) (items : List ε) : OrderedDict κ (List ε) :=
  foldByKey key (fun held item => held.getD [] ++ [item]) empty items

theorem fold_snoc (held : List ε) (items : List ε) :
    items.foldl (fun held item => some (held.getD [] ++ [item])) (some held) =
      some (held ++ items) := by
  induction items generalizing held with
  | nil => rw [List.foldl_nil, List.append_nil]
  | cons item rest ih =>
    rw [List.foldl_cons]
    exact (ih _).trans (congrArg some (List.append_cons held item rest).symm)

variable {items : List ε}

theorem mem_groupBy {k : κ} {group : List ε} :
    (k, group) ∈ (groupBy key items).entries ↔
      group = (items.filter fun item => key item = k) ∧ group ≠ [] := by
  rw [mem_entries, groupBy, get?_foldByKey]
  show (items.filter fun item => key item = k).foldl _ none = some group ↔ _
  cases items.filter fun item => key item = k with
  | nil =>
    constructor
    · exact nofun
    · rintro ⟨rfl, filled⟩
      exact absurd rfl filled
  | cons first rest =>
    rw [List.foldl_cons]
    show rest.foldl _ (some [first]) = _ ↔ _
    rw [fold_snoc, Option.some_inj]
    constructor
    · rintro rfl
      exact ⟨rfl, List.cons_ne_nil _ _⟩
    · rintro ⟨rfl, -⟩
      rfl

theorem groupBy_getD (items : List ε) (k : κ) :
    ((groupBy key items).get? k).getD [] = items.filter fun item => key item = k := by
  cases found : (groupBy key items).get? k with
  | some group => exact (mem_groupBy.1 (mem_entries.2 found)).1
  | none =>
    by_contra filled
    have listed := mem_groupBy.2 ⟨rfl, fun blank => filled blank.symm⟩
    rw [mem_entries, found] at listed
    cases listed

theorem flatMap_filter_perm {keys : List κ} (distinct : keys.Nodup)
    (keyed : ∀ item ∈ items, key item ∈ keys) :
    (keys.flatMap fun k => items.filter fun item => key item = k).Perm items := by
  induction keys generalizing items with
  | nil =>
    have none : items = [] := List.eq_nil_iff_forall_not_mem.2 fun item listed =>
      List.not_mem_nil (keyed item listed)
    rw [none]
    exact .refl _
  | cons k rest ih =>
    obtain ⟨fresh, distinct'⟩ := List.nodup_cons.1 distinct
    have keyed' : ∀ item ∈ items.filter (fun item => !decide (key item = k)),
        key item ∈ rest := by
      intro item listed
      rw [List.mem_filter] at listed
      exact (List.mem_cons.1 (keyed item listed.1)).resolve_left (by simpa using listed.2)
    have later : (rest.flatMap fun k => items.filter fun item => key item = k).Perm
        (items.filter fun item => !decide (key item = k)) := by
      refine List.Perm.trans (List.Perm.of_eq ?_) (ih distinct' keyed')
      refine List.flatMap_congr fun other among => ?_
      rw [List.filter_filter]
      refine List.filter_congr fun item _ => ?_
      have apart : other ≠ k := fun same => fresh (same ▸ among)
      by_cases own : key item = other
      · simp [own, apart]
      · simp [own]
    rw [List.flatMap_cons]
    exact (later.append_left _).trans (List.filter_append_perm _ items)

theorem flatMap_groupBy_perm {groups : List (κ × List ε)}
    (reordered : groups.Perm (groupBy key items).entries) :
    (groups.flatMap Prod.snd).Perm items := by
  refine (reordered.flatMap_right _).trans ?_
  have split : (groupBy key items).entries.flatMap Prod.snd =
      (groupBy key items).keys.flatMap fun k => items.filter fun item => key item = k := by
    rw [keys, List.flatMap_map]
    refine List.flatMap_congr fun entry listed => ?_
    exact (mem_groupBy.1 listed).1
  rw [split]
  refine flatMap_filter_perm (groupBy key items).nodup ?_
  intro item listed
  refine List.mem_map.2 ⟨(key item, items.filter fun other => key other = key item), ?_, rfl⟩
  refine mem_groupBy.2 ⟨rfl, ?_⟩
  exact List.ne_nil_of_mem (List.mem_filter.2 ⟨listed, decide_eq_true rfl⟩)

end OrderedDict
