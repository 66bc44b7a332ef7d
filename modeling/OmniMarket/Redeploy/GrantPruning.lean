import Mathlib.Data.List.Sublists
import Mathlib.Tactic.FinCases
import OmniMarket.Redeploy.GrantResolver

/-!
# Pruning of the grant file

`prune_expired` rewrites the grant file without the entries that have expired or are
consumed. The resolver decides by the first entry that matches, spent or not, so a grant
behind a spent one is found in the pruned file only.
-/

namespace OmniMarket.Redeploy

open PyText

section

variable (runtime : GrantFileRuntime)

def isEntryExpired (evaluatedAt : PyDatetime) (entry : YamlDict) :
    Except RedeployError Bool := do
  let expiresAt ← coerceDatetime runtime (entry.get "expires_at")
  laterThan evaluatedAt expiresAt

structure ModelPruneResult where
  raw : List UInt8
  prunedGrantIds : List String := []
  hadExpired : Bool := false

/-- What the loop of `prune_expired` gathers. -/
structure PruneLists where
  kept : List YamlDict
  pruned : List String
  hadExpired : Bool

/-- The loop of `prune_expired`. -/
def pruneEntries (runtime : GrantFileRuntime) (evaluatedAt : PyDatetime) :
    List YamlDict → Except RedeployError PruneLists
  | [] => .ok ⟨[], [], false⟩
  | entry :: rest => do
      let expired ← isEntryExpired runtime evaluatedAt entry
      let others ← pruneEntries runtime evaluatedAt rest
      return {
        kept := if expired || isConsumed entry then others.kept else entry :: others.kept
        pruned :=
          if expired || isConsumed entry then
            runtime.str (entry.get "grant_id") :: others.pruned
          else others.pruned
        hadExpired := expired || others.hadExpired }

/-- `{"entries": [dict(entry) for entry in kept]}`. -/
def keptDocument (kept : List YamlDict) : YamlValue :=
  .dict [("entries", .list (kept.map .dict))]

/-- `prune_expired`, with `yaml.safe_dump(..., sort_keys=False).encode("utf-8")` as
`safeDump`. -/
def pruneExpired (safeDump : YamlValue → List UInt8) (raw : List UInt8) (evaluatedAt : PyDatetime) :
    Except RedeployError ModelPruneResult := do
  let entries ← parseEntries runtime raw
  let lists ← pruneEntries runtime evaluatedAt entries
  return {
    raw := safeDump (keptDocument lists.kept)
    prunedGrantIds := lists.pruned
    hadExpired := lists.hadExpired }

/-! ## What an entry is worth -/

/-- The value of the `consumed` marker marks its entry. -/
def MarksConsumed : YamlValue → Prop
  | .none => False
  | .bool marked => marked = true
  | _ => True

def BearsMarker (entry : YamlDict) : Prop :=
  MarksConsumed (entry.get "consumed") ∨ (entry.get "consumed_at").isNone = false

def Usable (evaluatedAt : PyDatetime) (entry : YamlDict) : Prop :=
  ¬ BearsMarker entry ∧
    ∃ expiresAt, coerceDatetime runtime (entry.get "expires_at") = .ok expiresAt ∧
      evaluatedAt.NotAfter expiresAt

/-- What pruning keeps: an entry that the code takes for unconsumed and unexpired. -/
def isLive (evaluatedAt : PyDatetime) (entry : YamlDict) : Bool :=
  !isConsumed entry &&
    match isEntryExpired runtime evaluatedAt entry with
    | .ok expired => !expired
    | .error _ => false

def FirstOf (property : YamlDict → Prop) (entries : List YamlDict) (entry : YamlDict) : Prop :=
  property entry ∧ ∃ front back, entries = front ++ entry :: back ∧
    ∀ earlier ∈ front, ¬ property earlier

structure GrantFile (raw : List UInt8) (entries : List YamlDict) :
    Prop where
  parses : parseEntries runtime raw = .ok entries
  builds : ∀ entry ∈ entries, ∃ grant, materializeGrant runtime entry = .ok grant

/-- A spent entry is marked with `consumed: true`. -/
def PlainMarkers (entries : List YamlDict) : Prop :=
  ∀ entry ∈ entries, BearsMarker entry → isConsumed entry = true

def Reloads (safeDump : YamlValue → List UInt8) (entries : List YamlDict) : Prop :=
  ∀ kept, kept.Sublist entries →
    (safeDump (keptDocument kept)).all isByteSpace = false ∧
      runtime.safeLoad (safeDump (keptDocument kept)) = .ok (keptDocument kept)

/-- The resolver answers `RESOLVED` with this grant. -/
def ResolvesGrant (raw : List UInt8) (requestedImageDigest promotionBatchId : Option String)
    (evaluatedAt : PyDatetime) (grant : ModelProdPromotionGrant) : Prop :=
  ∃ grantId, resolveGrant runtime raw requestedImageDigest promotionBatchId evaluatedAt =
    .ok ⟨.resolved, some grant, grantId⟩

end

section

variable {runtime : GrantFileRuntime} {safeDump : YamlValue → List UInt8} {raw : List UInt8}
  {requestedImageDigest promotionBatchId : Option String} {evaluatedAt : PyDatetime}
  {grant : ModelProdPromotionGrant} {entry : YamlDict} {entries kept : List YamlDict}
  {lists : PruneLists} {result : ModelPruneResult}

/-! ## The loop -/

theorem isEntryExpired_eq_ok {expired : Bool} :
    isEntryExpired runtime evaluatedAt entry = .ok expired ↔
      ∃ expiresAt, coerceDatetime runtime (entry.get "expires_at") = .ok expiresAt ∧
        laterThan evaluatedAt expiresAt = .ok expired :=
  Raising.bind_eq_ok

theorem isLive_iff :
    isLive runtime evaluatedAt entry = true ↔
      isConsumed entry = false ∧
        ∃ expiresAt, coerceDatetime runtime (entry.get "expires_at") = .ok expiresAt ∧
          evaluatedAt.NotAfter expiresAt := by
  have unexpired : isEntryExpired runtime evaluatedAt entry = .ok false ↔
      ∃ expiresAt, coerceDatetime runtime (entry.get "expires_at") = .ok expiresAt ∧
        evaluatedAt.NotAfter expiresAt := by
    rw [isEntryExpired_eq_ok]
    simp only [laterThan_eq_ok_false]
  rw [← unexpired]
  unfold isLive
  rw [Bool.and_eq_true, Bool.not_eq_true']
  refine and_congr_right fun _ => ?_
  cases isEntryExpired runtime evaluatedAt entry with
  | error raised => simp
  | ok expired => cases expired <;> simp

theorem pruneEntries_spec (pruned : pruneEntries runtime evaluatedAt entries = .ok lists) :
    lists.kept = entries.filter (isLive runtime evaluatedAt) ∧
      lists.pruned = (entries.filter fun entry => !isLive runtime evaluatedAt entry).map
        fun entry => runtime.str (entry.get "grant_id") := by
  induction entries generalizing lists with
  | nil =>
    cases pruned
    exact ⟨rfl, rfl⟩
  | cons entry rest ih =>
    obtain ⟨expired, compared, walked⟩ := Raising.bind_eq_ok.1 pruned
    obtain ⟨others, later, returned⟩ := Raising.bind_eq_ok.1 walked
    obtain ⟨keptOthers, prunedOthers⟩ := ih later
    cases returned
    have live : isLive runtime evaluatedAt entry = !(expired || isConsumed entry) := by
      unfold isLive
      rw [compared, Bool.not_or, Bool.and_comm]
    dsimp only
    rw [List.filter_cons, List.filter_cons, live, keptOthers, prunedOthers]
    cases expired || isConsumed entry with
    | true => exact ⟨rfl, rfl⟩
    | false => exact ⟨rfl, rfl⟩

theorem pruneEntries_returns
    (comparable : ∀ entry ∈ entries, ∃ expiresAt,
      coerceDatetime runtime (entry.get "expires_at") = .ok expiresAt ∧
        evaluatedAt.Comparable expiresAt) :
    ∃ lists, pruneEntries runtime evaluatedAt entries = .ok lists := by
  induction entries with
  | nil => exact ⟨_, rfl⟩
  | cons entry rest ih =>
    obtain ⟨others, later⟩ := ih fun entry listed =>
      comparable entry (List.mem_cons_of_mem _ listed)
    obtain ⟨expiresAt, coerced, ordered⟩ := comparable entry List.mem_cons_self
    obtain ⟨expired, compared⟩ := laterThan_returns ordered
    have checked : isEntryExpired runtime evaluatedAt entry = .ok expired :=
      isEntryExpired_eq_ok.2 ⟨expiresAt, coerced, compared⟩
    unfold pruneEntries
    rw [checked, Raising.bind_ok, later, Raising.bind_ok]
    exact ⟨_, rfl⟩

theorem pruneExpired_eq_ok (pruned : pruneExpired runtime safeDump raw evaluatedAt = .ok result)
    (parsed : parseEntries runtime raw = .ok entries) :
    result.raw = safeDump (keptDocument (entries.filter (isLive runtime evaluatedAt))) := by
  obtain ⟨others, again, walked⟩ := Raising.bind_eq_ok.1 pruned
  rw [parsed] at again
  cases again
  obtain ⟨lists, looped, returned⟩ := Raising.bind_eq_ok.1 walked
  cases returned
  rw [← (pruneEntries_spec looped).1]

/-! ## Reading the pruned file -/

theorem parseItems_fields {index : ℕ} {items : List YamlValue}
    (parsed : parseItems runtime index items = .ok entries) :
    ∀ entry ∈ entries, (requiredEntryFields.filter fun field =>
      !(entry.map Prod.fst).contains field) = [] := by
  induction items generalizing index entries with
  | nil =>
    cases parsed
    exact fun _ impossible => absurd impossible List.not_mem_nil
  | cons item items ih =>
    cases item with
    | dict entry =>
      rw [parseItems] at parsed
      split at parsed
      · cases parsed
      · next complete =>
        obtain ⟨rest, later, rfl⟩ := Raising.map_eq_ok.1 parsed
        intro listed within
        rcases List.mem_cons.1 within with rfl | behind
        · exact not_not.1 complete
        · exact ih later listed behind
    | _ => cases parsed

theorem parseItems_dicts {index : ℕ}
    (complete : ∀ entry ∈ kept, (requiredEntryFields.filter fun field =>
      !(entry.map Prod.fst).contains field) = []) :
    parseItems runtime index (kept.map .dict) = .ok kept := by
  induction kept generalizing index with
  | nil => rfl
  | cons entry kept ih =>
    rw [List.map_cons, parseItems]
    rw [complete entry List.mem_cons_self, if_neg (not_not.2 rfl),
      ih fun entry listed => complete entry (List.mem_cons_of_mem _ listed)]
    rfl

theorem parseEntries_fields (parsed : parseEntries runtime raw = .ok entries) :
    ∀ entry ∈ entries, (requiredEntryFields.filter fun field =>
      !(entry.map Prod.fst).contains field) = [] := by
  unfold parseEntries at parsed
  dsimp only at parsed
  split at parsed
  · cases parsed
    exact fun _ impossible => absurd impossible List.not_mem_nil
  · obtain ⟨data, _, read⟩ := Raising.bind_eq_ok.1 parsed
    split at read
    · cases read
      exact fun _ impossible => absurd impossible List.not_mem_nil
    · split at read
      · cases read
      · exact parseItems_fields read
      · cases read
    · cases read

theorem parseEntries_pruned (parsed : parseEntries runtime raw = .ok entries)
    (reloads : Reloads runtime safeDump entries) (sublist : kept.Sublist entries) :
    parseEntries runtime (safeDump (keptDocument kept)) = .ok kept := by
  obtain ⟨written, loaded⟩ := reloads kept sublist
  unfold parseEntries
  dsimp only
  rw [written, if_neg Bool.false_ne_true, loaded, Raising.bind_ok]
  exact parseItems_dicts fun entry listed => parseEntries_fields parsed entry
    (sublist.subset listed)

/-! ## Before and after -/

variable {accepts : YamlDict → Bool} {property : YamlDict → Prop}

theorem firstOf_iff_find? (agrees : ∀ entry, accepts entry = true ↔ property entry) :
    FirstOf property entries entry ↔ entries.find? accepts = some entry := by
  rw [List.find?_eq_some_iff_append]
  unfold FirstOf
  rw [agrees]
  simp only [← agrees, Bool.not_eq_true', Bool.not_eq_true]

theorem FirstOf.mem (first : FirstOf property entries entry) : entry ∈ entries := by
  obtain ⟨_, front, back, rfl, _⟩ := first
  exact List.mem_append_right _ List.mem_cons_self

theorem exists_firstOf [DecidablePred property] (some_entry : ∃ entry ∈ entries, property entry) :
    ∃ entry, FirstOf property entries entry := by
  obtain ⟨entry, listed, holds⟩ := some_entry
  have agrees : ∀ entry, decide (property entry) = true ↔ property entry :=
    fun entry => decide_eq_true_iff
  cases found : entries.find? fun entry => decide (property entry) with
  | some first => exact ⟨first, (firstOf_iff_find? agrees).2 found⟩
  | none =>
    have missed := List.find?_eq_none.1 found entry listed
    exact absurd (decide_eq_true holds) missed

theorem FirstOf.unique {other : YamlDict} (first : FirstOf property entries entry)
    (second : FirstOf property entries other) : entry = other := by
  classical
  have agrees : ∀ entry, decide (property entry) = true ↔ property entry :=
    fun entry => decide_eq_true_iff
  rw [firstOf_iff_find? agrees] at first second
  exact Option.some.inj (first.symm.trans second)

theorem FirstOf.refine {more : YamlDict → Prop} (first : FirstOf property entries entry)
    (holds : more entry) : FirstOf (fun entry => property entry ∧ more entry) entries entry := by
  obtain ⟨found, front, back, whole, earlier⟩ := first
  exact ⟨⟨found, holds⟩, front, back, whole, fun before within both =>
    earlier before within both.1⟩

abbrev Matches (runtime : GrantFileRuntime) (requestedImageDigest promotionBatchId : Option String)
    (entry : YamlDict) : Prop :=
  matchesKey runtime requestedImageDigest promotionBatchId entry = true

theorem isConsumed_bearsMarker (consumed : isConsumed entry = true) : BearsMarker entry := by
  unfold isConsumed at consumed
  unfold BearsMarker
  split at consumed
  · next marked read =>
    rw [read]
    exact Or.inl consumed
  · cases consumed

theorem isLive_iff_usable (plain : PlainMarkers entries) (listed : entry ∈ entries) :
    isLive runtime evaluatedAt entry = true ↔ Usable runtime evaluatedAt entry := by
  rw [isLive_iff]
  refine and_congr_left fun _ => ?_
  constructor
  · intro unconsumed marked
    rw [plain entry listed marked] at unconsumed
    cases unconsumed
  · intro unmarked
    rw [← Bool.not_eq_true]
    exact fun consumed => unmarked (isConsumed_bearsMarker consumed)

theorem resolvesTo_iff_first (parsed : parseEntries runtime raw = .ok entries) :
    ResolvesGrant runtime raw requestedImageDigest promotionBatchId evaluatedAt grant ↔
      ∃ entry, FirstOf (Matches runtime requestedImageDigest promotionBatchId) entries entry ∧
        isLive runtime evaluatedAt entry = true ∧ materializeGrant runtime entry = .ok grant := by
  have agrees : ∀ entry, matchesKey runtime requestedImageDigest promotionBatchId entry = true ↔
      Matches runtime requestedImageDigest promotionBatchId entry := fun _ => Iff.rfl
  unfold ResolvesGrant
  rw [resolveGrant_resolved_iff]
  constructor
  · rintro ⟨others, entry, again, found, unconsumed, unexpired, built⟩
    rw [parsed] at again
    cases again
    exact ⟨entry, (firstOf_iff_find? agrees).2 found, isLive_iff.2 ⟨unconsumed, unexpired⟩, built⟩
  · rintro ⟨entry, first, live, built⟩
    obtain ⟨unconsumed, unexpired⟩ := isLive_iff.1 live
    exact ⟨entries, entry, parsed, (firstOf_iff_find? agrees).1 first, unconsumed, unexpired, built⟩

theorem firstOf_filter {keeps : YamlDict → Bool} :
    FirstOf (fun entry => accepts entry = true) (entries.filter keeps) entry ↔
      FirstOf (fun entry => accepts entry = true ∧ keeps entry = true) entries entry := by
  have both : ∀ entry, decide (keeps entry = true ∧ accepts entry = true) = true ↔
      (accepts entry = true ∧ keeps entry = true) := by
    intro entry
    rw [decide_eq_true_iff, and_comm]
  rw [firstOf_iff_find? fun _ => Iff.rfl, firstOf_iff_find? both, List.find?_filter]

theorem firstOf_congr {other : YamlDict → Prop}
    (agree : ∀ listed ∈ entries, property listed ↔ other listed)
    (first : FirstOf property entries entry) : FirstOf other entries entry := by
  have listed := first.mem
  obtain ⟨holds, front, back, rfl, earlier⟩ := first
  refine ⟨(agree entry listed).1 holds, front, back, rfl, fun before within holdsBefore => ?_⟩
  exact earlier before within
    ((agree before (List.mem_append_left _ within)).2 holdsBefore)

section

variable (file : GrantFile runtime raw entries) (reloads : Reloads runtime safeDump entries)
  (pruned : pruneExpired runtime safeDump raw evaluatedAt = .ok result)

include file reloads pruned

theorem resolvesTo_pruned_iff :
    ResolvesGrant runtime result.raw requestedImageDigest promotionBatchId evaluatedAt grant ↔
      ∃ entry, FirstOf (fun entry => Matches runtime requestedImageDigest promotionBatchId entry ∧
          isLive runtime evaluatedAt entry = true) entries entry ∧
        materializeGrant runtime entry = .ok grant := by
  rw [pruneExpired_eq_ok pruned file.parses, resolvesTo_iff_first
    (parseEntries_pruned file.parses reloads List.filter_sublist)]
  simp only [firstOf_filter]
  constructor
  · rintro ⟨entry, first, _, built⟩
    exact ⟨entry, first, built⟩
  · rintro ⟨entry, first, built⟩
    exact ⟨entry, first, first.1.2, built⟩

theorem resolveGrant_pruned :
    ∃ resolution, resolveGrant runtime result.raw requestedImageDigest promotionBatchId
        evaluatedAt = .ok resolution ∧
      (resolution.outcome = .resolved ∨ resolution.outcome = .absent) := by
  have read : parseEntries runtime
      (safeDump (keptDocument (entries.filter (isLive runtime evaluatedAt)))) =
        .ok (entries.filter (isLive runtime evaluatedAt)) :=
    parseEntries_pruned file.parses reloads List.filter_sublist
  unfold resolveGrant
  rw [pruneExpired_eq_ok pruned file.parses, read, Raising.bind_ok, resolveEntries_eq]
  cases found : (entries.filter (isLive runtime evaluatedAt)).find?
      (matchesKey runtime requestedImageDigest promotionBatchId) with
  | none => exact ⟨_, rfl, Or.inr rfl⟩
  | some entry =>
    have kept := List.mem_of_find?_eq_some found
    obtain ⟨listed, live⟩ := List.mem_filter.1 kept
    obtain ⟨grant, built⟩ := file.builds entry listed
    obtain ⟨unconsumed, unexpired⟩ := isLive_iff.1 live
    exact ⟨_, resolveEntry_resolved_iff.2 ⟨unconsumed, unexpired, built, rfl⟩, Or.inl rfl⟩

end

/-! ## The anchor -/

structure AnchorDecides (runtime : GrantFileRuntime) (safeDump : YamlValue → List UInt8)
    (raw : List UInt8) (entries : List YamlDict)
    (requestedImageDigest promotionBatchId : Option String) (evaluatedAt : PyDatetime) :
    Prop where
  /-- The first entry that matches decides. -/
  resolves : ∀ grant,
    ResolvesGrant runtime raw requestedImageDigest promotionBatchId evaluatedAt grant ↔
      ∃ entry, FirstOf (Matches runtime requestedImageDigest promotionBatchId) entries entry ∧
        Usable runtime evaluatedAt entry ∧ materializeGrant runtime entry = .ok grant
  /-- In the pruned file the first usable entry that matches decides. -/
  pruned_resolves : ∀ result, pruneExpired runtime safeDump raw evaluatedAt = .ok result →
    ∀ grant, ResolvesGrant runtime result.raw requestedImageDigest promotionBatchId evaluatedAt
        grant ↔
      ∃ entry, FirstOf (fun entry => Matches runtime requestedImageDigest promotionBatchId entry ∧
          Usable runtime evaluatedAt entry) entries entry ∧
        materializeGrant runtime entry = .ok grant
  /-- The pruned file is never answered with a spent grant. -/
  pruned_answers : ∀ result, pruneExpired runtime safeDump raw evaluatedAt = .ok result →
    ∃ resolution, resolveGrant runtime result.raw requestedImageDigest promotionBatchId
        evaluatedAt = .ok resolution ∧
      (resolution.outcome = .resolved ∨ resolution.outcome = .absent)
  /-- Pruning changes what is resolved only by uncovering a grant behind a spent one. -/
  transparent : ∀ result, pruneExpired runtime safeDump raw evaluatedAt = .ok result →
    ((∀ grant, ResolvesGrant runtime result.raw requestedImageDigest promotionBatchId evaluatedAt
        grant ↔ ResolvesGrant runtime raw requestedImageDigest promotionBatchId evaluatedAt grant) ↔
      ((∃ entry ∈ entries, Matches runtime requestedImageDigest promotionBatchId entry ∧
          Usable runtime evaluatedAt entry) →
        ∃ entry, FirstOf (Matches runtime requestedImageDigest promotionBatchId) entries entry ∧
          Usable runtime evaluatedAt entry))
  /-- Pruning answers where the moment can be compared with each expiry. -/
  prunes : (∀ entry ∈ entries, ∀ expiresAt,
      coerceDatetime runtime (entry.get "expires_at") = .ok expiresAt →
        evaluatedAt.Comparable expiresAt) →
    ∃ result, pruneExpired runtime safeDump raw evaluatedAt = .ok result

theorem pruneExpired_returns (file : GrantFile runtime raw entries)
    (comparable : ∀ entry ∈ entries, ∀ expiresAt,
      coerceDatetime runtime (entry.get "expires_at") = .ok expiresAt →
        evaluatedAt.Comparable expiresAt) :
    ∃ result, pruneExpired runtime safeDump raw evaluatedAt = .ok result := by
  obtain ⟨lists, looped⟩ := @pruneEntries_returns runtime evaluatedAt entries (by
    intro entry listed
    obtain ⟨grant, built⟩ := file.builds entry listed
    have coerced := (materializeGrant_fields built).2.1
    exact ⟨grant.expiresAt, coerced, comparable entry listed _ coerced⟩)
  unfold pruneExpired
  rw [file.parses, Raising.bind_ok, looped]
  exact ⟨_, rfl⟩

/-- What the resolver answers on a well-formed file whose spent entries bear
`consumed: true`, and on the file that is left of it by pruning. -/
theorem anchor_decides (file : GrantFile runtime raw entries) (plain : PlainMarkers entries)
    (reloads : Reloads runtime safeDump entries) :
    AnchorDecides runtime safeDump raw entries requestedImageDigest promotionBatchId
      evaluatedAt := by
  have usable : ∀ entry ∈ entries,
      (isLive runtime evaluatedAt entry = true ↔ Usable runtime evaluatedAt entry) :=
    fun entry listed => isLive_iff_usable plain listed
  have agree : ∀ entry ∈ entries,
      (Matches runtime requestedImageDigest promotionBatchId entry ∧
          isLive runtime evaluatedAt entry = true ↔
        Matches runtime requestedImageDigest promotionBatchId entry ∧
          Usable runtime evaluatedAt entry) :=
    fun entry listed => and_congr_right fun _ => usable entry listed
  have resolves : ∀ grant,
      ResolvesGrant runtime raw requestedImageDigest promotionBatchId evaluatedAt grant ↔
        ∃ entry, FirstOf (Matches runtime requestedImageDigest promotionBatchId) entries entry ∧
          Usable runtime evaluatedAt entry ∧ materializeGrant runtime entry = .ok grant := by
    intro grant
    rw [resolvesTo_iff_first file.parses]
    refine exists_congr fun entry => and_congr_right fun first => ?_
    rw [usable entry first.mem]
  have uncovers : ∀ result, pruneExpired runtime safeDump raw evaluatedAt = .ok result →
      ∀ grant, ResolvesGrant runtime result.raw requestedImageDigest promotionBatchId evaluatedAt
          grant ↔
        ∃ entry, FirstOf (fun entry =>
            Matches runtime requestedImageDigest promotionBatchId entry ∧
              Usable runtime evaluatedAt entry) entries entry ∧
          materializeGrant runtime entry = .ok grant := by
    intro result pruned grant
    rw [resolvesTo_pruned_iff file reloads pruned]
    refine exists_congr fun entry => and_congr_left fun _ => ⟨firstOf_congr agree, ?_⟩
    exact firstOf_congr fun listed within => (agree listed within).symm
  refine ⟨resolves, uncovers, fun result pruned => resolveGrant_pruned file reloads pruned, ?_,
    pruneExpired_returns file⟩
  intro result pruned
  simp only [resolves, uncovers result pruned]
  constructor
  · intro same some_usable
    classical
    obtain ⟨entry, first⟩ := exists_firstOf some_usable
    obtain ⟨grant, built⟩ := file.builds entry first.mem
    obtain ⟨head, leads, live, _⟩ := (same grant).1 ⟨entry, first, built⟩
    exact ⟨head, leads, live⟩
  · intro uncovered grant
    constructor
    · rintro ⟨entry, first, built⟩
      obtain ⟨head, leads, live⟩ := uncovered ⟨entry, first.mem, first.1⟩
      have same := first.unique (leads.refine live)
      exact ⟨entry, same ▸ leads, first.1.2, built⟩
    · rintro ⟨entry, leads, live, built⟩
      exact ⟨entry, leads.refine live, built⟩

end

/-! ## A renewed grant -/

structure AnchorLaw (runtime : GrantFileRuntime) (safeDump : YamlValue → List UInt8)
    (raw : List UInt8) (entries : List YamlDict)
    (requestedImageDigest promotionBatchId : Option String) (evaluatedAt : PyDatetime) :
    Prop where
  sound : ∀ grant, ResolvesGrant runtime raw requestedImageDigest promotionBatchId evaluatedAt grant →
    ∃ entry ∈ entries, Matches runtime requestedImageDigest promotionBatchId entry ∧
      Usable runtime evaluatedAt entry ∧ materializeGrant runtime entry = .ok grant
  complete : (∃ entry ∈ entries, Matches runtime requestedImageDigest promotionBatchId entry ∧
      Usable runtime evaluatedAt entry) →
    ∃ grant, ResolvesGrant runtime raw requestedImageDigest promotionBatchId evaluatedAt grant
  transparent : ∀ result, pruneExpired runtime safeDump raw evaluatedAt = .ok result →
    (∀ grant, ResolvesGrant runtime result.raw requestedImageDigest promotionBatchId evaluatedAt
        grant ↔ ResolvesGrant runtime raw requestedImageDigest promotionBatchId evaluatedAt grant) ∧
      ∀ resolution, resolveGrant runtime result.raw requestedImageDigest promotionBatchId
        evaluatedAt = .ok resolution →
          resolution.outcome ≠ .expired ∧ resolution.outcome ≠ .consumed

def anchorEntry (grantId : String) (expiresAt : ℤ) : YamlDict :=
  [("grant_id", .str grantId), ("runtime_lane", .str "prod"), ("image_digest", .str "sha256:a"),
    ("promotion_batch_id", .str "batch-1"), ("approved_by", .str "approver"),
    ("expires_at", .timestamp ⟨expiresAt, some 0⟩), ("created_at", .timestamp ⟨0, some 0⟩),
    ("reason", .str "release")]

/-- A grant that has expired and its renewal. -/
def anchorEntries : List YamlDict := [anchorEntry "grant-1" 10, anchorEntry "grant-2" 30]

def anchorByte : YamlValue → UInt8
  | .dict ((_, .str grantId) :: _) => if grantId = "grant-1" then 1 else 2
  | _ => 0

def anchorDump : YamlValue → List UInt8
  | .dict [(_, .list items)] => 101 :: items.map anchorByte
  | _ => []

def anchorLoad : List UInt8 → Except RedeployError YamlValue
  | _ :: grants => .ok (keptDocument (grants.map fun grant =>
    if grant = 1 then anchorEntry "grant-1" 10 else anchorEntry "grant-2" 30))
  | [] => .ok .none

def anchorRuntime : GrantFileRuntime where
  unicode := asciiTable
  safeLoad := anchorLoad
  strOther := fun _ => ""
  repr := fun _ => ""
  fromisoformat := fun _ => .error (.library "fromisoformat")
  parseUuid := fun _ => .error (.library "UUID")
  sha256 := fun _ => ⟨String.ofList (List.replicate 64 '0'), by decide⟩

def anchorRaw : List UInt8 := [101, 1, 2]

theorem anchor_grantFile : GrantFile anchorRuntime anchorRaw anchorEntries := by
  refine ⟨rfl, fun entry listed => ?_⟩
  rcases List.mem_cons.1 listed with rfl | later
  · exact ⟨_, rfl⟩
  · rw [List.mem_singleton.1 later]
    exact ⟨_, rfl⟩

theorem anchor_plainMarkers : PlainMarkers anchorEntries := by
  have unmarked : ∀ (grantId : String) (expiresAt : ℤ),
      ¬ BearsMarker (anchorEntry grantId expiresAt) := by
    rintro grantId expiresAt (consumed | dated)
    · exact consumed
    · cases dated
  intro entry listed marked
  rcases List.mem_cons.1 listed with rfl | later
  · exact absurd marked (unmarked _ _)
  · rw [List.mem_singleton.1 later] at marked
    exact absurd marked (unmarked _ _)

theorem anchor_reloads : Reloads anchorRuntime anchorDump anchorEntries := by
  intro kept sublist
  have listed := List.mem_sublists.2 sublist
  have all : anchorEntries.sublists =
      [[], [anchorEntry "grant-1" 10], [anchorEntry "grant-2" 30], anchorEntries] := rfl
  rw [all] at listed
  fin_cases listed
  · exact ⟨rfl, rfl⟩
  · exact ⟨rfl, rfl⟩
  · exact ⟨rfl, rfl⟩
  · exact ⟨rfl, rfl⟩

/-- The sample is pruned to its renewed grant, which the resolver then finds. -/
theorem anchor_decides_renewed :
    AnchorDecides anchorRuntime anchorDump anchorRaw anchorEntries (some "sha256:a")
      (some "batch-1") ⟨20, some 0⟩ :=
  anchor_decides anchor_grantFile anchor_plainMarkers anchor_reloads

/-- A renewed grant is not found behind the expired one. -/
theorem renewed_grant_hidden :
    GrantFile anchorRuntime anchorRaw anchorEntries ∧
      Reloads anchorRuntime anchorDump anchorEntries ∧
      ¬ AnchorLaw anchorRuntime anchorDump anchorRaw anchorEntries (some "sha256:a")
        (some "batch-1") ⟨20, some 0⟩ := by
  refine ⟨anchor_grantFile, anchor_reloads, fun law => ?_⟩
  have unmarked : ¬ BearsMarker (anchorEntry "grant-2" 30) := by
    rintro (consumed | dated)
    · exact consumed
    · cases dated
  have usable : Usable anchorRuntime ⟨20, some 0⟩ (anchorEntry "grant-2" 30) :=
    ⟨unmarked, ⟨30, some 0⟩, rfl, by decide⟩
  obtain ⟨grant, grantId, resolved⟩ := law.complete
    ⟨_, List.mem_cons_of_mem _ List.mem_cons_self, rfl, usable⟩
  have expired : resolveGrant anchorRuntime anchorRaw (some "sha256:a") (some "batch-1")
      ⟨20, some 0⟩ = .ok ⟨.expired, none, some "grant-1"⟩ := rfl
  rw [expired] at resolved
  cases resolved

end OmniMarket.Redeploy
