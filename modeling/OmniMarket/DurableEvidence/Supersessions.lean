import OmniMarket.DurableEvidence.Soundness

/-!
# Supersession of receipts

The records of a key have distinct ordinals in their file names, and the one with the highest
decides what its key leaves in force. A replacement is a payload of its own: the key that it
carries may be that of another chain, which then has a receipt that its own records do not leave.
-/

namespace OmniMarket.DurableEvidence
variable {record latest receipt : PyDict} {records : List PyDict} {reordered : List PyValue}

section

variable (env : GateEnv)

/-! ## Ordinals -/

/-- The ordinal of a record is above that of another, or the other has none. -/
def Outranks (record other : PyDict) : Prop :=
  ∃ ordinal, supersedeSeq env record = some ordinal ∧
    ∀ lower ∈ supersedeSeq env other, lower < ordinal

structure Highest (records : List PyDict) (record : PyDict) : Prop where
  listed : record ∈ records
  outranks : ∀ other ∈ records, other = record ∨ Outranks env record other

section

variable (payloads : List PyValue)

def DistinctOrdinals : Prop :=
  ∀ key, ((recordsOf payloads key).map (supersedeSeq env)).Nodup

/-! ## What the resolution owes to each key -/

structure IsBase (key : ReceiptKey) (receipt : PyDict) : Prop where
  loaded : PyValue.dict receipt ∈ payloads
  isBase : isSupersession receipt = false
  keyed : receiptKey receipt = some key

structure KeysResolved (receipts : List PyDict) : Prop where
  unsuperseded : ∀ key, recordsOf payloads key = [] → ∀ receipt,
    (receipt ∈ receipts ∧ receiptKey receipt = some key) ↔ IsBase payloads key receipt
  tombstoned : ∀ key record, Highest env (recordsOf payloads key) record →
    (record.get "tombstone").truthy = true → ∀ receipt ∈ receipts, receiptKey receipt ≠ some key
  replaced : ∀ key record, Highest env (recordsOf payloads key) record →
    (record.get "tombstone").truthy = false → ∀ replacement,
    record.get "replacement" = .dict replacement → replacement ∈ receipts ∧
      ∀ receipt ∈ receipts, IsBase payloads key receipt → receipt = replacement

/-- `apply_supersessions` returns what the records leave, in every order of the payloads, and a
record that is appended with a higher ordinal decides. -/
structure Resolves : Prop where
  returned : ∃ receipts, applySupersessions env payloads = some receipts ∧
    KeysResolved env payloads receipts ∧
    ∀ reordered : List PyValue, reordered.Perm payloads → ∃ others,
      applySupersessions env reordered = some others ∧ ∀ receipt, receipt ∈ others ↔
        receipt ∈ receipts
  appended : ∀ key record, isSupersession record = true → receiptKey record = some key →
    (∀ other ∈ recordsOf payloads key, Outranks env record other) →
    latestRecord env (recordsOf (payloads ++ [.dict record]) key) = some record

structure Aimed (replacement : PyDict) (target : ReceiptKey) :
    Prop where
  unsuperseded : recordsOf payloads target = [] → IsBase payloads target replacement
  decided : ∀ record, Highest env (recordsOf payloads target) record →
    (record.get "tombstone").truthy = false ∧ ∀ own, record.get "replacement" = .dict own →
      IsBase payloads target replacement → replacement = own

/-- The keys have hashes, and every replacement in force is aimed at its own chain, or at one
that leaves it in force. -/
structure WellAimed : Prop where
  hashable : ∀ payload, PyValue.dict payload ∈ payloads → (receiptKey payload).isSome
  aimed : ∀ key record replacement target, Highest env (recordsOf payloads key) record →
    (record.get "tombstone").truthy = false → record.get "replacement" = .dict replacement →
    receiptKey replacement = some target → Aimed env payloads replacement target

end

end

variable {env : GateEnv} {payloads : List PyValue} {key : ReceiptKey}

/-! ## The deciding record -/

theorem Outranks.orderKey_lt {other : PyDict} (above : Outranks env record other) :
    orderKey env other < orderKey env record := by
  obtain ⟨ordinal, numbered, lower⟩ := above
  unfold orderKey
  rw [numbered]
  cases seq : supersedeSeq env other with
  | none => exact Prod.Lex.toLex_lt_toLex.2 (Or.inl (zero_lt_one (α := ℤ)))
  | some below =>
    have less := lower below seq
    exact Prod.Lex.toLex_lt_toLex.2
      (Or.inr ⟨rfl, Prod.Lex.toLex_lt_toLex.2 (Or.inl (Int.ofNat_lt.2 less))⟩)

theorem IsLatest.listed (isLatest : IsLatest env records latest) : latest ∈ records := by
  obtain ⟨before, after, rfl, -⟩ := isLatest
  simp

theorem IsLatest.atMost {other : PyDict} (isLatest : IsLatest env records latest)
    (listed : other ∈ records) : orderKey env other ≤ orderKey env latest := by
  obtain ⟨before, after, rfl, below, atMost⟩ := isLatest
  rcases List.mem_append.1 listed with earlier | rest
  · exact (below other earlier).le
  rcases List.mem_cons.1 rest with rfl | later
  · exact le_refl _
  · exact atMost other later

theorem Highest.isLatest (highest : Highest env records record) : IsLatest env records record := by
  obtain ⟨latest, found⟩ := latestRecord_ne_nil env (List.ne_nil_of_mem highest.listed)
  have isLatest := isLatest_of_latestRecord env found
  rcases highest.outranks latest isLatest.listed with rfl | above
  · exact isLatest
  · exact absurd (isLatest.atMost highest.listed) (not_le.2 above.orderKey_lt)

theorem IsLatest.highest (distinct : (records.map (supersedeSeq env)).Nodup)
    (isLatest : IsLatest env records latest) : Highest env records latest := by
  refine ⟨isLatest.listed, fun other listed => ?_⟩
  rcases eq_or_ne other latest with same | differs
  · exact Or.inl same
  right
  have apart : supersedeSeq env other ≠ supersedeSeq env latest := fun same =>
    differs (List.inj_on_of_nodup_map distinct listed isLatest.listed same)
  have atMost := isLatest.atMost listed
  unfold orderKey at atMost
  cases seq : supersedeSeq env latest with
  | none =>
    cases seq' : supersedeSeq env other with
    | none => exact absurd (seq'.trans seq.symm) apart
    | some ordinal =>
      rw [seq, seq'] at atMost
      rcases Prod.Lex.toLex_le_toLex.1 atMost with less | ⟨same, _⟩
      · exact absurd less (not_lt.2 (zero_le_one (α := ℤ)))
      · exact absurd same (one_ne_zero (α := ℤ))
  | some ordinal =>
    refine ⟨ordinal, seq, fun lower seq' => ?_⟩
    rw [seq, Option.mem_def.1 seq'] at atMost apart
    rcases Prod.Lex.toLex_le_toLex.1 atMost with less | ⟨_, rest⟩
    · exact absurd less (lt_irrefl _)
    · have below : (lower : ℤ) ≤ ordinal := by
        rcases Prod.Lex.toLex_le_toLex.1 rest with less | ⟨same, _⟩
        · exact less.le
        · exact same.le
      have differ : lower ≠ ordinal := fun same => apart (congrArg some same)
      omega

/-! ## Order of the payloads -/

theorem recordsOf_perm (same : reordered.Perm payloads) (key : ReceiptKey) :
    (recordsOf reordered key).Perm (recordsOf payloads key) :=
  (same.filterMap _).filter _

theorem DistinctOrdinals.perm (same : reordered.Perm payloads)
    (distinct : DistinctOrdinals env payloads) : DistinctOrdinals env reordered :=
  fun key => ((recordsOf_perm same key).map _).nodup_iff.2 (distinct key)

theorem Highest.perm {reordered : List PyDict} (same : reordered.Perm records)
    (highest : Highest env records record) : Highest env reordered record :=
  ⟨same.mem_iff.2 highest.listed, fun other listed => highest.outranks other (same.subset listed)⟩

theorem active_iff (distinct : DistinctOrdinals env payloads) :
    Active env payloads receipt ↔
      (∃ key, IsBase payloads key receipt ∧ recordsOf payloads key = []) ∨
      ∃ key record, Highest env (recordsOf payloads key) record ∧
        (record.get "tombstone").truthy = false ∧ record.get "replacement" = .dict receipt := by
  constructor
  · intro active
    cases active with
    | base loaded isBase keyed unsuperseded =>
      exact Or.inl ⟨_, ⟨loaded, isBase, keyed⟩, unsuperseded⟩
    | replaced isLatest kept replacement =>
      exact Or.inr ⟨_, _, isLatest.highest (distinct _), kept, replacement⟩
  · rintro (⟨key, base, unsuperseded⟩ | ⟨key, record, highest, kept, replacement⟩)
    · exact .base base.loaded base.isBase base.keyed unsuperseded
    · exact .replaced highest.isLatest kept replacement

theorem active_perm (distinct : DistinctOrdinals env payloads) (same : reordered.Perm payloads) :
    Active env reordered receipt ↔ Active env payloads receipt := by
  rw [active_iff distinct, active_iff (distinct.perm same)]
  have records := fun key => recordsOf_perm same key
  constructor
  · rintro (⟨key, base, unsuperseded⟩ | ⟨key, record, highest, rest⟩)
    · refine Or.inl ⟨key, ⟨same.subset base.loaded, base.isBase, base.keyed⟩, ?_⟩
      exact (unsuperseded ▸ records key).nil_eq.symm
    · exact Or.inr ⟨key, record, highest.perm (records key).symm, rest⟩
  · rintro (⟨key, base, unsuperseded⟩ | ⟨key, record, highest, rest⟩)
    · refine Or.inl ⟨key, ⟨same.mem_iff.2 base.loaded, base.isBase, base.keyed⟩, ?_⟩
      exact (unsuperseded ▸ records key).eq_nil
    · exact Or.inr ⟨key, record, highest.perm (records key), rest⟩

theorem mapM_isSome {α β : Type} (f : α → Option β) (items : List α) :
    (items.mapM f).isSome ↔ ∀ item ∈ items, (f item).isSome := by
  induction items with
  | nil => simp
  | cons item rest ih =>
    rw [List.mapM_cons, List.forall_mem_cons, ← ih]
    cases f item with
    | none => simp
    | some value => cases rest.mapM f <;> simp

theorem applySupersessions_isSome :
    (applySupersessions env payloads).isSome ↔
      ∀ payload, PyValue.dict payload ∈ payloads → (receiptKey payload).isSome := by
  have pairs : (applySupersessions env payloads).isSome ↔
      ((payloads.filterMap PyValue.asDict?).mapM fun payload =>
        (receiptKey payload).map fun key => (key, payload)).isSome := by
    unfold applySupersessions
    cases (payloads.filterMap PyValue.asDict?).mapM fun payload =>
      (receiptKey payload).map fun key => (key, payload) <;> rfl
  rw [pairs, mapM_isSome]
  constructor
  · intro keyed payload loaded
    have own := keyed payload (List.mem_filterMap.2 ⟨.dict payload, loaded, rfl⟩)
    rwa [Option.isSome_map] at own
  · intro keyed payload listed
    obtain ⟨value, loaded, isDict⟩ := List.mem_filterMap.1 listed
    rw [Option.isSome_map]
    cases value <;> cases isDict
    exact keyed payload loaded

/-! ## What each key has -/

variable {receipts : List PyDict}

theorem recordsOf_append (record : PyDict) (isRecord : isSupersession record = true)
    (keyed : receiptKey record = some key) :
    recordsOf (payloads ++ [.dict record]) key = recordsOf payloads key ++ [record] := by
  have single : ([PyValue.dict record].filterMap PyValue.asDict?) = [record] := rfl
  have own : (isSupersession record && (receiptKey record == some key)) = true := by
    rw [isRecord, keyed, beq_self_eq_true]
    rfl
  unfold recordsOf
  rw [List.filterMap_append, single, List.filter_append, List.filter_cons, if_pos own,
    List.filter_nil]

theorem latestRecord_appended (isRecord : isSupersession record = true)
    (keyed : receiptKey record = some key)
    (above : ∀ other ∈ recordsOf payloads key, Outranks env record other) :
    latestRecord env (recordsOf (payloads ++ [.dict record]) key) = some record := by
  rw [recordsOf_append record isRecord keyed]
  refine (latestRecord_iff env).2 (Highest.isLatest ⟨by simp, fun other listed => ?_⟩)
  rcases List.mem_append.1 listed with earlier | last
  · exact Or.inr (above other earlier)
  · exact Or.inl (List.mem_singleton.1 last)

theorem IsBase.key_eq {target : ReceiptKey} (base : IsBase payloads key receipt)
    (other : IsBase payloads target receipt) : key = target :=
  Option.some.inj (base.keyed.symm.trans other.keyed)

theorem keysResolved_of_aimed (distinct : DistinctOrdinals env payloads)
    (aimed : WellAimed env payloads)
    (active : ∀ receipt, receipt ∈ receipts ↔ Active env payloads receipt) :
    KeysResolved env payloads receipts := by
  simp only [active_iff distinct] at active
  refine ⟨?_, ?_, ?_⟩
  · intro key unsuperseded receipt
    constructor
    · rintro ⟨inForce, keyed⟩
      rcases (active receipt).1 inForce with ⟨own, base, _⟩ | ⟨chain, record, highest, kept, found⟩
      · obtain rfl := Option.some.inj (base.keyed.symm.trans keyed)
        exact base
      · exact (aimed.aimed chain record receipt key highest kept found keyed).unsuperseded
          unsuperseded
    · intro base
      exact ⟨(active receipt).2 (Or.inl ⟨key, base, unsuperseded⟩), base.keyed⟩
  · intro key record highest tombstone receipt inForce keyed
    rcases (active receipt).1 inForce with ⟨own, base, none⟩ | ⟨chain, other, highest', kept, found⟩
    · obtain rfl := Option.some.inj (base.keyed.symm.trans keyed)
      exact absurd none (List.ne_nil_of_mem highest.listed)
    · have decided := (aimed.aimed chain other receipt key highest' kept found keyed).decided
      rw [(decided record highest).1] at tombstone
      cases tombstone
  · intro key record highest kept replacement found
    refine ⟨(active replacement).2 (Or.inr ⟨key, record, highest, kept, found⟩), ?_⟩
    intro receipt inForce base
    rcases (active receipt).1 inForce with ⟨own, other, none⟩ | ⟨chain, other, highest', kept', found'⟩
    · obtain rfl := other.key_eq base
      exact absurd none (List.ne_nil_of_mem highest.listed)
    · have decided := (aimed.aimed chain other receipt key highest' kept' found' base.keyed).decided
      exact (decided record highest).2 replacement found base

theorem aimed_of_keysResolved (distinct : DistinctOrdinals env payloads)
    (resolved : KeysResolved env payloads receipts)
    (active : ∀ receipt, receipt ∈ receipts ↔ Active env payloads receipt) {replacement : PyDict}
    {target : ReceiptKey} (highest : Highest env (recordsOf payloads key) record)
    (kept : (record.get "tombstone").truthy = false)
    (found : record.get "replacement" = .dict replacement)
    (keyed : receiptKey replacement = some target) : Aimed env payloads replacement target := by
  have inForce : replacement ∈ receipts :=
    (active replacement).2 ((active_iff distinct).2 (Or.inr ⟨key, record, highest, kept, found⟩))
  refine ⟨?_, ?_⟩
  · intro unsuperseded
    exact (resolved.unsuperseded target unsuperseded replacement).1 ⟨inForce, keyed⟩
  · intro deciding decides
    have standing : (deciding.get "tombstone").truthy = false := by
      by_contra tombstone
      exact resolved.tombstoned target deciding decides (Bool.of_not_eq_false tombstone)
        replacement inForce keyed
    refine ⟨standing, fun own found' base => ?_⟩
    exact (resolved.replaced target deciding decides standing own found').2 replacement inForce base

/-- Each key has what its records leave exactly when the keys have hashes and no replacement in
force carries the key of a chain that settles otherwise. -/
theorem resolves_iff (env : GateEnv) (payloads : List PyValue)
    (distinct : DistinctOrdinals env payloads) :
    Resolves env payloads ↔ WellAimed env payloads := by
  constructor
  · intro resolves
    obtain ⟨receipts, returned, resolved, _⟩ := resolves.returned
    refine ⟨applySupersessions_isSome.1 (Option.isSome_of_mem returned), ?_⟩
    intro key record replacement target highest kept found keyed
    exact aimed_of_keysResolved distinct resolved
      (fun receipt => mem_applySupersessions returned) highest kept found keyed
  · intro aimed
    obtain ⟨receipts, returned⟩ :=
      Option.isSome_iff_exists.1 (applySupersessions_isSome.2 aimed.hashable)
    have active (receipt : PyDict) := @mem_applySupersessions _ _ _ returned receipt
    refine ⟨⟨receipts, returned, keysResolved_of_aimed distinct aimed active, ?_⟩, ?_⟩
    · intro reordered same
      have hashable : ∀ payload, PyValue.dict payload ∈ reordered →
          (receiptKey payload).isSome := fun payload loaded =>
        aimed.hashable payload (same.subset loaded)
      obtain ⟨others, returned'⟩ :=
        Option.isSome_iff_exists.1 (applySupersessions_isSome.2 hashable)
      refine ⟨others, returned', fun receipt => ?_⟩
      rw [mem_applySupersessions returned', active receipt, active_perm distinct same]
    · intro key record isRecord keyed above
      exact latestRecord_appended isRecord keyed above

/-! ## A key of another chain -/

def itemPayload (item : String) (fields : PyDict) : PyDict :=
  [("ticket_id", .str "OMN-1"), ("evidence_item_id", .str item), ("check_type", .str "command")] ++
    fields

def itemKey (item : String) : ReceiptKey := (.str "OMN-1", .str item, .str "command")

/-- A record that puts a passed receipt of an item in force. -/
def rebinding (item : String) (ordinal : String) (target : String) : PyDict :=
  itemPayload item [("supersedes", .str "base"),
    ("__source_name__", .str (item ++ ".supersede." ++ ordinal ++ ".yaml")),
    ("replacement", .dict (itemPayload target [("status", .str "PASS")]))]

def tombstoneOf (item : String) (ordinal : String) : PyDict :=
  itemPayload item [("supersedes", .str "base"),
    ("__source_name__", .str (item ++ ".supersede." ++ ordinal ++ ".yaml")),
    ("tombstone", .bool true)]

example : isSupersession (tombstoneOf "dod-001" "0001") = true := by decide +kernel

theorem distinctOrdinals_of_all
    (distinct : (((payloads.filterMap PyValue.asDict?).filter isSupersession).map
      (supersedeSeq env)).Nodup) : DistinctOrdinals env payloads := by
  intro key
  refine distinct.sublist (List.Sublist.map _ ?_)
  unfold recordsOf
  rw [← List.filter_filter]
  exact List.filter_sublist.filter _

/-- A base receipt and the record that rebinds it. -/
def reboundPayloads : List PyValue :=
  [.dict (itemPayload "dod-001" [("status", .str "FAIL")]),
    .dict (rebinding "dod-001" "0001" "dod-001")]

theorem reboundPayloads_distinct : DistinctOrdinals sampleEnv reboundPayloads :=
  distinctOrdinals_of_all (by decide +kernel)

theorem mem_reboundPayloads {key : ReceiptKey} (listed : record ∈ recordsOf reboundPayloads key) :
    record = rebinding "dod-001" "0001" "dod-001" := by
  obtain ⟨inDicts, isRecord⟩ := List.mem_filter.1 listed
  have records : ∀ payload ∈ reboundPayloads.filterMap PyValue.asDict?,
      isSupersession payload = true → payload = rebinding "dod-001" "0001" "dod-001" := by
    decide +kernel
  exact records record inDicts (Bool.and_eq_true_iff.1 isRecord).1

/-- The base receipt of a rebound item is replaced. -/
theorem resolves_iff_rebound : Resolves sampleEnv reboundPayloads := by
  refine (resolves_iff sampleEnv reboundPayloads reboundPayloads_distinct).2 ⟨?_, ?_⟩
  · have hashable : ∀ payload ∈ reboundPayloads.filterMap PyValue.asDict?,
        (receiptKey payload).isSome := by decide +kernel
    intro payload loaded
    exact hashable payload (List.mem_filterMap.2 ⟨_, loaded, rfl⟩)
  · intro key record replacement target highest kept found keyed
    obtain rfl := mem_reboundPayloads highest.listed
    cases found
    obtain rfl : itemKey "dod-001" = target := Option.some.inj keyed
    refine ⟨?_, ?_⟩
    · intro none
      exact absurd none (by decide +kernel)
    · intro deciding decides
      obtain rfl := mem_reboundPayloads decides.listed
      refine ⟨rfl, fun own same _ => ?_⟩
      cases same
      rfl

/-- A tombstoned receipt, and the record of another item that puts it in force again. -/
def revivedPayloads : List PyValue :=
  [.dict (itemPayload "dod-001" [("status", .str "PASS")]),
    .dict (tombstoneOf "dod-001" "0001"), .dict (rebinding "dod-002" "0002" "dod-001")]

/-- The replacement of the second item is a receipt of the tombstoned key. -/
theorem replacement_revives_tombstone :
    ¬ ∀ (env : GateEnv) (payloads : List PyValue), DistinctOrdinals env payloads →
      Resolves env payloads := by
  intro claimed
  have resolves := claimed sampleEnv revivedPayloads (distinctOrdinals_of_all (by decide +kernel))
  obtain ⟨receipts, returned, resolved, _⟩ := resolves.returned
  have first : recordsOf revivedPayloads (itemKey "dod-001") =
      [tombstoneOf "dod-001" "0001"] := by decide +kernel
  have second : recordsOf revivedPayloads (itemKey "dod-002") =
      [rebinding "dod-002" "0002" "dod-001"] := by decide +kernel
  have tombstoned : Highest sampleEnv (recordsOf revivedPayloads (itemKey "dod-001"))
      (tombstoneOf "dod-001" "0001") := by
    rw [first]
    exact ⟨List.mem_cons_self, fun other listed => Or.inl (List.mem_singleton.1 listed)⟩
  have rebinds : IsLatest sampleEnv (recordsOf revivedPayloads (itemKey "dod-002"))
      (rebinding "dod-002" "0002" "dod-001") := by
    rw [second]
    exact ⟨[], [], rfl, by simp, by simp⟩
  have inForce := (mem_applySupersessions returned).2 (.replaced rebinds rfl rfl)
  exact resolved.tombstoned _ _ tombstoned rfl _ inForce rfl

end OmniMarket.DurableEvidence
