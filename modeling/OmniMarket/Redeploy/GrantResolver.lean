import OmniMarket.Redeploy.PromotionGate
import OmniMarket.Lib.Raising

/-!
# The grant resolver

The resolver reads the grant file of the governance repository and resolves it for one
request: the first entry for the production lane, the digest and the batch decides. A
corrupt file raises. The YAML loader, the ISO and UUID parsers and sha256 are parameters.
-/

namespace OmniMarket.Redeploy

open PyText

/-- What `yaml.safe_load` builds. A mapping keeps its string keys only. -/
inductive YamlValue where
  | none
  | bool (value : Bool)
  | int (value : ℤ)
  | float (value : PyFloat)
  | str (value : String)
  | timestamp (moment : PyDatetime)
  | date (ordinal : ℤ)
  | list (items : List YamlValue)
  | dict (entries : List (String × YamlValue))

abbrev YamlDict := List (String × YamlValue)

/-- `d.get(key)`; for a required field also `d[key]`. -/
def YamlDict.get (entry : YamlDict) (key : String) : YamlValue :=
  (List.lookup key entry).getD .none

/-- `v is None`. -/
def YamlValue.isNone : YamlValue → Bool
  | .none => true
  | _ => false

/-- The libraries that the resolver calls. -/
structure GrantFileRuntime where
  unicode : UnicodeTable
  /-- `yaml.safe_load(raw.decode("utf-8"))`. -/
  safeLoad : List UInt8 → Except RedeployError YamlValue
  /-- `str(v)` of a value that is not a string. -/
  strOther : YamlValue → String
  /-- `repr(v)`. -/
  repr : YamlValue → String
  fromisoformat : String → Except RedeployError PyDatetime
  parseUuid : String → Except RedeployError Uuid
  sha256 : List UInt8 → Sha256Hex

section

variable (runtime : GrantFileRuntime)

/-- `str(v)`. -/
def GrantFileRuntime.str : YamlValue → String
  | .str value => value
  | value => runtime.strOther value

/-! ## Entries of the grant file -/

/-- `_REQUIRED_ENTRY_FIELDS`, sorted. -/
def requiredEntryFields : List String :=
  ["approved_by", "created_at", "expires_at", "grant_id", "image_digest", "promotion_batch_id",
    "reason", "runtime_lane"]

/-- The whitespace that `bytes.strip` removes. -/
def isByteSpace (byte : UInt8) : Bool :=
  byte == 0x20 || (0x09 ≤ byte && byte ≤ 0x0d)

def coerceDatetime : YamlValue → Except RedeployError PyDatetime
  | .timestamp moment => .ok moment
  | .str value =>
    runtime.fromisoformat
      (String.ofList (replaceText ['Z'] "+00:00".toList 0 value.toList))
  | value =>
    .error (.typeError ("grant timestamp must be a datetime or ISO-8601 string; got " ++
      runtime.repr value))

/-- `_is_consumed`: only the boolean marks an entry. -/
def isConsumed (entry : YamlDict) : Bool :=
  match entry.get "consumed" with
  | .bool marked => marked
  | _ => false

def matchesKey (requestedImageDigest promotionBatchId : Option String) (entry : YamlDict) : Bool :=
  if runtime.str (entry.get "runtime_lane") ≠ EnumRuntimeLane.prod.value.value then false
  else
    match requestedImageDigest, promotionBatchId with
    | some digest, some batch =>
      runtime.str (entry.get "image_digest") == digest &&
        runtime.str (entry.get "promotion_batch_id") == batch
    | _, _ => false

/-- A text field of the grant: `str(v)` with `min_length=1`. -/
def grantField (entry : YamlDict) (key field : String) :
    Except RedeployError NonEmptyString :=
  match NonEmptyString.validate? (runtime.str (entry.get key)) with
  | some checked => .ok checked
  | none => .error (.validation "ModelProdPromotionGrant" field)

/-- `EnumRuntimeLane(str(v))`. -/
def grantLane (entry : YamlDict) :
    Except RedeployError EnumRuntimeLane :=
  match EnumRuntimeLane.ofValue? (runtime.str (entry.get "runtime_lane")) with
  | some lane => .ok lane
  | none => .error (.valueError (reprString runtime.unicode (runtime.str (entry.get "runtime_lane")) ++
      " is not a valid EnumRuntimeLane"))

/-- A lifecycle marker, absent when its value is `None`. -/
def optionalMarker {α : Type} (read : YamlValue → Except RedeployError α) (value : YamlValue) :
    Except RedeployError (Option α) :=
  if value.isNone then .ok none else (read value).map some

/-- `_materialize_grant`. The entry's own candidate flag, if any, is not read. -/
def materializeGrant (entry : YamlDict) :
    Except RedeployError ModelProdPromotionGrant := do
  let approvedLane ← grantLane runtime entry
  let createdAt ← coerceDatetime runtime (entry.get "created_at")
  let expiresAt ← coerceDatetime runtime (entry.get "expires_at")
  let consumedAt ← optionalMarker (coerceDatetime runtime) (entry.get "consumed_at")
  let consumedBy ← optionalMarker (fun value => runtime.parseUuid (runtime.str value))
    (entry.get "consumed_by_correlation_id")
  let grantId ← grantField runtime entry "grant_id" "grant_id"
  let approvedImageDigest ← grantField runtime entry "image_digest" "approved_image_digest"
  let approvedPromotionBatchId ←
    grantField runtime entry "promotion_batch_id" "approved_promotion_batch_id"
  let approvedBy ← grantField runtime entry "approved_by" "approved_by"
  return {
    grantId, approvedLane, approvedImageDigest, approvedPromotionBatchId, approvedBy,
    createdAt, expiresAt, consumedAt, consumedByCorrelationId := consumedBy }

/-- The loop of `_parse_entries`. -/
def parseItems (runtime : GrantFileRuntime) :
    ℕ → List YamlValue → Except RedeployError (List YamlDict)
  | _, [] => .ok []
  | index, .dict entry :: rest =>
    let missing := requiredEntryFields.filter fun field => !(entry.map Prod.fst).contains field
    if missing ≠ [] then
      .error (.valueError ("grant entry #" ++ toString index ++ " missing required fields: " ++
        reprList runtime.unicode missing))
    else (parseItems runtime (index + 1) rest).map fun parsed => entry :: parsed
  | index, _ :: _ =>
    .error (.valueError ("grant entry #" ++ toString index ++ " must be a mapping"))

def parseEntries (raw : List UInt8) :
    Except RedeployError (List YamlDict) := do
  let data ← if raw.all isByteSpace then .ok .none else runtime.safeLoad raw
  match data with
  | .none => .ok []
  | .dict document =>
    match YamlDict.get document "entries" with
    | .none => .error (.valueError "grant file missing top-level 'entries' key")
    | .list items => parseItems runtime 0 items
    | _ => .error (.valueError "grant file 'entries' must be a list")
  | _ => .error (.valueError "grant file must be a YAML mapping at the top level")

end

/-! ## Resolution -/

structure ModelGrantResolution where
  outcome : EnumGrantResolution
  grant : Option ModelProdPromotionGrant := none
  grantId : Option String := none

section

variable (runtime : GrantFileRuntime)

/-- What the loop of `resolve_grant` answers for the entry that matches. -/
def resolveEntry (evaluatedAt : PyDatetime) (entry : YamlDict) :
    Except RedeployError ModelGrantResolution :=
  let grantId := some (runtime.str (entry.get "grant_id"))
  -- A consumed grant is spent: it is not replayed.
  if isConsumed entry then .ok { outcome := .consumed, grantId }
  else do
    let expiresAt ← coerceDatetime runtime (entry.get "expires_at")
    if ← laterThan evaluatedAt expiresAt then .ok { outcome := .expired, grantId }
    else
      let grant ← materializeGrant runtime entry
      .ok { outcome := .resolved, grant := some grant, grantId }

/-- The loop of `resolve_grant`: the first entry that matches decides. -/
def resolveEntries (runtime : GrantFileRuntime)
    (requestedImageDigest promotionBatchId : Option String) (evaluatedAt : PyDatetime) :
    List YamlDict → Except RedeployError ModelGrantResolution
  | [] => .ok { outcome := .absent }
  | entry :: rest =>
    if matchesKey runtime requestedImageDigest promotionBatchId entry then
      resolveEntry runtime evaluatedAt entry
    else resolveEntries runtime requestedImageDigest promotionBatchId evaluatedAt rest

def resolveGrant (raw : List UInt8) (requestedImageDigest promotionBatchId : Option String)
    (evaluatedAt : PyDatetime) :
    Except RedeployError ModelGrantResolution := do
  let entries ← parseEntries runtime raw
  resolveEntries runtime requestedImageDigest promotionBatchId evaluatedAt entries

/-! ## The handler -/

/-- What the fetcher read from the governance repository. -/
structure ModelGrantFetch where
  raw : List UInt8
  sourceCommitSha : NonEmptyString
  codeownersMatch : Bool

def grantFilePath : NonEmptyString := ⟨"grants/prod_promotion_grants.yaml", by decide⟩

/-- `HandlerProdPromotionGrantResolver.handle` on what the fetcher returned. -/
def resolverHandle (fetched : ModelGrantFetch) (command : ModelProdPromotionGrantResolveCommand) :
    Except RedeployError ModelProdPromotionGrantResolvedEvent := do
  let resolution ← resolveGrant runtime fetched.raw command.requestedImageDigest
    command.promotionBatchId command.evaluatedAt
  return {
    correlationId := command.correlationId
    resolution := resolution.outcome
    grant := if resolution.outcome = .resolved then resolution.grant else none
    evaluatedAt := command.evaluatedAt
    provenance := {
      sourceCommitSha := fetched.sourceCommitSha
      grantFilePath := grantFilePath
      grantId := resolution.grantId
      fileSha256 := runtime.sha256 fetched.raw
      codeownersMatch := fetched.codeownersMatch } }

/-! ## What a file holds for a request -/

/-- The resolver can read the file for this request: it parses, and the entry that matches
carries timestamps and fields of the schema, as far as the resolver comes. -/
structure GrantFileReadable (raw : List UInt8)
    (requestedImageDigest promotionBatchId : Option String) (evaluatedAt : PyDatetime) : Prop where
  parses : ∃ entries, parseEntries runtime raw = .ok entries ∧
    ∀ entry, entries.find? (matchesKey runtime requestedImageDigest promotionBatchId) =
        some entry → isConsumed entry = false →
      ∃ expiresAt, coerceDatetime runtime (entry.get "expires_at") = .ok expiresAt ∧
        evaluatedAt.Comparable expiresAt ∧
        (evaluatedAt.NotAfter expiresAt → ∃ grant, materializeGrant runtime entry = .ok grant)

structure LiveGrant (raw : List UInt8) (requestedImageDigest promotionBatchId : Option String)
    (evaluatedAt : PyDatetime) (grant : ModelProdPromotionGrant) : Prop where
  entry : ∃ entries entry, parseEntries runtime raw = .ok entries ∧
    entries.find? (matchesKey runtime requestedImageDigest promotionBatchId) = some entry ∧
    isConsumed entry = false ∧
    (∃ expiresAt, coerceDatetime runtime (entry.get "expires_at") = .ok expiresAt ∧
      evaluatedAt.NotAfter expiresAt) ∧
    materializeGrant runtime entry = .ok grant

end

section

variable {runtime : GrantFileRuntime} {raw : List UInt8}
  {requestedImageDigest promotionBatchId : Option String} {evaluatedAt : PyDatetime}
  {grant : ModelProdPromotionGrant} {entry : YamlDict} {entries : List YamlDict}

theorem resolveEntries_eq :
    resolveEntries runtime requestedImageDigest promotionBatchId evaluatedAt entries =
      match entries.find? (matchesKey runtime requestedImageDigest promotionBatchId) with
      | some entry => resolveEntry runtime evaluatedAt entry
      | none => .ok { outcome := .absent } := by
  induction entries with
  | nil => rfl
  | cons entry rest ih =>
    rw [resolveEntries, List.find?_cons]
    cases matchesKey runtime requestedImageDigest promotionBatchId entry with
    | true => rfl
    | false => exact ih

theorem resolveEntry_resolved_iff {grantId : Option String} :
    resolveEntry runtime evaluatedAt entry = .ok ⟨.resolved, some grant, grantId⟩ ↔
      isConsumed entry = false ∧
      (∃ expiresAt, coerceDatetime runtime (entry.get "expires_at") = .ok expiresAt ∧
        evaluatedAt.NotAfter expiresAt) ∧
      materializeGrant runtime entry = .ok grant ∧
      grantId = some (runtime.str (entry.get "grant_id")) := by
  unfold resolveEntry
  cases consumed : isConsumed entry with
  | true => simp
  | false =>
    rw [if_neg Bool.false_ne_true, Raising.bind_eq_ok]
    constructor
    · rintro ⟨expiresAt, coerced, compared⟩
      obtain ⟨late, later, answered⟩ := Raising.bind_eq_ok.1 compared
      cases late with
      | true => simp at answered
      | false =>
        rw [if_neg Bool.false_ne_true] at answered
        obtain ⟨built, materialized, same⟩ := Raising.bind_eq_ok.1 answered
        cases same
        exact ⟨rfl, ⟨expiresAt, coerced, laterThan_eq_ok_false.1 later⟩, materialized, rfl⟩
    · rintro ⟨_, ⟨expiresAt, coerced, live⟩, materialized, rfl⟩
      refine ⟨expiresAt, coerced, ?_⟩
      rw [laterThan_eq_ok_false.2 live, Raising.bind_ok, if_neg Bool.false_ne_true, materialized]
      rfl

variable {resolution : ModelGrantResolution}

theorem resolveEntry_resolved (answered : resolveEntry runtime evaluatedAt entry = .ok resolution)
    (resolved : resolution.outcome = .resolved) : ∃ grant, resolution.grant = some grant := by
  unfold resolveEntry at answered
  split at answered
  · cases answered
    cases resolved
  · obtain ⟨_, _, compared⟩ := Raising.bind_eq_ok.1 answered
    obtain ⟨late, _, settled⟩ := Raising.bind_eq_ok.1 compared
    split at settled
    · cases settled
      cases resolved
    · obtain ⟨built, _, same⟩ := Raising.bind_eq_ok.1 settled
      cases same
      exact ⟨built, rfl⟩

theorem resolveEntry_returns_iff :
    (∃ resolution, resolveEntry runtime evaluatedAt entry = .ok resolution) ↔
      (isConsumed entry = false →
        ∃ expiresAt, coerceDatetime runtime (entry.get "expires_at") = .ok expiresAt ∧
          evaluatedAt.Comparable expiresAt ∧
          (evaluatedAt.NotAfter expiresAt →
            ∃ grant, materializeGrant runtime entry = .ok grant)) := by
  unfold resolveEntry
  cases consumed : isConsumed entry with
  | true => simp
  | false =>
    rw [if_neg Bool.false_ne_true]
    constructor
    · rintro ⟨resolution, answered⟩ _
      obtain ⟨expiresAt, coerced, compared⟩ := Raising.bind_eq_ok.1 answered
      obtain ⟨late, later, settled⟩ := Raising.bind_eq_ok.1 compared
      refine ⟨expiresAt, coerced, ?_, ?_⟩
      · cases late with
        | true => exact (laterThan_eq_ok_true.1 later).1
        | false => exact (laterThan_eq_ok_false.1 later).1
      · intro live
        rw [laterThan_eq_ok_false.2 live] at later
        cases later
        rw [if_neg Bool.false_ne_true] at settled
        obtain ⟨built, materialized, _⟩ := Raising.bind_eq_ok.1 settled
        exact ⟨built, materialized⟩
    · intro readable
      obtain ⟨expiresAt, coerced, comparable, builds⟩ := readable rfl
      rw [coerced, Raising.bind_ok]
      -- only a live entry is materialized; an expired one is refused as it stands
      rcases comparable.notAfter_or_after with live | late
      · obtain ⟨built, materialized⟩ := builds live
        rw [laterThan_eq_ok_false.2 live, Raising.bind_ok, if_neg Bool.false_ne_true, materialized]
        exact ⟨_, rfl⟩
      · rw [laterThan_eq_ok_true.2 late]
        exact ⟨_, rfl⟩

theorem resolveGrant_returns_iff :
    (∃ resolution, resolveGrant runtime raw requestedImageDigest promotionBatchId evaluatedAt =
        .ok resolution) ↔
      GrantFileReadable runtime raw requestedImageDigest promotionBatchId evaluatedAt := by
  constructor
  · rintro ⟨resolution, answered⟩
    obtain ⟨entries, parsed, walked⟩ := Raising.bind_eq_ok.1 answered
    refine ⟨entries, parsed, fun entry found => ?_⟩
    rw [resolveEntries_eq, found] at walked
    exact resolveEntry_returns_iff.1 ⟨resolution, walked⟩
  · rintro ⟨entries, parsed, readable⟩
    unfold resolveGrant
    rw [parsed, Raising.bind_ok, resolveEntries_eq]
    cases found : entries.find? (matchesKey runtime requestedImageDigest promotionBatchId) with
    | none => exact ⟨_, rfl⟩
    | some entry => exact resolveEntry_returns_iff.2 (readable entry found)

theorem resolveGrant_resolved_iff :
    (∃ grantId, resolveGrant runtime raw requestedImageDigest promotionBatchId evaluatedAt =
        .ok ⟨.resolved, some grant, grantId⟩) ↔
      LiveGrant runtime raw requestedImageDigest promotionBatchId evaluatedAt grant := by
  constructor
  · rintro ⟨grantId, answered⟩
    obtain ⟨entries, parsed, walked⟩ := Raising.bind_eq_ok.1 answered
    rw [resolveEntries_eq] at walked
    cases found : entries.find? (matchesKey runtime requestedImageDigest promotionBatchId) with
    | none =>
      rw [found] at walked
      cases walked
    | some entry =>
      rw [found] at walked
      obtain ⟨unspent, live, materialized, _⟩ := resolveEntry_resolved_iff.1 walked
      exact ⟨entries, entry, parsed, found, unspent, live, materialized⟩
  · rintro ⟨entries, entry, parsed, found, unspent, live, materialized⟩
    refine ⟨some (runtime.str (entry.get "grant_id")), ?_⟩
    unfold resolveGrant
    rw [parsed, Raising.bind_ok, resolveEntries_eq, found]
    exact resolveEntry_resolved_iff.2 ⟨unspent, live, materialized, rfl⟩

theorem resolveGrant_resolved
    (answered : resolveGrant runtime raw requestedImageDigest promotionBatchId evaluatedAt =
      .ok resolution) (resolved : resolution.outcome = .resolved) :
    ∃ grant, resolution.grant = some grant ∧
      LiveGrant runtime raw requestedImageDigest promotionBatchId evaluatedAt grant := by
  obtain ⟨entries, _, walked⟩ := Raising.bind_eq_ok.1 answered
  rw [resolveEntries_eq] at walked
  split at walked
  · obtain ⟨grant, carried⟩ := resolveEntry_resolved walked resolved
    refine ⟨grant, carried, resolveGrant_resolved_iff.1 ⟨resolution.grantId, ?_⟩⟩
    rw [answered, ← resolved, ← carried]
  · cases walked
    cases resolved

theorem matchesKey_eq_true :
    matchesKey runtime requestedImageDigest promotionBatchId entry = true ↔
      runtime.str (entry.get "runtime_lane") = EnumRuntimeLane.prod.value.value ∧
      some (runtime.str (entry.get "image_digest")) = requestedImageDigest ∧
      some (runtime.str (entry.get "promotion_batch_id")) = promotionBatchId := by
  unfold matchesKey
  split
  · next otherLane => simp [otherLane]
  · next prodLane =>
    rw [not_not.1 prodLane]
    cases requestedImageDigest <;> cases promotionBatchId <;> simp

theorem grantField_eq_ok {key field : String} {checked : NonEmptyString} :
    grantField runtime entry key field = .ok checked ↔
      checked.value = runtime.str (entry.get key) := by
  rw [← NonEmptyString.validate?_eq_some]
  unfold grantField
  cases NonEmptyString.validate? (runtime.str (entry.get key)) <;> simp

theorem materializeGrant_fields (materialized : materializeGrant runtime entry = .ok grant) :
    grantLane runtime entry = .ok grant.approvedLane ∧
      coerceDatetime runtime (entry.get "expires_at") = .ok grant.expiresAt ∧
      grant.approvedImageDigest.value = runtime.str (entry.get "image_digest") ∧
      grant.approvedPromotionBatchId.value = runtime.str (entry.get "promotion_batch_id") ∧
      grant.authorizesCandidate = false := by
  unfold materializeGrant at materialized
  simp only [Raising.bind_eq_ok] at materialized
  obtain ⟨_, lane, _, _, _, expires, _, _, _, _, _, _, _, digest, _, batch, _, _, built⟩ :=
    materialized
  cases built
  exact ⟨lane, expires, grantField_eq_ok.1 digest, grantField_eq_ok.1 batch, rfl⟩

theorem LiveGrant.binds
    (live : LiveGrant runtime raw requestedImageDigest promotionBatchId evaluatedAt grant) :
    GrantBinds grant requestedImageDigest promotionBatchId (some evaluatedAt) := by
  obtain ⟨entries, entry, _, found, _, ⟨expiresAt, coerced, early⟩, materialized⟩ := live.entry
  obtain ⟨lane, digest, batch⟩ := matchesKey_eq_true.1 (List.find?_some found)
  obtain ⟨approvedLane, expires, approvedDigest, approvedBatch, _⟩ :=
    materializeGrant_fields materialized
  rw [coerced] at expires
  cases expires
  rw [grantLane, lane, EnumRuntimeLane.ofValue?_value] at approvedLane
  refine grantBinds_iff.2 ⟨?_, ?_, ?_, early⟩
  · exact (Except.ok.inj approvedLane).symm
  · rw [approvedDigest]
    exact digest
  · rw [approvedBatch]
    exact batch

end

end OmniMarket.Redeploy
