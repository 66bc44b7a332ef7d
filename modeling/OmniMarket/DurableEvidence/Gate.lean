import OmniMarket.DurableEvidence.Receipts

/-!
# The durable evidence gate

`DurableEvidenceGate.evaluate`: five checks over the receipts and the contract on the governance
ref. The probes are functions of what they are asked.
-/

namespace OmniMarket.DurableEvidence

section

structure DurableEvidenceGate where
  isReceiptTracked : String → String → String → Bool
  /-- State and merge commit of a PR. -/
  ghPrView : String → ℤ → String × Option String
  prCommits : String → ℤ → List String
  loadContractOnRef : String → String → String → Option PyDict
  loadReceiptsOnRef : String → String → String → List PyValue
  occRepoPath : String
  occGovernanceRef : String

/-- The arguments of an evaluation. -/
structure GateRequest where
  ticketId : String
  contract : PyDict
  receiptDir : String
  contractRelPath : String
  ticketLabels : List String

inductive EnumDurableEvidenceCheck
  | receiptTracked
  | contractCitesMergeCommit
  | runtimeOpsReadback
  | contractOnOccMain
  | defectPreventionGate
  | doneClassLabel

structure ModelDurableEvidenceCheckResult where
  check : EnumDurableEvidenceCheck
  passed : Bool
  message : String

inductive EnumDurableEvidenceStatus
  | pass
  | fail
deriving DecidableEq

structure ModelDurableEvidenceGateResult where
  ticketId : String
  status : EnumDurableEvidenceStatus
  checks : List ModelDurableEvidenceCheckResult

def EnumDefectLabel.values : List String := ["bug", "defect", "regression"]

def EnumDoneClassLabel.values : List String :=
  ["source-done", "runtime-observed", "projection-backed", "replay-proven", "demo-visible",
    "prod-proven"]

/-! ## The commits of a PR -/

/-- `_sha_prefix_match`: one text starts with the first seven characters of the other. -/
def shaPrefixMatch (a b : String) : Bool :=
  a != "" && b != "" &&
    ((b.toList.take 7).isPrefixOf a.toList || (a.toList.take 7).isPrefixOf b.toList)

def citedShaInPrCommits (citedSha : String) (prCommitOids : List String) : Bool :=
  prCommitOids.any (shaPrefixMatch citedSha)

variable (env : GateEnv) (gate : DurableEvidenceGate)

def citationFailure (citation : ModelCitedMergeCommit) : Option String :=
  let (state, mergeCommitOid) := gate.ghPrView citation.repo citation.prNumber
  if state ≠ "MERGED" then
    some (citation.prUrl ++ " state=" ++ state ++ ", expected MERGED. Update the durable " ++
      "receipt to cite the real merged PR before re-running the gate.")
  else if mergeCommitOid.any (shaPrefixMatch · citation.citedSha) then none
  else
    let prCommitOids := gate.prCommits citation.repo citation.prNumber
    if citedShaInPrCommits citation.citedSha prCommitOids then none
    else
      some (citation.prUrl ++ " is MERGED (mergeCommit.oid=" ++
        PyText.reprOption env.unicode mergeCommitOid ++ ") but receipt commit_sha=" ++
        PyText.reprString env.unicode citation.citedSha ++
        " is neither that merge commit nor a member of the PR's " ++
        toString prCommitOids.length ++ " commit(s). The receipt cites a commit that was not " ++
        "part of this PR — or the PR-commits API could not be resolved (fail-closed). Update the " ++
        "receipt to cite the squash mergeCommit.oid (or the reviewed head SHA that was actually " ++
        "merged) before re-running the gate.")

section

variable (request : GateRequest)

def mergedPrCheck (citations : List ModelCitedMergeCommit) :
    ModelDurableEvidenceCheckResult :=
  let check2Failure :=
    if citations.isEmpty then
      some ("No PASS receipt under " ++ request.receiptDir ++ "/ binds pr_number, commit_sha, " ++
        "and a GitHub repo. Durable evidence must cite an actual merged PR via receipt fields before " ++
        "Linear can move to Done.")
    else citations.findSome? (citationFailure env gate)
  match check2Failure with
  | none =>
    { check := .contractCitesMergeCommit
      passed := true
      message := "All " ++ toString citations.length ++
        " receipt-bound PR(s) are MERGED with matching merge SHAs." }
  | some failure => { check := .contractCitesMergeCommit, passed := false, message := failure }

/-! ## The contract on the governance ref -/

def checkKeysOfItem (item : PyValue) : List (String × String) :=
  match item with
  | .dict fields =>
    match (PyDict.get fields "id").asStr?,
        ((PyDict.get? fields "checks").getD (.list [])).asList? with
    | some itemId, some checks =>
      checks.filterMap fun check =>
        match check with
        | .dict checkFields =>
          (PyDict.get checkFields "check_type").asStr?.map fun checkType =>
            (itemId, checkType)
        | _ => none
    | _, _ => []
  | _ => []

def extractContractCheckKeys (contract : PyDict) : List (String × String) :=
  match ((contract.get? "dod_evidence").getD (.list [])).asList? with
  | some items => items.flatMap checkKeysOfItem
  | none => []

def keyOrder (first second : String × String) : Prop :=
  first.1 < second.1 ∨ first.1 = second.1 ∧ first.2 ≤ second.2

instance : DecidableRel keyOrder := fun first second =>
  inferInstanceAs (Decidable (first.1 < second.1 ∨ first.1 = second.1 ∧ first.2 ≤ second.2))

/-- `sorted(keys)` as an f-string writes it. -/
def reprKeys (keys : List (String × String)) : String :=
  "[" ++ String.intercalate ", " ((keys.eraseDups.insertionSort keyOrder).map fun key =>
    "(" ++ PyText.reprString env.unicode key.1 ++ ", " ++ PyText.reprString env.unicode key.2 ++
      ")") ++ "]"

def contractOnRefCheck (receiptKeys : List (String × String)) :
    ModelDurableEvidenceCheckResult :=
  match gate.loadContractOnRef gate.occRepoPath gate.occGovernanceRef request.contractRelPath with
  | none =>
    { check := .contractOnOccMain
      passed := false
      message := "Contract " ++ request.contractRelPath ++ " is not present on " ++
        gate.occGovernanceRef ++ ". Open an OCC PR with the contract and merge it before " ++
        "transitioning Linear to Done." }
  | some mainContract =>
    let mainContractKeys := extractContractCheckKeys mainContract
    let missingContractKeys :=
      (extractContractCheckKeys request.contract).filter (!mainContractKeys.contains ·)
    let missingReceiptKeys := receiptKeys.filter (!mainContractKeys.contains ·)
    if !missingContractKeys.isEmpty || !missingReceiptKeys.isEmpty then
      { check := .contractOnOccMain
        passed := false
        message := "Contract on " ++ gate.occGovernanceRef ++
          " is stale — missing local check(s) " ++ reprKeys env missingContractKeys ++
          " or receipt-bound check(s) " ++ reprKeys env missingReceiptKeys ++
          ". Open an OCC PR to update the contract and merge it before transitioning Linear " ++
          "to Done." }
    else
      { check := .contractOnOccMain
        passed := true
        message := "Contract on " ++ gate.occGovernanceRef ++
          " contains the receipt-bound evidence checks." }

/-! ## Labels -/

def nonblank (contract : PyDict) (key : String) : Option String :=
  match (contract.get key).asStr? with
  | some value =>
    if PyText.stripString value = "" then none else some (PyText.stripString value)
  | none => none

/-- `extract_defect_prevention`: the prevention gate and the non-recurrence note. -/
def extractDefectPrevention (contract : PyDict) : Option String × Option String :=
  (nonblank contract "prevention_gate", nonblank contract "non_recurrence_note")

/-- `sorted(ticket_labels & values)`. -/
def presentLabels (values : List String) : List String :=
  (values.filter request.ticketLabels.contains).insertionSort (· ≤ ·)

def defectPreventionCheck : ModelDurableEvidenceCheckResult :=
  let presentDefectLabels := presentLabels request EnumDefectLabel.values
  let labelsText := PyText.reprList env.unicode presentDefectLabels
  if presentDefectLabels.isEmpty then
    { check := .defectPreventionGate
      passed := true
      message := "Not a defect-class ticket — repair-to-ratchet rule does not apply." }
  else
    match extractDefectPrevention request.contract with
    | (some preventionGate, _) =>
      { check := .defectPreventionGate
        passed := true
        message := "Defect ticket (label(s) " ++ labelsText ++
          ") satisfies repair-to-ratchet via prevention_gate=" ++
          PyText.reprString env.unicode preventionGate ++ "." }
    | (none, some nonRecurrenceNote) =>
      { check := .defectPreventionGate
        passed := true
        message := "Defect ticket (label(s) " ++ labelsText ++
          ") satisfies repair-to-ratchet via non_recurrence_note=" ++
          PyText.reprString env.unicode nonRecurrenceNote ++ "." }
    | (none, none) =>
      { check := .defectPreventionGate
        passed := false
        message := "Defect ticket (label(s) " ++ labelsText ++
          ") cannot close: the contract links no prevention gate and carries no " ++
          "non-recurrence note. Add a top-level 'prevention_gate' (CI workflow / pre-commit hook path or PR " ++
          "URL) OR a 'non_recurrence_note' explaining why no automated gate is feasible " ++
          "before transitioning Linear to Done (OMN-13339, Rule 5)." }

def doneClassCheck (receiptTracked : Bool) :
    ModelDurableEvidenceCheckResult :=
  let presentDoneClasses := presentLabels request EnumDoneClassLabel.values
  let labelsText := PyText.reprList env.unicode presentDoneClasses
  if presentDoneClasses.isEmpty then
    { check := .doneClassLabel
      passed := false
      message := "Ticket carries no approved done-class label. Add exactly one of " ++
        PyText.reprList env.unicode (EnumDoneClassLabel.values.insertionSort (· ≤ ·)) ++
        " that reflects how the work was proven Done (backed by RECEIPT_TRACKED / " ++
        "CONTRACT_CITES_MERGE_COMMIT / CONTRACT_ON_OCC_MAIN) before transitioning Linear to " ++
        "Done. A plain Done with no done-class label is rejected (OMN-13337)." }
  else if !receiptTracked then
    { check := .doneClassLabel
      passed := false
      message := "Ticket carries done-class label(s) " ++ labelsText ++
        " but no durable receipt is tracked on " ++ gate.occGovernanceRef ++
        ". A done-class label must be backed by a tracked receipt (RECEIPT_TRACKED) — the label " ++
        "alone is not evidence (OMN-13337)." }
  else
    { check := .doneClassLabel
      passed := true
      message := "Done-class label(s) " ++ labelsText ++
        " present and backed by a tracked durable receipt." }

/-! ## Evaluation -/

def receiptTrackedCheck (receiptTracked : Bool) :
    ModelDurableEvidenceCheckResult :=
  if receiptTracked then
    { check := .receiptTracked
      passed := true
      message := "Receipt(s) under " ++ request.receiptDir ++ "/ are tracked on " ++
        gate.occGovernanceRef ++ "." }
  else
    { check := .receiptTracked
      passed := false
      message := "No receipt is tracked under " ++ request.receiptDir ++ "/ on " ++
        gate.occGovernanceRef ++ ". Commit and push the command.yaml receipt to " ++
        "onex_change_control before re-running the gate." }

def evidenceCheck (receipts : List PyDict) (citations : List ModelCitedMergeCommit) :
    ModelDurableEvidenceCheckResult × List (String × String) :=
  if isRuntimeOpsReceiptSet env receipts then
    let (passed, message, receiptKeys) :=
      evaluateRuntimeOpsReadback env (receipts.filter (isPass env))
    ({ check := .runtimeOpsReadback, passed := passed, message := message }, receiptKeys)
  else
    (mergedPrCheck env gate request citations, citations.map ModelCitedMergeCommit.checkKey)

def runChecks (receipts : List PyDict) (citations : List ModelCitedMergeCommit) :
    ModelDurableEvidenceGateResult :=
  let receiptTracked :=
    gate.isReceiptTracked gate.occRepoPath gate.occGovernanceRef request.receiptDir
  let (check2, receiptKeys) := evidenceCheck env gate request receipts citations
  let checks :=
    [receiptTrackedCheck gate request receiptTracked, check2,
      contractOnRefCheck env gate request receiptKeys, defectPreventionCheck env request,
      doneClassCheck env gate request receiptTracked]
  { ticketId := request.ticketId
    status :=
      if checks.all ModelDurableEvidenceCheckResult.passed then EnumDurableEvidenceStatus.pass
      else EnumDurableEvidenceStatus.fail
    checks := checks }

def payloads : List PyValue :=
  gate.loadReceiptsOnRef gate.occRepoPath gate.occGovernanceRef request.receiptDir

def activeReceipts : Except GateRaise (List PyDict) :=
  match applySupersessions env (payloads gate request) with
  | some receipts => .ok receipts
  | none => .error .unhashableKey

def evaluate : Except GateRaise ModelDurableEvidenceGateResult := do
  let receipts ← activeReceipts env gate request
  let citations ← extractReceiptMergeCommits env receipts
  return runChecks env gate request receipts citations

end

end

/-!
# Active receipts

A base receipt is active while its key has no supersession record. The latest record of a key
leaves its replacement active, or nothing if it is a tombstone.
-/

section

variable (env : GateEnv)

def recordsOf (payloads : List PyValue) (key : ReceiptKey) : List PyDict :=
  (payloads.filterMap PyValue.asDict?).filter fun payload =>
    isSupersession payload && (receiptKey payload == some key)

def IsLatest (records : List PyDict) (latest : PyDict) : Prop :=
  ∃ before after, records = before ++ latest :: after ∧
    (∀ record ∈ before, orderKey env record < orderKey env latest) ∧
    ∀ record ∈ after, orderKey env record ≤ orderKey env latest

inductive Active (payloads : List PyValue) : PyDict → Prop
  | base {receipt : PyDict} {key : ReceiptKey} (loaded : PyValue.dict receipt ∈ payloads)
      (isBase : isSupersession receipt = false) (keyed : receiptKey receipt = some key)
      (unsuperseded : recordsOf payloads key = []) : Active payloads receipt
  | replaced {receipt latest : PyDict} {key : ReceiptKey}
      (isLatest : IsLatest env (recordsOf payloads key) latest)
      (kept : (latest.get "tombstone").truthy = false)
      (replacement : latest.get "replacement" = .dict receipt) : Active payloads receipt

/-! ## The latest record -/

variable {records : List PyDict}

theorem foldl_laterOf_le {held : PyDict}
    (atMost : ∀ record ∈ records, orderKey env record ≤ orderKey env held) :
    records.foldl (laterOf env) (some held) = some held := by
  induction records with
  | nil => rfl
  | cons record rest ih =>
    have notLater : ¬ orderKey env held < orderKey env record :=
      not_lt.2 (atMost record List.mem_cons_self)
    rw [List.foldl_cons, laterOf, if_neg notLater]
    exact ih fun later listed => atMost later (List.mem_cons_of_mem _ listed)

theorem latestRecord_append (records : List PyDict) (record : PyDict) :
    latestRecord env (records ++ [record]) = laterOf env (latestRecord env records) record := by
  rw [latestRecord, List.foldl_append]
  rfl

theorem latestRecord_ne_nil (some_record : records ≠ []) :
    ∃ latest, latestRecord env records = some latest := by
  obtain ⟨before, record, rfl⟩ := List.eq_nil_or_concat records |>.resolve_left some_record
  rw [List.concat_eq_append, latestRecord_append]
  cases latestRecord env before with
  | none => exact ⟨record, rfl⟩
  | some held =>
    rw [laterOf]
    split
    · exact ⟨record, rfl⟩
    · exact ⟨held, rfl⟩

variable {latest : PyDict}

theorem isLatest_of_latestRecord (found : latestRecord env records = some latest) :
    IsLatest env records latest := by
  induction records using List.reverseRecOn generalizing latest with
  | nil => cases found
  | append_singleton before record ih =>
    rw [latestRecord_append] at found
    cases earlier : latestRecord env before with
    | none =>
      rw [earlier] at found
      obtain rfl : record = latest := Option.some.inj found
      have noneBefore : before = [] := by
        by_contra records
        obtain ⟨held, is_held⟩ := latestRecord_ne_nil env records
        rw [is_held] at earlier
        cases earlier
      subst noneBefore
      exact ⟨[], [], rfl, by simp, by simp⟩
    | some held =>
      obtain ⟨first, second, rfl, below, atMost⟩ := ih earlier
      rw [earlier, laterOf] at found
      split at found
      · next later =>
        -- the new record is after all that were seen
        obtain rfl : record = latest := Option.some.inj found
        refine ⟨first ++ held :: second, [], by simp, ?_, by simp⟩
        intro other listed
        rcases List.mem_append.1 listed with inFirst | inRest
        · exact (below other inFirst).trans later
        rcases List.mem_cons.1 inRest with rfl | inSecond
        · exact later
        · exact (atMost other inSecond).trans_lt later
      · next notLater =>
        obtain rfl : held = latest := Option.some.inj found
        refine ⟨first, second ++ [record], by simp, below, ?_⟩
        intro other listed
        rcases List.mem_append.1 listed with inSecond | last
        · exact atMost other inSecond
        · obtain rfl := List.mem_singleton.1 last
          exact not_lt.1 notLater

theorem latestRecord_iff :
    latestRecord env records = some latest ↔ IsLatest env records latest := by
  refine ⟨isLatest_of_latestRecord env, ?_⟩
  rintro ⟨before, after, rfl, below, atMost⟩
  have reached : latestRecord env (before ++ [latest]) = some latest := by
    rw [latestRecord_append]
    cases earlier : latestRecord env before with
    | none => rfl
    | some held =>
      obtain ⟨first, second, rfl, -, -⟩ := isLatest_of_latestRecord env earlier
      rw [laterOf, if_pos (below held (by simp))]
  rw [List.append_cons, latestRecord, List.foldl_append]
  refine (congrArg (fun best => after.foldl (laterOf env) best) reached).trans ?_
  exact foldl_laterOf_le env atMost

variable {env} in
theorem IsLatest.ne_nil (isLatest : IsLatest env records latest) : records ≠ [] := by
  obtain ⟨before, after, rfl, -⟩ := isLatest
  simp

theorem mem_replacementOf {receipt : PyDict} :
    receipt ∈ replacementOf latest ↔
      (latest.get "tombstone").truthy = false ∧ latest.get "replacement" = .dict receipt := by
  rw [replacementOf]
  split
  · next tombstone => simp [tombstone]
  · next kept =>
    rw [Bool.not_eq_true] at kept
    split
    · next replacement found => simp [kept, found, eq_comm]
    · next noDict =>
      simp only [kept, true_and, List.not_mem_nil, false_iff]
      exact noDict receipt

/-! ## Chains -/

structure Keyed (payloads : List PyValue) (keyed : List (ReceiptKey × PyDict)) : Prop where
  payloads : keyed.map Prod.snd = payloads.filterMap PyValue.asDict?
  keys : ∀ entry ∈ keyed, receiptKey entry.2 = some entry.1

theorem keyed_of_mapM {dicts : List PyDict} {keyed : List (ReceiptKey × PyDict)}
    (paired : dicts.mapM (fun payload => (receiptKey payload).map fun key => (key, payload)) =
      some keyed) :
    keyed.map Prod.snd = dicts ∧ ∀ entry ∈ keyed, receiptKey entry.2 = some entry.1 := by
  induction dicts generalizing keyed with
  | nil =>
    obtain rfl : [] = keyed := by simpa using paired
    exact ⟨rfl, by simp⟩
  | cons payload rest ih =>
    rw [List.mapM_cons] at paired
    obtain ⟨entry, own, paired⟩ := Option.bind_eq_some_iff.1 paired
    obtain ⟨others, later, paired⟩ := Option.bind_eq_some_iff.1 paired
    obtain rfl : entry :: others = keyed := Option.some.inj paired
    obtain ⟨key, found, rfl⟩ := Option.map_eq_some_iff.1 own
    obtain ⟨same, keys⟩ := ih later
    exact ⟨by rw [List.map_cons, same], by simpa [found] using keys⟩

variable {env} {payloads : List PyValue} {keyed : List (ReceiptKey × PyDict)}

theorem recordsOf_keyed (paired : Keyed payloads keyed) (key : ReceiptKey) :
    ((keyed.filter fun entry => isSupersession entry.2).filter fun entry => entry.1 = key).map
      Prod.snd = recordsOf payloads key := by
  rw [recordsOf, ← paired.payloads, List.filter_map, List.filter_filter]
  refine congrArg (List.map Prod.snd) (List.filter_congr ?_)
  intro entry listed
  have own := paired.keys entry listed
  by_cases same : entry.1 = key
  · simp [own, same]
  · simp [own, same]

theorem foldl_chain (held : List PyDict) (entries : List (ReceiptKey × PyDict)) :
    entries.foldl (fun chain entry => some (chain.getD [] ++ [entry.2])) (some held) =
      some (held ++ entries.map Prod.snd) := by
  induction entries generalizing held with
  | nil => simp
  | cons entry rest ih =>
    rw [List.foldl_cons, Option.getD_some, ih]
    simp

theorem get?_chainsOf (paired : Keyed payloads keyed) (key : ReceiptKey) :
    (chainsOf keyed).get? key =
      if recordsOf payloads key = [] then none else some (recordsOf payloads key) := by
  rw [chainsOf, OrderedDict.get?_foldByKey, ← recordsOf_keyed paired]
  cases (keyed.filter fun entry => isSupersession entry.2).filter fun entry => entry.1 = key with
  | nil => rfl
  | cons entry rest => exact foldl_chain [entry.2] rest

theorem get?_latestByKey (paired : Keyed payloads keyed) {key : ReceiptKey}
    {latest : Option PyDict} :
    ((chainsOf keyed).mapValues (latestRecord env)).get? key = some latest ↔
      ∃ record, latest = some record ∧ IsLatest env (recordsOf payloads key) record := by
  rw [OrderedDict.get?_mapValues, get?_chainsOf paired]
  by_cases none_of_key : recordsOf payloads key = []
  · rw [if_pos none_of_key]
    constructor
    · exact nofun
    · rintro ⟨record, -, isLatest⟩
      exact absurd none_of_key isLatest.ne_nil
  · rw [if_neg none_of_key, Option.map_some, Option.some_inj]
    obtain ⟨record, found⟩ := latestRecord_ne_nil env none_of_key
    constructor
    · rintro rfl
      exact ⟨record, found, isLatest_of_latestRecord env found⟩
    · rintro ⟨other, rfl, isLatest⟩
      exact (latestRecord_iff env).2 isLatest

theorem resolveBase_eq (paired : Keyed payloads keyed) (entry : ReceiptKey × PyDict) :
    resolveBase ((chainsOf keyed).mapValues (latestRecord env)) entry = [entry.2] ∧
        recordsOf payloads entry.1 = [] ∨
      ∃ latest, resolveBase ((chainsOf keyed).mapValues (latestRecord env)) entry =
          replacementOf latest ∧ IsLatest env (recordsOf payloads entry.1) latest := by
  rw [resolveBase]
  cases found : ((chainsOf keyed).mapValues (latestRecord env)).get? entry.1 with
  | none =>
    refine .inl ⟨rfl, ?_⟩
    rw [OrderedDict.get?_mapValues, get?_chainsOf paired] at found
    by_contra some_record
    rw [if_neg some_record] at found
    cases found
  | some latest =>
    obtain ⟨record, rfl, isLatest⟩ := (get?_latestByKey paired).1 found
    exact .inr ⟨record, rfl, isLatest⟩

theorem mem_applySupersessions {receipts : List PyDict}
    (resolved : applySupersessions env payloads = some receipts) {receipt : PyDict} :
    receipt ∈ receipts ↔ Active env payloads receipt := by
  obtain ⟨keyed, pairing, resolved⟩ := Option.bind_eq_some_iff.1 resolved
  obtain ⟨same, keys⟩ := keyed_of_mapM pairing
  have paired : Keyed payloads keyed := ⟨same, keys⟩
  obtain rfl := Option.some.inj resolved
  have loaded_of : ∀ entry ∈ keyed, PyValue.dict entry.2 ∈ payloads := by
    intro entry listed
    have inDicts : entry.2 ∈ payloads.filterMap PyValue.asDict? :=
      same ▸ List.mem_map_of_mem listed
    obtain ⟨value, inPayloads, isDict⟩ := List.mem_filterMap.1 inDicts
    cases value <;> simp_all [PyValue.asDict?]
  rw [List.mem_append, List.mem_flatMap]
  constructor
  · rw [List.mem_flatMap]
    rintro (⟨entry, listed, left⟩ | ⟨⟨key, latest⟩, listed, left⟩)
    · obtain ⟨inKeyed, isBase⟩ := List.mem_filter.1 listed
      rcases @resolveBase_eq env _ _ paired entry with
        ⟨same, none_of_key⟩ | ⟨latest, same, isLatest⟩
      · rw [same, List.mem_singleton] at left
        subst left
        exact .base (loaded_of entry inKeyed) (by simpa using isBase) (keys entry inKeyed)
          none_of_key
      · rw [same, mem_replacementOf] at left
        exact .replaced isLatest left.1 left.2
    · obtain ⟨inDict, -⟩ := List.mem_filter.1 listed
      obtain ⟨record, rfl, isLatest⟩ :=
        (get?_latestByKey paired).1 (OrderedDict.mem_entries.1 inDict)
      obtain ⟨kept, replacement⟩ := mem_replacementOf.1 left
      exact .replaced isLatest kept replacement
  · intro active
    cases active with
    | @base key loaded isBase keyed_as none_of_key =>
      have inDicts : receipt ∈ keyed.map Prod.snd :=
        same ▸ List.mem_filterMap.2 ⟨.dict receipt, loaded, rfl⟩
      obtain ⟨entry, inKeyed, rfl⟩ := List.mem_map.1 inDicts
      obtain rfl : entry.1 = key := Option.some.inj ((keys entry inKeyed).symm.trans keyed_as)
      refine .inl ⟨entry, List.mem_filter.2 ⟨inKeyed, by simp [isBase]⟩, ?_⟩
      rcases @resolveBase_eq env _ _ paired entry with ⟨left, -⟩ | ⟨latest, -, isLatest⟩
      · rw [left]
        exact List.mem_singleton.2 rfl
      · exact absurd none_of_key isLatest.ne_nil
    | @replaced latest key isLatest kept replacement =>
      have left : receipt ∈ replacementOf latest := mem_replacementOf.2 ⟨kept, replacement⟩
      have found := (@get?_latestByKey env _ _ paired _ _).2 ⟨latest, rfl, isLatest⟩
      by_cases handled :
          key ∈ (keyed.filter fun entry => !isSupersession entry.2).map Prod.fst
      · obtain ⟨entry, listed, rfl⟩ := List.mem_map.1 handled
        refine .inl ⟨entry, listed, ?_⟩
        rw [resolveBase, found]
        exact left
      · refine .inr (List.mem_flatMap.2 ⟨(key, some latest), ?_, left⟩)
        exact List.mem_filter.2 ⟨OrderedDict.mem_entries.2 found, by simpa using handled⟩

end

end OmniMarket.DurableEvidence
