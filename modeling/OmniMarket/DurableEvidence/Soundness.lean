import OmniMarket.DurableEvidence.Gate
import OmniMarket.Lib.Raising

/-!
# Soundness of the durable evidence gate

What a PASS of the gate vouches for, in terms of the payloads, the contracts and the answers of
the probes.
-/

namespace OmniMarket.DurableEvidence
variable {first second : ModelCitedMergeCommit} {receipt : PyDict}
  {citations : List ModelCitedMergeCommit} {receipts : List PyDict} {request : GateRequest}

/-! ## The evidence -/

/-- The commits agree on the first seven characters of one of them. -/
def SameCommit (a b : String) : Prop :=
  a ≠ "" ∧ b ≠ "" ∧ (b.toList.take 7 <+: a.toList ∨ a.toList.take 7 <+: b.toList)

def Declares (contract : PyDict) (key : String × String) : Prop :=
  ∃ (items : List PyValue) (item : PyDict) (checks : List PyValue) (check : PyDict),
    contract.get? "dod_evidence" = some (.list items) ∧ PyValue.dict item ∈ items ∧
      item.get "id" = .str key.1 ∧ item.get? "checks" = some (.list checks) ∧
      PyValue.dict check ∈ checks ∧ check.get "check_type" = .str key.2

/-- The field is a text that is not blank. -/
def Nonblank (contract : PyDict) (key : String) : Prop :=
  ∃ text, contract.get key = .str text ∧ PyText.stripString text ≠ ""

structure Binds (env : GateEnv) (receipt : PyDict) (binding : ModelCitedMergeCommit) : Prop where
  status : receipt.get "status" = .str "PASS"
  item : receipt.get "evidence_item_id" = .str binding.evidenceItemId
  check : receipt.get "check_type" = .str binding.checkType
  number : asInt? (receipt.get "pr_number") = some binding.prNumber
  sha : receipt.get "commit_sha" = .str binding.citedSha
  wellFormed : isSha env binding.citedSha = true
  repo : extractReceiptRepo env receipt binding.prNumber probeFields = .ok (some binding.repo)
  url : binding.prUrl = "https://github.com/" ++ binding.repo ++ "/pull/" ++
    numberText (receipt.get "pr_number")

structure Landed (gate : DurableEvidenceGate) (binding : ModelCitedMergeCommit) : Prop where
  merged : (gate.ghPrView binding.repo binding.prNumber).1 = "MERGED"
  commit :
    (∃ oid, (gate.ghPrView binding.repo binding.prNumber).2 = some oid ∧
      SameCommit oid binding.citedSha) ∨
    ∃ oid ∈ gate.prCommits binding.repo binding.prNumber, SameCommit binding.citedSha oid

/-- The guardrails of a read-back. -/
structure Guarded (env : GateEnv) (receipt : PyDict) : Prop where
  runner : strField receipt "runner" ≠ ""
  verifier : strField receipt "verifier" ≠ ""
  independent : strField receipt "runner" ≠ strField receipt "verifier"
  noPrNumber : receipt.get "pr_number" = .none
  noPrUrl : strField receipt "pr_url" = ""
  noSourceChange : receipt.get "no_source_change" = .bool true
  verb : strField receipt "mutation_verb" ∈ env.verbAllowlist
  readback : strField receipt "probe_stdout" ≠ ""
  followUp : strField receipt "prevention_followup" ≠ ""
  notProd : isProdTarget env (strField receipt "target_identity") = false

variable (env : GateEnv) (gate : DurableEvidenceGate)

structure ByMergedPrs (request : GateRequest) (mainContract : PyDict) : Prop where
  noRuntimeOps : ∀ receipt, Active env (payloads gate request) receipt →
    isPass env receipt = true → isRuntimeOps env receipt = false
  bound : ∃ receipt binding, Active env (payloads gate request) receipt ∧
    Binds env receipt binding
  landed : ∀ receipt binding, Active env (payloads gate request) receipt →
    Binds env receipt binding → Landed gate binding
  /-- A repository, PR and commit that is bound is bound by a receipt whose check is declared. -/
  declared : ∀ receipt binding, Active env (payloads gate request) receipt →
    Binds env receipt binding → ∃ first cited, Active env (payloads gate request) first ∧
      Binds env first cited ∧ cited.target = binding.target ∧
      Declares mainContract cited.checkKey

structure ByReadback (request : GateRequest) (mainContract : PyDict) : Prop where
  present : ∃ receipt, Active env (payloads gate request) receipt ∧ isPass env receipt = true
  guarded : ∀ receipt, Active env (payloads gate request) receipt → isPass env receipt = true →
    isRuntimeOps env receipt = true ∧ Guarded env receipt
  declared : ∀ receipt itemId checkType, Active env (payloads gate request) receipt →
    isPass env receipt = true → receipt.get "evidence_item_id" = .str itemId →
    receipt.get "check_type" = .str checkType → Declares mainContract (itemId, checkType)

structure Durable (request : GateRequest) : Prop where
  tracked :
    gate.isReceiptTracked gate.occRepoPath gate.occGovernanceRef request.receiptDir = true
  doneClass : ∃ label ∈ request.ticketLabels, label ∈ EnumDoneClassLabel.values
  prevention : (∃ label ∈ request.ticketLabels, label ∈ EnumDefectLabel.values) →
    Nonblank request.contract "prevention_gate" ∨ Nonblank request.contract "non_recurrence_note"
  evidence : ∃ mainContract,
    gate.loadContractOnRef gate.occRepoPath gate.occGovernanceRef request.contractRelPath =
      some mainContract ∧
    (∀ key, Declares request.contract key → Declares mainContract key) ∧
    (ByMergedPrs env gate request mainContract ∨ ByReadback env gate request mainContract)

/-! ## Commits and contracts -/

theorem shaPrefixMatch_iff {a b : String} : shaPrefixMatch a b = true ↔ SameCommit a b := by
  simp [shaPrefixMatch, SameCommit, and_assoc]

theorem asStr?_eq_some {value : PyValue} {text : String} :
    value.asStr? = some text ↔ value = .str text := by
  cases value <;> simp [PyValue.asStr?]

theorem listField_eq_some {fields : PyDict} {key : String} {items : List PyValue} {item : PyValue}
    (listed : item ∈ items) (found : ((fields.get? key).getD (.list [])).asList? = some items) :
    fields.get? key = some (.list items) := by
  cases stored : fields.get? key with
  | none =>
    rw [stored] at found
    obtain rfl : [] = items := Option.some.inj found
    cases listed
  | some value =>
    rw [stored, Option.getD_some] at found
    cases value <;> simp_all [PyValue.asList?]

theorem mem_checkKeysOfItem {item : PyValue} {key : String × String} :
    key ∈ checkKeysOfItem item ↔
      ∃ (fields : PyDict) (checks : List PyValue) (check : PyDict), item = .dict fields ∧
        fields.get "id" = .str key.1 ∧ fields.get? "checks" = some (.list checks) ∧
        PyValue.dict check ∈ checks ∧ check.get "check_type" = .str key.2 := by
  constructor
  · intro listed
    cases item with
    | dict fields =>
      simp only [checkKeysOfItem] at listed
      split at listed
      · next itemId checks hasId hasChecks =>
        obtain ⟨check, inChecks, own⟩ := List.mem_filterMap.1 listed
        cases check with
        | dict checkFields =>
          obtain ⟨checkType, hasType, rfl⟩ := Option.map_eq_some_iff.1 own
          exact ⟨fields, checks, checkFields, rfl, asStr?_eq_some.1 hasId,
            listField_eq_some inChecks hasChecks, inChecks, asStr?_eq_some.1 hasType⟩
        | _ => cases own
      · cases listed
    | _ => cases listed
  · rintro ⟨fields, checks, check, rfl, hasId, hasChecks, inChecks, hasType⟩
    simp only [checkKeysOfItem, hasId, hasChecks]
    refine List.mem_filterMap.2 ⟨.dict check, inChecks, ?_⟩
    show (PyDict.get check "check_type").asStr?.map _ = some key
    rw [hasType]
    rfl

theorem mem_extractContractCheckKeys {contract : PyDict} {key : String × String} :
    key ∈ extractContractCheckKeys contract ↔ Declares contract key := by
  constructor
  · intro listed
    rw [extractContractCheckKeys] at listed
    split at listed
    · next items hasItems =>
      obtain ⟨item, inItems, own⟩ := List.mem_flatMap.1 listed
      obtain ⟨fields, checks, check, rfl, rest⟩ := mem_checkKeysOfItem.1 own
      exact ⟨items, fields, checks, check, listField_eq_some inItems hasItems, inItems, rest⟩
    · cases listed
  · rintro ⟨items, item, checks, check, hasItems, inItems, rest⟩
    rw [extractContractCheckKeys, hasItems]
    exact List.mem_flatMap.2
      ⟨.dict item, inItems, mem_checkKeysOfItem.2 ⟨item, checks, check, rfl, rest⟩⟩

theorem nonblank_iff {contract : PyDict} {key : String} :
    (nonblank contract key).isSome = true ↔ Nonblank contract key := by
  rw [nonblank, Nonblank]
  cases contract.get key with
  | str text => by_cases blank : PyText.stripString text = "" <;> simp [PyValue.asStr?, blank]
  | _ => simp [PyValue.asStr?]

variable {env gate}

theorem Landed.of_target (landed : Landed gate first) (same : first.target = second.target) :
    Landed gate second := by
  obtain ⟨merged, commit⟩ := landed
  simp only [ModelCitedMergeCommit.target, Prod.mk.injEq] at same
  obtain ⟨sameRepo, sameNumber, sameSha⟩ := same
  rw [sameRepo, sameNumber] at merged commit
  rw [sameSha] at commit
  exact ⟨merged, commit⟩

theorem citationFailure_eq_none {citation : ModelCitedMergeCommit} :
    citationFailure env gate citation = none ↔ Landed gate citation := by
  have oids : (gate.ghPrView citation.repo citation.prNumber).2.any
      (shaPrefixMatch · citation.citedSha) = true ↔
      ∃ oid, (gate.ghPrView citation.repo citation.prNumber).2 = some oid ∧
        SameCommit oid citation.citedSha := by
    simp [Option.any_eq_true, shaPrefixMatch_iff]
  have commits : citedShaInPrCommits citation.citedSha
      (gate.prCommits citation.repo citation.prNumber) = true ↔
      ∃ oid ∈ gate.prCommits citation.repo citation.prNumber, SameCommit citation.citedSha oid := by
    simp [citedShaInPrCommits, List.any_eq_true, shaPrefixMatch_iff]
  simp only [citationFailure]
  split
  · next notMerged =>
    refine iff_of_false (by simp) ?_
    intro landed
    exact notMerged landed.merged
  · next merged =>
    rw [not_not] at merged
    split
    · next isMerge => exact iff_of_true rfl ⟨merged, .inl (oids.1 isMerge)⟩
    · next notMerge =>
      split
      · next isCommit => exact iff_of_true rfl ⟨merged, .inr (commits.1 isCommit)⟩
      · next notCommit =>
        refine iff_of_false (by simp) ?_
        intro landed
        rcases landed.commit with ofMerge | ofPr
        · exact notMerge (oids.2 ofMerge)
        · exact notCommit (commits.2 ofPr)

theorem isNone_iff {value : PyValue} : value.isNone = true ↔ value = .none := by
  cases value <;> simp [PyValue.isNone]

theorem guardrailFailure_eq_none : guardrailFailure env receipt = none ↔ Guarded env receipt := by
  have steps : guardrailFailure env receipt = none ↔
      ¬(strField receipt "runner" = "" ∨ strField receipt "verifier" = "" ∨
        strField receipt "runner" = strField receipt "verifier") ∧
      ¬((receipt.get "pr_number").isNone = false ∨ strField receipt "pr_url" ≠ "") ∧
      ¬receipt.get "no_source_change" ≠ .bool true ∧
      ¬(!env.verbAllowlist.contains (strField receipt "mutation_verb")) = true ∧
      ¬strField receipt "probe_stdout" = "" ∧ ¬strField receipt "prevention_followup" = "" ∧
      ¬isProdTarget env (strField receipt "target_identity") = true := by
    simp only [guardrailFailure, ite_eq_iff, reduceCtorEq, and_false, false_or, and_true]
  rw [steps]
  constructor
  · rintro ⟨identities, noPr, noSource, verb, readback, followUp, notProd⟩
    simp only [not_or, not_not, Bool.not_eq_false, Bool.not_eq_true',
      isNone_iff, List.contains_eq_mem, decide_eq_true_eq, Bool.not_eq_true] at *
    exact ⟨identities.1, identities.2.1, identities.2.2, noPr.1, noPr.2, noSource, verb, readback,
      followUp, notProd⟩
  · intro guarded
    refine ⟨?_, ?_, not_not.2 guarded.noSourceChange, ?_, guarded.readback, guarded.followUp, ?_⟩
    · rintro (blank | blank | same)
      · exact guarded.runner blank
      · exact guarded.verifier blank
      · exact guarded.independent same
    · rw [guarded.noPrNumber, guarded.noPrUrl]
      simp [PyValue.isNone]
    · simp [guarded.verb]
    · simp [guarded.notProd]

/-! ## Citations -/

theorem bindingOf_eq_some {binding : ModelCitedMergeCommit} :
    bindingOf env receipt = .ok (some binding) ↔ Binds env receipt binding := by
  constructor
  · intro bound
    unfold bindingOf at bound
    split at bound
    · next isPass =>
      split at bound
      · next itemId checkType prNumber sha hasItem hasCheck hasNumber hasSha =>
        split at bound
        · next wellFormed =>
          cases found : extractReceiptRepo env receipt prNumber probeFields with
          | error raised =>
            rw [found] at bound
            cases bound
          | ok named =>
            rw [found] at bound
            cases named with
            | none => cases bound
            | some repo =>
              cases bound
              exact ⟨isPass, asStr?_eq_some.1 hasItem, asStr?_eq_some.1 hasCheck,
                hasNumber, asStr?_eq_some.1 hasSha, wellFormed, found, rfl⟩
        · cases bound
      · cases bound
    · cases bound
  · intro binds
    obtain ⟨prUrl, repo, prNumber, citedSha, itemId, checkType⟩ := binding
    obtain ⟨isPass, hasItem, hasCheck, hasNumber, hasSha, wellFormed, found, hasUrl⟩ := binds
    simp only at *
    simp only [bindingOf, isPass, hasItem, hasCheck, hasNumber, hasSha, PyValue.asStr?,
      wellFormed, if_true, found, hasUrl]
    rfl

theorem Binds.unique (firstBinds : Binds env receipt first)
    (secondBinds : Binds env receipt second) : first = second := by
  have same := (bindingOf_eq_some.2 firstBinds).symm.trans (bindingOf_eq_some.2 secondBinds)
  exact Option.some.inj (Except.ok.inj same)

theorem cite_ok {next : List ModelCitedMergeCommit} (cited : cite env citations receipt = .ok next)
    :
    ((∀ binding, ¬ Binds env receipt binding) ∧ next = citations) ∨
      ∃ binding, Binds env receipt binding ∧
        (next = citations ∧ (∃ first ∈ citations, first.target = binding.target) ∨
          next = citations ++ [binding]) := by
  unfold cite at cited
  cases bound : bindingOf env receipt with
  | error raised =>
    rw [bound] at cited
    cases cited
  | ok found =>
    rw [bound] at cited
    cases found with
    | none =>
      refine .inl ⟨?_, (Except.ok.inj cited).symm⟩
      intro binding binds
      rw [bindingOf_eq_some.2 binds] at bound
      cases bound
    | some binding =>
      refine .inr ⟨binding, bindingOf_eq_some.1 bound, ?_⟩
      change (if _ then _ else if _ then _ else _) = _ at cited
      split at cited
      · next seen =>
        refine .inl ⟨(Except.ok.inj cited).symm, ?_⟩
        simpa using seen
      · split at cited
        · exact .inr (Except.ok.inj cited).symm
        · cases cited

theorem extract_ok (extracted : extractReceiptMergeCommits env receipts = .ok citations) :
    (∀ receipt ∈ receipts, ∀ binding, Binds env receipt binding →
      ∃ cited ∈ citations, cited.target = binding.target) ∧
    ∀ cited ∈ citations, ∃ receipt ∈ receipts, Binds env receipt cited := by
  induction receipts using List.reverseRecOn generalizing citations with
  | nil =>
    obtain rfl : [] = citations := Except.ok.inj extracted
    simp
  | append_singleton before receipt ih =>
    rw [extractReceiptMergeCommits, List.foldlM_append] at extracted
    obtain ⟨seen, earlier, extracted⟩ := Raising.bind_eq_ok.1 extracted
    obtain ⟨last, own, extracted⟩ := Raising.bind_eq_ok.1 extracted
    obtain rfl : last = citations := Except.ok.inj extracted
    obtain ⟨bound, cited⟩ := ih earlier
    have later : ∀ citation ∈ seen, citation ∈ last := by
      rcases cite_ok own with ⟨-, rfl⟩ | ⟨binding, -, ⟨rfl, -⟩ | rfl⟩
      · exact fun _ listed => listed
      · exact fun _ listed => listed
      · exact fun _ listed => List.mem_append_left _ listed
    constructor
    · intro other listed binding binds
      rcases List.mem_append.1 listed with inBefore | isLast
      · obtain ⟨citation, listed, same⟩ := bound other inBefore binding binds
        exact ⟨citation, later citation listed, same⟩
      · obtain rfl := List.mem_singleton.1 isLast
        rcases cite_ok own with ⟨unbound, -⟩ | ⟨own, ownBinds, seenOrNew⟩
        · exact absurd binds (unbound binding)
        · obtain rfl : binding = own := binds.unique ownBinds
          rcases seenOrNew with ⟨rfl, seen⟩ | rfl
          · exact seen
          · exact ⟨binding, by simp, rfl⟩
    · intro citation listed
      have ofBefore : citation ∈ seen → ∃ other ∈ before ++ [receipt],
          Binds env other citation := by
        intro listed
        obtain ⟨other, inBefore, binds⟩ := cited citation listed
        exact ⟨other, List.mem_append_left _ inBefore, binds⟩
      rcases cite_ok own with ⟨-, rfl⟩ | ⟨binding, binds, ⟨rfl, -⟩ | rfl⟩
      · exact ofBefore listed
      · exact ofBefore listed
      · rcases List.mem_append.1 listed with inSeen | isNew
        · exact ofBefore inSeen
        · obtain rfl := List.mem_singleton.1 isNew
          exact ⟨receipt, by simp, binds⟩

/-! ## The gate -/

theorem presentLabels_isEmpty {values : List String} :
    (presentLabels request values).isEmpty = false ↔
      ∃ label ∈ request.ticketLabels, label ∈ values := by
  have present : ∀ label, label ∈ presentLabels request values ↔
      label ∈ values ∧ label ∈ request.ticketLabels := by
    simp [presentLabels, List.mem_insertionSort]
  rw [List.isEmpty_eq_false_iff_exists_mem]
  constructor
  · rintro ⟨label, listed⟩
    exact ⟨label, ((present label).1 listed).2, ((present label).1 listed).1⟩
  · rintro ⟨label, ofTicket, ofClass⟩
    exact ⟨label, (present label).2 ⟨ofClass, ofTicket⟩⟩

theorem mergedPrCheck_passed :
    (mergedPrCheck env gate request citations).passed = true ↔
      citations ≠ [] ∧ ∀ citation ∈ citations, Landed gate citation := by
  have landed : citations.findSome? (citationFailure env gate) = none ↔
      ∀ citation ∈ citations, Landed gate citation := by
    simp only [List.findSome?_eq_none_iff, citationFailure_eq_none]
  cases citations with
  | nil => simp [mergedPrCheck]
  | cons citation rest =>
    rw [← landed, mergedPrCheck]
    simp only [List.isEmpty_cons, Bool.false_eq_true, if_false, ne_eq, reduceCtorEq,
      not_false_eq_true, true_and]
    cases (citation :: rest).findSome? (citationFailure env gate) with
    | none => exact iff_of_true rfl rfl
    | some failure => exact iff_of_false Bool.false_ne_true (Option.some_ne_none failure)

theorem readback_passed :
    (evaluateRuntimeOpsReadback env receipts).1 = true ↔
      receipts ≠ [] ∧ ∀ receipt ∈ receipts,
        isRuntimeOps env receipt = true ∧ Guarded env receipt := by
  by_cases pure : ∀ receipt ∈ receipts, isRuntimeOps env receipt = true
  · have all_runtime : receipts.filter (isRuntimeOps env) = receipts :=
      List.filter_eq_self.2 pure
    have none_other : (receipts.filter fun receipt => !isRuntimeOps env receipt) = [] := by
      rw [List.filter_eq_nil_iff]
      intro receipt listed
      simp [pure receipt listed]
    have guarded : (receipts.filterMap (guardrailFailure env)).head? = none ↔
        ∀ receipt ∈ receipts, Guarded env receipt := by
      rw [List.head?_eq_none_iff, List.filterMap_eq_nil_iff]
      simp only [guardrailFailure_eq_none]
    have both : (∀ receipt ∈ receipts, isRuntimeOps env receipt = true ∧ Guarded env receipt) ↔
        ∀ receipt ∈ receipts, Guarded env receipt :=
      forall₂_congr fun receipt listed => and_iff_right (pure receipt listed)
    rw [both, ← guarded]
    simp only [evaluateRuntimeOpsReadback, all_runtime, none_other]
    cases receipts with
    | nil => simp
    | cons receipt rest =>
      simp only [List.isEmpty_cons, Bool.false_eq_true, if_false, List.isEmpty_nil, Bool.not_true,
        ne_eq, reduceCtorEq, not_false_eq_true, true_and]
      cases ((receipt :: rest).filterMap (guardrailFailure env)).head? with
      | none => exact iff_of_true rfl rfl
      | some failure => exact iff_of_false Bool.false_ne_true (Option.some_ne_none failure)
  · have mixed : (receipts.filter fun receipt => !isRuntimeOps env receipt).isEmpty = false := by
      push Not at pure
      obtain ⟨receipt, listed, other⟩ := pure
      rw [List.isEmpty_eq_false_iff_exists_mem]
      exact ⟨receipt, List.mem_filter.2 ⟨listed, by simpa using other⟩⟩
    refine iff_of_false ?_ ?_
    · simp only [evaluateRuntimeOpsReadback, mixed]
      cases (receipts.filter (isRuntimeOps env)).isEmpty <;> simp
    · rintro ⟨-, all⟩
      exact pure fun receipt listed => (all receipt listed).1

theorem readback_keys (passed : (evaluateRuntimeOpsReadback env receipts).1 = true) :
    (evaluateRuntimeOpsReadback env receipts).2.2 = receipts.flatMap keyOf := by
  have all := (readback_passed.1 passed).2
  have all_runtime : receipts.filter (isRuntimeOps env) = receipts :=
    List.filter_eq_self.2 fun receipt listed => (all receipt listed).1
  simp only [evaluateRuntimeOpsReadback, all_runtime] at passed ⊢
  split at passed
  · cases passed
  · split at passed
    · cases passed
    · next some_receipt pure =>
      rw [if_neg some_receipt, if_neg pure]
      split at passed
      · cases passed
      · rfl

theorem mem_keyOf {itemId checkType : String} (item : receipt.get "evidence_item_id" = .str itemId)
    (check : receipt.get "check_type" = .str checkType) : (itemId, checkType) ∈ keyOf receipt := by
  rw [keyOf, item, check]
  exact List.mem_singleton.2 rfl

theorem contractOnRefCheck_passed {receiptKeys : List (String × String)} :
    (contractOnRefCheck env gate request receiptKeys).passed = true ↔
      ∃ mainContract,
        gate.loadContractOnRef gate.occRepoPath gate.occGovernanceRef request.contractRelPath =
          some mainContract ∧
        (∀ key, Declares request.contract key → Declares mainContract key) ∧
        ∀ key ∈ receiptKeys, Declares mainContract key := by
  rw [contractOnRefCheck]
  cases gate.loadContractOnRef gate.occRepoPath gate.occGovernanceRef
      request.contractRelPath with
  | none => simp
  | some mainContract =>
    have none_missing : ∀ keys : List (String × String),
        (keys.filter (!(extractContractCheckKeys mainContract).contains ·)).isEmpty = true ↔
          ∀ key ∈ keys, Declares mainContract key := by
      intro keys
      rw [List.isEmpty_iff, List.filter_eq_nil_iff]
      simp only [Bool.not_eq_true', Bool.not_eq_false, List.contains_eq_mem,
        decide_eq_true_eq, mem_extractContractCheckKeys]
    have locally := none_missing (extractContractCheckKeys request.contract)
    simp only [mem_extractContractCheckKeys] at locally
    simp only [Option.some.injEq, exists_eq_left', ← locally, ← none_missing receiptKeys]
    cases ((extractContractCheckKeys request.contract).filter
        (!(extractContractCheckKeys mainContract).contains ·)).isEmpty <;>
      cases (receiptKeys.filter (!(extractContractCheckKeys mainContract).contains ·)).isEmpty <;>
      simp

theorem defectPreventionCheck_passed :
    (defectPreventionCheck env request).passed = true ↔
      ((∃ label ∈ request.ticketLabels, label ∈ EnumDefectLabel.values) →
        Nonblank request.contract "prevention_gate" ∨
          Nonblank request.contract "non_recurrence_note") := by
  rw [← presentLabels_isEmpty, ← nonblank_iff, ← nonblank_iff, defectPreventionCheck,
    extractDefectPrevention]
  cases (presentLabels request EnumDefectLabel.values).isEmpty with
  | true => simp
  | false =>
    cases nonblank request.contract "prevention_gate" <;>
      cases nonblank request.contract "non_recurrence_note" <;> simp

theorem doneClassCheck_passed {receiptTracked : Bool} :
    (doneClassCheck env gate request receiptTracked).passed = true ↔
      (∃ label ∈ request.ticketLabels, label ∈ EnumDoneClassLabel.values) ∧
        receiptTracked = true := by
  rw [← presentLabels_isEmpty, doneClassCheck]
  cases (presentLabels request EnumDoneClassLabel.values).isEmpty <;> cases receiptTracked <;> simp

theorem receiptTrackedCheck_passed {receiptTracked : Bool} :
    (receiptTrackedCheck gate request receiptTracked).passed = receiptTracked := by
  cases receiptTracked <;> rfl

variable (env gate) in
theorem evidenceCheck_sound {mainContract : PyDict}
    (active : ∀ receipt, receipt ∈ receipts ↔ Active env (payloads gate request) receipt)
    (extracted : extractReceiptMergeCommits env receipts = .ok citations)
    (passed : (evidenceCheck env gate request receipts citations).1.passed = true)
    (declared : ∀ key ∈ (evidenceCheck env gate request receipts citations).2,
      Declares mainContract key) :
    ByMergedPrs env gate request mainContract ∨ ByReadback env gate request mainContract := by
  obtain ⟨bound, cited⟩ := extract_ok extracted
  rw [evidenceCheck] at passed declared
  split at passed
  · next runtime =>
    rw [if_pos runtime] at declared
    replace passed : (evaluateRuntimeOpsReadback env (receipts.filter (isPass env))).1 = true :=
      passed
    replace declared : ∀ key ∈
        (evaluateRuntimeOpsReadback env (receipts.filter (isPass env))).2.2,
        Declares mainContract key := declared
    rw [readback_keys passed] at declared
    obtain ⟨some_receipt, guarded⟩ := readback_passed.1 passed
    refine .inr ⟨?_, ?_, ?_⟩
    · obtain ⟨receipt, listed⟩ := List.exists_mem_of_ne_nil _ some_receipt
      obtain ⟨inReceipts, isPass⟩ := List.mem_filter.1 listed
      exact ⟨receipt, (active receipt).1 inReceipts, isPass⟩
    · intro receipt isActive isPass
      exact guarded receipt (List.mem_filter.2 ⟨(active receipt).2 isActive, isPass⟩)
    · intro receipt itemId checkType isActive isPass item check
      refine declared _ (List.mem_flatMap.2 ⟨receipt, ?_, mem_keyOf item check⟩)
      exact List.mem_filter.2 ⟨(active receipt).2 isActive, isPass⟩
  · next noRuntime =>
    rw [if_neg noRuntime] at declared
    obtain ⟨some_citation, landed⟩ := mergedPrCheck_passed.1 passed
    refine .inl ⟨?_, ?_, ?_, ?_⟩
    · intro receipt isActive isPass
      by_contra runtime
      rw [Bool.not_eq_false] at runtime
      refine noRuntime (List.any_eq_true.2 ⟨receipt, (active receipt).2 isActive, ?_⟩)
      rw [isPass, runtime]
      rfl
    · obtain ⟨citation, listed⟩ := List.exists_mem_of_ne_nil _ some_citation
      obtain ⟨receipt, inReceipts, binds⟩ := cited citation listed
      exact ⟨receipt, citation, (active receipt).1 inReceipts, binds⟩
    · intro receipt binding isActive binds
      -- the probes are asked about the citation of the same repository and PR
      obtain ⟨citation, listed, same⟩ := bound receipt ((active receipt).2 isActive) binding binds
      exact (landed citation listed).of_target same
    · intro receipt binding isActive binds
      obtain ⟨citation, listed, same⟩ := bound receipt ((active receipt).2 isActive) binding binds
      obtain ⟨first, inReceipts, firstBinds⟩ := cited citation listed
      exact ⟨first, citation, (active first).1 inReceipts, firstBinds, same,
        declared _ (List.mem_map_of_mem listed)⟩

/-- A PASS vouches for the evidence. -/
theorem evaluate_sound {request : GateRequest} {result : ModelDurableEvidenceGateResult}
    (evaluated : evaluate env gate request = .ok result) (passed : result.status = .pass) :
    Durable env gate request := by
  obtain ⟨receipts, resolved, evaluated⟩ := Raising.bind_eq_ok.1 evaluated
  obtain ⟨citations, extracted, evaluated⟩ := Raising.bind_eq_ok.1 evaluated
  obtain rfl := Except.ok.inj evaluated
  have active : ∀ receipt, receipt ∈ receipts ↔ Active env (payloads gate request) receipt := by
    intro receipt
    refine mem_applySupersessions ?_
    rw [activeReceipts] at resolved
    split at resolved
    · next found => exact found.trans (congrArg some (Except.ok.inj resolved))
    · cases resolved
  simp only [runChecks, ite_eq_left_iff, reduceCtorEq, imp_false, not_not, List.all_cons,
    List.all_nil, Bool.and_true, Bool.and_eq_true] at passed
  obtain ⟨tracked, evidence, onRef, prevention, doneClass⟩ := passed
  obtain ⟨mainContract, loaded, locally, declared⟩ := contractOnRefCheck_passed.1 onRef
  exact
    { tracked := receiptTrackedCheck_passed.symm.trans tracked
      doneClass := (doneClassCheck_passed.1 doneClass).1
      prevention := defectPreventionCheck_passed.1 prevention
      evidence := ⟨mainContract, loaded, locally,
        evidenceCheck_sound env gate active extracted evidence declared⟩ }

/-! ## A commit of another history -/

def sampleEnv : GateEnv where
  unicode := PyText.asciiTable
  upper := String.toUpper
  str := fun value => (value.asStr?).getD ""
  loads := fun _ => .malformed "Expecting value"
  runtimeOpsClass := "runtime_ops"
  verbAllowlist := ["rotate-secret"]

/-- A receipt whose commit shares seven characters with the merge commit. -/
def sampleReceipt : PyDict :=
  [("ticket_id", .str "OMN-1"), ("evidence_item_id", .str "dod-001"),
    ("check_type", .str "command"), ("status", .str "PASS"), ("pr_number", .int 7),
    ("commit_sha", .str "abcdef0111111111111111111111111111111111"),
    ("probe_command", .str "gh pr view 7 --repo OmniNode-ai/omnimarket")]

def sampleContract : PyDict :=
  [("dod_evidence", .list [.dict [("id", .str "dod-001"),
    ("checks", .list [.dict [("check_type", .str "command")]])]])]

def sampleGate : DurableEvidenceGate where
  isReceiptTracked := fun _ _ _ => true
  ghPrView := fun _ _ => ("MERGED", some "abcdef0222222222222222222222222222222222")
  prCommits := fun _ _ => []
  loadContractOnRef := fun _ _ _ => some sampleContract
  loadReceiptsOnRef := fun _ _ _ => [.dict sampleReceipt]
  occRepoPath := "/occ"
  occGovernanceRef := "origin/dev"

def sampleRequest : GateRequest where
  ticketId := "OMN-1"
  contract := sampleContract
  receiptDir := "drift/dod_receipts/OMN-1"
  contractRelPath := "contracts/OMN-1.yaml"
  ticketLabels := ["source-done"]

def statusOf (evaluated : Except GateRaise ModelDurableEvidenceGateResult) :
    Option EnumDurableEvidenceStatus :=
  match evaluated with
  | .ok result => some result.status
  | .error _ => none

theorem sample_passes : statusOf (evaluate sampleEnv sampleGate sampleRequest) = some .pass := by
  decide +kernel

theorem passed_of_status {evaluated : Except GateRaise ModelDurableEvidenceGateResult}
    (status : statusOf evaluated = some .pass) :
    ∃ result, evaluated = .ok result ∧ result.status = .pass := by
  cases evaluated with
  | error raised => cases status
  | ok result => exact ⟨result, rfl, Option.some.inj status⟩

theorem evaluate_sound_sample : Durable sampleEnv sampleGate sampleRequest := by
  obtain ⟨result, evaluated, passed⟩ := passed_of_status sample_passes
  exact evaluate_sound evaluated passed

def NamesCommit (gate : DurableEvidenceGate) (binding : ModelCitedMergeCommit) : Prop :=
  ∃ oid : String, ((gate.ghPrView binding.repo binding.prNumber).2 = some oid ∨
      oid ∈ gate.prCommits binding.repo binding.prNumber) ∧
    (oid.toList <+: binding.citedSha.toList ∨ binding.citedSha.toList <+: oid.toList)

theorem sample_active : Active sampleEnv (payloads sampleGate sampleRequest) sampleReceipt :=
  .base (List.mem_singleton.2 rfl) rfl rfl (by decide +kernel)

/-- The gate passes a commit that is neither the merge commit nor in the PR. -/
theorem names_another_commit : ¬ ∀ env gate request result,
    evaluate env gate request = .ok result → result.status = .pass →
    (∀ receipt binding, Active env (payloads gate request) receipt → Binds env receipt binding →
        NamesCommit gate binding) ∨
      ∀ receipt, Active env (payloads gate request) receipt → isPass env receipt = true →
        isRuntimeOps env receipt = true := by
  intro claimed
  obtain ⟨result, evaluated, passed⟩ := passed_of_status sample_passes
  rcases claimed sampleEnv sampleGate sampleRequest result evaluated passed with named | runtime
  · have binds : Binds sampleEnv sampleReceipt
        { prUrl := "https://github.com/OmniNode-ai/omnimarket/pull/7"
          repo := "OmniNode-ai/omnimarket"
          prNumber := 7
          citedSha := "abcdef0111111111111111111111111111111111"
          evidenceItemId := "dod-001"
          checkType := "command" } := bindingOf_eq_some.1 (by decide +kernel)
    obtain ⟨oid, merge | commit, same⟩ := named _ _ sample_active binds
    · obtain rfl : "abcdef0222222222222222222222222222222222" = oid := Option.some.inj merge
      revert same
      decide
    · cases commit
  · exact absurd (runtime _ sample_active (by decide +kernel)) (by decide +kernel)

end OmniMarket.DurableEvidence
