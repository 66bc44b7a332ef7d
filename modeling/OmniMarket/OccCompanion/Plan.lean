import OmniMarket.OccCompanion.Render

/-!
# Companion plan

`compute_companion_plan`. A file of the plan is kept with the fields of the receipt that it was
rendered from; the plan itself has the files only.
-/

namespace OmniMarket.OccCompanion
variable {added : List PyValue}

section

open PyText

inductive CompanionError where
  | valueError (text : String)
  /-- An error of PyYAML or of a validation. -/
  | raised
deriving DecidableEq

structure PlannedFile where
  file : ModelCompanionFile
  receipt : Option ReceiptFields := none
deriving DecidableEq

section

variable (env : CompanionEnv) (request : ModelOccCompanionRequest)

/-! ## Parts of a plan -/

def detectWedges : List ModelCompanionWedge :=
  if env.skipToken request.prBody then
    [{ code := "skip_token_present"
       failureMode := "A bracketed [skip-*: ...] bypass token is in the PR body. The " ++
         "reject-deploy-gate-skip gate hard-FAILS the PR; a self-written " ++
         "justification is not evidence (OMN-9731)."
       alternative := "Remove the token and fix the underlying gate input (add the " ++
         "missing dod_evidence / Evidence-Source / contract). The only " ++
         "escape hatch is a real '# skip-token-allowed: <receipt-id>'." }]
  else []

def alreadyBoundOcc (body : String) : Option ℕ :=
  match env.evidenceSource body with
  | some (.occPr number) => number
  | _ => none

section

variable (ticket : String)

def stateFor : ModelOccContractState :=
  (request.occContractStates.find? fun state => state.ticketId = ticket).getD { ticketId := ticket }

def entryHashFor (parsedContract : PyValue) (evidenceId : String) : Option String :=
  if parsedContract.isNone then none else env.contractEntrySha256 parsedContract evidenceId

/-- `repo.replace("/", "-")`. -/
def repoSlug : String := String.ofList (replaceText ['/'] ['-'] 0 request.repo.toList)

def evidenceId : String := "dod-" ++ repoSlug request ++ "-pr-" ++ toString request.prNumber

def branchName : String :=
  "auto/" ++ String.ofList (lowerString env.unicode (repoSlug request)) ++ "-pr-" ++
    toString request.prNumber ++ "-occ-autobind"

/-- `f"{repo}#{pr_number}"`. -/
def productPr : String := request.repo ++ "#" ++ toString request.prNumber

def selfBindEvidenceId (occPrNumber : ℕ) : String := "occ-self-bind-pr-" ++ toString occPrNumber

/-- `self_bind_evidence_id`, with the number in it. -/
def selfBind : Option (String × ℕ) :=
  request.occPrNumber.map fun number => (selfBindEvidenceId number, number)

def downstreamCheck : String :=
  textOrElse request.downstreamCheckValue ("gh pr view " ++ toString request.prNumber ++
    " --repo " ++ request.repo ++ " --json number,state,headRefName")

def deployHits : List String := findDeploySensitivePaths env.unicode request.changedFiles

def receiptLocal : Option String :=
  if request.productRepoPrivate then some (receiptLocalCheckValue ticket (evidenceId request))
  else none

def contractPath : String := "contracts/" ++ ticket ++ ".yaml"

def receiptPath (evidence : String) : String :=
  "drift/dod_receipts/" ++ ticket ++ "/" ++ evidence ++ "/command.yaml"

def supersedePath (priorEntry : String) : String :=
  "drift/dod_receipts/" ++ ticket ++ "/" ++ priorEntry ++ "/command.supersede." ++
    toString request.prNumber ++ ".yaml"

/-! ## Files -/

/-- The contract of a ticket as the receipts bind it. -/
structure BoundContract where
  contractHash : String
  parsed : PyValue
  files : List PlannedFile

def receiptFields (evidence checkValue : String) (contractHash : String) (entryHash : Option String)
    (commitSha : String) (probe : ModelObservedProbe) (actualOutput : String) (prNumber : ℕ) :
    ReceiptFields where
  ticketId := ticket
  evidenceId := evidence
  checkValue := checkValue
  contractSha256 := contractHash
  contractEntrySha256 := entryHash
  runTimestamp := request.runTimestamp
  commitSha := commitSha
  runner := request.runner
  verifier := request.verifier
  probeCommand := probe.command
  probeStdout := probe.stdout
  actualOutput := actualOutput
  exitCode := probe.exitCode
  prNumber := prNumber
  branch := branchName env request

/-- `_receipt`: the rendered text, validated. -/
def receiptText (receipt : ReceiptFields) : Except CompanionError String :=
  if env.validReceipt (renderComputeReceipt receipt) then .ok (renderComputeReceipt receipt)
  else .error .raised

def receiptFile (kind : EnumCompanionFileKind) (receipt : ReceiptFields) :
    Except CompanionError PlannedFile := do
  let content ← receiptText env receipt
  return {
    file :=
      { path := receiptPath receipt.ticketId receipt.evidenceId
        content := content
        kind := kind
        ticketId := receipt.ticketId
        contractSha256 := receipt.contractSha256
        contractEntrySha256 := receipt.contractEntrySha256.getD "" }
    receipt := some receipt }

def contractFile (content : String) : PlannedFile where
  file :=
    { path := contractPath ticket
      content := content
      kind := .contract
      ticketId := ticket }

/-- `merged_text + self_bind_entry_text`. -/
def appendedContract (rawContractText : String) (selfBind : String × ℕ) : String :=
  let baseContract := renderComputeCompanionContract ticket request.repo request.prNumber
    (evidenceId request) none false none none
  let fullContract := renderComputeCompanionContract ticket request.repo request.prNumber
    (evidenceId request) (some selfBind) false none none
  let mergedText :=
    if rawContractText ≠ "" ∧ ¬ ['\n'].isSuffixOf rawContractText.toList then
      rawContractText ++ "\n"
    else rawContractText
  mergedText ++ String.ofList (fullContract.toList.drop baseContract.toList.length)

/-- `yaml.safe_load`. -/
def loadContract (content : String) : Except CompanionError PyValue :=
  match env.safeLoad content with
  | none => .error .raised
  | some parsed => .ok parsed

def mergedContract (state : ModelOccContractState) :
    Except CompanionError BoundContract :=
  match selfBind request with
  | some bind => do
      let content := appendedContract request ticket state.rawContractText bind
      let parsed ← loadContract env content
      if entryHashFor env parsed bind.1 = none then
        .error (.valueError ("merged-path self-bind entry " ++ reprString env.unicode bind.1 ++
          " did not resolve after appending to " ++ ticket ++ "'s merged contract; " ++
          "the contract's dod_evidence list is not the terminal YAML key (OMN-14623)."))
      else .ok ⟨env.sha256 content, parsed, [contractFile ticket content]⟩
  | none => do
      let parsed ←
        (if state.rawContractText = "" then .ok .none else loadContract env state.rawContractText)
      let whole :=
        if state.wholeFileSha256 = "" then env.sha256 state.rawContractText
        else state.wholeFileSha256
      return ⟨whole, parsed, []⟩

def freshContract : Except CompanionError BoundContract := do
  let content := renderComputeCompanionContract ticket request.repo request.prNumber
    (evidenceId request) (selfBind request) (deployHits env request ≠ [])
    (receiptLocal request ticket) (receiptLocal request ticket)
  let parsed ← loadContract env content
  return ⟨env.sha256 content, parsed, [contractFile ticket content]⟩

section

variable (bound : BoundContract)

/-- `_supersede_file` in its file. -/
def supersedeFile (priorEntry : String) :
    Except CompanionError PlannedFile :=
  match entryHashFor env bound.parsed priorEntry with
  | none =>
    .error (.valueError ("merged-path prior entry " ++ reprString env.unicode priorEntry ++
      " is not a declared dod_evidence item in " ++ ticket ++ "'s merged contract; cannot " ++
      "mint a dual-hash supersession (OMN-14623)."))
  | some entryHash => do
      let receipt := receiptFields env request ticket priorEntry (downstreamCheck request)
        bound.contractHash (some entryHash) request.prHeadSha.value request.productProbe
        ("PASS: supersede " ++ priorEntry ++ " rebind for " ++ ticket ++ " (2nd consumer " ++
          productPr request ++ ").") request.prNumber
      let replacement ← receiptText env receipt
      match env.dumpSupersession
        { ticketId := ticket
          evidenceItemId := priorEntry
          supersedes := receiptPath ticket priorEntry
          reason := "2nd consumer " ++ productPr request ++ " re-binds prior entry " ++
            priorEntry ++ " to this product PR without editing the merged base receipt " ++
            "(OMN-14623 merged-path supersede)."
          superseder := request.verifier
          createdAt := String.ofList
            (replaceText ['Z'] "+00:00".toList 0 request.runTimestamp.toList)
          replacement := replacement } with
      | none => .error .raised
      | some content =>
        return {
          file :=
            { path := supersedePath request ticket priorEntry
              content := content
              kind := .supersedeReceipt
              ticketId := ticket
              contractSha256 := bound.contractHash
              contractEntrySha256 := entryHash }
          receipt := some receipt }

def downstreamReceipt : ReceiptFields :=
  receiptFields env request ticket (evidenceId request)
    ((receiptLocal request ticket).getD (downstreamCheck request)) bound.contractHash
    (entryHashFor env bound.parsed (evidenceId request)) request.prHeadSha.value
    request.productProbe
    ("PASS: Evidence-Source autobind for " ++ ticket ++ " from " ++ productPr request ++ ".")
    request.prNumber

def deployReceipt : ReceiptFields :=
  receiptFields env request ticket deployAssessmentEvidenceId deployAssessmentCheckValue
    bound.contractHash (entryHashFor env bound.parsed deployAssessmentEvidenceId)
    request.prHeadSha.value request.productProbe
    ("PASS: deploy-scope present for " ++ ticket ++ " from " ++ productPr request ++ " — " ++
      toString (deployHits env request).length ++ " runtime/deploy-sensitive path(s), e.g. " ++
      ((deployHits env request).mergeSort fun a b => decide (a ≤ b)).headD "" ++ ".")
    request.prNumber

/-- The receipt that binds the companion PR to itself. -/
def selfBindReceipt (occPrNumber : ℕ) (occProbe : ModelObservedProbe) :
    ReceiptFields :=
  receiptFields env request ticket (selfBindEvidenceId occPrNumber)
    ("gh pr view " ++ toString occPrNumber ++ " --repo " ++ request.occRepo ++
      " --json number,state") bound.contractHash
    (entryHashFor env bound.parsed (selfBindEvidenceId occPrNumber))
    (request.occHeadSha.getD request.prHeadSha).value occProbe
    ("PASS: OCC self-bind for " ++ ticket ++ " (OCC#" ++ toString occPrNumber ++ ").") occPrNumber

/-- `state.exists and state.merged`. -/
def frozen : Bool :=
  (stateFor request ticket).exists && (stateFor request ticket).merged

def boundContract : Except CompanionError BoundContract :=
  if frozen request ticket then mergedContract env request ticket (stateFor request ticket)
  else freshContract env request ticket

/-- The entries that a ticket's plan supersedes. -/
def priorEntries : List String :=
  if frozen request ticket then (stateFor request ticket).existingEntryIds else []

def plainReceipts :
    List (EnumCompanionFileKind × ReceiptFields) :=
  (.downstreamReceipt, downstreamReceipt env request ticket bound) ::
    ((if deployHits env request ≠ [] ∧ frozen request ticket = false then
        [(.downstreamReceipt, deployReceipt env request ticket bound)]
      else []) ++
      match request.occPrNumber, request.occProbe with
      | some occPrNumber, some occProbe =>
        [(.selfBindReceipt, selfBindReceipt env request ticket bound occPrNumber occProbe)]
      | _, _ => [])

end

def ticketFiles : Except CompanionError (List PlannedFile) := do
  let bound ← boundContract env request ticket
  let superseding ← (priorEntries request ticket).mapM (supersedeFile env request ticket bound)
  let receipts ← (plainReceipts env request ticket bound).mapM fun receipt =>
    receiptFile env receipt.1 receipt.2
  return bound.files ++ superseding ++ receipts

end

def plannedFiles : Except CompanionError (List PlannedFile) :=
  ((env.extractTicketIds request.prBody request.prTitle).mapM (ticketFiles env request)).map
    List.flatten

/-! ## Plan -/

/-- A plan without files. -/
def emptyPlan : ModelOccCompanionPlan where
  repo := request.repo
  prNumber := request.prNumber
  branch := branchName env request
  wedges := detectWedges env request

def noOpPlan (reason : String) : ModelOccCompanionPlan :=
  { emptyPlan env request with noOp := true, noOpReason := reason }

def doNotMerge (text : String) : Bool := doNotMergePattern.search env.unicode text.toList

def noOpReason : Option String :=
  let prState := env.unicode.lower (strip request.prState.toList)
  if prState = "closed".toList ∨ prState = "merged".toList then
    some ("product PR state is " ++ String.ofList (env.unicode.repr prState) ++
      "; not authoring a companion for a non-open PR (F-17)")
  else if request.prIsDraft then some "product PR is a draft; suppressing companion (F-17)"
  else
    match request.prLabels.find? (doNotMerge env) with
    | some label =>
      some ("product PR carries a do-not-merge/WIP label (" ++ reprString env.unicode label ++
        "); suppressing companion (F-17)")
    | none =>
      if doNotMerge env request.prTitle || doNotMerge env request.prBody then
        some ("product PR title/body is marked do-not-merge/WIP/draft; " ++
          "suppressing companion (F-17)")
      else
        match alreadyBoundOcc env request.prBody with
        | some number => some ("already bound to OCC#" ++ toString number ++
            " (Evidence-Source is an OCC source)")
        | none =>
          if env.extractTicketIds request.prBody request.prTitle = [] then
            some "no OMN-XXXX ticket cited in title/body; nothing to author"
          else none

def computeCompanionPlan : Except CompanionError ModelOccCompanionPlan :=
  if request.runner = request.verifier then
    .error (.valueError ("self-attestation rejected: verifier (" ++
      reprString env.unicode request.verifier ++ ") must differ from runner (" ++
      reprString env.unicode request.runner ++ ")."))
  else
    match noOpReason env request with
    | some reason => .ok (noOpPlan env request reason)
    | none =>
      let tickets := env.extractTicketIds request.prBody request.prTitle
      let fast := classifyTrivialInfraFastpath env.unicode request.changedFiles
        request.diffTotalLines
      if fast.1 then
        .ok { emptyPlan env request with
          tickets := tickets, fastPath := true, fastPathReason := fast.2 }
      else do
        let planned ← plannedFiles env request
        let files := planned.map (·.file)
        return { emptyPlan env request with
          tickets := tickets
          companionFiles := files
          productBodyStamped := request.occPrNumber.elim "" fun number =>
            env.stampBody request.prBody number tickets
          evidenceSourceOccPr := request.occPrNumber
          deterministicDigest := deterministicFingerprint env files }

end

theorem computeCompanionPlan_files {env : CompanionEnv} {request : ModelOccCompanionRequest}
    {plan : ModelOccCompanionPlan} (computed : computeCompanionPlan env request = .ok plan)
    (authored : plan.companionFiles ≠ []) :
    ∃ planned, plannedFiles env request = .ok planned ∧
      plan.companionFiles = planned.map (·.file) ∧
      plan.deterministicDigest = deterministicFingerprint env plan.companionFiles := by
  unfold computeCompanionPlan at computed
  split at computed
  · cases computed
  · split at computed
    · cases computed
      exact absurd rfl authored
    · dsimp only at computed
      split at computed
      · cases computed
        exact absurd rfl authored
      · cases planned : plannedFiles env request with
        | error refusal => rw [planned] at computed; cases computed
        | ok files =>
          rw [planned] at computed
          cases computed
          exact ⟨files, rfl, rfl, rfl⟩

theorem exists_computeCompanionPlan {env : CompanionEnv} {request : ModelOccCompanionRequest}
    {planned : List PlannedFile} (apart : request.runner ≠ request.verifier)
    (wanted : noOpReason env request = none)
    (slow : (classifyTrivialInfraFastpath env.unicode request.changedFiles
      request.diffTotalLines).1 = false) (returned : plannedFiles env request = .ok planned) :
    ∃ plan, computeCompanionPlan env request = .ok plan ∧
      plan.companionFiles = planned.map (·.file) := by
  unfold computeCompanionPlan
  rw [if_neg apart, wanted, returned]
  simp only [slow, Bool.false_eq_true, if_false]
  exact ⟨_, rfl, rfl⟩

/-! ## Declared evidence -/

/-- The items of a contract, as the gate reads them. -/
def dodItems : PyValue → List PyValue
  | .dict entries =>
    match PyDict.get? entries "dod_evidence" with
    | some (.list items) => items
    | _ => []
  | _ => []

def itemId : PyValue → Option String
  | .dict entries =>
    match PyDict.get? entries "id" with
    | some (.str evidence) => some evidence
    | _ => none
  | _ => none

def Declares (contract : PyValue) (evidence : String) : Prop :=
  some evidence ∈ (dodItems contract).map itemId

instance (contract : PyValue) (evidence : String) : Decidable (Declares contract evidence) :=
  inferInstanceAs (Decidable (_ ∈ _))

/-! ## Sample -/

def sampleSha256 (digests : List (String × String)) (text : String) : String :=
  match digests.find? fun entry => entry.1 = text with
  | some entry => entry.2
  | none => "#" ++ text

theorem sampleSha256_injective {digests : List (String × String)}
    (apart : (digests.map Prod.snd).Nodup)
    (unmarked : ∀ entry ∈ digests, entry.2.toList.head? ≠ some '#') :
    Function.Injective (sampleSha256 digests) := by
  have hit : ∀ {text : String} {entry : String × String},
      digests.find? (fun entry => entry.1 = text) = some entry →
        entry ∈ digests ∧ entry.1 = text := by
    intro text entry found
    have held := List.find?_some found
    exact ⟨List.mem_of_find?_eq_some found, of_decide_eq_true held⟩
  intro text other same
  unfold sampleSha256 at same
  split at same
  · next entry found =>
    obtain ⟨listed, rfl⟩ := hit found
    split at same
    · next entry' found' =>
      obtain ⟨listed', rfl⟩ := hit found'
      rw [List.inj_on_of_nodup_map apart listed listed' same]
    · have marked := unmarked entry listed
      rw [same, String.toList_append] at marked
      exact absurd rfl marked
  · split at same
    · next entry' found' =>
      have marked := unmarked entry' (hit found').1
      rw [← same, String.toList_append] at marked
      exact absurd rfl marked
    · exact String.append_right_inj "#" |>.1 same

/-- A pull request that cites one ticket. -/
def sampleRequest : ModelOccCompanionRequest where
  repo := "acme/widget"
  prNumber := 7
  prHeadSha := ⟨"1234567", by simp, by decide, by decide⟩
  prTitle := "OMN-1 widget"
  runTimestamp := "2026-07-01T00:00:00+00:00"
  productProbe := { command := "gh pr view 7", stdout := "OPEN" }

def sampleText : String :=
  renderComputeCompanionContract "OMN-1" "acme/widget" 7 "dod-acme-widget-pr-7" none false none none

theorem sampleText_ends : ∃ text, sampleText = text ++ "\n" := by
  have quoted : "\"\n" = "\"" ++ "\n" := by decide
  have bare : sampleText = computeContractTemplate "OMN-1" "acme/widget" 7 "dod-acme-widget-pr-7"
      downstreamItemPublicCheckValue ciItemPublicCheckValue := by
    unfold sampleText renderComputeCompanionContract
    simp only [Bool.false_eq_true, if_false, String.append_empty]
    rfl
  rw [bare]
  unfold computeContractTemplate
  rw [quoted]
  exact ⟨_, String.append_assoc.symm⟩

def sampleItem : PyValue :=
  .dict
    [("id", .str "dod-acme-widget-pr-7"),
      ("description", .str "PR #7 on acme/widget — Evidence-Source autobind."),
      ("source", .str "generated"),
      ("checks", .list
        [.dict [("check_type", .str "command"),
            ("check_value", .str downstreamItemPublicCheckValue)],
          .dict [("check_type", .str "command"), ("check_value", .str ciItemPublicCheckValue)]])]

def sampleContract : PyValue :=
  .dict
    [("schema_version", .str "1.0.0"),
      ("ticket_id", .str "OMN-1"),
      ("title", .str "Autobind OCC evidence for OMN-1"),
      ("summary", .str ("OCC contract authored by node_occ_companion_compute (OMN-14285) for " ++
        "acme/widget PR #7.\n")),
      ("is_seam_ticket", .bool false),
      ("interface_change", .bool false),
      ("interfaces_touched", .list []),
      ("evidence_requirements", .list
        [.dict [("kind", .str "ci"), ("description", .str "PR #7 CI checks green"),
          ("command", .str ("gh pr checks " ++ prNumberVariable ++ " --repo " ++ repoVariable))]]),
      ("emergency_bypass", .dict
        [("enabled", .bool false), ("justification", .str ""), ("follow_up_ticket_id", .str "")]),
      ("dod_evidence", .list [sampleItem])]

/-- The hashes of the items that the sample declares, now or with a companion PR. -/
def sampleEntryHashes : List (String × String) :=
  [("dod-acme-widget-pr-7",
      "sha256:6d978f60aec4d5d004878334f7a95e59b7390159e9c25ff005601c46b7dd808f"),
    ("occ-self-bind-pr-9",
      "sha256:6b9bf5aabcafe871e757391527489831dda9de2ce2ca9ef1c731858b137d7e1f")]

def sampleEnv (digests : List (String × String)) (parses : List (String × PyValue)) :
    CompanionEnv where
  unicode := asciiTable
  sha256 := sampleSha256 digests
  safeLoad text := (parses.find? fun entry => entry.1 = text).map Prod.snd
  contractEntrySha256 contract evidence :=
    if Declares contract evidence then sampleEntryHashes.lookup evidence else none
  validReceipt _ := true
  dumpSupersession fields := some ("---\nticket_id: " ++ fields.ticketId ++
    "\nevidence_item_id: " ++ fields.evidenceItemId ++ "\nsupersedes: " ++ fields.supersedes ++
    "\nreason: " ++ fields.reason ++ "\nsuperseder: " ++ fields.superseder ++
    "\ncreated_at: '" ++ fields.createdAt ++ "'\nreplacement:\n" ++
    String.join ((splitLines fields.replacement.toList).map fun line =>
      "  " ++ String.ofList line ++ "\n"))
  extractTicketIds _ _ := ["OMN-1"]
  skipToken _ := false
  evidenceSource _ := none
  stampBody body _ _ := body
  ticket_plain := by
    intro body title ticket cited
    rw [List.mem_singleton.1 cited]
    decide
  tickets_nodup _ _ := List.nodup_singleton _

end

/-!
# Appending to a contract

What a parser makes of a document with the text of one more item at its end, and when that item
ends up in the evidence of a contract.
-/

/-- One more item at the end of a document, where the text ends in a sequence, in an empty value
or in a text of several lines. `marked` tells the texts that have swallowed it. -/
inductive Extends (marked : String → Prop) (item : PyValue) : PyValue → PyValue → Prop
  | sequence (items : List PyValue) : Extends marked item (.list items) (.list (items ++ [item]))
  | empty : Extends marked item .none (.list [item])
  | text {old new : String} (other : old ≠ new) (marks : marked new) :
      Extends marked item (.str old) (.str new)
  | entry {before after : PyDict} {key : String} {old new : PyValue}
      (alone : key ∉ before.map Prod.fst) (extended : Extends marked item old new) :
      Extends marked item (.dict (before ++ (key, old) :: after))
        (.dict (before ++ (key, new) :: after))
  | last {items : List PyValue} {old new : PyValue} (extended : Extends marked item old new) :
      Extends marked item (.list (items ++ [old])) (.list (items ++ [new]))

/-- The evidence of a contract has more items at its end, and nothing else has changed. -/
structure Appends (old new : PyDict) (added : List PyValue) : Prop where
  others : ∀ key, key ≠ "dod_evidence" → PyDict.get? new key = PyDict.get? old key
  evidence : ∃ items,
    (PyDict.get? old "dod_evidence" = some (.list items) ∨
      PyDict.get? old "dod_evidence" = some .none ∧ items = []) ∧
    PyDict.get? new "dod_evidence" = some (.list (items ++ added))

section

variable {before after : PyDict} {key : String} {value : PyValue}

theorem get?_entry (alone : key ∉ before.map Prod.fst) :
    PyDict.get? (before ++ (key, value) :: after) key = some value := by
  unfold PyDict.get?
  induction before with
  | nil => simp
  | cons head rest ih =>
    rw [List.map_cons, List.mem_cons, not_or] at alone
    rw [List.cons_append, List.lookup_cons, beq_false_of_ne alone.1]
    exact ih alone.2

theorem get?_other_entry {other : String} (apart : other ≠ key) (new : PyValue) :
    PyDict.get? (before ++ (key, new) :: after) other =
      PyDict.get? (before ++ (key, value) :: after) other := by
  unfold PyDict.get?
  induction before with
  | nil => simp [List.lookup, beq_false_of_ne apart]
  | cons head rest ih => rw [List.cons_append, List.cons_append, List.lookup_cons,
      List.lookup_cons, ih]

end

theorem dodItems_congr {old new : PyDict}
    (same : PyDict.get? new "dod_evidence" = PyDict.get? old "dod_evidence") :
    dodItems (.dict new) = dodItems (.dict old) := by
  simp only [dodItems, same]

theorem Appends.dodItems {old new : PyDict} (appended : Appends old new added) :
    dodItems (.dict new) = dodItems (.dict old) ++ added := by
  obtain ⟨items, before, after⟩ := appended.evidence
  rcases before with listed | ⟨empty, rfl⟩
  · simp only [OccCompanion.dodItems, listed, after]
  · simp only [OccCompanion.dodItems, empty, after, List.nil_append]

namespace Extends

variable {marked : String → Prop} {item old new : PyValue}

section

variable (extended : Extends marked item old new)

include extended

theorem ne : old ≠ new := by
  induction extended with
  | sequence items =>
    intro same
    exact List.cons_ne_nil item [] (List.self_eq_append_right.1 (PyValue.list.inj same))
  | empty =>
    exact nofun
  | text other marks =>
    intro same
    exact other (PyValue.str.inj same)
  | entry alone extended ih =>
    intro same
    have tails := List.append_cancel_left (PyValue.dict.inj same)
    exact ih (Prod.mk.inj (List.cons.inj tails).1).2
  | last extended ih =>
    intro same
    have ends := List.append_cancel_left (PyValue.list.inj same)
    exact ih (List.cons.inj ends).1

theorem itemId_eq {evidence : String}
    (unmarked : ¬ marked evidence) (declared : itemId new = some evidence) :
    itemId old = some evidence := by
  cases extended with
  | sequence items => cases declared
  | empty => cases declared
  | text other marks => cases declared
  | last extended => cases declared
  | @entry before after key value value' alone extended =>
    rcases eq_or_ne key "id" with rfl | apart
    · -- the value of the id itself has changed
      simp only [itemId, get?_entry alone] at declared
      cases extended with
      | text other marks =>
        cases declared
        exact absurd marks unmarked
      | _ => cases declared
    · simp only [itemId] at declared ⊢
      rw [get?_other_entry apart.symm value]
      exact declared

theorem appends_of_declares {evidence : String}
    (unmarked : ¬ marked evidence) (declared : Declares new evidence)
    (fresh : ¬ Declares old evidence) :
    ∃ before after, old = .dict before ∧ new = .dict after ∧ Appends before after [item] := by
  have none_of : ∀ {contract : PyValue}, dodItems contract = [] →
      ¬ Declares contract evidence := by
    intro contract empty among
    rw [Declares, empty] at among
    cases among
  cases extended with
  | sequence items => exact absurd declared (none_of rfl)
  | empty => exact absurd declared (none_of rfl)
  | text other marks => exact absurd declared (none_of rfl)
  | last extended => exact absurd declared (none_of rfl)
  | @entry before after key value value' alone extended =>
    refine ⟨_, _, rfl, rfl, ?_⟩
    have others : ∀ other, other ≠ key →
        PyDict.get? (before ++ (key, value') :: after) other =
          PyDict.get? (before ++ (key, value) :: after) other :=
      fun other apart => get?_other_entry apart value'
    rcases eq_or_ne key "dod_evidence" with rfl | apart
    · refine ⟨others, ?_⟩
      cases extended with
      | sequence items => exact ⟨items, .inl (get?_entry alone), get?_entry alone⟩
      | empty => exact ⟨[], .inr ⟨get?_entry alone, rfl⟩, get?_entry alone⟩
      | text other marks =>
        exact absurd declared (none_of (by simp only [dodItems, get?_entry alone]))
      | entry alone' extended =>
        exact absurd declared (none_of (by simp only [dodItems, get?_entry alone]))
      | @last items value value' extended =>
        -- the id would be that of the old last item
        refine absurd ?_ fresh
        simp only [Declares, dodItems, get?_entry alone, List.map_append, List.mem_append,
          List.map_cons, List.map_nil, List.mem_singleton] at declared ⊢
        rcases declared with early | late
        · exact .inl early
        · exact .inr (extended.itemId_eq unmarked late.symm).symm
    · rw [Declares, dodItems_congr (others _ apart.symm)] at declared
      exact absurd declared fresh

end

theorem eq_of_list {items : List PyValue}
    (extended : Extends marked item (.list items) (.list (items ++ added))) : added = [item] := by
  generalize grown : PyValue.list (items ++ added) = value' at extended
  generalize holder : PyValue.list items = value at extended
  cases extended with
  | sequence items =>
    cases holder
    exact List.append_cancel_left (PyValue.list.inj grown)
  | last extended =>
    cases holder
    -- the last item is another one, so nothing was added behind it
    have ends := PyValue.list.inj grown
    rw [List.append_assoc] at ends
    exact absurd (List.cons.inj (List.append_cancel_left ends)).1 extended.ne
  | _ => cases holder

theorem eq_singleton_of_appends {before after : PyDict}
    (extended : Extends marked item (.dict before) (.dict after))
    (appended : Appends before after added) : added = [item] := by
  obtain ⟨items, old_items, new_items⟩ := appended.evidence
  generalize holder : PyValue.dict before = contract at extended
  generalize holder' : PyValue.dict after = contract' at extended
  cases extended with
  | sequence _ => cases holder
  | empty => cases holder
  | text other marks => cases holder
  | last extended => cases holder
  | @entry head tail key value value' alone extended =>
    cases holder
    cases holder'
    rcases eq_or_ne key "dod_evidence" with rfl | apart
    · simp only [get?_entry alone, Option.some.injEq] at old_items new_items
      rw [new_items] at extended
      rcases old_items with rfl | ⟨rfl, rfl⟩
      · exact extended.eq_of_list
      · rw [List.nil_append] at extended
        cases extended
        rfl
    · have same := appended.others key apart
      rw [get?_entry alone, get?_entry alone] at same
      exact absurd (Option.some.inj same).symm extended.ne

end Extends

end OmniMarket.OccCompanion
