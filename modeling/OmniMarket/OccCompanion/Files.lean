import OmniMarket.OccCompanion.Plan
import OmniMarket.Lib.Raising
import OmniMarket.Lib.Search

/-!
# Files of a plan

One lemma for each function that makes a file, and what the paths of the files determine.
-/

namespace OmniMarket.OccCompanion
variable {made : PlannedFile} {ticket other : String} {bound : BoundContract}
  {files planned : List PlannedFile}

section

variable {env : CompanionEnv} {request : ModelOccCompanionRequest}

/-! ## Origins -/

theorem receiptText_eq_ok {receipt : ReceiptFields} {content : String} :
    receiptText env receipt = .ok content ↔
      env.validReceipt (renderComputeReceipt receipt) = true ∧
        content = renderComputeReceipt receipt := by
  unfold receiptText
  split
  · next valid =>
    rw [Except.ok.injEq]
    exact ⟨fun same => ⟨valid, same.symm⟩, fun both => both.2.symm⟩
  · next refused =>
    constructor
    · exact nofun
    · intro both
      exact absurd both.1 refused

def fileOfReceipt (kind : EnumCompanionFileKind) (receipt : ReceiptFields) : PlannedFile where
  file :=
    { path := receiptPath receipt.ticketId receipt.evidenceId
      content := renderComputeReceipt receipt
      kind := kind
      ticketId := receipt.ticketId
      contractSha256 := receipt.contractSha256
      contractEntrySha256 := receipt.contractEntrySha256.getD "" }
  receipt := some receipt

variable {kind : EnumCompanionFileKind}

theorem receiptFile_eq_ok {receipt : ReceiptFields}
    (returned : receiptFile env kind receipt = .ok made) : made = fileOfReceipt kind receipt := by
  obtain ⟨content, text, rest⟩ := Raising.bind_eq_ok.1 returned
  obtain ⟨-, rfl⟩ := receiptText_eq_ok.1 text
  cases rest
  rfl

/-- The receipt inside a supersession. -/
def supersedeReceipt (env : CompanionEnv) (request : ModelOccCompanionRequest) (ticket : String)
    (bound : BoundContract) (priorEntry entryHash : String) : ReceiptFields :=
  receiptFields env request ticket priorEntry (downstreamCheck request) bound.contractHash
    (some entryHash) request.prHeadSha.value request.productProbe
    ("PASS: supersede " ++ priorEntry ++ " rebind for " ++ ticket ++ " (2nd consumer " ++
      productPr request ++ ").") request.prNumber

structure Supersedes (env : CompanionEnv) (request : ModelOccCompanionRequest) (ticket : String)
    (bound : BoundContract) (priorEntry : String) (made : PlannedFile) : Prop where
  path : made.file.path = supersedePath request ticket priorEntry
  kind : made.file.kind = .supersedeReceipt
  ticketId : made.file.ticketId = ticket
  contractSha : made.file.contractSha256 = bound.contractHash
  entrySha : entryHashFor env bound.parsed priorEntry = some made.file.contractEntrySha256
  receipt : made.receipt =
    some (supersedeReceipt env request ticket bound priorEntry made.file.contractEntrySha256)

theorem supersedeFile_eq_ok {priorEntry : String}
    (returned : supersedeFile env request ticket bound priorEntry = .ok made) :
    Supersedes env request ticket bound priorEntry made := by
  unfold supersedeFile at returned
  split at returned
  · cases returned
  · next entryHash hashed =>
    dsimp only at returned
    obtain ⟨replacement, -, rest⟩ := Raising.bind_eq_ok.1 returned
    split at rest
    · cases rest
    · cases rest
      exact ⟨rfl, rfl, rfl, rfl, hashed, rfl⟩

theorem mem_bound_files (returned : boundContract env request ticket = .ok bound)
    (listed : made ∈ bound.files) :
    ∃ content, bound.files = [contractFile ticket content] ∧ made = contractFile ticket content ∧
      bound.contractHash = env.sha256 content ∧ env.safeLoad content = some bound.parsed := by
  have loaded : ∀ {content : String} {parsed : PyValue},
      loadContract env content = .ok parsed → env.safeLoad content = some parsed := by
    intro content parsed read
    unfold loadContract at read
    split at read
    · cases read
    · next found => cases read; exact found
  unfold boundContract at returned
  split at returned
  · unfold mergedContract at returned
    split at returned
    · next bind _ =>
      obtain ⟨parsed, read, rest⟩ := Raising.bind_eq_ok.1 returned
      split at rest
      · cases rest
      · cases rest
        rw [List.mem_singleton] at listed
        exact ⟨_, rfl, listed, rfl, loaded read⟩
    · obtain ⟨parsed, _, rest⟩ := Raising.bind_eq_ok.1 returned
      cases rest
      cases listed
  · obtain ⟨parsed, read, rest⟩ := Raising.bind_eq_ok.1 returned
    cases rest
    rw [List.mem_singleton] at listed
    exact ⟨_, rfl, listed, rfl, loaded read⟩

inductive Origin (env : CompanionEnv) (request : ModelOccCompanionRequest) (ticket : String)
    (bound : BoundContract) (made : PlannedFile) : Prop
  | contract (listed : made ∈ bound.files)
  | supersession (priorEntry : String) (prior : priorEntry ∈ priorEntries request ticket)
      (returned : supersedeFile env request ticket bound priorEntry = .ok made)
  | receipt (kind : EnumCompanionFileKind) (fields : ReceiptFields)
      (planned : (kind, fields) ∈ plainReceipts env request ticket bound)
      (returned : receiptFile env kind fields = .ok made)

theorem ticketFiles_eq_ok :
    ticketFiles env request ticket = .ok files ↔
      ∃ bound superseding receipts, boundContract env request ticket = .ok bound ∧
        (priorEntries request ticket).mapM (supersedeFile env request ticket bound) =
          .ok superseding ∧
        (plainReceipts env request ticket bound).mapM
          (fun receipt => receiptFile env receipt.1 receipt.2) = .ok receipts ∧
        files = bound.files ++ superseding ++ receipts := by
  unfold ticketFiles
  simp only [Raising.bind_eq_ok]
  constructor
  · rintro ⟨bound, contract, superseding, prior, receipts, plain, returned⟩
    cases returned
    exact ⟨bound, superseding, receipts, contract, prior, plain, rfl⟩
  · rintro ⟨bound, superseding, receipts, contract, prior, plain, rfl⟩
    exact ⟨bound, contract, superseding, prior, receipts, plain, rfl⟩

theorem mem_ticketFiles (returned : ticketFiles env request ticket = .ok files)
    (listed : made ∈ files) :
    ∃ bound, boundContract env request ticket = .ok bound ∧
      Origin env request ticket bound made := by
  obtain ⟨bound, superseding, receipts, contract, prior, plain, rfl⟩ :=
    ticketFiles_eq_ok.1 returned
  refine ⟨bound, contract, ?_⟩
  rcases List.mem_append.1 listed with early | late
  · rcases List.mem_append.1 early with own | superseded
    · exact .contract own
    · obtain ⟨entry, among, made_of⟩ := (Search.mem_of_mapM prior made).1 superseded
      exact .supersession entry among made_of
  · obtain ⟨fields, among, made_of⟩ := (Search.mem_of_mapM plain made).1 late
    exact .receipt fields.1 fields.2 among made_of

theorem mem_plannedFiles (returned : plannedFiles env request = .ok planned)
    (listed : made ∈ planned) :
    ∃ ticket ∈ env.extractTicketIds request.prBody request.prTitle, ∃ bound,
      boundContract env request ticket = .ok bound ∧ Origin env request ticket bound made := by
  obtain ⟨groups, walked, rfl⟩ := Raising.map_eq_ok.1 returned
  obtain ⟨files, group, inside⟩ := List.mem_flatten.1 listed
  obtain ⟨ticket, cited, made_of⟩ := (Search.mem_of_mapM walked files).1 group
  exact ⟨ticket, cited, mem_ticketFiles made_of inside⟩

/-! ## Paths -/

theorem contractPath_inj (same : contractPath ticket = contractPath other) : ticket = other := by
  have texts := congrArg String.toList same
  simp only [contractPath, String.toList_append, List.append_assoc, List.append_cancel_left_eq,
    List.append_cancel_right_eq] at texts
  exact String.toList_inj.1 texts

theorem receiptRoot_inj {rest rest' : List Char} (plain : '/' ∉ ticket.toList)
    (plain' : '/' ∉ other.toList)
    (same : "drift/dod_receipts/".toList ++ (ticket.toList ++ '/' :: rest) =
      "drift/dod_receipts/".toList ++ (other.toList ++ '/' :: rest')) :
    ticket = other ∧ rest = rest' := by
  have tails := List.append_cancel_left same
  have parts := separator_append_inj plain plain' tails
  exact ⟨String.toList_inj.1 parts.1, parts.2⟩

theorem toList_entryPath (root ticket entry file : String) :
    (root ++ ticket ++ "/" ++ entry ++ file).toList =
      root.toList ++ (ticket.toList ++ '/' :: (entry.toList ++ file.toList)) := by
  have slash : "/".toList = ['/'] := by decide
  simp only [String.toList_append, List.append_assoc, slash, List.cons_append, List.nil_append]

theorem toList_receiptPath (ticket evidence : String) :
    (receiptPath ticket evidence).toList = "drift/dod_receipts/".toList ++
      (ticket.toList ++ '/' :: (evidence.toList ++ "/command.yaml".toList)) :=
  toList_entryPath "drift/dod_receipts/" ticket evidence "/command.yaml"

/-- The last part of the path of a supersession. -/
def supersedeFileName (request : ModelOccCompanionRequest) : String :=
  "/command.supersede." ++ toString request.prNumber ++ ".yaml"

theorem toList_supersedePath (request : ModelOccCompanionRequest) (ticket prior : String) :
    (supersedePath request ticket prior).toList = "drift/dod_receipts/".toList ++
      (ticket.toList ++ '/' :: (prior.toList ++ (supersedeFileName request).toList)) := by
  have parts : supersedePath request ticket prior =
      "drift/dod_receipts/" ++ ticket ++ "/" ++ prior ++ supersedeFileName request := by
    unfold supersedePath supersedeFileName
    simp only [String.append_assoc]
  rw [parts]
  exact toList_entryPath "drift/dod_receipts/" ticket prior (supersedeFileName request)

theorem receiptPath_inj {evidence evidence' : String} (plain : '/' ∉ ticket.toList)
    (plain' : '/' ∉ other.toList)
    (same : receiptPath ticket evidence = receiptPath other evidence') :
    ticket = other ∧ evidence = evidence' := by
  have texts := congrArg String.toList same
  rw [toList_receiptPath, toList_receiptPath] at texts
  obtain ⟨tickets, rests⟩ := receiptRoot_inj plain plain' texts
  exact ⟨tickets, String.toList_inj.1 (List.append_cancel_right rests)⟩

theorem supersedePath_inj {prior prior' : String} (plain : '/' ∉ ticket.toList)
    (plain' : '/' ∉ other.toList)
    (same : supersedePath request ticket prior = supersedePath request other prior') :
    ticket = other ∧ prior = prior' := by
  have texts := congrArg String.toList same
  rw [toList_supersedePath, toList_supersedePath] at texts
  obtain ⟨tickets, rests⟩ := receiptRoot_inj plain plain' texts
  exact ⟨tickets, String.toList_inj.1 (List.append_cancel_right rests)⟩

theorem evidenceId_ne_deploy (request : ModelOccCompanionRequest) :
    evidenceId request ≠ deployAssessmentEvidenceId := by
  intro same
  have texts := congrArg String.toList same
  have split : deployAssessmentEvidenceId.toList =
      "dod-deploy".toList ++ '-' :: "assessment".toList := by decide
  have cut : (evidenceId request).toList = ("dod-".toList ++ ((repoSlug request).toList ++
      "-pr".toList)) ++ '-' :: (toString request.prNumber).toList := by
    have mark : "-pr-".toList = "-pr".toList ++ ['-'] := by decide
    simp only [evidenceId, String.toList_append, List.append_assoc, mark, List.singleton_append]
  rw [cut, split] at texts
  have tails := append_separator_inj (not_mem_repr (by decide) request.prNumber) (by decide) texts
  have letter : 'a' ∈ request.prNumber.repr.toList := by
    rw [tails.2]
    decide
  exact not_mem_repr (by decide) request.prNumber letter

theorem plainReceipts_cases {fields : ReceiptFields}
    (planned : (kind, fields) ∈ plainReceipts env request ticket bound) :
    (kind = .downstreamReceipt ∧ fields = downstreamReceipt env request ticket bound) ∨
    (kind = .downstreamReceipt ∧ fields = deployReceipt env request ticket bound) ∨
    (kind = .selfBindReceipt ∧ ∃ occPrNumber occProbe, request.occPrNumber = some occPrNumber ∧
      request.occProbe = some occProbe ∧
      fields = selfBindReceipt env request ticket bound occPrNumber occProbe) := by
  unfold plainReceipts at planned
  rcases List.mem_cons.1 planned with same | more
  · cases same
    exact .inl ⟨rfl, rfl⟩
  · rcases List.mem_append.1 more with deploy | selfBound
    · split at deploy
      · cases List.mem_singleton.1 deploy
        exact .inr (.inl ⟨rfl, rfl⟩)
      · cases deploy
    · split at selfBound
      · next occPrNumber occProbe number probe =>
        cases List.mem_singleton.1 selfBound
        exact .inr (.inr ⟨rfl, occPrNumber, occProbe, number, probe, rfl⟩)
      · cases selfBound

theorem plainReceipts_ticketId {ticket : String} {bound : BoundContract}
    {kind : EnumCompanionFileKind} {fields : ReceiptFields}
    (planned : (kind, fields) ∈ plainReceipts env request ticket bound) :
    fields.ticketId = ticket := by
  rcases plainReceipts_cases planned with ⟨-, rfl⟩ | ⟨-, rfl⟩ | ⟨-, _, _, -, -, rfl⟩ <;> rfl

theorem plainReceipts_unique {fields other : ReceiptFields}
    (planned : (kind, fields) ∈ plainReceipts env request ticket bound)
    (again : (kind, other) ∈ plainReceipts env request ticket bound)
    (evidence : fields.evidenceId = other.evidenceId) : fields = other := by
  rcases plainReceipts_cases planned with ⟨rfl, rfl⟩ | ⟨rfl, rfl⟩ | ⟨rfl, a, b, number, probe, rfl⟩
  · rcases plainReceipts_cases again with ⟨-, rfl⟩ | ⟨-, rfl⟩ | ⟨impossible, -⟩
    · rfl
    · exact absurd evidence (evidenceId_ne_deploy request)
    · cases impossible
  · rcases plainReceipts_cases again with ⟨-, rfl⟩ | ⟨-, rfl⟩ | ⟨impossible, -⟩
    · exact absurd evidence.symm (evidenceId_ne_deploy request)
    · rfl
    · cases impossible
  · rcases plainReceipts_cases again with ⟨impossible, -⟩ | ⟨impossible, -⟩ |
      ⟨-, a', b', number', probe', rfl⟩
    · cases impossible
    · cases impossible
    · rw [number] at number'
      rw [probe] at probe'
      cases number'
      cases probe'
      rfl

theorem file_eq_of_path {other : PlannedFile} (returned : plannedFiles env request = .ok planned)
    (listed : made ∈ planned) (listed' : other ∈ planned) (path : made.file.path = other.file.path)
    (kind : made.file.kind = other.file.kind) : made = other := by
  obtain ⟨ticket, cited, bound, contract, origin⟩ := mem_plannedFiles returned listed
  obtain ⟨ticket', cited', bound', contract', origin'⟩ := mem_plannedFiles returned listed'
  have plain := env.ticket_plain _ _ ticket cited
  have plain' := env.ticket_plain _ _ ticket' cited'
  have same_bound : ticket = ticket' → bound = bound' := by
    rintro rfl
    rw [contract] at contract'
    exact Except.ok.inj contract'
  cases origin with
  | contract own =>
    obtain ⟨content, files, rfl, -⟩ := mem_bound_files contract own
    cases origin' with
    | contract own' =>
      obtain ⟨content', files', rfl, -⟩ := mem_bound_files contract' own'
      have tickets : ticket = ticket' := contractPath_inj path
      have bounds := same_bound tickets
      subst tickets
      subst bounds
      rw [files] at files'
      exact List.head_eq_of_cons_eq files'
    | supersession prior among returned' =>
      have other_kind := (supersedeFile_eq_ok returned').kind
      rw [← kind] at other_kind
      cases other_kind
    | receipt kind' fields among returned' =>
      rw [receiptFile_eq_ok returned'] at kind
      rcases plainReceipts_cases among with ⟨rfl, -⟩ | ⟨rfl, -⟩ | ⟨rfl, -⟩ <;> cases kind
  | supersession prior among made_of =>
    have spec := supersedeFile_eq_ok made_of
    cases origin' with
    | contract own' =>
      obtain ⟨content', files', rfl, -⟩ := mem_bound_files contract' own'
      rw [spec.kind] at kind
      cases kind
    | supersession prior' among' made_of' =>
      have spec' := supersedeFile_eq_ok made_of'
      rw [spec.path, spec'.path] at path
      obtain ⟨rfl, rfl⟩ := supersedePath_inj plain plain' path
      rw [same_bound rfl, made_of'] at made_of
      exact (Except.ok.inj made_of).symm
    | receipt kind' fields among' returned' =>
      rw [receiptFile_eq_ok returned', spec.kind] at kind
      rcases plainReceipts_cases among' with ⟨rfl, -⟩ | ⟨rfl, -⟩ | ⟨rfl, -⟩ <;> cases kind
  | receipt kind₁ fields among made_of =>
    rw [receiptFile_eq_ok made_of] at path kind ⊢
    cases origin' with
    | contract own' =>
      obtain ⟨content', files', rfl, -⟩ := mem_bound_files contract' own'
      rcases plainReceipts_cases among with ⟨rfl, -⟩ | ⟨rfl, -⟩ | ⟨rfl, -⟩ <;> cases kind
    | supersession prior' among' made_of' =>
      rw [(supersedeFile_eq_ok made_of').kind] at kind
      rcases plainReceipts_cases among with ⟨rfl, -⟩ | ⟨rfl, -⟩ | ⟨rfl, -⟩ <;> cases kind
    | receipt kind₂ fields' among' made_of' =>
      rw [receiptFile_eq_ok made_of'] at path kind ⊢
      have kinds : kind₁ = kind₂ := kind
      have own := plainReceipts_ticketId among
      have own' := plainReceipts_ticketId among'
      obtain ⟨tickets, evidence⟩ := receiptPath_inj (own ▸ plain) (own' ▸ plain') path
      have same_ticket : ticket = ticket' := own.symm.trans (tickets.trans own')
      have bounds := same_bound same_ticket
      subst same_ticket
      subst bounds
      subst kinds
      rw [plainReceipts_unique among among' evidence]

end

/-!
# Paths of a plan

The paths of the files of a plan tell their tickets, and the files of one ticket apart.
-/

section

variable {env : CompanionEnv} {request : ModelOccCompanionRequest}

def citedTickets (env : CompanionEnv) (request : ModelOccCompanionRequest) : List String :=
  env.extractTicketIds request.prBody request.prTitle

def Probed (request : ModelOccCompanionRequest) : Prop :=
  request.occPrNumber.isSome = true → request.occProbe.isSome = true

instance (request : ModelOccCompanionRequest) : Decidable (Probed request) :=
  inferInstanceAs (Decidable (_ → _))

def receiptIds (env : CompanionEnv) (request : ModelOccCompanionRequest) (ticket : String) :
    List String :=
  evidenceId request ::
    ((if deployHits env request ≠ [] ∧ frozen request ticket = false then
        [deployAssessmentEvidenceId]
      else []) ++ (selfBind request).toList.map Prod.fst)

/-! ## Files of a ticket -/

structure TicketPlan (env : CompanionEnv) (request : ModelOccCompanionRequest)
    (planned : List PlannedFile) (ticket : String) (bound : BoundContract) : Prop where
  contract : boundContract env request ticket = .ok bound
  files : ∀ made ∈ bound.files, made ∈ planned
  supersedes : ∀ prior ∈ priorEntries request ticket, ∃ made ∈ planned,
    supersedeFile env request ticket bound prior = .ok made
  receipts : ∀ receipt ∈ plainReceipts env request ticket bound,
    fileOfReceipt receipt.1 receipt.2 ∈ planned
  sublist : (priorEntries request ticket).map (supersedePath request ticket) |>.Sublist
    (planned.map (·.file.path))

theorem exists_plannedFiles
    (made : ∀ ticket ∈ citedTickets env request,
      ∃ files, ticketFiles env request ticket = .ok files) :
    ∃ planned, plannedFiles env request = .ok planned := by
  obtain ⟨groups, walked⟩ := Search.exists_mapM_eq_ok.2 made
  exact ⟨groups.flatten, Raising.map_eq_ok.2 ⟨groups, walked, rfl⟩⟩

theorem exists_ticketPlan (returned : plannedFiles env request = .ok planned)
    (cited : ticket ∈ citedTickets env request) :
    ∃ bound, TicketPlan env request planned ticket bound := by
  obtain ⟨groups, walked, rfl⟩ := Raising.map_eq_ok.1 returned
  obtain ⟨files, made⟩ := Search.exists_mapM_eq_ok.1 ⟨groups, walked⟩ ticket cited
  have group : files ∈ groups := (Search.mem_of_mapM walked files).2 ⟨ticket, cited, made⟩
  have listed : ∀ file ∈ files, file ∈ groups.flatten :=
    fun file inside => List.mem_flatten.2 ⟨files, group, inside⟩
  obtain ⟨bound, superseding, receipts, contract, prior, plain, rfl⟩ := ticketFiles_eq_ok.1 made
  refine ⟨bound, contract, ?_, ?_, ?_, ?_⟩
  · intro file own
    exact listed file (List.mem_append_left _ (List.mem_append_left _ own))
  · intro entry among
    obtain ⟨file, returned⟩ := Search.exists_mapM_eq_ok.1 ⟨superseding, prior⟩ entry among
    have inside := (Search.mem_of_mapM prior file).2 ⟨entry, among, returned⟩
    exact ⟨file, listed file (List.mem_append_left _ (List.mem_append_right _ inside)), returned⟩
  · intro receipt among
    obtain ⟨file, returned⟩ := Search.exists_mapM_eq_ok.1 ⟨receipts, plain⟩ receipt among
    have inside := (Search.mem_of_mapM plain file).2 ⟨receipt, among, returned⟩
    rw [← receiptFile_eq_ok returned]
    exact listed file (List.mem_append_right _ inside)
  · have paths : superseding.map (·.file.path) =
        (priorEntries request ticket).map (supersedePath request ticket) :=
      Search.map_of_mapM prior fun entry file returned => (supersedeFile_eq_ok returned).path
    rw [← paths]
    refine List.Sublist.map _ ?_
    have inside : superseding.Sublist (bound.files ++ superseding ++ receipts) :=
      (List.sublist_append_right _ _).trans (List.sublist_append_left _ _)
    exact inside.trans (List.sublist_flatten_of_mem group)

theorem map_plainReceipts (probed : Probed request) (ticket : String) (bound : BoundContract) :
    (plainReceipts env request ticket bound).map (fun receipt => receipt.2.evidenceId) =
      receiptIds env request ticket := by
  unfold plainReceipts receiptIds selfBind
  rw [List.map_cons, List.map_append, apply_ite (List.map _)]
  congr 2
  cases number : request.occPrNumber with
  | none => rfl
  | some occPrNumber =>
    cases probe : request.occProbe with
    | none =>
      have given := probed (by rw [number]; rfl)
      rw [probe] at given
      cases given
    | some occProbe => rfl

/-! ## Ids -/

theorem selfBindEvidenceId_ne (rest : String) (number : ℕ) :
    selfBindEvidenceId number ≠ "dod-" ++ rest := by
  intro same
  have texts := congrArg (fun text => text.toList.head?) same
  simp [selfBindEvidenceId] at texts

theorem selfBindEvidenceId_ne_evidenceId (request : ModelOccCompanionRequest) (number : ℕ) :
    selfBindEvidenceId number ≠ evidenceId request := by
  intro same
  refine selfBindEvidenceId_ne (repoSlug request ++ "-pr-" ++ toString request.prNumber) number ?_
  rw [same, evidenceId]
  simp only [String.append_assoc]

theorem selfBindEvidenceId_ne_deploy (number : ℕ) :
    selfBindEvidenceId number ≠ deployAssessmentEvidenceId :=
  selfBindEvidenceId_ne "deploy-assessment" number

theorem receiptIds_nodup (env : CompanionEnv) (request : ModelOccCompanionRequest)
    (ticket : String) : (receiptIds env request ticket).Nodup := by
  unfold receiptIds selfBind
  cases request.occPrNumber with
  | none => split <;> simp [evidenceId_ne_deploy]
  | some number =>
    have own := (selfBindEvidenceId_ne_evidenceId request number).symm
    have deploy := (selfBindEvidenceId_ne_deploy number).symm
    split <;> simp [evidenceId_ne_deploy, own, deploy]

/-! ## Paths -/

def receiptRoot : String := "drift/dod_receipts/"

def PathOf (ticket path : String) : Prop :=
  path = contractPath ticket ∨
    ∃ rest, path.toList = receiptRoot.toList ++ (ticket.toList ++ '/' :: rest)

theorem contractPath_not_receipt (ticket : String) :
    ¬ receiptRoot.toList <+: (contractPath ticket).toList := by
  rintro ⟨rest, same⟩
  have heads := congrArg List.head? same
  simp [receiptRoot, contractPath] at heads

theorem receiptPath_below (ticket evidence : String) :
    receiptRoot.toList <+: (receiptPath ticket evidence).toList :=
  ⟨_, (toList_receiptPath ticket evidence).symm⟩

theorem supersedePath_below (request : ModelOccCompanionRequest) (ticket prior : String) :
    receiptRoot.toList <+: (supersedePath request ticket prior).toList :=
  ⟨_, (toList_supersedePath request ticket prior).symm⟩

theorem Origin.mem_files (origin : Origin env request ticket bound made)
    (path : made.file.path = contractPath other) : made ∈ bound.files := by
  refine Classical.byContradiction fun foreign => contractPath_not_receipt other ?_
  rw [← path]
  cases origin with
  | contract own => exact absurd own foreign
  | supersession prior among returned =>
    rw [(supersedeFile_eq_ok returned).path]
    exact supersedePath_below request ticket prior
  | receipt kind fields among returned =>
    rw [receiptFile_eq_ok returned]
    exact receiptPath_below fields.ticketId fields.evidenceId

theorem Origin.pathOf (contract : boundContract env request ticket = .ok bound)
    (origin : Origin env request ticket bound made) : PathOf ticket made.file.path := by
  cases origin with
  | contract own =>
    obtain ⟨content, -, rfl, -⟩ := mem_bound_files contract own
    exact .inl rfl
  | supersession prior among returned =>
    have path := congrArg String.toList (supersedeFile_eq_ok returned).path
    exact .inr ⟨_, path.trans (toList_supersedePath request ticket prior)⟩
  | receipt kind fields among returned =>
    have path : made.file.path = receiptPath ticket fields.evidenceId := by
      rw [receiptFile_eq_ok returned, ← plainReceipts_ticketId among]
      rfl
    have text := congrArg String.toList path
    exact .inr ⟨_, text.trans (toList_receiptPath ticket fields.evidenceId)⟩

theorem ticket_of_path {path : String} (plain : '/' ∉ ticket.toList) (plain' : '/' ∉ other.toList)
    (own : PathOf ticket path) (own' : PathOf other path) : ticket = other := by
  rcases own with rfl | ⟨rest, below⟩
  · rcases own' with same | ⟨rest', below'⟩
    · exact contractPath_inj same
    · exact absurd ⟨_, below'.symm⟩ (contractPath_not_receipt ticket)
  · rcases own' with rfl | ⟨rest', below'⟩
    · exact absurd ⟨_, below.symm⟩ (contractPath_not_receipt other)
    · exact (receiptRoot_inj plain plain' (below.symm.trans below')).1

theorem supersedePath_ne_receiptPath {prior evidence : String} (plain : '/' ∉ ticket.toList)
    (plain' : '/' ∉ other.toList) :
    supersedePath request ticket prior ≠ receiptPath other evidence := by
  intro same
  have texts := congrArg String.toList same
  rw [toList_supersedePath, toList_receiptPath] at texts
  have rests := (receiptRoot_inj plain plain' texts).2
  have name : (supersedeFileName request).toList = "/command.supersede.".toList ++
      (request.prNumber.repr.toList ++ ".yaml".toList) := by
    show ("/command.supersede." ++ request.prNumber.repr ++ ".yaml").toList = _
    rw [String.toList_append, String.toList_append, List.append_assoc]
  have command : "/command.yaml".toList = "/comman".toList ++ (['d'] ++ ".yaml".toList) := by
    decide
  rw [name, command] at rests
  simp only [← List.append_assoc] at rests
  -- the signs before the ending are a digit and a letter
  have ends := congrArg List.getLast? (List.append_cancel_right rests)
  rw [List.getLast?_concat] at ends
  have letter : 'd' ∈ request.prNumber.repr.toList := by
    have some_digit : request.prNumber.repr.toList ≠ [] := by
      simp [Nat.repr]
    rw [List.getLast?_append_of_ne_nil _ some_digit] at ends
    exact List.mem_of_getLast? ends
  exact not_mem_repr (by decide) request.prNumber letter

theorem ticketFiles_paths_nodup (probed : Probed request) (plain : '/' ∉ ticket.toList)
    (priors : (priorEntries request ticket).Nodup)
    (returned : ticketFiles env request ticket = .ok files) : (files.map (·.file.path)).Nodup := by
  obtain ⟨bound, superseding, receipts, contract, prior, plainly, rfl⟩ :=
    ticketFiles_eq_ok.1 returned
  have superseded : superseding.map (·.file.path) =
      (priorEntries request ticket).map (supersedePath request ticket) :=
    Search.map_of_mapM prior fun entry file made => (supersedeFile_eq_ok made).path
  have received : receipts.map (·.file.path) =
      (receiptIds env request ticket).map (receiptPath ticket) := by
    rw [← map_plainReceipts probed ticket bound, List.map_map]
    have walked : ∀ receipt ∈ plainReceipts env request ticket bound,
        receiptPath receipt.2.ticketId receipt.2.evidenceId =
          receiptPath ticket receipt.2.evidenceId := by
      intro receipt among
      rw [@plainReceipts_ticketId env request ticket bound receipt.1 receipt.2 among]
    rw [Search.map_of_mapM (f := fun receipt : EnumCompanionFileKind × ReceiptFields =>
      receiptPath receipt.2.ticketId receipt.2.evidenceId) plainly]
    · exact List.map_congr_left walked
    · intro receipt file made
      rw [receiptFile_eq_ok made]
      rfl
  rw [List.map_append, List.map_append, superseded, received, List.append_assoc]
  refine List.nodup_append.2 ⟨?_, List.nodup_append.2 ⟨?_, ?_, ?_⟩, ?_⟩
  · rcases bound.files.eq_nil_or_concat with none | ⟨front, file, listed⟩
    · rw [none]
      exact List.nodup_nil
    · rw [List.concat_eq_append] at listed
      have own : file ∈ bound.files := by simp [listed]
      obtain ⟨content, only, -⟩ := mem_bound_files contract own
      rw [only]
      exact List.nodup_singleton _
  · exact List.Nodup.map_on (fun a _ b _ same => (supersedePath_inj plain plain same).2) priors
  · exact List.Nodup.map_on (fun a _ b _ same => (receiptPath_inj plain plain same).2)
      (receiptIds_nodup env request ticket)
  · intro path first path' second same
    obtain ⟨entry, -, rfl⟩ := List.mem_map.1 first
    obtain ⟨evidence, -, rfl⟩ := List.mem_map.1 second
    exact supersedePath_ne_receiptPath plain plain same
  · intro path first path' second same
    obtain ⟨file, own, rfl⟩ := List.mem_map.1 first
    obtain ⟨content, -, rfl, -⟩ := mem_bound_files contract own
    refine contractPath_not_receipt ticket ?_
    show receiptRoot.toList <+: (contractFile ticket content).file.path.toList
    rw [same]
    rcases List.mem_append.1 second with prior | receipt
    · obtain ⟨entry, -, rfl⟩ := List.mem_map.1 prior
      exact supersedePath_below request ticket entry
    · obtain ⟨evidence, -, rfl⟩ := List.mem_map.1 receipt
      exact receiptPath_below ticket evidence

theorem paths_nodup (probed : Probed request)
    (priors : ∀ ticket ∈ citedTickets env request, (priorEntries request ticket).Nodup)
    (returned : plannedFiles env request = .ok planned) : (planned.map (·.file.path)).Nodup := by
  obtain ⟨groups, walked, rfl⟩ := Raising.map_eq_ok.1 returned
  refine Search.nodup_flatten_of_mapM walked (env.tickets_nodup _ _) ?_ ?_
  · intro ticket cited files made
    exact ticketFiles_paths_nodup probed (env.ticket_plain _ _ ticket cited)
      (priors ticket cited) made
  · intro ticket cited other cited' files files' made made' file listed file' listed' same
    obtain ⟨bound, contract, origin⟩ := mem_ticketFiles made listed
    obtain ⟨bound', contract', origin'⟩ := mem_ticketFiles made' listed'
    have own := origin.pathOf contract
    rw [same] at own
    exact ticket_of_path (env.ticket_plain _ _ ticket cited) (env.ticket_plain _ _ other cited') own
      (origin'.pathOf contract')

end

end OmniMarket.OccCompanion
