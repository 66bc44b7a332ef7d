import OmniMarket.OccCompanion.Files

/-!
# Append-only plans

A plan beside the tree of the change control repository that its request describes.
-/

namespace OmniMarket.OccCompanion
variable {content evidence : String} {contract : PyValue}

/-! ## Trees -/

/-- The texts at the paths of a repository. -/
abbrev Tree := String → Option String

def Tree.after (tree : Tree) (planned : List PlannedFile) : Tree :=
  planned.foldl
    (fun written made => Function.update written made.file.path (some made.file.content)) tree

section

variable {tree : Tree} {planned : List PlannedFile}

theorem Tree.after_of_unwritten {path : String}
    (unwritten : ∀ made ∈ planned, made.file.path ≠ path) :
    tree.after planned path = tree path := by
  unfold Tree.after
  induction planned generalizing tree with
  | nil => rfl
  | cons head tail ih =>
    rw [List.foldl_cons, ih fun made later => unwritten made (List.mem_cons_of_mem _ later)]
    exact Function.update_of_ne (unwritten head List.mem_cons_self).symm _ _

theorem Tree.after_of_same {path : String} (held : tree path = some content)
    (only : ∀ made ∈ planned, made.file.path = path → made.file.content = content) :
    tree.after planned path = some content := by
  unfold Tree.after
  induction planned generalizing tree with
  | nil => exact held
  | cons head tail ih =>
    rw [List.foldl_cons]
    refine ih ?_ fun made later => only made (List.mem_cons_of_mem _ later)
    rcases eq_or_ne head.file.path path with rfl | apart
    · rw [Function.update_self, only head List.mem_cons_self rfl]
    · rw [Function.update_of_ne apart.symm, held]

theorem Tree.after_of_mem {made : PlannedFile} (listed : made ∈ planned)
    (only : ∀ other ∈ planned, other.file.path = made.file.path →
      other.file.content = made.file.content) :
    tree.after planned made.file.path = some made.file.content := by
  unfold Tree.after
  induction planned generalizing tree with
  | nil => cases listed
  | cons head tail ih =>
    rw [List.foldl_cons]
    rcases List.mem_cons.1 listed with rfl | later
    · exact after_of_same (Function.update_self _ _ _) fun other among =>
        only other (List.mem_cons_of_mem _ among)
    · exact ih later fun other among => only other (List.mem_cons_of_mem _ among)

end

section

variable (env : CompanionEnv) (request : ModelOccCompanionRequest) (tree : Tree)

structure Describes (ticket : String) : Prop where
  present : frozen request ticket = true ↔ (tree (contractPath ticket)).isSome = true
  contract : ∀ text, tree (contractPath ticket) = some text →
    (stateFor request ticket).rawContractText = text ∧
      (stateFor request ticket).wholeFileSha256 = env.sha256 text ∧
        ∃ parsed, env.safeLoad text = some parsed ∧
          (stateFor request ticket).existingEntryIds = (dodItems parsed).filterMap itemId

/-! ## Append-only plans -/

def receiptsOf (planned : List PlannedFile) (ticket evidence : String) : List PlannedFile :=
  planned.filter fun made => made.receipt.any fun receipt =>
    decide (receipt.ticketId = ticket) && decide (receipt.evidenceId = evidence)

def subject (evidence : String) : EnumCompanionFileKind × ℕ :=
  match selfBind request with
  | some bind =>
    if evidence = bind.1 then (.selfBindReceipt, bind.2)
    else (.downstreamReceipt, request.prNumber)
  | none => (.downstreamReceipt, request.prNumber)

def oldItems (ticket : String) : List PyValue :=
  match (tree (contractPath ticket)).bind env.safeLoad with
  | some parsed => dodItems parsed
  | none => []

def addedItems (ticket : String) (contract : PyValue) : List PyValue :=
  (dodItems contract).drop (oldItems env tree ticket).length

structure AppendOnly (planned : List PlannedFile) : Prop where
  distinct : (planned.map (·.file.path)).Nodup
  receipts : ∀ made ∈ planned, receiptRoot.toList <+: made.file.path.toList →
    tree made.file.path = none
  contracts : ∀ ticket text content, tree (contractPath ticket) = some text →
    tree.after planned (contractPath ticket) = some content → content ≠ text →
      ∃ old new added, env.safeLoad text = some (.dict old) ∧
        env.safeLoad content = some (.dict new) ∧ Appends old new added
  bound : ∀ made ∈ planned, ∀ receipt, made.receipt = some receipt →
    ∃ content, tree.after planned (contractPath receipt.ticketId) = some content ∧
      receipt.contractSha256 = env.sha256 content ∧
        ∀ hash, receipt.contractEntrySha256 = some hash → ∃ contract,
          env.safeLoad content = some contract ∧
            env.contractEntrySha256 contract receipt.evidenceId = some hash
  items : ∀ ticket content contract, tree.after planned (contractPath ticket) = some content →
    env.safeLoad content = some contract → ∀ item ∈ addedItems env tree ticket contract,
      ∃ evidence made receipt, itemId item = some evidence ∧
        receiptsOf planned ticket evidence = [made] ∧ made.receipt = some receipt ∧
          (made.file.kind, receipt.prNumber) = subject request evidence

structure TicketFits (ticket : String) : Prop where
  priors : (priorEntries request ticket).Nodup
  unbound : ∀ bind, selfBind request = some bind → bind.1 ∉ priorEntries request ticket
  supersessions : ∀ prior ∈ priorEntries request ticket,
    tree (supersedePath request ticket prior) = none
  receipts : ∀ evidence ∈ receiptIds env request ticket, tree (receiptPath ticket evidence) = none

def freshText (ticket : String) : String :=
  renderComputeCompanionContract ticket request.repo request.prNumber (evidenceId request)
    (selfBind request) (deployHits env request ≠ []) (receiptLocal request ticket)
    (receiptLocal request ticket)

def SwallowsItem (text : String) : Prop := ':' ∈ text.toList

structure Loads : Prop where
  declared : ∀ contract evidence hash,
    env.contractEntrySha256 contract evidence = some hash → Declares contract evidence
  appended : ∀ ticket ∈ citedTickets env request, frozen request ticket = true →
    ∀ bind, selfBind request = some bind → ∀ old new,
      env.safeLoad (stateFor request ticket).rawContractText = some old →
        env.safeLoad (appendedContract request ticket (stateFor request ticket).rawContractText
          bind) = some new →
          ∃ item, itemId item = some bind.1 ∧ Extends SwallowsItem item old new
  rendered : ∀ ticket ∈ citedTickets env request, frozen request ticket = false → ∀ parsed,
    env.safeLoad (freshText env request ticket) = some parsed →
      (dodItems parsed).map itemId = (receiptIds env request ticket).map some

/-! ## Contracts -/

inductive ContractOf (ticket : String) (bound : BoundContract) : Prop
  | appended (bind : String × ℕ) (isFrozen : frozen request ticket = true)
      (number : selfBind request = some bind)
      (parsed : env.safeLoad (appendedContract request ticket
        (stateFor request ticket).rawContractText bind) = some bound.parsed)
      (hashed : ∃ hash, entryHashFor env bound.parsed bind.1 = some hash)
      (hash : bound.contractHash = env.sha256 (appendedContract request ticket
        (stateFor request ticket).rawContractText bind))
      (files : bound.files = [contractFile ticket (appendedContract request ticket
        (stateFor request ticket).rawContractText bind)])
  | untouched (isFrozen : frozen request ticket = true) (number : selfBind request = none)
      (parsed : bound.parsed = .none ∨
        env.safeLoad (stateFor request ticket).rawContractText = some bound.parsed)
      (hash : bound.contractHash =
        if (stateFor request ticket).wholeFileSha256 = "" then
          env.sha256 (stateFor request ticket).rawContractText
        else (stateFor request ticket).wholeFileSha256)
      (files : bound.files = [])
  | fresh (isFresh : frozen request ticket = false)
      (parsed : env.safeLoad (freshText env request ticket) = some bound.parsed)
      (hash : bound.contractHash = env.sha256 (freshText env request ticket))
      (files : bound.files = [contractFile ticket (freshText env request ticket)])

end

section

variable {env : CompanionEnv} {request : ModelOccCompanionRequest} {tree : Tree}

variable {parsed : PyValue}

theorem loadContract_eq_ok (read : loadContract env content = .ok parsed) :
    env.safeLoad content = some parsed := by
  unfold loadContract at read
  split at read
  · cases read
  · next found =>
    cases read
    exact found

variable {bind : String × ℕ}

theorem selfBind_not_swallows (number : selfBind request = some bind) : ¬ SwallowsItem bind.1 := by
  obtain ⟨occ, -, rfl⟩ := Option.map_eq_some_iff.1 number
  unfold SwallowsItem selfBindEvidenceId
  rw [String.toList_append, List.mem_append, not_or]
  exact ⟨by decide, not_mem_repr (by decide) occ⟩

theorem appendedContract_eq (request : ModelOccCompanionRequest) (ticket raw : String)
    (bind : String × ℕ) :
    appendedContract request ticket raw bind =
      (if raw ≠ "" ∧ ¬ ['\n'].isSuffixOf raw.toList then raw ++ "\n" else raw) ++
        computeSelfBindEntryTemplate bind.1 ticket bind.2 := by
  have suffix : ∀ base entry : String,
      String.ofList ((base ++ "" ++ entry).toList.drop (base ++ "" ++ "").toList.length) =
        entry := by
    intro base entry
    rw [String.append_empty, String.append_empty, String.toList_append, List.drop_left,
      String.ofList_toList]
  unfold appendedContract renderComputeCompanionContract
  dsimp only
  rw [if_neg Bool.false_ne_true, suffix]

variable {text : String}

theorem appendedContract_of_newline {raw : String} (ends : raw = text ++ "\n")
    (request : ModelOccCompanionRequest) (ticket : String) (bind : String × ℕ) :
    appendedContract request ticket raw bind =
      raw ++ computeSelfBindEntryTemplate bind.1 ticket bind.2 := by
  have newline : ['\n'].isSuffixOf raw.toList = true := by
    rw [List.isSuffixOf_iff_suffix, ends, String.toList_append]
    exact List.suffix_append _ _
  rw [appendedContract_eq, if_neg fun open_ended => open_ended.2 newline]

theorem mergedContract_eq_ok {ticket hash : String} {state : ModelOccContractState}
    (number : selfBind request = some bind)
    (text : appendedContract request ticket state.rawContractText bind = content)
    (loaded : env.safeLoad content = some parsed)
    (hashed : entryHashFor env parsed bind.1 = some hash) :
    mergedContract env request ticket state =
      .ok ⟨env.sha256 content, parsed, [contractFile ticket content]⟩ := by
  unfold mergedContract loadContract
  rw [number]
  dsimp only
  rw [text, loaded, Raising.bind_ok, hashed]
  rfl

theorem contractOf {ticket : String} {bound : BoundContract}
    (contract : boundContract env request ticket = .ok bound) :
    ContractOf env request ticket bound := by
  unfold boundContract at contract
  split at contract
  · next isFrozen =>
    unfold mergedContract at contract
    split at contract
    · next bind number =>
      obtain ⟨parsed, read, rest⟩ := Raising.bind_eq_ok.1 contract
      split at rest
      · cases rest
      · next declared =>
        cases rest
        exact .appended bind isFrozen number (loadContract_eq_ok read)
          (Option.ne_none_iff_exists'.1 declared) rfl rfl
    · next number =>
      obtain ⟨parsed, read, rest⟩ := Raising.bind_eq_ok.1 contract
      cases rest
      refine .untouched isFrozen number ?_ rfl rfl
      split at read
      · cases read
        exact .inl rfl
      · exact .inr (loadContract_eq_ok read)
  · next isFresh =>
    obtain ⟨parsed, read, rest⟩ := Raising.bind_eq_ok.1 contract
    cases rest
    exact .fresh (Bool.eq_false_of_not_eq_true isFresh) (loadContract_eq_ok read) rfl rfl

/-! ## Contracts after a plan -/

section

variable {planned : List PlannedFile} {ticket : String} {bound : BoundContract}

variable {made : PlannedFile}

section

variable (returned : plannedFiles env request = .ok planned)

include returned

theorem mem_files_of_path
    (plan : TicketPlan env request planned ticket bound) (plain : '/' ∉ ticket.toList)
    (listed : made ∈ planned) (path : made.file.path = contractPath ticket) :
    made ∈ bound.files := by
  obtain ⟨other, cited, bound', contract, origin⟩ := mem_plannedFiles returned listed
  have own := origin.pathOf contract
  have tickets := ticket_of_path (env.ticket_plain _ _ other cited) plain own (.inl path)
  subst tickets
  have bounds := Except.ok.inj (contract.symm.trans plan.contract)
  subst bounds
  exact origin.mem_files path

theorem after_contractPath_of_uncited (uncited : ticket ∉ citedTickets env request) :
    tree.after planned (contractPath ticket) = tree (contractPath ticket) := by
  refine Tree.after_of_unwritten fun made listed path => ?_
  obtain ⟨other, cited, bound, contract, origin⟩ := mem_plannedFiles returned listed
  obtain ⟨content, -, rfl, -⟩ := mem_bound_files contract (origin.mem_files path)
  exact uncited (contractPath_inj path ▸ cited)

theorem after_contractPath
    (plan : TicketPlan env request planned ticket bound) (plain : '/' ∉ ticket.toList)
    (files : bound.files = [contractFile ticket content]) :
    tree.after planned (contractPath ticket) = some content := by
  have listed : contractFile ticket content ∈ bound.files := by
    rw [files]
    exact List.mem_singleton_self _
  refine @Tree.after_of_mem tree planned (contractFile ticket content) (plan.files _ listed) ?_
  intro other among path
  have own := mem_files_of_path returned plan plain among path
  rw [files, List.mem_singleton] at own
  rw [own]

theorem after_contractPath_of_untouched
    (plan : TicketPlan env request planned ticket bound) (plain : '/' ∉ ticket.toList)
    (files : bound.files = []) :
    tree.after planned (contractPath ticket) = tree (contractPath ticket) := by
  refine Tree.after_of_unwritten fun made listed path => ?_
  have own := mem_files_of_path returned plan plain listed path
  rw [files] at own
  cases own

theorem exists_contractText
    (plan : TicketPlan env request planned ticket bound) (plain : '/' ∉ ticket.toList)
    (described : Describes env request tree ticket) :
    ∃ content, tree.after planned (contractPath ticket) = some content ∧
      bound.contractHash = env.sha256 content ∧
        (bound.parsed = .none ∨ env.safeLoad content = some bound.parsed) := by
  cases contractOf plan.contract with
  | appended bind isFrozen number parsed hashed hash files =>
    exact ⟨_, after_contractPath returned plan plain files, hash, .inr parsed⟩
  | fresh isFresh parsed hash files =>
    exact ⟨_, after_contractPath returned plan plain files, hash, .inr parsed⟩
  | untouched isFrozen number parsed hash files =>
    obtain ⟨text, held⟩ := Option.isSome_iff_exists.1 (described.present.1 isFrozen)
    obtain ⟨raw, whole, -⟩ := described.contract text held
    refine ⟨text, ?_, ?_, ?_⟩
    · rw [after_contractPath_of_untouched returned plan plain files, held]
    · rw [hash, raw, whole]
      split <;> rfl
    · rw [raw] at parsed
      exact parsed

end

/-! ## Receipts of a plan -/

/-- Where a receipt of a plan comes from. -/
inductive ReceiptOrigin (env : CompanionEnv) (request : ModelOccCompanionRequest)
    (bound : BoundContract) (made : PlannedFile) (receipt : ReceiptFields) : Prop
  | supersession
      (prior : receipt.evidenceId ∈ priorEntries request receipt.ticketId)
      (spec : Supersedes env request receipt.ticketId bound receipt.evidenceId made)
  | plain (kind : EnumCompanionFileKind)
      (among : (kind, receipt) ∈ plainReceipts env request receipt.ticketId bound)
      (file : made = fileOfReceipt kind receipt)

variable {receipt : ReceiptFields}

theorem receiptOrigin (returned : plannedFiles env request = .ok planned) (listed : made ∈ planned)
    (carries : made.receipt = some receipt) : receipt.ticketId ∈ citedTickets env request ∧ ∃ bound,
      boundContract env request receipt.ticketId = .ok bound ∧
        ReceiptOrigin env request bound made receipt := by
  obtain ⟨ticket, cited, bound, contract, origin⟩ := mem_plannedFiles returned listed
  cases origin with
  | contract own =>
    obtain ⟨content, -, rfl, -⟩ := mem_bound_files contract own
    cases carries
  | supersession prior among made_of =>
    have spec := supersedeFile_eq_ok made_of
    have same := Option.some.inj (carries.symm.trans spec.receipt)
    subst same
    exact ⟨cited, bound, contract, .supersession among spec⟩
  | receipt kind fields among made_of =>
    have file := receiptFile_eq_ok made_of
    rw [file] at carries
    cases carries
    have own := plainReceipts_ticketId among
    subst own
    exact ⟨cited, bound, contract, .plain kind among file⟩

theorem ReceiptOrigin.hashes (origin : ReceiptOrigin env request bound made receipt)
    (carries : made.receipt = some receipt) :
    receipt.contractSha256 = bound.contractHash ∧
      ∀ hash, receipt.contractEntrySha256 = some hash →
        entryHashFor env bound.parsed receipt.evidenceId = some hash := by
  cases origin with
  | supersession prior spec =>
    have same := Option.some.inj (carries.symm.trans spec.receipt)
    rw [same]
    refine ⟨rfl, fun hash found => ?_⟩
    rw [← found]
    exact spec.entrySha
  | plain kind among file =>
    rcases plainReceipts_cases among with ⟨-, same⟩ | ⟨-, same⟩ | ⟨-, number, probe, -, -, same⟩
    all_goals
      rw [same]
      exact ⟨rfl, fun hash found => found⟩

theorem mem_receiptsOf {ticket : String} :
    made ∈ receiptsOf planned ticket evidence ↔ made ∈ planned ∧ ∃ receipt,
      made.receipt = some receipt ∧ receipt.ticketId = ticket ∧ receipt.evidenceId = evidence := by
  unfold receiptsOf
  rw [List.mem_filter, Option.any_eq_true]
  simp only [Bool.and_eq_true, decide_eq_true_eq]

theorem probed_of_kind (returned : plannedFiles env request = .ok planned) (listed : made ∈ planned)
    (carries : made.receipt = some receipt) (kind : made.file.kind = .selfBindReceipt) :
    request.occProbe.isSome = true := by
  obtain ⟨-, bound, -, origin⟩ := receiptOrigin returned listed carries
  cases origin with
  | supersession prior spec =>
    rw [spec.kind] at kind
    cases kind
  | plain kind' among file =>
    rw [file] at kind
    cases kind
    rcases plainReceipts_cases among with ⟨impossible, -⟩ | ⟨impossible, -⟩ |
      ⟨-, number, probe, -, given, -⟩
    · cases impossible
    · cases impossible
    · rw [given]
      rfl

theorem subject_of_plain {kind : EnumCompanionFileKind}
    (among : (kind, receipt) ∈ plainReceipts env request ticket bound) :
    (kind, receipt.prNumber) = subject request receipt.evidenceId := by
  have other : ∀ evidence, evidence = evidenceId request ∨ evidence = deployAssessmentEvidenceId →
      subject request evidence = (.downstreamReceipt, request.prNumber) := by
    intro evidence product
    unfold subject
    split
    · next bind number =>
      refine if_neg ?_
      obtain ⟨occ, given, rfl⟩ := Option.map_eq_some_iff.1 number
      rcases product with rfl | rfl
      · exact (selfBindEvidenceId_ne_evidenceId request occ).symm
      · exact (selfBindEvidenceId_ne_deploy occ).symm
    · rfl
  rcases plainReceipts_cases among with ⟨rfl, rfl⟩ | ⟨rfl, rfl⟩ |
    ⟨rfl, number, probe, given, -, rfl⟩
  · exact (other _ (.inl rfl)).symm
  · exact (other _ (.inr rfl)).symm
  · unfold subject selfBind
    rw [given]
    exact (if_pos rfl).symm

theorem exists_plainReceipt (probed : Probed request)
    (wanted : evidence ∈ receiptIds env request ticket) (bound : BoundContract) :
    ∃ receipt ∈ plainReceipts env request ticket bound, receipt.2.evidenceId = evidence := by
  rw [← map_plainReceipts probed ticket bound] at wanted
  exact List.mem_map.1 wanted

theorem receiptsOf_eq_singleton {receipt : EnumCompanionFileKind × ReceiptFields}
    (returned : plannedFiles env request = .ok planned) (probed : Probed request)
    (distinct : (planned.map (·.file.path)).Nodup)
    (plan : TicketPlan env request planned ticket bound)
    (among : receipt ∈ plainReceipts env request ticket bound)
    (unbound : receipt.2.evidenceId ∉ priorEntries request ticket) :
    receiptsOf planned ticket receipt.2.evidenceId = [fileOfReceipt receipt.1 receipt.2] := by
  have own := @plainReceipts_ticketId env request ticket bound receipt.1 receipt.2 among
  refine List.perm_singleton.1 ((List.perm_ext_iff_of_nodup ?_ (List.nodup_singleton _)).2 ?_)
  · exact distinct.of_map.filter _
  · intro made
    rw [mem_receiptsOf, List.mem_singleton]
    constructor
    · rintro ⟨listed, fields, carries, rfl, same⟩
      obtain ⟨-, bound', contract, origin⟩ := receiptOrigin returned listed carries
      have bounds := Except.ok.inj (contract.symm.trans plan.contract)
      subst bounds
      cases origin with
      | supersession prior spec => exact absurd (same ▸ prior) unbound
      | plain kind among' file =>
        have ids : ((plainReceipts env request fields.ticketId bound').map
            fun receipt => receipt.2.evidenceId).Nodup := by
          rw [map_plainReceipts probed]
          exact receiptIds_nodup env request fields.ticketId
        have pairs := List.inj_on_of_nodup_map ids among' among same
        rw [file, ← pairs]
    · rintro rfl
      exact ⟨plan.receipts receipt among, receipt.2, rfl, own, rfl⟩

/-! ## Items that a plan adds -/

theorem oldItems_eq (held : tree (contractPath ticket) = some text)
    (loaded : env.safeLoad text = some parsed) : oldItems env tree ticket = dodItems parsed := by
  unfold oldItems
  rw [held, Option.bind_some, loaded]

theorem oldItems_of_absent (absent : tree (contractPath ticket) = none) :
    oldItems env tree ticket = [] := by
  unfold oldItems
  rw [absent]
  rfl

theorem addedItems_of_appends {old new : PyDict} {added : List PyValue}
    (held : tree (contractPath ticket) = some text) (loaded : env.safeLoad text = some (.dict old))
    (appended : Appends old new added) : addedItems env tree ticket (.dict new) = added := by
  unfold addedItems
  rw [oldItems_eq held loaded, appended.dodItems]
  exact List.drop_left

theorem addedItems_of_same (held : tree (contractPath ticket) = some text)
    (loaded : env.safeLoad text = some parsed) : addedItems env tree ticket parsed = [] := by
  unfold addedItems
  rw [oldItems_eq held loaded]
  exact List.drop_length

theorem addedItems_of_absent (absent : tree (contractPath ticket) = none) :
    addedItems env tree ticket contract = dodItems contract := by
  unfold addedItems
  rw [oldItems_of_absent absent]
  rfl

theorem Describes.absent (described : Describes env request tree ticket)
    (isFresh : frozen request ticket = false) : tree (contractPath ticket) = none := by
  rw [← Option.not_isSome_iff_eq_none, ← described.present, isFresh]
  exact Bool.false_ne_true

theorem Describes.frozen_text (described : Describes env request tree ticket)
    (isFrozen : frozen request ticket = true) :
    ∃ parsed, tree (contractPath ticket) = some (stateFor request ticket).rawContractText ∧
      env.safeLoad (stateFor request ticket).rawContractText = some parsed ∧
        priorEntries request ticket = (dodItems parsed).filterMap itemId := by
  obtain ⟨text, held⟩ := Option.isSome_iff_exists.1 (described.present.1 isFrozen)
  obtain ⟨raw, -, parsed, loaded, ids⟩ := described.contract text held
  refine ⟨parsed, ?_, ?_, ?_⟩
  · rw [raw, held]
  · rw [raw, loaded]
  · unfold priorEntries
    rw [if_pos isFrozen, ids]

theorem exists_selfBind_item (returned : plannedFiles env request = .ok planned)
    (plan : TicketPlan env request planned ticket bound) (cited : ticket ∈ citedTickets env request)
    (described : Describes env request tree ticket) (loads : Loads env request)
    (only : AppendOnly env request tree planned) (number : selfBind request = some bind) :
    ∃ content contract item, tree.after planned (contractPath ticket) = some content ∧
      env.safeLoad content = some contract ∧ item ∈ addedItems env tree ticket contract ∧
        itemId item = some bind.1 := by
  have plain := env.ticket_plain _ _ ticket cited
  cases contractOf plan.contract with
  | untouched isFrozen none_given parsed hash files =>
    rw [number] at none_given
    cases none_given
  | fresh isFresh parsed hash files =>
    have listed : some bind.1 ∈ (dodItems bound.parsed).map itemId := by
      rw [loads.rendered ticket cited isFresh _ parsed]
      refine List.mem_map_of_mem ?_
      unfold receiptIds
      rw [number]
      simp
    obtain ⟨item, among, declared⟩ := List.mem_map.1 listed
    refine ⟨_, _, item, after_contractPath returned plan plain files, parsed, ?_, declared⟩
    rw [addedItems_of_absent (described.absent isFresh)]
    exact among
  | appended bind' isFrozen number' parsed hashed hash files =>
    rw [number] at number'
    cases number'
    obtain ⟨old, held, loaded, -⟩ := described.frozen_text isFrozen
    obtain ⟨item, declared, extended⟩ :=
      loads.appended ticket cited isFrozen bind number old _ loaded parsed
    have after : tree.after planned (contractPath ticket) = _ :=
      after_contractPath returned plan plain files
    -- a text with the item at its end is another one
    have changed :
        appendedContract request ticket (stateFor request ticket).rawContractText bind ≠
          (stateFor request ticket).rawContractText := by
      intro same
      rw [same, loaded] at parsed
      exact extended.ne (Option.some.inj parsed)
    obtain ⟨before, new, added, loaded', loaded_new, appended⟩ :=
      only.contracts ticket _ _ held after changed
    have old_dict := Option.some.inj (loaded.symm.trans loaded')
    have new_dict := Option.some.inj (parsed.symm.trans loaded_new)
    rw [old_dict, new_dict] at extended
    refine ⟨_, _, item, after, loaded_new, ?_, declared⟩
    rw [addedItems_of_appends held loaded' appended, extended.eq_singleton_of_appends appended]
    exact List.mem_singleton_self item

/-! ## Exactness -/

theorem exists_selfBind_file (returned : plannedFiles env request = .ok planned)
    (cited : ticket ∈ citedTickets env request) (described : Describes env request tree ticket)
    (loads : Loads env request) (only : AppendOnly env request tree planned)
    (number : selfBind request = some bind) :
    ∃ made, receiptsOf planned ticket bind.1 = [made] ∧ made.file.kind = .selfBindReceipt := by
  obtain ⟨bound, plan⟩ := exists_ticketPlan returned cited
  obtain ⟨content, contract, item, after, loaded, added, declared⟩ :=
    exists_selfBind_item returned plan cited described loads only number
  obtain ⟨evidence, made, receipt, named, single, -, about⟩ :=
    only.items ticket content contract after loaded item added
  rw [declared, Option.some.injEq] at named
  subst named
  refine ⟨made, single, ?_⟩
  unfold subject at about
  rw [number] at about
  dsimp only at about
  rw [if_pos rfl] at about
  exact (Prod.mk.inj about).1

def Fits (env : CompanionEnv) (request : ModelOccCompanionRequest) (tree : Tree) : Prop :=
  Probed request ∧ ∀ ticket ∈ citedTickets env request, TicketFits env request tree ticket

section

variable (returned : plannedFiles env request = .ok planned)

include returned

theorem fits_of_appendOnly (authored : planned ≠ [])
    (described : ∀ ticket ∈ citedTickets env request, Describes env request tree ticket)
    (loads : Loads env request) (only : AppendOnly env request tree planned) :
    Fits env request tree := by
  have probed : Probed request := by
    intro given
    obtain ⟨number, same⟩ := Option.isSome_iff_exists.1 given
    obtain ⟨made, listed⟩ := List.exists_mem_of_ne_nil planned authored
    obtain ⟨ticket, cited, -⟩ := mem_plannedFiles returned listed
    have bind : selfBind request = some (selfBindEvidenceId number, number) := by
      unfold selfBind
      rw [same]
      rfl
    obtain ⟨file, single, kind⟩ :=
      exists_selfBind_file returned cited (described ticket cited) loads only bind
    have among : file ∈ receiptsOf planned ticket (selfBindEvidenceId number) := by
      rw [single]
      exact List.mem_singleton_self file
    obtain ⟨inside, receipt, carries, -⟩ := mem_receiptsOf.1 among
    exact probed_of_kind returned inside carries kind
  refine ⟨probed, fun ticket cited => ?_⟩
  obtain ⟨bound, plan⟩ := exists_ticketPlan returned cited
  refine ⟨?_, ?_, ?_, ?_⟩
  · exact (only.distinct.sublist plan.sublist).of_map _
  · intro bind number prior
    obtain ⟨file, single, kind⟩ := exists_selfBind_file returned cited (described ticket cited)
      loads only number
    -- the supersession of the entry would be a second file for it
    obtain ⟨made, listed, made_of⟩ := plan.supersedes bind.1 prior
    have spec := supersedeFile_eq_ok made_of
    have among : made ∈ receiptsOf planned ticket bind.1 :=
      mem_receiptsOf.2 ⟨listed, _, spec.receipt, rfl, rfl⟩
    rw [single, List.mem_singleton] at among
    rw [← among, spec.kind] at kind
    cases kind
  · intro prior among
    obtain ⟨made, listed, made_of⟩ := plan.supersedes prior among
    have path := (supersedeFile_eq_ok made_of).path
    rw [← path]
    refine only.receipts made listed ?_
    rw [path]
    exact supersedePath_below request ticket prior
  · intro evidence wanted
    obtain ⟨receipt, among, rfl⟩ := exists_plainReceipt probed wanted bound
    have free := only.receipts _ (plan.receipts receipt among) (receiptPath_below _ _)
    rw [← @plainReceipts_ticketId env request ticket bound receipt.1 receipt.2 among]
    exact free

theorem appends_item
    (plan : TicketPlan env request planned ticket bound) (cited : ticket ∈ citedTickets env request)
    (described : Describes env request tree ticket) (loads : Loads env request)
    (fits : TicketFits env request tree ticket) (held : tree (contractPath ticket) = some text)
    (after : tree.after planned (contractPath ticket) = some content) (changed : content ≠ text) :
    ∃ old new item, env.safeLoad text = some (.dict old) ∧
      env.safeLoad content = some (.dict new) ∧ Appends old new [item] ∧
        ∃ bind, selfBind request = some bind ∧ itemId item = some bind.1 := by
  have plain := env.ticket_plain _ _ ticket cited
  cases contractOf plan.contract with
  | untouched isFrozen number parsed hash files =>
    rw [after_contractPath_of_untouched returned plan plain files, held] at after
    exact absurd (Option.some.inj after).symm changed
  | fresh isFresh parsed hash files =>
    rw [described.absent isFresh] at held
    cases held
  | appended bind isFrozen number parsed hashed hash files =>
    rw [after_contractPath returned plan plain files, Option.some.injEq] at after
    obtain ⟨old, held', loaded, priors⟩ := described.frozen_text isFrozen
    have texts := Option.some.inj (held.symm.trans held')
    obtain ⟨item, named, extended⟩ :=
      loads.appended ticket cited isFrozen bind number old _ loaded parsed
    have declared : Declares bound.parsed bind.1 := by
      obtain ⟨hash, found⟩ := hashed
      unfold entryHashFor at found
      split at found
      · cases found
      · exact loads.declared _ _ _ found
    have undeclared : ¬ Declares old bind.1 := by
      intro among
      refine fits.unbound bind number ?_
      rw [priors]
      obtain ⟨item, listed, named⟩ := List.mem_map.1 among
      exact List.mem_filterMap.2 ⟨item, listed, named⟩
    obtain ⟨before, new, old_dict, new_dict, appended⟩ :=
      extended.appends_of_declares (selfBind_not_swallows number) declared undeclared
    refine ⟨before, new, item, ?_, ?_, appended, bind, number, named⟩
    · rw [texts, loaded, old_dict]
    · rw [← after, parsed, new_dict]

theorem addedItem_id {item : PyValue}
    (plan : TicketPlan env request planned ticket bound) (cited : ticket ∈ citedTickets env request)
    (described : Describes env request tree ticket) (loads : Loads env request)
    (fits : TicketFits env request tree ticket)
    (after : tree.after planned (contractPath ticket) = some content)
    (loaded : env.safeLoad content = some contract)
    (added : item ∈ addedItems env tree ticket contract) :
    ∃ evidence, itemId item = some evidence ∧ evidence ∈ receiptIds env request ticket ∧
      evidence ∉ priorEntries request ticket := by
  cases isFrozen : frozen request ticket with
  | false =>
    rw [addedItems_of_absent (described.absent isFrozen)] at added
    have no_prior : priorEntries request ticket = [] := by
      unfold priorEntries
      rw [isFrozen]
      rfl
    cases contractOf plan.contract with
    | appended _ impossible => rw [isFrozen] at impossible; cases impossible
    | untouched impossible => rw [isFrozen] at impossible; cases impossible
    | fresh _ parsed hash files =>
      rw [after_contractPath returned plan (env.ticket_plain _ _ ticket cited) files,
        Option.some.injEq] at after
      rw [← after, parsed, Option.some.injEq] at loaded
      rw [← loaded] at added
      have listed := List.mem_map_of_mem (f := itemId) added
      rw [loads.rendered ticket cited isFrozen _ parsed] at listed
      obtain ⟨evidence, wanted, named⟩ := List.mem_map.1 listed
      refine ⟨evidence, named.symm, wanted, ?_⟩
      rw [no_prior]
      exact List.not_mem_nil
  | true =>
    obtain ⟨old, held, loaded_old, -⟩ := described.frozen_text isFrozen
    rcases eq_or_ne content (stateFor request ticket).rawContractText with same | changed
    · rw [same] at loaded
      rw [addedItems_of_same held loaded] at added
      cases added
    · obtain ⟨before, new, appended_item, loaded', loaded_new, appended, bind, number, named⟩ :=
        appends_item returned plan cited described loads fits held after changed
      have new_dict := Option.some.inj (loaded.symm.trans loaded_new)
      rw [new_dict, addedItems_of_appends held loaded' appended, List.mem_singleton] at added
      subst added
      refine ⟨bind.1, named, ?_, fits.unbound bind number⟩
      unfold receiptIds
      rw [number]
      simp

theorem appendOnly_of_fits
    (described : ∀ ticket ∈ citedTickets env request, Describes env request tree ticket)
    (loads : Loads env request) (fits : Fits env request tree) :
    AppendOnly env request tree planned := by
  obtain ⟨probed, fitting⟩ := fits
  have distinct := paths_nodup probed (fun ticket cited => (fitting ticket cited).priors) returned
  refine ⟨distinct, ?_, ?_, ?_, ?_⟩
  · intro made listed below
    obtain ⟨ticket, cited, bound, contract, origin⟩ := mem_plannedFiles returned listed
    cases origin with
    | contract own =>
      obtain ⟨content, -, rfl, -⟩ := mem_bound_files contract own
      exact absurd below (contractPath_not_receipt ticket)
    | supersession prior among made_of =>
      rw [(supersedeFile_eq_ok made_of).path]
      exact (fitting ticket cited).supersessions prior among
    | receipt kind fields among made_of =>
      rw [receiptFile_eq_ok made_of]
      have wanted : fields.evidenceId ∈ receiptIds env request ticket := by
        rw [← map_plainReceipts probed ticket bound]
        exact List.mem_map.2 ⟨_, among, rfl⟩
      have free := (fitting ticket cited).receipts fields.evidenceId wanted
      rw [← plainReceipts_ticketId among] at free
      exact free
  · intro ticket text content held after changed
    by_cases cited : ticket ∈ citedTickets env request
    · obtain ⟨bound, plan⟩ := exists_ticketPlan returned cited
      obtain ⟨old, new, item, loaded, loaded_new, appended, -⟩ := appends_item returned plan cited
        (described ticket cited) loads (fitting ticket cited) held after changed
      exact ⟨old, new, [item], loaded, loaded_new, appended⟩
    · rw [after_contractPath_of_uncited returned cited, held] at after
      exact absurd (Option.some.inj after).symm changed
  · intro made listed receipt carries
    obtain ⟨cited, bound, contract, origin⟩ := receiptOrigin returned listed carries
    obtain ⟨bound', plan⟩ := exists_ticketPlan returned cited
    have bounds := Except.ok.inj (contract.symm.trans plan.contract)
    subst bounds
    obtain ⟨content, after, hash, loaded⟩ := exists_contractText returned plan
      (env.ticket_plain _ _ _ cited) (described _ cited)
    obtain ⟨whole, entry⟩ := origin.hashes carries
    refine ⟨content, after, whole.trans hash, fun hash given => ?_⟩
    have found := entry hash given
    unfold entryHashFor at found
    rcases loaded with none_parsed | loaded
    · rw [none_parsed] at found
      cases found
    · split at found
      · cases found
      · exact ⟨_, loaded, found⟩
  · intro ticket content contract after loaded item added
    by_cases cited : ticket ∈ citedTickets env request
    · obtain ⟨bound, plan⟩ := exists_ticketPlan returned cited
      obtain ⟨evidence, named, wanted, unbound⟩ := addedItem_id returned plan cited
        (described ticket cited) loads (fitting ticket cited) after loaded added
      obtain ⟨receipt, among, rfl⟩ := exists_plainReceipt probed wanted bound
      exact ⟨_, _, receipt.2, named,
        receiptsOf_eq_singleton returned probed distinct plan among unbound, rfl,
        subject_of_plain among⟩
    · rw [after_contractPath_of_uncited returned cited] at after
      rw [addedItems_of_same after loaded] at added
      cases added

end

/-- A plan with files is append-only and bound exactly if its tickets fit the tree. -/
theorem append_only_iff (env : CompanionEnv) (request : ModelOccCompanionRequest) (tree : Tree)
    (plan : ModelOccCompanionPlan) (computed : computeCompanionPlan env request = .ok plan)
    (authored : plan.companionFiles ≠ [])
    (described : ∀ ticket ∈ citedTickets env request, Describes env request tree ticket)
    (loads : Loads env request) :
    ∃ planned, plannedFiles env request = .ok planned ∧
      plan.companionFiles = planned.map (·.file) ∧
        (AppendOnly env request tree planned ↔ Fits env request tree) := by
  obtain ⟨planned, returned, files, -⟩ := computeCompanionPlan_files computed authored
  refine ⟨planned, returned, files, ?_, appendOnly_of_fits returned described loads⟩
  refine fits_of_appendOnly returned ?_ described loads
  rintro rfl
  exact authored files

end

end

/-! ## Sample -/

def sampleSelfBindItem : PyValue :=
  .dict
    [("id", .str "occ-self-bind-pr-9"),
      ("description", .str "Binds OMN-1 to OCC companion PR #9 (self-bind)."),
      ("source", .str "generated"),
      ("checks", .list
        [.dict [("check_type", .str "command"),
          ("check_value", .str ("gh pr view " ++ prNumberVariable ++ " --repo " ++ repoVariable ++
            " --json number,state"))]])]

def sampleHeader : PyDict :=
  match sampleContract with
  | .dict entries => entries.dropLast
  | _ => []

def reboundContract : PyValue :=
  .dict (sampleHeader ++ [("dod_evidence", .list ([sampleItem] ++ [sampleSelfBindItem]))])

/-- The sample contract with the item behind it. -/
def reboundText : String :=
  sampleText ++ computeSelfBindEntryTemplate "occ-self-bind-pr-9" "OMN-1" 9

def mergedEnv : CompanionEnv :=
  sampleEnv
    [(sampleText, "8dd7df54bd1e2bafed68a8e40c6b5720906bda8693730a5add27e6f8ff8c7c5c"),
      (reboundText, "0b5d1d3e105b5d9a613ef36c4c1d5d1257ccadb9cde748090bb0a79f50571277")]
    [(sampleText, sampleContract), (reboundText, reboundContract)]

def mergedTree : Tree := fun path =>
  if path = contractPath "OMN-1" then some sampleText
  else if path = receiptPath "OMN-1" "dod-acme-widget-pr-7" then some "---\n"
  else none

def mergedState : ModelOccContractState where
  ticketId := "OMN-1"
  «exists» := true
  merged := true
  existingEntryIds := ["dod-acme-widget-pr-7"]
  wholeFileSha256 := "8dd7df54bd1e2bafed68a8e40c6b5720906bda8693730a5add27e6f8ff8c7c5c"
  rawContractText := sampleText

/-- The sample once more. -/
def rerunRequest : ModelOccCompanionRequest :=
  { sampleRequest with
    occContractStates := [mergedState]
    states_unique := List.nodup_singleton _ }

def reboundRequest : ModelOccCompanionRequest :=
  { rerunRequest with
    prNumber := 8
    occPrNumber := some 9
    occProbe := some { command := "gh pr view 9", stdout := "OPEN" } }

example : frozen reboundRequest "OMN-1" = true := by decide +kernel

theorem merged_describes {request : ModelOccCompanionRequest}
    (states : request.occContractStates = [mergedState]) :
    ∀ ticket ∈ citedTickets mergedEnv request, Describes mergedEnv request mergedTree ticket := by
  intro ticket cited
  obtain rfl := List.mem_singleton.1 cited
  have state : stateFor request "OMN-1" = mergedState := by
    unfold stateFor
    rw [states]
    rfl
  have held : mergedTree (contractPath "OMN-1") = some sampleText := if_pos rfl
  refine ⟨?_, ?_⟩
  · unfold frozen
    rw [state, held]
    decide
  · intro text same
    rw [held, Option.some.injEq] at same
    rw [state, ← same]
    exact ⟨rfl, by decide +kernel, sampleContract, by decide +kernel, by decide +kernel⟩

theorem exists_ok_of_isSome {answer : Except CompanionError (List PlannedFile)}
    (finished : answer.toOption.isSome = true) : ∃ files, answer = .ok files := by
  cases answer with
  | error refusal => cases finished
  | ok files => exact ⟨files, rfl⟩

/-- A second run for the sample writes its merged receipt again. -/
theorem rerun_overwrites_receipt :
    ∃ plan planned, computeCompanionPlan mergedEnv rerunRequest = .ok plan ∧
      plan.companionFiles ≠ [] ∧ plannedFiles mergedEnv rerunRequest = .ok planned ∧
        plan.companionFiles = planned.map (·.file) ∧
          (∀ ticket ∈ citedTickets mergedEnv rerunRequest,
            Describes mergedEnv rerunRequest mergedTree ticket) ∧
            ¬ AppendOnly mergedEnv rerunRequest mergedTree planned := by
  obtain ⟨planned, returned⟩ := exists_ok_of_isSome
    (by decide +kernel : (plannedFiles mergedEnv rerunRequest).toOption.isSome = true)
  obtain ⟨plan, computed, files⟩ := exists_computeCompanionPlan (by decide +kernel)
    (by decide +kernel) (by decide +kernel) returned
  obtain ⟨bound, ticketPlan⟩ := exists_ticketPlan returned
    (List.mem_singleton_self "OMN-1" : "OMN-1" ∈ citedTickets mergedEnv rerunRequest)
  have listed := ticketPlan.receipts _ List.mem_cons_self
  refine ⟨plan, planned, computed, ?_, returned, files, merged_describes rfl, fun only => ?_⟩
  · rw [files]
    exact List.ne_nil_of_mem (List.mem_map_of_mem listed)
  · have free : mergedTree (receiptPath "OMN-1" (evidenceId rerunRequest)) = none :=
      only.receipts _ listed (receiptPath_below _ _)
    exact absurd free (by decide +kernel)

theorem declares_of_sampleEntry {hash : String}
    (found : mergedEnv.contractEntrySha256 contract evidence = some hash) :
    Declares contract evidence := by
  refine Classical.byContradiction fun undeclared => ?_
  have none_found : mergedEnv.contractEntrySha256 contract evidence = none := if_neg undeclared
  rw [none_found] at found
  cases found

theorem rebound_extends : Extends SwallowsItem sampleSelfBindItem sampleContract reboundContract :=
  @Extends.entry _ _ sampleHeader [] "dod_evidence" _ _ (by decide) (.sequence [sampleItem])

theorem appendedContract_sample :
    appendedContract reboundRequest "OMN-1" sampleText ("occ-self-bind-pr-9", 9) = reboundText := by
  obtain ⟨text, ends⟩ := sampleText_ends
  exact appendedContract_of_newline ends reboundRequest "OMN-1" _

example : citedTickets mergedEnv reboundRequest = ["OMN-1"] := by decide +kernel

theorem selfBind_rebound : selfBind reboundRequest = some ("occ-self-bind-pr-9", 9) := by
  decide +kernel

theorem safeLoad_reboundText : mergedEnv.safeLoad reboundText = some reboundContract := by
  decide +kernel

theorem rebound_loads : Loads mergedEnv reboundRequest := by
  refine ⟨fun contract evidence hash => declares_of_sampleEntry, ?_, ?_⟩
  · intro ticket cited isFrozen bind number old new loaded loaded_new
    obtain rfl := List.mem_singleton.1 cited
    obtain rfl := Option.some.inj (selfBind_rebound.symm.trans number)
    have raw : (stateFor reboundRequest "OMN-1").rawContractText = sampleText := rfl
    have before : mergedEnv.safeLoad sampleText = some sampleContract := by decide +kernel
    rw [raw, before, Option.some.injEq] at loaded
    rw [raw, appendedContract_sample, safeLoad_reboundText, Option.some.injEq] at loaded_new
    rw [← loaded, ← loaded_new]
    exact ⟨sampleSelfBindItem, rfl, rebound_extends⟩
  · intro ticket cited isFresh
    obtain rfl := List.mem_singleton.1 cited
    exact absurd isFresh (by decide)

def reboundBound : BoundContract where
  contractHash := mergedEnv.sha256 reboundText
  parsed := reboundContract
  files := [contractFile "OMN-1" reboundText]

theorem boundContract_rebound :
    boundContract mergedEnv reboundRequest "OMN-1" = .ok reboundBound := by
  have isFrozen : frozen reboundRequest "OMN-1" = true := by decide
  have hashed : entryHashFor mergedEnv reboundContract "occ-self-bind-pr-9" =
      sampleEntryHashes.lookup "occ-self-bind-pr-9" := by
    decide +kernel
  unfold boundContract
  rw [if_pos isFrozen]
  exact mergedContract_eq_ok selfBind_rebound appendedContract_sample safeLoad_reboundText hashed

theorem exists_planned_rebound :
    ∃ planned, plannedFiles mergedEnv reboundRequest = .ok planned := by
  refine exists_plannedFiles fun ticket cited => ?_
  obtain rfl := List.mem_singleton.1 cited
  refine exists_ok_of_isSome ?_
  unfold ticketFiles
  rw [boundContract_rebound, Raising.bind_ok]
  decide +kernel

/-- A second consumer of the ticket adds what the tree does not have. -/
theorem rebound_appendOnly :
    ∃ planned, plannedFiles mergedEnv reboundRequest = .ok planned ∧
      AppendOnly mergedEnv reboundRequest mergedTree planned := by
  obtain ⟨planned, returned⟩ := exists_planned_rebound
  obtain ⟨plan, computed, files⟩ := exists_computeCompanionPlan (by decide +kernel)
    (by decide +kernel) (by decide +kernel) returned
  have authored : plan.companionFiles ≠ [] := by
    obtain ⟨bound, ticketPlan⟩ := exists_ticketPlan returned
      (List.mem_singleton_self "OMN-1" : "OMN-1" ∈ citedTickets mergedEnv reboundRequest)
    rw [files]
    exact List.ne_nil_of_mem (List.mem_map_of_mem (ticketPlan.receipts _ List.mem_cons_self))
  obtain ⟨planned', returned', -, exact_for⟩ := append_only_iff mergedEnv reboundRequest mergedTree
    plan computed authored (merged_describes rfl) rebound_loads
  refine ⟨planned', returned', exact_for.2 ⟨fun _ => rfl, fun ticket cited => ?_⟩⟩
  obtain rfl := List.mem_singleton.1 cited
  have priors : priorEntries reboundRequest "OMN-1" = ["dod-acme-widget-pr-7"] := by decide +kernel
  refine ⟨?_, ?_, ?_, ?_⟩
  · rw [priors]
    exact List.nodup_singleton _
  · intro bind number
    obtain rfl := Option.some.inj (selfBind_rebound.symm.trans number)
    rw [priors]
    decide
  · rw [priors]
    decide +kernel
  · decide +kernel

end OmniMarket.OccCompanion
