import OmniMarket.ContractAssembly.Serialize
import OmniMarket.Lib.CommentLines
import OmniMarket.Lib.Raising
import OmniMarket.Lib.Search
import Mathlib

/-!
# Contracts that parse back

An assembled contract loads as the mapping that its request determines, and its lint passes, as
long as the node name stays within the comments of the header. A line break in the name ends the
comment, and what stands behind it is read as part of the document.
-/

namespace OmniMarket.ContractAssembly

open CommentLines

variable (env : AssemblyEnv)
variable {fragment : ModelSubcontractFragment} {subcontracts placed : OrderedDict String PyValue}
  {selections : List ModelSubcontractSelection} {fragments : List ModelSubcontractFragment}

/-! ## What a request determines -/

section

variable (selection : ModelSubcontractSelection)

def operationsOf : List String :=
  if selection.operations.isEmpty then canonicalOperations selection.type
  else selection.operations

def bodyOf : PyValue :=
  .dict (("operations", texts (operationsOf selection)) ::
    selection.extraFields.entries.map fun entry => (entry.1, .str entry.2))

def fragmentOf : PyValue :=
  .dict [(selection.type.value, bodyOf selection)]

end

section

variable (request : ModelContractAssemblyRequest)

def determined : PyValue :=
  .dict [("metadata", (metadataOf env request).dump),
    ("subcontracts", .dict (request.subcontractSelections.map fun selection =>
      (selection.type.value, bodyOf selection))),
    ("advanced_features", (resolveAdvancedFeatures request.archetype request.overrides).dump env)]

/-- The contract loads as the determined mapping, and its lint passes. -/
def Assembles (document : ModelContractDocument) : Prop :=
  env.safeLoad document.contractYaml = .value (determined env request) ∧
    document.lintStatus = .pass

/-! ## YAML -/

/-- A character that may occur in a YAML text. -/
def isPrintable (c : Char) : Bool :=
  let n := c.toNat
  n == 0x09 || n == 0x0a || n == 0x0d || (0x20 ≤ n && n ≤ 0x7e) || n == 0x85 ||
    (0xa0 ≤ n && n ≤ 0xd7ff) || (0xe000 ≤ n && n ≤ 0xfffd) || (0x10000 ≤ n && n ≤ 0x10ffff)

/-- Comments and blank lines before a dumped value are passed over, and a text with a character
that may not occur is refused. -/
structure LawfulYaml : Prop where
  comments : ∀ preamble : List Char, ∀ tree, Comments preamble → (∀ c ∈ preamble, isPrintable c) →
    env.safeLoad (String.ofList preamble ++ env.safeDump tree) = env.safeLoad (env.safeDump tree)
  unprintable : ∀ text : String, (∃ c ∈ text.toList, isPrintable c = false) →
    ∃ problem, env.safeLoad text = .malformed problem

/-- `yaml.safe_load` undoes `yaml.safe_dump` on the values of a request. -/
structure Undoes : Prop where
  fragments : ∀ selection ∈ request.subcontractSelections,
    env.safeLoad (env.safeDump (fragmentOf selection)) = .value (fragmentOf selection)
  document : env.safeLoad (env.safeDump (determined env request)) = .value (determined env request)

end

/-- The name leaves no content in the header: behind its line breaks stand comments and blanks. -/
def Commented (nodeName : String) : Prop := (run .comment nodeName.toList).isSome = true

def Printable (nodeName : String) : Prop := ∀ c ∈ nodeName.toList, isPrintable c = true

instance (nodeName : String) : Decidable (Commented nodeName) :=
  inferInstanceAs (Decidable (_ = true))

instance (nodeName : String) : Decidable (Printable nodeName) :=
  decidable_of_iff (nodeName.toList.all isPrintable = true) List.all_eq_true

/-! ## Fragments -/

variable {env : AssemblyEnv} {selection : ModelSubcontractSelection}
  {request : ModelContractAssemblyRequest}

theorem foldl_set_fresh {extras : List (String × String)} {body : OrderedDict String PyValue}
    (distinct : (extras.map Prod.fst).Nodup) (fresh : ∀ key ∈ extras.map Prod.fst, key ∉ body.keys) :
    (extras.foldl (fun body entry => body.set entry.1 (.str entry.2)) body).entries =
      body.entries ++ extras.map fun entry => (entry.1, .str entry.2) := by
  induction extras generalizing body with
  | nil => simp
  | cons entry extras ih =>
    rw [List.map_cons, List.nodup_cons] at distinct
    rw [List.map_cons, List.forall_mem_cons] at fresh
    have added : (body.set entry.1 (.str entry.2)).entries =
        body.entries ++ [(entry.1, .str entry.2)] := OrderedDict.set_fresh fresh.1
    have later : ∀ key ∈ extras.map Prod.fst, key ∉ (body.set entry.1 (.str entry.2)).keys := by
      intro key listed held
      rw [OrderedDict.keys, added, List.map_append, List.mem_append] at held
      rcases held with old | new
      · exact fresh.2 key listed old
      · rw [List.mem_singleton.1 new] at listed
        exact distinct.1 listed
    rw [List.foldl_cons, ih distinct.2 later, added, List.append_assoc]
    rfl

theorem renderSubcontract_ok (rendered : renderSubcontract env selection = .ok fragment) :
    fragment.type = selection.type ∧
      fragment.yamlFragment = env.safeDump (fragmentOf selection) := by
  unfold renderSubcontract at rendered
  dsimp only at rendered
  split at rendered
  · cases rendered
  · next unreserved =>
    obtain rfl := Except.ok.inj rendered
    have fresh : ∀ key ∈ selection.extraFields.entries.map Prod.fst,
        key ∉ ((OrderedDict.empty : OrderedDict String PyValue).set "operations"
          (texts (operationsOf selection))).keys := by
      intro key listed held
      rw [List.mem_singleton.1 held] at listed
      exact unreserved listed
    refine ⟨rfl, ?_⟩
    have body := foldl_set_fresh selection.extraFields.nodup fresh
    rw [fragmentOf, bodyOf]
    exact congrArg (fun entries => env.safeDump (.dict [(selection.type.value, .dict entries)]))
      body

section

variable (type : fragment.type = selection.type)
  (loads : env.safeLoad fragment.yamlFragment = .value (fragmentOf selection))

include type loads

theorem placeFragment_eq :
    placeFragment env subcontracts fragment =
      if selection.type.value ∈ subcontracts.keys then
        .error ("duplicate fragment for type '" ++ selection.type.value ++ "'")
      else .ok (subcontracts.set selection.type.value (bodyOf selection)) := by
  have mapping : loadMapping env fragment.yamlFragment = .ok (fragmentOf selection) := by
    rw [loadMapping, loads]
    rfl
  have held : PyDict.get? [(selection.type.value, bodyOf selection)] selection.type.value =
      some (bodyOf selection) := by
    simp [PyDict.get?]
  rw [placeFragment, mapping, Raising.bind_ok, type]
  simp only [fragmentOf, held]

theorem placeFragment_ok (places : placeFragment env subcontracts fragment = .ok placed) :
    placed.entries = subcontracts.entries ++ [(selection.type.value, bodyOf selection)] := by
  rw [placeFragment_eq type loads] at places
  split at places
  · cases places
  · next fresh =>
    rw [← Except.ok.inj places]
    exact OrderedDict.set_fresh fresh

end

section

variable (rendered : selections.mapM (renderSubcontract env) = .ok fragments)
  (loads : ∀ selection ∈ selections, env.safeLoad (env.safeDump (fragmentOf selection)) = .value (fragmentOf selection))

include rendered loads

theorem foldlM_placeFragment
    (places : fragments.foldlM (placeFragment env) subcontracts = .ok placed) :
    placed.entries = subcontracts.entries ++
      selections.map fun selection => (selection.type.value, bodyOf selection) := by
  have pairs := Search.mapM_eq_ok.1 rendered
  clear rendered
  induction pairs generalizing subcontracts with
  | nil =>
    obtain rfl := Except.ok.inj places
    simp
  | @cons selection fragment selections fragments rendered _ ih =>
    rw [List.forall_mem_cons] at loads
    obtain ⟨type, text⟩ := renderSubcontract_ok rendered
    rw [List.foldlM_cons] at places
    obtain ⟨next, placed', places⟩ := Raising.bind_eq_ok.1 places
    rw [ih loads.2 places, placeFragment_ok type (text ▸ loads.1) placed', List.append_assoc]
    rfl

/-- Where each type is selected once, every fragment finds its place. -/
theorem foldlM_placeFragment_returns
    (distinct : (selections.map fun selection => selection.type.value).Nodup)
    (fresh : ∀ selection ∈ selections, selection.type.value ∉ subcontracts.keys) :
    ∃ placed, fragments.foldlM (placeFragment env) subcontracts = .ok placed := by
  have pairs := Search.mapM_eq_ok.1 rendered
  clear rendered
  induction pairs generalizing subcontracts with
  | nil => exact ⟨subcontracts, rfl⟩
  | @cons selection fragment selections fragments rendered _ ih =>
    rw [List.forall_mem_cons] at loads fresh
    rw [List.map_cons, List.nodup_cons] at distinct
    obtain ⟨type, text⟩ := renderSubcontract_ok rendered
    have later : ∀ other ∈ selections, other.type.value ∉
        (subcontracts.set selection.type.value (bodyOf selection)).keys := by
      intro other listed held
      rw [OrderedDict.keys, OrderedDict.set_fresh fresh.1, List.map_append, List.mem_append] at held
      rcases held with old | new
      · exact fresh.2 other listed old
      · exact distinct.1 (List.mem_map.2 ⟨other, listed, List.mem_singleton.1 new⟩)
    obtain ⟨placed, places⟩ := ih loads.2 distinct.2 later
    refine ⟨placed, ?_⟩
    rw [List.foldlM_cons, placeFragment_eq type (text ▸ loads.1), if_neg fresh.1,
      Raising.bind_ok, places]

end

/-! ## The lint -/

theorem subcontractMessages_bodyOf (name : String) (selection : ModelSubcontractSelection) :
    subcontractMessages name (bodyOf selection) = [] := rfl

/-- The sections of the determined mapping are there, and the lint reports none of them. -/
theorem sectionMessages_determined (metadata : ModelContractMetadata) (subcontracts : PyDict)
    (features : ModelAdvancedFeatures) :
    REQUIRED_TOP_LEVEL_KEYS.flatMap (sectionMessages [("metadata", metadata.dump),
      ("subcontracts", .dict subcontracts), ("advanced_features", features.dump env)]) = [] := by
  simp [REQUIRED_TOP_LEVEL_KEYS, sectionMessages, PyDict.get?, List.lookup, PyValue.asDict?,
    ModelContractMetadata.dump, ModelAdvancedFeatures.dump]

theorem lintContract_determined {contractYaml : String}
    (loads : env.safeLoad contractYaml = .value (determined env request)) :
    lintContract env contractYaml = .ok ⟨.pass, []⟩ := by
  have subcontracts : (request.subcontractSelections.map fun selection =>
      (selection.type.value, bodyOf selection)).flatMap
        (fun entry => subcontractMessages entry.1 entry.2) = [] := by
    rw [List.flatMap_map]
    exact List.flatMap_eq_nil_iff.2 fun selection _ =>
      subcontractMessages_bodyOf selection.type.value selection
  rw [determined] at loads
  simp only [lintContract, loads, sectionMessages_determined, List.nil_append]
  simp [subcontractsMessages, PyDict.get?, List.lookup, subcontracts]

/-! ## The header -/

def headerLead : List Char :=
  "# ONEX v2.0 contract -- generated by the model->contract serialization pipeline\n".toList ++
    "# Node: ".toList

def headerTrail : List Char :=
  "# DO NOT EDIT -- regenerate via node_contract_serialize_compute\n".toList ++ "\n".toList

theorem toList_framed (first second name newline last : String) :
    (first ++ second ++ name ++ newline ++ last ++ newline).toList =
      (first.toList ++ second.toList) ++
        ((name.toList ++ newline.toList) ++ (last.toList ++ newline.toList)) := by
  simp

theorem toList_header (nodeName : String) : (HEADER nodeName ++ "\n").toList =
    headerLead ++ ((nodeName.toList ++ "\n".toList) ++ headerTrail) :=
  toList_framed _ _ nodeName "\n" _

theorem comments_header {nodeName : String} (commented : Commented nodeName) :
    Comments (HEADER nodeName ++ "\n").toList := by
  have lead : run .start headerLead = some .comment := rfl
  have trail : run .start headerTrail = some .start := rfl
  have name : run .comment (nodeName.toList ++ "\n".toList) = some .start :=
    run_concat_break rfl commented
  rw [Comments, toList_header, run_append, lead, Option.bind_some, run_append, name,
    Option.bind_some, trail]

theorem printable_header {nodeName : String} (printable : Printable nodeName) :
    ∀ c ∈ (HEADER nodeName ++ "\n").toList, isPrintable c = true := by
  have lead : ∀ c ∈ headerLead, isPrintable c = true := List.all_eq_true.1 rfl
  have trail : ∀ c ∈ headerTrail, isPrintable c = true := List.all_eq_true.1 rfl
  rw [toList_header]
  have newline : ∀ c ∈ "\n".toList, isPrintable c = true :=
    List.all_eq_true.1 rfl
  simp only [List.forall_mem_append]
  exact ⟨lead, ⟨printable, newline⟩, trail⟩

/-! ## Contracts -/

theorem serializeContract_ok {document : ModelContractDocument} (undoes : Undoes env request)
    (serialized : serializeContract env request = .ok document) :
    document.contractYaml = HEADER request.nodeName ++ "\n" ++
        env.safeDump (determined env request) ∧
      lintContract env document.contractYaml =
        .ok ⟨document.lintStatus, document.lintMessages⟩ := by
  obtain ⟨fragments, rendered, serialized⟩ := Raising.bind_eq_ok.1 serialized
  obtain ⟨contractYaml, assembled, serialized⟩ := Raising.bind_eq_ok.1 serialized
  obtain ⟨lint, linted, serialized⟩ := Raising.bind_eq_ok.1 serialized
  obtain ⟨subcontracts, placed, assembled⟩ := Raising.bind_eq_ok.1 assembled
  obtain rfl := Except.ok.inj serialized
  obtain rfl := Except.ok.inj assembled
  have entries := foldlM_placeFragment rendered undoes.fragments placed
  refine ⟨?_, linted⟩
  rw [determined]
  simp only [entries]
  rfl

theorem lintContract_returns {contractYaml : String}
    (reads : ∀ raised, env.safeLoad contractYaml ≠ .raised raised) :
    ∃ lint, lintContract env contractYaml = .ok lint := by
  unfold lintContract
  split
  · exact ⟨_, rfl⟩
  · next raised failed => exact absurd failed (reads raised)
  · exact ⟨_, rfl⟩
  · exact ⟨_, rfl⟩

theorem serializeContract_returns (undoes : Undoes env request)
    (unreserved : ∀ selection ∈ request.subcontractSelections,
      "operations" ∉ selection.extraFields.keys)
    (distinct : (request.subcontractSelections.map fun selection => selection.type.value).Nodup)
    (reads : ∀ raised, env.safeLoad (HEADER request.nodeName ++ "\n" ++
      env.safeDump (determined env request)) ≠ .raised raised) :
    ∃ document, serializeContract env request = .ok document := by
  obtain ⟨fragments, rendered⟩ := Search.exists_mapM_eq_ok.2 fun selection listed =>
    (⟨_, if_neg (unreserved selection listed)⟩ :
      ∃ fragment, renderSubcontract env selection = .ok fragment)
  have fresh : ∀ selection ∈ request.subcontractSelections,
      selection.type.value ∉ (OrderedDict.empty : OrderedDict String PyValue).keys :=
    fun _ _ => List.not_mem_nil
  obtain ⟨placed, places⟩ := foldlM_placeFragment_returns rendered undoes.fragments distinct fresh
  have entries := foldlM_placeFragment rendered undoes.fragments places
  have assembled : assembleContract env (metadataOf env request) fragments
      (resolveAdvancedFeatures request.archetype request.overrides) =
      .ok (HEADER request.nodeName ++ "\n" ++ env.safeDump (determined env request)) := by
    rw [assembleContract, places, Raising.bind_ok, entries]
    rfl
  obtain ⟨lint, linted⟩ := lintContract_returns reads
  rw [serializeContract, rendered, Raising.bind_ok, assembled, Raising.bind_ok, linted,
    Raising.bind_ok]
  exact ⟨_, rfl⟩

variable {document : ModelContractDocument}

/-- Behind a header of comments the document loads as it was dumped. -/
theorem safeLoad_contractYaml (lawful : LawfulYaml env) (undoes : Undoes env request)
    (serialized : serializeContract env request = .ok document)
    (commented : Commented request.nodeName) (printable : Printable request.nodeName) :
    env.safeLoad document.contractYaml = .value (determined env request) := by
  obtain ⟨text, -⟩ := serializeContract_ok undoes serialized
  have passed := lawful.comments _ (determined env request) (comments_header commented)
    (printable_header printable)
  rw [String.ofList_toList] at passed
  rw [text, passed, undoes.document]

theorem assembles_of_loads (undoes : Undoes env request)
    (serialized : serializeContract env request = .ok document)
    (loads : env.safeLoad document.contractYaml = .value (determined env request)) :
    Assembles env request document := by
  refine ⟨loads, ?_⟩
  obtain ⟨-, linted⟩ := serializeContract_ok undoes serialized
  rw [lintContract_determined loads] at linted
  exact (congrArg ModelLintResult.status (Except.ok.inj linted)).symm

theorem malformed_of_unprintable (lawful : LawfulYaml env) (undoes : Undoes env request)
    (serialized : serializeContract env request = .ok document)
    (unprintable : ¬ Printable request.nodeName) :
    ∃ problem, env.safeLoad document.contractYaml = .malformed problem := by
  obtain ⟨text, -⟩ := serializeContract_ok undoes serialized
  obtain ⟨c, listed, refused⟩ : ∃ c ∈ request.nodeName.toList, isPrintable c = false := by
    simpa [Printable] using unprintable
  refine lawful.unprintable _ ⟨c, ?_, refused⟩
  rw [text, String.toList_append, toList_header]
  simp [listed]

/-- A contract parses back, and its lint passes, when the line breaks of the name lead to comments
only and all its characters may occur; it never does when one of them may not. Then requests that
determine different mappings have different contracts. -/
theorem assembles (env : AssemblyEnv) (lawful : LawfulYaml env)
    (request : ModelContractAssemblyRequest) (undoes : Undoes env request)
    (document : ModelContractDocument) (serialized : serializeContract env request = .ok document) :
    (Commented request.nodeName → (Assembles env request document ↔ Printable request.nodeName)) ∧
      (¬ Printable request.nodeName → ¬ Assembles env request document) ∧
      (Commented request.nodeName → Printable request.nodeName →
        ∀ other otherDocument, Undoes env other →
          serializeContract env other = .ok otherDocument → Commented other.nodeName →
            Printable other.nodeName → determined env request ≠ determined env other →
              document.contractYaml ≠ otherDocument.contractYaml) := by
  have never : ¬ Printable request.nodeName → ¬ Assembles env request document := by
    rintro unprintable ⟨loads, -⟩
    obtain ⟨problem, malformed⟩ := malformed_of_unprintable lawful undoes serialized unprintable
    rw [malformed] at loads
    cases loads
  refine ⟨fun commented => ⟨not_imp_not.1 never, fun printable => ?_⟩, never, ?_⟩
  · exact assembles_of_loads undoes serialized
      (safeLoad_contractYaml lawful undoes serialized commented printable)
  · intro commented printable other otherDocument undoes' serialized' commented' printable'
      differ same
    have loads := safeLoad_contractYaml lawful undoes serialized commented printable
    rw [same, safeLoad_contractYaml lawful undoes' serialized' commented' printable'] at loads
    exact differ (Loaded.value.inj loads).symm

/-! ## A contract that does not parse back -/

/-- A scalar in block style; the breaks of a text are doubled in quotes. -/
def scalarText (indent : List Char) : PyValue → List Char
  | .none => "null".toList
  | .bool value => (if value then "true" else "false").toList
  | .int value => (toString value).toList
  | .float value => (PyNumber.formatFloat 1 value).toList
  | .str text =>
    if '\n' ∈ text.toList then
      '\'' :: (text.toList.flatMap fun c =>
        if c = '\n' then '\n' :: '\n' :: (indent ++ [' ', ' ']) else [c]) ++ ['\'']
    else text.toList
  | .list _ => ['[', ']']
  | .dict _ => ['\x7b', '\x7d']

/-- The entries of a mapping in block style, down to a depth. -/
def blockText : ℕ → List Char → PyDict → List Char
  | 0, _, _ => []
  | depth + 1, indent, entries => entries.flatMap fun entry =>
    indent ++ entry.1.toList ++ ':' :: match entry.2 with
      | .dict (first :: rest) => '\n' :: blockText depth (indent ++ [' ', ' ']) (first :: rest)
      | .list (first :: rest) => '\n' :: (first :: rest).flatMap fun item =>
        indent ++ '-' :: ' ' :: (scalarText indent item ++ ['\n'])
      | scalar => ' ' :: (scalarText indent scalar ++ ['\n'])

section

variable (documents : List PyDict)

def blockLoad (text : List Char) : Loaded :=
  if text.all isPrintable then
    match documents.find? fun entries => blockText 4 [] entries = dropComments .start text with
    | some entries => .value (.dict entries)
    | none => .malformed "expected '<document start>', but found '<block mapping start>'"
  else .malformed "special characters are not allowed"

def blockEnv : AssemblyEnv where
  unicode := PyText.asciiTable
  safeDump := fun tree => String.ofList (blockText 4 [] (tree.asDict?.getD []))
  safeLoad := fun text => blockLoad documents text.toList
  sha256 := fun text => "sha256:" ++ toString text.length
  jsonFloat := .float

theorem safeLoad_ne_raised (text raised : String) :
    (blockEnv documents).safeLoad text ≠ .raised raised := by
  show blockLoad documents text.toList ≠ .raised raised
  unfold blockLoad
  split
  · split <;> exact Loaded.noConfusion
  · exact Loaded.noConfusion

theorem blockLoad_append {documents : List PyDict} {preamble : List Char}
    (comments : Comments preamble) (printable : ∀ c ∈ preamble, isPrintable c = true)
    (text : List Char) : blockLoad documents (preamble ++ text) = blockLoad documents text := by
  have all : preamble.all isPrintable = true := List.all_eq_true.2 printable
  rw [blockLoad, List.all_append, all, Bool.true_and, dropComments_append comments]
  rfl

theorem lawful_blockEnv : LawfulYaml (blockEnv documents) where
  comments := by
    intro preamble tree comments printable
    simp only [blockEnv, String.toList_append, String.toList_ofList]
    exact blockLoad_append comments printable _
  unprintable := by
    rintro text ⟨c, listed, refused⟩
    have some_other : text.toList.all isPrintable = false :=
      List.all_eq_false.2 ⟨c, listed, by simp [refused]⟩
    exact ⟨_, if_neg (by simp [some_other])⟩

end

theorem blockEnv_undoes {documents : List PyDict} (entries : PyDict)
    (printable : (blockText 4 [] entries).all isPrintable = true)
    (found : documents.find? (fun document =>
      blockText 4 [] document = dropComments .start (blockText 4 [] entries)) = some entries) :
    (blockEnv documents).safeLoad ((blockEnv documents).safeDump (.dict entries)) =
      .value (.dict entries) := by
  simp only [blockEnv, String.toList_ofList, PyValue.asDict?, Option.getD_some, blockLoad,
    printable, found, if_true]

def billingSelection : ModelSubcontractSelection where
  type := .database
  extraFields := OrderedDict.empty.set "isolation_level" "serializable"

def billingRequest : ModelContractAssemblyRequest :=
  { nodeName := "NodeBillingEffect", namespace' := "onex.billing", archetype := .effect,
    subcontractSelections := [billingSelection] }

def entriesOf (request : ModelContractAssemblyRequest) : PyDict :=
  ((determined (blockEnv []) request).asDict?).getD []

def billingEnv : AssemblyEnv :=
  blockEnv [entriesOf billingRequest, [("database", bodyOf billingSelection)]]

theorem undoes_billing : Undoes billingEnv billingRequest where
  fragments := by
    intro selection listed
    obtain rfl := List.mem_singleton.1 listed
    exact blockEnv_undoes [("database", bodyOf billingSelection)] (by decide +kernel)
      (by decide +kernel)
  document := blockEnv_undoes (entriesOf billingRequest) (by decide +kernel) (by decide +kernel)

/-- The contract of a billing node parses back. -/
theorem billing_assembles : ∃ document, serializeContract billingEnv billingRequest = .ok document ∧
    Assembles billingEnv billingRequest document := by
  have unreserved : ∀ selection ∈ billingRequest.subcontractSelections,
      "operations" ∉ selection.extraFields.keys := by decide +kernel
  have reads : ∀ text raised, billingEnv.safeLoad text ≠ .raised raised := safeLoad_ne_raised _
  obtain ⟨document, serialized⟩ := serializeContract_returns undoes_billing unreserved
    (by decide +kernel) (reads _)
  have parses := assembles billingEnv (lawful_blockEnv _) billingRequest undoes_billing document
    serialized
  exact ⟨document, serialized, (parses.1 (by decide +kernel)).2 (by decide +kernel)⟩

/-- Its name ends the comment of the header. -/
def brokenRequest : ModelContractAssemblyRequest :=
  { nodeName := "NodeBilling\nowner", namespace' := "onex.billing", archetype := .compute }

def brokenEnv : AssemblyEnv := blockEnv [entriesOf brokenRequest]

/-- A line break in the name makes a contract that is no YAML document. -/
theorem broken_name_is_content : LawfulYaml brokenEnv ∧ Undoes brokenEnv brokenRequest ∧
    ∃ document, serializeContract brokenEnv brokenRequest = .ok document ∧
      ¬ Assembles brokenEnv brokenRequest document := by
  have undoes : Undoes brokenEnv brokenRequest :=
    { fragments := fun _ listed => absurd listed List.not_mem_nil
      document := blockEnv_undoes (entriesOf brokenRequest) (by decide +kernel) (by decide +kernel) }
  have reads : ∀ text raised, brokenEnv.safeLoad text ≠ .raised raised := safeLoad_ne_raised _
  obtain ⟨document, serialized⟩ := serializeContract_returns undoes
    (fun _ listed => absurd listed List.not_mem_nil) List.nodup_nil (reads _)
  refine ⟨lawful_blockEnv _, undoes, document, serialized, ?_⟩
  rintro ⟨loads, -⟩
  obtain ⟨text, -⟩ := serializeContract_ok undoes serialized
  have content : document.contractYaml.toList = headerLead ++
      (("NodeBilling\nowner".toList ++ "\n".toList) ++ headerTrail) ++
        blockText 4 [] (entriesOf brokenRequest) := by
    rw [text, String.toList_append, toList_header]
    exact congrArg _ String.toList_ofList
  have unknown : [entriesOf brokenRequest].find? (fun entries => blockText 4 [] entries =
      dropComments .start document.contractYaml.toList) = none := by
    rw [content]
    decide +kernel
  have refused : ∀ value, blockLoad [entriesOf brokenRequest] document.contractYaml.toList ≠
      .value value := by
    intro value loaded
    rw [blockLoad, unknown] at loaded
    split at loaded <;> cases loaded
  exact refused _ loads

end OmniMarket.ContractAssembly
