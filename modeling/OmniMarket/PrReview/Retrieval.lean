import OmniMarket.Lib.Raising
import OmniMarket.PrReview.FindingText
import Mathlib

/-!
# Findings that arrive

A reviewer's findings come back from `parse_model_response`, or its answer is reported as one that
could not be read. An answer reads otherwise as soon as its first fence, or its first bracket,
holds another array: the parser then succeeds with what that array has.
-/

namespace OmniMarket.PrReview

variable (env : ReviewEnv) {findings : List FindingObject}

/-! ## What a reviewer means -/

def mappedText {α : Type} (table : List (String × α)) (fallback : α) (text : String) : α :=
  (table.lookup (String.ofList (PyText.lowerString env.unicode text))).getD fallback

def FindingObject.mapped (finding : FindingObject) : EnumFindingCategory × EnumFindingSeverity :=
  (mappedText env CATEGORY_MAP .informational
      ((finding.fields.lookup "category").getD "informational"),
    mappedText env SEVERITY_MAP .minor ((finding.fields.lookup "severity").getD "minor"))

/-- The ways to answer with a list of findings. -/
inductive Answer where
  | text
  | fenced
  | wrapped
  | prose (before after : String)

def Answer.raw (findings : List FindingObject) : Answer → String
  | text => String.ofList (dumpsFindings findings)
  | fenced => "```json\n" ++ String.ofList (dumpsFindings findings) ++ "\n```"
  | wrapped => String.ofList (dumpsWrapped findings)
  | prose before after => before ++ String.ofList (dumpsFindings findings) ++ after

/-- `json.loads` undoes `json.dumps` on the findings, and `str` keeps a text. -/
structure ReadsBack (findings : List FindingObject) : Prop where
  list : env.loads (String.ofList (dumpsFindings findings)) = .value (findingsValue findings)
  wrapped : env.loads (String.ofList (dumpsWrapped findings)) = .value (wrappedValue findings)
  str : ∀ text, env.str (.str text) = text

/-- The answer is reported as unreadable, or every finding of it arrives, in order, with its
category and severity. -/
def Delivers (newId : ℕ → String) (sourceModel : NonEmptyString) (findings : List FindingObject)
    (raw : String) : Prop :=
  ∃ result, parseModelResponse env newId raw sourceModel.value = .ok result ∧
    (result.status = .formatFailure ∨
      result.status = .success ∧
        (result.findings.map fun finding => (finding.category, finding.severity)) =
          findings.map (FindingObject.mapped env))

/-! ## What an answer is read as -/

def firstBracketed (text : String) : Option String :=
  (closedBracket 0 false false (text.toList.dropWhile (· != '['))).map String.ofList

inductive ReadAs (text : String) : List PyValue → Prop
  | whole {items} (loaded : env.loads text = .value (.list items)) : ReadAs text items
  | underFindings {entries items} (loaded : env.loads text = .value (.dict entries))
      (held : PyDict.get? entries "findings" = some (.list items)) : ReadAs text items
  | bracketed {stretch problem items} (loaded : env.loads text = .malformed problem)
      (closed : firstBracketed text = some stretch)
      (held : env.loads stretch = .value (.list items)) : ReadAs text items

/-- `json.loads` refuses the text, or its first stretch in brackets, otherwise than as malformed. -/
inductive Refuses (text : String) : Prop
  | whole {raised} (loaded : env.loads text = .raised raised) : Refuses text
  | bracketed {stretch problem raised} (loaded : env.loads text = .malformed problem)
      (closed : firstBracketed text = some stretch)
      (held : env.loads stretch = .raised raised) : Refuses text

/-- An object that becomes a finding has a description. -/
def described (raw : PyDict) : Bool :=
  match (raw.get? "description").getD (.str "") with
  | .str desc => PyText.stripString desc != ""
  | _ => false

def usable (items : List PyValue) : List PyDict :=
  (items.filterMap PyValue.asDict?).filter described

/-- A text, or nothing. -/
def textual : PyValue → Bool
  | .str _ => true
  | .none => true
  | _ => false

/-- The evidence of a finding is accepted. -/
def evident (raw : PyDict) : Prop :=
  textual (valueOr (raw.get "location") (raw.get "file_path")) = true ∧
    textual (valueOr (raw.get "evidence") (raw.get "code_snippet")) = true

def classified (raw : PyDict) : EnumFindingCategory × EnumFindingSeverity :=
  (lookupField env CATEGORY_MAP .informational raw "category" "informational",
    lookupField env SEVERITY_MAP .minor raw "severity" "minor")

/-- An array has the categories and severities of the findings, and nothing that is refused. -/
def Agrees (items : List PyValue) (findings : List FindingObject) : Prop :=
  (∀ raw ∈ usable items, evident raw) ∧
    (usable items).map (classified env) = findings.map (FindingObject.mapped env)

/-- What the fences leave of an answer is read as no array that differs from the findings. -/
def Undiverted (findings : List FindingObject) (raw : String) : Prop :=
  ¬ Refuses env (stripMarkdownFences env raw) ∧
    ∀ items, ReadAs env (stripMarkdownFences env raw) items → Agrees env items findings

def Unfenced (raw : String) : Prop :=
  (Regex.Pattern.findGroups env.unicode FENCE_RE (PyText.stripString raw).toList).head? = none

instance (raw : String) : Decidable (Unfenced env raw) := inferInstanceAs (Decidable (_ = none))

/-- The answer has no fence but the one drawn around the list, and around the list no bracket
before it and nothing that makes JSON of the whole. -/
def Answer.Plain (findings : List FindingObject) : Answer → Prop
  | fenced => ¬ "```".toList <:+: dumpsFindings findings
  | prose before after =>
    Unfenced env ((prose before after).raw findings) ∧ '[' ∉ before.toList ∧
      (PyText.stripString ((prose before after).raw findings) =
          String.ofList (dumpsFindings findings) ∨
        ∃ problem, env.loads (PyText.stripString ((prose before after).raw findings)) =
          .malformed problem)
  | answer => Unfenced env (answer.raw findings)

/-! ## The findings of an array -/

variable {env : ReviewEnv} {newId : ℕ → String} {sourceModel : String} {value : PyValue}
  {items : List PyValue} {raw : PyDict}

theorem optionalText_ok (env : ReviewEnv) (model : String) (fields : List PyValue)
    (accepted : textual value = true) : ∃ text, optionalText env model fields value = .ok text := by
  cases value <;> first | cases accepted; done | exact ⟨_, rfl⟩

theorem textual_of_ok {model : String} {fields : List PyValue} {text : Option String}
    (accepted : optionalText env model fields value = .ok text) : textual value = true := by
  cases value <;> first | rfl | cases accepted

theorem described_iff : described raw = true ↔
    ∃ desc, (raw.get? "description").getD (.str "") = .str desc ∧ PyText.stripString desc ≠ "" := by
  unfold described
  split
  · next desc given => simp [given]
  · next other =>
    constructor
    · exact nofun
    · rintro ⟨desc, given, -⟩
      exact absurd given (other desc)

theorem normalizeFinding_undescribed {id : String} (blank : described raw = false) :
    normalizeFinding env id raw sourceModel = .ok none := by
  unfold normalizeFinding
  split
  · next desc given =>
    refine if_pos (by_contra fun some_text => ?_)
    rw [described_iff.2 ⟨desc, given, some_text⟩] at blank
    cases blank
  · rfl

theorem normalizeFinding_ok {id : String} (some_text : described raw = true)
    (accepted : evident raw) :
    ∃ finding, normalizeFinding env id raw sourceModel = .ok (some finding) ∧
      (finding.category, finding.severity) = classified env raw := by
  obtain ⟨desc, given, some_text⟩ := described_iff.1 some_text
  obtain ⟨filePath, located⟩ := optionalText_ok env "ModelFindingEvidence"
    [valueOr (raw.get "location") (raw.get "file_path"),
      valueOr (raw.get "evidence") (raw.get "code_snippet")] accepted.1
  obtain ⟨codeSnippet, quoted⟩ := optionalText_ok env "ModelFindingEvidence"
    [valueOr (raw.get "location") (raw.get "file_path"),
      valueOr (raw.get "evidence") (raw.get "code_snippet")] accepted.2
  simp only [normalizeFinding, given, if_neg some_text, located, quoted]
  exact ⟨_, rfl, rfl⟩

theorem evident_of_ok {id : String} {found : Option ModelReviewFinding}
    (some_text : described raw = true)
    (normalized : normalizeFinding env id raw sourceModel = .ok found) : evident raw := by
  obtain ⟨desc, given, some_text⟩ := described_iff.1 some_text
  simp only [normalizeFinding, given, if_neg some_text] at normalized
  obtain ⟨filePath, located, normalized⟩ := Raising.bind_eq_ok.1 normalized
  obtain ⟨codeSnippet, quoted, -⟩ := Raising.bind_eq_ok.1 normalized
  exact ⟨textual_of_ok located, textual_of_ok quoted⟩

theorem usable_described (some_text : described raw = true) (rest : List PyValue) :
    usable (.dict raw :: rest) = raw :: usable rest := by
  simp only [usable, List.filterMap_cons, PyValue.asDict?]
  exact List.filter_cons_of_pos some_text

theorem usable_undescribed (blank : described raw = false) (rest : List PyValue) :
    usable (.dict raw :: rest) = usable rest := by
  simp only [usable, List.filterMap_cons, PyValue.asDict?]
  exact List.filter_cons_of_neg (by simp [blank])

variable (env newId sourceModel) in
theorem skipped {item : PyValue} (other : item.asDict? = none) (rest : List PyValue) (index : ℕ) :
    usable (item :: rest) = usable rest ∧
      normalizeItems env newId sourceModel index (item :: rest) =
        normalizeItems env newId sourceModel (index + 1) rest := by
  cases item with
  | dict raw => cases other
  | _ => exact ⟨rfl, by simp only [normalizeItems]⟩

theorem asDict?_eq_some : value.asDict? = some raw ↔ value = .dict raw := by
  cases value <;> simp [PyValue.asDict?]

theorem normalizeItems_ok (accepted : ∀ raw ∈ usable items, evident raw) (index : ℕ) :
    ∃ found, normalizeItems env newId sourceModel index items = .ok found ∧
      (found.map fun finding => (finding.category, finding.severity)) =
        (usable items).map (classified env) := by
  induction items generalizing index with
  | nil => exact ⟨[], rfl, rfl⟩
  | cons item rest ih =>
    cases object : item.asDict? with
    | none =>
      obtain ⟨same, normalized⟩ := skipped env newId sourceModel object rest index
      rw [normalized, same]
      exact ih (same ▸ accepted) (index + 1)
    | some raw =>
      obtain rfl := asDict?_eq_some.1 object
      cases some_text : described raw with
      | false =>
        rw [usable_undescribed some_text] at accepted ⊢
        obtain ⟨later, normalized, pairs⟩ := ih accepted (index + 1)
        refine ⟨later, ?_, pairs⟩
        rw [normalizeItems, normalizeFinding_undescribed some_text, Raising.bind_ok, normalized]
        rfl
      | true =>
        rw [usable_described some_text, List.forall_mem_cons] at accepted
        obtain ⟨later, normalized, pairs⟩ := ih accepted.2 (index + 1)
        obtain ⟨finding, found, pair⟩ := normalizeFinding_ok some_text accepted.1
        refine ⟨finding :: later, ?_, ?_⟩
        · rw [normalizeItems, found, Raising.bind_ok, normalized]
          rfl
        · rw [usable_described some_text, List.map_cons, List.map_cons, pair, pairs]

theorem evident_of_normalized {index : ℕ} {found : List ModelReviewFinding}
    (normalized : normalizeItems env newId sourceModel index items = .ok found) :
    ∀ raw ∈ usable items, evident raw := by
  induction items generalizing index found with
  | nil => simp [usable]
  | cons item rest ih =>
    cases object : item.asDict? with
    | none =>
      obtain ⟨same, normalized'⟩ := skipped env newId sourceModel object rest index
      rw [same]
      exact ih (normalized' ▸ normalized)
    | some raw =>
      obtain rfl := asDict?_eq_some.1 object
      rw [normalizeItems] at normalized
      obtain ⟨finding, own, normalized⟩ := Raising.bind_eq_ok.1 normalized
      obtain ⟨later, others, -⟩ := Raising.bind_eq_ok.1 normalized
      cases some_text : described raw with
      | false =>
        rw [usable_undescribed some_text]
        exact ih others
      | true =>
        rw [usable_described some_text, List.forall_mem_cons]
        exact ⟨evident_of_ok some_text own, ih others⟩

/-! ## The array of an answer -/

theorem extractBracketed_eq (text : String) :
    extractBracketed env text = match firstBracketed text with
      | none => .ok none
      | some stretch =>
        match env.loads stretch with
        | .value value => .ok value.asList?
        | .malformed _ => .ok none
        | .raised raised => .error raised := by
  unfold extractBracketed firstBracketed
  cases closedBracket 0 false false (text.toList.dropWhile (· != '[')) <;> rfl

theorem asList?_eq_some : value.asList? = some items ↔ value = .list items := by
  cases value <;> simp [PyValue.asList?]

theorem extractJsonArray_eq_some {raw : String} :
    extractJsonArray env raw = .ok (some items) ↔
      ReadAs env (stripMarkdownFences env raw) items := by
  constructor
  · intro extracted
    unfold extractJsonArray at extracted
    dsimp only at extracted
    split at extracted
    · next loaded =>
      cases extracted
      exact .whole loaded
    · next entries loaded =>
      obtain ⟨value, held, isList⟩ := Option.bind_eq_some_iff.1 (Except.ok.inj extracted)
      exact .underFindings loaded (asList?_eq_some.1 isList ▸ held)
    · cases extracted
    · next problem loaded =>
      rw [extractBracketed_eq] at extracted
      split at extracted
      · cases extracted
      · next stretch closed =>
        split at extracted
        · next value held =>
          exact .bracketed loaded closed
            (asList?_eq_some.1 (Except.ok.inj extracted) ▸ held)
        · cases extracted
        · cases extracted
    · cases extracted
  · intro read
    cases read with
    | whole loaded => simp [extractJsonArray, loaded]
    | underFindings loaded held => simp [extractJsonArray, loaded, held, PyValue.asList?]
    | bracketed loaded closed held =>
      simp [extractJsonArray, loaded, extractBracketed_eq, closed, held, PyValue.asList?]

theorem extractJsonArray_error {raw : String} :
    (∃ raised, extractJsonArray env raw = .error raised) ↔
      Refuses env (stripMarkdownFences env raw) := by
  constructor
  · rintro ⟨raised, extracted⟩
    unfold extractJsonArray at extracted
    dsimp only at extracted
    split at extracted
    · cases extracted
    · cases extracted
    · cases extracted
    · next problem loaded =>
      rw [extractBracketed_eq] at extracted
      split at extracted
      · cases extracted
      · next stretch closed =>
        split at extracted
        · cases extracted
        · cases extracted
        · next held => exact .bracketed loaded closed held
    · next loaded => exact .whole loaded
  · intro refused
    cases refused with
    | @whole raised loaded => exact ⟨raised, by simp only [extractJsonArray, loaded]⟩
    | @bracketed _ _ raised loaded closed held =>
      exact ⟨raised, by simp only [extractJsonArray, loaded, extractBracketed_eq, closed, held]⟩

theorem delivers_iff_undiverted {sourceModel : NonEmptyString}
    {raw : String} (visible : PyText.stripString raw ≠ "") :
    Delivers env newId sourceModel findings raw ↔ Undiverted env findings raw := by
  unfold Delivers Undiverted parseModelResponse
  rw [if_neg visible, ← extractJsonArray_error]
  simp only [← extractJsonArray_eq_some]
  cases extracted : extractJsonArray env raw with
  | error raised =>
    constructor
    · rintro ⟨result, parsed, -⟩
      cases parsed
    · rintro ⟨accepted, -⟩
      exact absurd ⟨raised, rfl⟩ accepted
  | ok array =>
    cases array with
    | none =>
      constructor
      · intro _
        exact ⟨by simp, by simp⟩
      · intro _
        exact ⟨_, rfl, .inl rfl⟩
    | some items =>
      have parses (result : ModelParseResult) :
          (do
            let findings ← normalizeItems env newId sourceModel.value 0 items
            return { status := .success, findings := findings, errorMessage := ""
                     rawLength := raw.length } : Except String ModelParseResult) = .ok result ↔
          ∃ found, normalizeItems env newId sourceModel.value 0 items = .ok found ∧
            (⟨.success, found, "", raw.length⟩ : ModelParseResult) = result := by
        rw [Raising.bind_eq_ok]
        simp [pure, Except.pure]
      simp only [Raising.bind_ok, parses, Except.ok.injEq, Option.some.injEq, forall_eq']
      constructor
      · rintro ⟨_, ⟨found, normalized, rfl⟩, failed | ⟨-, pairs⟩⟩
        · cases failed
        · have accepted := evident_of_normalized normalized
          obtain ⟨found', normalized', same⟩ := normalizeItems_ok accepted 0
          obtain rfl := Except.ok.inj (normalized.symm.trans normalized')
          exact ⟨by simp, accepted, same.symm.trans pairs⟩
      · rintro ⟨-, accepted, pairs⟩
        obtain ⟨found, normalized, same⟩ := normalizeItems_ok accepted 0
        exact ⟨_, ⟨found, normalized, rfl⟩, .inr ⟨rfl, same.trans pairs⟩⟩

/-! ## The list itself -/

section

variable (finding : FindingObject)

theorem get?_raw (key : String) :
    PyDict.get? finding.raw key = (finding.fields.lookup key).map .str := by
  rw [PyDict.get?, FindingObject.raw]
  induction finding.fields with
  | nil => rfl
  | cons field rest ih =>
    rw [List.map_cons, List.lookup_cons, List.lookup_cons, ih]
    cases key == field.1 <;> rfl

theorem described_raw : described finding.raw = true := by
  obtain ⟨description, given, some_text⟩ := finding.described
  refine described_iff.2 ⟨description, ?_, some_text⟩
  rw [get?_raw, given]
  rfl

theorem textual_valueOr {first second : PyValue} (text : textual first = true)
    (text' : textual second = true) : textual (valueOr first second) = true := by
  unfold valueOr
  split
  · exact text
  · exact text'

theorem textual_get (key : String) : textual (PyDict.get finding.raw key) = true := by
  rw [PyDict.get, get?_raw]
  cases finding.fields.lookup key <;> rfl

theorem evident_raw : evident finding.raw :=
  ⟨textual_valueOr (textual_get finding _) (textual_get finding _),
    textual_valueOr (textual_get finding _) (textual_get finding _)⟩

end

theorem classified_raw (reads : ReadsBack env findings)
    (finding : FindingObject) : classified env finding.raw = finding.mapped env := by
  have field {α : Type} (table : List (String × α)) (fallback : α) (key defaultText : String) :
      lookupField env table fallback finding.raw key defaultText =
        mappedText env table fallback ((finding.fields.lookup key).getD defaultText) := by
    rw [lookupField, mappedText, get?_raw]
    cases finding.fields.lookup key <;> simp [reads.str]
  rw [classified, FindingObject.mapped, field, field]

theorem usable_findings (findings : List FindingObject) :
    usable (findings.map FindingObject.value) = findings.map FindingObject.raw := by
  induction findings with
  | nil => rfl
  | cons finding rest ih =>
    rw [List.map_cons, List.map_cons, ← ih]
    exact usable_described (described_raw finding) _

theorem agrees_self (reads : ReadsBack env findings) :
    Agrees env (findings.map FindingObject.value) findings := by
  refine ⟨?_, ?_⟩
  · rw [usable_findings]
    intro raw listed
    obtain ⟨finding, -, rfl⟩ := List.mem_map.1 listed
    exact evident_raw finding
  · rw [usable_findings, List.map_map]
    exact List.map_congr_left fun finding _ => classified_raw reads finding

/-! ## Plain answers -/

variable {findings : List FindingObject} {raw : String}

theorem undiverted_of_read (reads : ReadsBack env findings)
    (read : ReadAs env (stripMarkdownFences env raw) (findings.map FindingObject.value)) :
    Undiverted env findings raw := by
  have extracted := extractJsonArray_eq_some.2 read
  refine ⟨fun refused => ?_, fun items other => ?_⟩
  · obtain ⟨raised, failed⟩ := extractJsonArray_error.2 refused
    rw [extracted] at failed
    cases failed
  · have same := extracted.symm.trans (extractJsonArray_eq_some.2 other)
    rw [← Option.some.inj (Except.ok.inj same)]
    exact agrees_self reads

theorem stripMarkdownFences_unfenced (unfenced : Unfenced env raw) :
    stripMarkdownFences env raw = PyText.stripString raw := by
  unfold Unfenced at unfenced
  simp only [stripMarkdownFences, unfenced]

theorem stripString_ofList {own : List Char} (stripped : PyText.strip own = own) :
    PyText.stripString (String.ofList own) = String.ofList own := by
  rw [PyText.stripString, String.toList_ofList, stripped]

theorem firstBracketed_around {before after : List Char} (noBracket : '[' ∉ before) :
    firstBracketed (String.ofList (before ++ (dumpsFindings findings ++ after))) =
      some (String.ofList (dumpsFindings findings)) := by
  have dropped : (before ++ (dumpsFindings findings ++ after)).dropWhile (· != '[') =
      dumpsFindings findings ++ after := by
    have skips : ∀ c ∈ before, (c != '[') = true := fun c listed =>
      bne_iff_ne.2 fun same => noBracket (same ▸ listed)
    rw [List.dropWhile_append_of_pos skips]
    rfl
  rw [firstBracketed, String.toList_ofList, dropped, closedBracket_dumps]
  rfl

theorem read_of_list (reads : ReadsBack env findings) :
    ReadAs env (String.ofList (dumpsFindings findings)) (findings.map FindingObject.value) :=
  .whole reads.list

theorem stripMarkdownFences_fenced (noFence : ¬ "```".toList <:+: dumpsFindings findings) :
    stripMarkdownFences env (Answer.fenced.raw findings) =
      String.ofList (dumpsFindings findings) := by
  have drawn : (Answer.fenced.raw findings).toList =
      "```json\n".toList ++ (dumpsFindings findings ++ "\n```".toList) := by
    simp [Answer.raw]
  have stripped : (PyText.stripString (Answer.fenced.raw findings)).toList =
      "```json\n".toList ++ (dumpsFindings findings ++ "\n```".toList) := by
    rw [PyText.stripString, String.toList_ofList, drawn]
    refine strip_visible (by simp) ?_ ?_
    · rintro c ⟨⟩
      decide
    · rw [← List.append_assoc, List.getLast?_append_of_ne_nil _ (by simp)]
      rintro c ⟨⟩
      decide
  simp only [stripMarkdownFences, stripped, fence_match noFence, List.headD_cons]
  exact stripString_ofList (strip_dumpsFindings findings)

theorem stripString_prose (findings : List FindingObject) (before after : String) :
    ∃ lead trail, lead <:+ before.toList ∧
      PyText.stripString ((Answer.prose before after).raw findings) =
        String.ofList (lead ++ (dumpsFindings findings ++ trail)) := by
  have drawn : ((Answer.prose before after).raw findings).toList =
      before.toList ++ (dumpsFindings findings ++ after.toList) := by
    simp [Answer.raw]
  obtain ⟨lead, trail, within, -, same⟩ := PyText.strip_around
    (dumpsFindings_ne_nil findings) (visible_first findings) (visible_last findings) before.toList
    after.toList
  exact ⟨lead, trail, within, by rw [PyText.stripString, drawn, same]⟩

theorem undiverted_of_plain (reads : ReadsBack env findings) {answer : Answer}
    (plain : answer.Plain env findings) : Undiverted env findings (answer.raw findings) := by
  refine undiverted_of_read reads ?_
  cases answer with
  | text =>
    rw [stripMarkdownFences_unfenced plain, Answer.raw,
      stripString_ofList (strip_dumpsFindings findings)]
    exact read_of_list reads
  | wrapped =>
    rw [stripMarkdownFences_unfenced plain, Answer.raw,
      stripString_ofList (strip_dumpsWrapped findings)]
    exact .underFindings reads.wrapped rfl
  | fenced =>
    rw [stripMarkdownFences_fenced plain]
    exact read_of_list reads
  | prose before after =>
    obtain ⟨unfenced, noBracket, whole | ⟨problem, malformed⟩⟩ := plain
    · rw [stripMarkdownFences_unfenced unfenced, whole]
      exact read_of_list reads
    · rw [stripMarkdownFences_unfenced unfenced]
      refine .bracketed malformed ?_ reads.list
      obtain ⟨lead, trail, within, same⟩ := stripString_prose findings before after
      rw [same]
      exact firstBracketed_around fun listed => noBracket (within.subset listed)

theorem visible_raw (findings : List FindingObject) (answer : Answer) :
    PyText.stripString (answer.raw findings) ≠ "" := by
  have listed : '[' ∈ (answer.raw findings).toList := by
    cases answer <;> simp [Answer.raw, dumpsFindings, dumpsWrapped]
  intro blank
  refine PyText.strip_ne_nil listed (by decide) ?_
  rw [← String.toList_ofList (l := PyText.strip (answer.raw findings).toList)]
  exact congrArg String.toList blank

/-- The findings of an answer arrive iff no other array is read, as in every answer whose fences
and brackets are those of the list. -/
theorem delivers_iff (env : ReviewEnv) (newId : ℕ → String) (sourceModel : NonEmptyString)
    (findings : List FindingObject) (reads : ReadsBack env findings) (answer : Answer) :
    (Delivers env newId sourceModel findings (answer.raw findings) ↔
        Undiverted env findings (answer.raw findings)) ∧
      (answer.Plain env findings → Undiverted env findings (answer.raw findings)) :=
  ⟨delivers_iff_undiverted (visible_raw findings answer), undiverted_of_plain reads⟩

/-! ## Findings that are lost -/

/-- `json.loads` on the texts of the findings and on some others. -/
def answeringEnv (findings : List FindingObject) (others : List (String × PyValue)) :
    ReviewEnv where
  unicode := PyText.asciiTable
  upper := String.toUpper
  str := fun value => (value.asStr?).getD ""
  loads := fun text =>
    if text = String.ofList (dumpsFindings findings) then .value (findingsValue findings)
    else if text = String.ofList (dumpsWrapped findings) then .value (wrappedValue findings)
    else ((others.lookup text).map Loaded.value).getD (.malformed "Expecting value")
  validationText := fun model _ => "validation error for " ++ model

theorem readsBack_answering (findings : List FindingObject) (others : List (String × PyValue)) :
    ReadsBack (answeringEnv findings others) findings where
  list := if_pos rfl
  wrapped := by
    have differ : String.ofList (dumpsWrapped findings) ≠ String.ofList (dumpsFindings findings) := by
      intro same
      have first := congrArg List.head? (String.ofList_injective same)
      cases first
    exact (if_neg differ).trans (if_pos rfl)
  str := fun _ => rfl

def localReviewer : NonEmptyString := ⟨"local", by decide⟩

def divisionFinding : FindingObject where
  fields := [("description", "Division by zero in [rate]."), ("severity", "CRITICAL")]
  distinct := by decide
  described := ⟨"Division by zero in [rate].", by decide, by decide +kernel⟩

/-- A finding with brackets in its text arrives. -/
theorem bracketed_finding_arrives :
    Delivers (answeringEnv [divisionFinding] []) toString localReviewer [divisionFinding]
      (Answer.text.raw [divisionFinding]) :=
  have iff := delivers_iff (answeringEnv [divisionFinding] []) toString localReviewer
    [divisionFinding] (readsBack_answering _ _) .text
  iff.1.2 (iff.2 (show Unfenced _ _ by decide +kernel))

/-- Its text holds an empty array in a fence. -/
def fencedFinding : FindingObject where
  fields := [("description", "```[]```"), ("severity", "critical")]
  distinct := by decide
  described := ⟨"```[]```", by decide, by decide +kernel⟩

def fencedEnv : ReviewEnv :=
  answeringEnv [fencedFinding] [("[]", .list []), ("[1]", .list [.int 1])]

/-- An answer is read as the array in a fence of its text, and the finding is lost. -/
theorem fenced_text_loses_finding :
    ReadsBack fencedEnv [fencedFinding] ∧
      ¬ Delivers fencedEnv toString localReviewer [fencedFinding]
        (Answer.text.raw [fencedFinding]) := by
  refine ⟨readsBack_answering _ _, ?_⟩
  have parsed : parseModelResponse fencedEnv toString (Answer.text.raw [fencedFinding])
      localReviewer.value = .ok ⟨.success, [], "", 53⟩ := by decide +kernel
  rintro ⟨result, same, delivered⟩
  obtain rfl := Except.ok.inj (parsed.symm.trans same)
  rcases delivered with failed | ⟨-, pairs⟩
  · cases failed
  · cases pairs

/-- So it is behind prose with a bracket. -/
example : ((parseModelResponse (answeringEnv [divisionFinding] [("[1]", .list [.int 1])]) toString
    ((Answer.prose "See [1]: " "").raw [divisionFinding]) localReviewer.value).map fun result =>
      (result.status, result.findings)) = .ok (.success, []) := by decide +kernel

end OmniMarket.PrReview
