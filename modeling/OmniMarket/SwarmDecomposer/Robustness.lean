import OmniMarket.Lib.Raising
import OmniMarket.Lib.Search
import OmniMarket.SwarmDecomposer.Schedulable

/-!
# What the decomposer makes of any planner output
-/

namespace OmniMarket.SwarmDecomposer

variable {subtasks : List ModelSubtask}

open DependencyGraph

/-! ## Validation returns -/

section

variable {subtasks : List ModelSubtask}

theorem foldl_latest {held : Option ModelSubtask} :
    subtasks.foldl (fun _ st => some st) held = (subtasks.getLast?).or held := by
  induction subtasks generalizing held with
  | nil => rfl
  | cons st rest ih =>
    rw [List.foldl_cons, ih, List.getLast?_cons]
    cases rest.getLast? <;> rfl

theorem get?_idToSubtask (sid : String) :
    (idToSubtask subtasks).get? sid = (subtasks.filter (·.subtaskId = sid)).getLast? := by
  rw [idToSubtask, OrderedDict.get?_foldByKey]
  refine (foldl_latest).trans ?_
  rw [OrderedDict.get?_empty, Option.or_none]

theorem mem_keys_idToSubtask {sid : String} :
    sid ∈ (idToSubtask subtasks).keys ↔ sid ∈ subtasks.map (·.subtaskId) := by
  rw [OrderedDict.mem_keys, get?_idToSubtask, List.mem_map]
  constructor
  · rintro ⟨st, found⟩
    have listed := List.mem_filter.1 (List.mem_of_getLast? found)
    exact ⟨st, listed.1, of_decide_eq_true listed.2⟩
  · rintro ⟨st, listed, own⟩
    have kept : st ∈ subtasks.filter (·.subtaskId = sid) :=
      List.mem_filter.2 ⟨listed, decide_eq_true own⟩
    exact ⟨_, List.getLast?_eq_some_getLast (List.ne_nil_of_mem kept)⟩

theorem idToSubtask_closed
    (known : ∀ st ∈ subtasks, ∀ dep ∈ st.dependsOn, dep ∈ subtasks.map (·.subtaskId)) :
    ∀ nodeId ∈ (idToSubtask subtasks).keys,
      dependsOnOf (idToSubtask subtasks) nodeId ⊆ (idToSubtask subtasks).keys := by
  intro nodeId _ dep depends
  rw [dependsOnOf, get?_idToSubtask] at depends
  cases last : (subtasks.filter (·.subtaskId = nodeId)).getLast? with
  | none =>
    rw [last] at depends
    exact absurd depends List.not_mem_nil
  | some st =>
    rw [last] at depends
    have listed := (List.mem_filter.1 (List.mem_of_getLast? last)).1
    exact mem_keys_idToSubtask.2 (known st listed dep depends)

theorem messages_nonempty (unicode : UnicodeTable) (st : ModelSubtask) (dep : String) :
    emptyDescription unicode st ≠ "" ∧ danglingDependency unicode st dep ≠ "" := by
  constructor
  · intro empty
    unfold emptyDescription at empty
    exact absurd (String.append_eq_empty_iff.1 empty).2 (by decide)
  · intro empty
    unfold danglingDependency at empty
    have first := (String.append_eq_empty_iff.1 empty).1
    exact absurd (String.append_eq_empty_iff.1 first).2 (by decide)

/-- What validation returns: a reason to reject, or the subtasks with known dependencies. -/
def Judged (endpointIds : List String) (subtasks cleaned : List ModelSubtask)
    (rejection : Option String) : Prop :=
  (∃ reason, reason ≠ "" ∧ rejection = some reason) ∨
    rejection = none ∧ cleaned = subtasks.map (clean endpointIds) ∧
      ∀ st ∈ cleaned, ∀ dep ∈ st.dependsOn, dep ∈ cleaned.map (·.subtaskId)

theorem validateDecomposition_returns (unicode : UnicodeTable) (subtasks : List ModelSubtask)
    (endpointIds : List String) (contextWindowLimit : ℤ) : ∃ cleaned warnings rejection,
      validateDecomposition unicode subtasks endpointIds contextWindowLimit =
        some (.ok (cleaned, warnings, rejection)) ∧
      Judged endpointIds subtasks cleaned rejection := by
  rw [validateDecomposition]
  cases blank : subtasks.find? (PyText.stripString ·.description == "") with
  | some st =>
    exact ⟨_, _, _, rfl, .inl ⟨_, (messages_nonempty unicode st "").1, rfl⟩⟩
  | none =>
    cases dangling : firstDangling unicode
        ((subtasks.map (clean endpointIds)).map (·.subtaskId))
        (subtasks.map (clean endpointIds)) with
    | some reason =>
      simp only [dangling]
      obtain ⟨st, -, found⟩ := List.exists_of_findSome?_eq_some dangling
      obtain ⟨dep, -, rfl⟩ := Option.map_eq_some_iff.1 found
      exact ⟨_, _, _, rfl, .inl ⟨_, (messages_nonempty unicode st dep).2, rfl⟩⟩
    | none =>
      have known := firstDangling_none.1 dangling
      obtain ⟨reason, detected, outcome⟩ :=
        detectCycle_sound unicode (idToSubtask_closed known)
      simp only [dangling, detected]
      rcases outcome with ⟨-, rfl⟩ | ⟨-, sid, -, rfl⟩
      · exact ⟨_, _, _, rfl, .inr ⟨rfl, rfl, known⟩⟩
      · have truthy := @textTruthy_cycleDetected unicode sid
        rw [if_pos truthy]
        exact ⟨_, _, _, rfl, .inl ⟨_, bne_iff_ne.1 truthy, rfl⟩⟩

end

/-! ## The shape of planner output -/

section

variable (text : PlannerText)

/-- No entry of a list of dependencies is an infinite number. -/
def InfinityFree : PyValue → Prop
  | .list items => .float .posInf ∉ items ∧ .float .negInf ∉ items
  | _ => True

/-- Up to the first token count that is of no type for `int`, the counts are numbers. -/
def EntriesShaped : List PyDict → Prop
  | [] => True
  | entry :: rest =>
    InfinityFree (getOr entry "depends_on" (.list [])) ∧
      match toInt text (getOr entry "estimated_tokens" (.int 0)) with
      | .ok _ => EntriesShaped rest
      | .error raised => raised = .typeError

def SubtasksShaped : PyValue → Prop
  | .list items => ∃ entries : List PyDict, items = entries.map .dict ∧ EntriesShaped text entries
  | .dict entries => entries = []
  | .str value => value = ""
  | _ => True

/-- The output is no JSON, or an object whose subtasks are objects. -/
def Shaped : Loaded → Prop
  | .value value => ∃ data, value = .dict data ∧
      SubtasksShaped text (getOr data "subtasks" (.list []))
  | .malformed _ => True
  | .raised _ => False

/-- The value is no integer, or the index of a subtask. -/
def InRange (count : ℕ) (d : PyValue) : Prop :=
  ∀ depIdx, toInt text d = .ok depIdx → 0 ≤ depIdx ∧ depIdx < count

/-- The id that an entry of `depends_on` stands for. -/
def namedBy (subtaskIds : List String) (d : PyValue) : Option String :=
  match toInt text d with
  | .ok depIdx => subtaskAt subtaskIds depIdx
  | .error _ => some (strOf text d)

def Resolves (subtasks : List ModelSubtask) (entry : PyDict) (st : ModelSubtask) : Prop :=
  ∀ items, getOr entry "depends_on" (.list []) = .list items →
    ∀ d ∈ items, InRange text subtasks.length d →
      ∃ dep, namedBy text (subtasks.map (·.subtaskId)) d = some dep ∧ dep ∈ st.dependsOn ∧
        dep ∈ subtasks.map (·.subtaskId)

end

/-! ## Parsing -/

section

variable {text : PlannerText} {endpointIds subtaskIds : List String}

theorem resolveOne_ok {d : PyValue} (positive : d ≠ .float .posInf)
    (negative : d ≠ .float .negInf) : ∃ deps, resolveOne text subtaskIds d = .ok deps := by
  unfold resolveOne
  cases d with
  | float value =>
    cases value with
    | posInf => exact absurd rfl positive
    | negInf => exact absurd rfl negative
    | finite value => exact ⟨_, rfl⟩
    | nan => exact ⟨_, rfl⟩
  | str value =>
    rw [toInt]
    cases text.parseInt value <;> exact ⟨_, rfl⟩
  | none | bool _ | int _ | list _ | dict _ => exact ⟨_, rfl⟩

theorem resolveDependsOn_ok {rawDepends : PyValue} (free : InfinityFree rawDepends) :
    ∃ deps, resolveDependsOn text subtaskIds rawDepends = .ok deps := by
  cases rawDepends with
  | list items =>
    have returns : ∀ d ∈ items, ∃ deps, resolveOne text subtaskIds d = .ok deps := by
      intro d listed
      refine resolveOne_ok ?_ ?_
      · rintro rfl
        exact free.1 listed
      · rintro rfl
        exact free.2 listed
    obtain ⟨hits, walked⟩ := Search.exists_mapM_eq_ok.2 returns
    rw [resolveDependsOn, walked]
    exact ⟨_, rfl⟩
  | none | bool _ | int _ | float _ | str _ | dict _ => exact ⟨_, rfl⟩

theorem resolveDependsOn_names {items : List PyValue} {deps : List String} {d : PyValue}
    (resolved : resolveDependsOn text subtaskIds (.list items) = .ok deps) (listed : d ∈ items)
    (inRange : InRange text subtaskIds.length d) :
    ∃ dep, namedBy text subtaskIds d = some dep ∧ dep ∈ deps := by
  rw [resolveDependsOn, Raising.map_eq_ok] at resolved
  obtain ⟨hits, walked, rfl⟩ := resolved
  obtain ⟨hit, probed⟩ := Search.exists_mapM_eq_ok.1 ⟨hits, walked⟩ d listed
  have among : hit ∈ hits := (Search.mem_of_mapM walked hit).2 ⟨d, listed, probed⟩
  have added : ∀ dep, hit = [dep] → dep ∈ hits.flatten := by
    rintro dep rfl
    exact List.mem_flatten.2 ⟨[dep], among, List.mem_singleton.2 rfl⟩
  unfold resolveOne at probed
  unfold namedBy
  cases number : toInt text d with
  | ok depIdx =>
    rw [number] at probed
    dsimp only at probed ⊢
    obtain ⟨nonnegative, below⟩ := inRange depIdx number
    have within : depIdx.toNat < subtaskIds.length := by omega
    have found : subtaskAt subtaskIds depIdx = some subtaskIds[depIdx.toNat] := by
      rw [subtaskAt, if_pos nonnegative, List.getElem?_eq_getElem within]
    rw [found] at probed
    exact ⟨_, found, added _ (Except.ok.inj probed).symm⟩
  | error raised =>
    rw [number] at probed
    refine ⟨_, rfl, added _ ?_⟩
    cases raised <;> first | exact (Except.ok.inj probed).symm | cases probed

theorem parseEntry_eq {entry : PyDict × String} {deps : List String}
    (resolved : resolveDependsOn text subtaskIds (getOr entry.1 "depends_on" (.list [])) =
      .ok deps) :
    (∃ estimatedTokens, toInt text (getOr entry.1 "estimated_tokens" (.int 0)) =
        .ok estimatedTokens ∧
      ∃ st, parseEntry text endpointIds subtaskIds entry = .ok st ∧ st.subtaskId = entry.2 ∧
        st.dependsOn = deps) ∨
      ∃ raised, toInt text (getOr entry.1 "estimated_tokens" (.int 0)) = .error raised ∧
        parseEntry text endpointIds subtaskIds entry = .error raised := by
  unfold parseEntry
  dsimp only
  rw [resolved, Raising.bind_ok]
  cases counted : toInt text (getOr entry.1 "estimated_tokens" (.int 0)) with
  | ok estimatedTokens => exact .inl ⟨_, rfl, _, rfl, rfl, rfl⟩
  | error raised => exact .inr ⟨_, rfl, rfl⟩

def ReadFrom (text : PlannerText) (subtaskIds : List String) (entry : PyDict × String)
    (st : ModelSubtask) : Prop :=
  st.subtaskId = entry.2 ∧
    resolveDependsOn text subtaskIds (getOr entry.1 "depends_on" (.list [])) = .ok st.dependsOn

theorem parseEntries_shaped {entries : List (PyDict × String)}
    (shaped : EntriesShaped text (entries.map Prod.fst)) :
    (∃ subtasks, entries.mapM (parseEntry text endpointIds subtaskIds) = .ok subtasks ∧
        List.Forall₂ (ReadFrom text subtaskIds) entries subtasks) ∨
      entries.mapM (parseEntry text endpointIds subtaskIds) = .error .typeError := by
  induction entries with
  | nil => exact .inl ⟨[], rfl, .nil⟩
  | cons entry rest ih =>
    rw [List.map_cons, EntriesShaped] at shaped
    obtain ⟨free, counted⟩ := shaped
    obtain ⟨deps, resolved⟩ := @resolveDependsOn_ok text subtaskIds _ free
    rcases @parseEntry_eq text endpointIds subtaskIds entry deps resolved with
      ⟨estimatedTokens, number, st, parsed, own, depends⟩ | ⟨raised, failed, raises⟩
    · rw [number] at counted
      rcases ih counted with ⟨subtasks, walked, read⟩ | stops
      · refine .inl ⟨st :: subtasks, ?_, .cons ⟨own, depends ▸ resolved⟩ read⟩
        rw [Search.mapM_cons_ok parsed, walked]
        rfl
      · refine .inr ?_
        rw [Search.mapM_cons_ok parsed, stops]
        rfl
    · rw [failed] at counted
      refine .inr ?_
      rw [Search.mapM_cons_error raises, show raised = .typeError from counted]

theorem length_subtaskIdsOf (text : PlannerText) (hash : String) (entries : List PyDict) :
    (subtaskIdsOf text hash entries).length = entries.length := by
  rw [subtaskIdsOf, List.length_map, List.length_zipIdx]

theorem asObject_map (entries : List PyDict) :
    (entries.map PyValue.dict).mapM asObject = .ok entries := by
  refine Search.mapM_eq_ok.2 ?_
  rw [List.forall₂_map_left_iff]
  exact List.forall₂_same.2 fun _ _ => rfl

structure ReadOf (text : PlannerText) (originalTaskHash : String) (loaded : Loaded)
    (entries : List PyDict) (subtasks : List ModelSubtask) : Prop where
  output : ∃ data, loaded = .value (.dict data) ∧
    getOr data "subtasks" (.list []) = .list (entries.map .dict)
  read : List.Forall₂ (ReadFrom text (subtaskIdsOf text originalTaskHash entries))
    (entries.zip (subtaskIdsOf text originalTaskHash entries)) subtasks

theorem parseSubtasks_shaped {rawJson originalTaskHash : String}
    (shaped : Shaped text (text.loads rawJson)) :
    (∃ raised, parseSubtasks text rawJson originalTaskHash endpointIds = .error raised ∧
        raised.caught = true) ∨
      ∃ subtasks, parseSubtasks text rawJson originalTaskHash endpointIds = .ok subtasks ∧
        (subtasks = [] ∨
          ∃ entries, ReadOf text originalTaskHash (text.loads rawJson) entries subtasks) := by
  unfold parseSubtasks loadJson
  cases loaded : text.loads rawJson with
  | malformed reason => exact .inl ⟨_, rfl, rfl⟩
  | raised reason =>
    rw [loaded] at shaped
    exact shaped.elim
  | value value =>
    rw [loaded] at shaped
    obtain ⟨data, rfl, walk⟩ := shaped
    dsimp only
    rw [Raising.bind_ok, asObject, Raising.bind_ok]
    cases raw : getOr data "subtasks" (.list []) with
    | list items =>
      rw [raw] at walk
      obtain ⟨entries, rfl, counts⟩ := walk
      rw [enumerate, Raising.bind_ok, asObject_map, Raising.bind_ok]
      have firsts : (entries.zip (subtaskIdsOf text originalTaskHash entries)).map Prod.fst =
          entries := by
        refine List.map_fst_zip ?_
        rw [length_subtaskIdsOf]
      rcases @parseEntries_shaped text endpointIds
          (subtaskIdsOf text originalTaskHash entries) _ (firsts.symm ▸ counts) with
        ⟨subtasks, walked, read⟩ | stops
      · exact .inr ⟨subtasks, walked, .inr ⟨entries, ⟨data, rfl, raw⟩, read⟩⟩
      · exact .inl ⟨_, stops, rfl⟩
    | dict entries =>
      rw [raw] at walk
      obtain rfl : entries = [] := walk
      exact .inr ⟨[], rfl, .inl rfl⟩
    | str value =>
      rw [raw] at walk
      obtain rfl : value = "" := walk
      exact .inr ⟨[], rfl, .inl rfl⟩
    | none | bool _ | int _ | float _ => exact .inl ⟨_, rfl, rfl⟩

theorem readFrom_ids {entries : List (PyDict × String)}
    (read : List.Forall₂ (ReadFrom text subtaskIds) entries subtasks) :
    subtasks.map (·.subtaskId) = entries.map Prod.snd := by
  induction read with
  | nil => rfl
  | cons first _ ih => rw [List.map_cons, List.map_cons, ih, first.1]

theorem ReadOf.resolves {originalTaskHash : String} {loaded : Loaded} {entries : List PyDict}
    (read : ReadOf text originalTaskHash loaded entries subtasks)
    (known : ∀ st ∈ subtasks.map (clean endpointIds), ∀ dep ∈ st.dependsOn,
      dep ∈ (subtasks.map (clean endpointIds)).map (·.subtaskId)) :
    List.Forall₂ (Resolves text (subtasks.map (clean endpointIds))) entries
      (subtasks.map (clean endpointIds)) := by
  have sameLength := length_subtaskIdsOf text originalTaskHash entries
  have ids : subtasks.map (·.subtaskId) = subtaskIdsOf text originalTaskHash entries := by
    rw [readFrom_ids read.read, List.map_snd_zip (Nat.le_of_eq sameLength)]
  have count : (subtasks.map (clean endpointIds)).length =
      (subtaskIdsOf text originalTaskHash entries).length := by
    rw [← ids, List.length_map, List.length_map]
  have firsts : (entries.zip (subtaskIdsOf text originalTaskHash entries)).map Prod.fst =
      entries := List.map_fst_zip (Nat.le_of_eq sameLength.symm)
  rw [List.forall₂_map_right_iff]
  have declared : List.Forall₂ (fun entry st =>
      resolveDependsOn text (subtaskIdsOf text originalTaskHash entries)
        (getOr entry "depends_on" (.list [])) = .ok st.dependsOn)
      ((entries.zip (subtaskIdsOf text originalTaskHash entries)).map Prod.fst) subtasks :=
    List.forall₂_map_left_iff.2 (read.read.imp fun _ _ pair => pair.2)
  rw [firsts] at declared
  obtain ⟨lengths, each⟩ := List.forall₂_iff_zip.1 declared
  refine List.forall₂_iff_zip.2 ⟨lengths, ?_⟩
  intro entry st paired items listed d among inRange
  have resolved := each paired
  rw [listed] at resolved
  have within : InRange text (subtaskIdsOf text originalTaskHash entries).length d :=
    count ▸ inRange
  obtain ⟨dep, named, depends⟩ := resolveDependsOn_names resolved among within
  refine ⟨dep, ?_, ?_, ?_⟩
  · rw [map_clean_subtaskId, ids]
    exact named
  · rw [clean_dependsOn]
    exact depends
  · refine known (clean endpointIds st) (List.mem_map_of_mem (List.of_mem_zip paired).2) dep ?_
    rw [clean_dependsOn]
    exact depends

end

/-! ## The handler -/

structure Sensible (env : DecomposerEnv) (request : ModelSwarmDecomposeRequest)
    (result : ModelSwarmDecomposeResult) : Prop where
  status : result.status = .succeeded ∨ result.status = .failedFallbackPassthrough
  resolved : result.status = .succeeded → ∃ data entries,
    env.text.loads request.plannerOutput.value = .value (.dict data) ∧
      getOr data "subtasks" (.list []) = .list (entries.map .dict) ∧
      List.Forall₂ (Resolves env.text result.decomposition.subtasks) entries
        result.decomposition.subtasks

theorem passthrough_sensible (env : DecomposerEnv) (request : ModelSwarmDecomposeRequest)
    (warnings : List String) :
    Sensible env request (passthrough env request .failedFallbackPassthrough warnings) :=
  ⟨.inr rfl, nofun⟩

theorem decomposed_sensible {env : DecomposerEnv} {request : ModelSwarmDecomposeRequest}
    (read : subtasks = [] ∨ ∃ entries, ReadOf env.text (taskHash env request)
      (env.text.loads request.plannerOutput.value) entries subtasks) :
    ∃ result, decomposed env request subtasks = some (.ok result) ∧
      Sensible env request result := by
  unfold decomposed
  cases subtasks with
  | nil => exact ⟨_, rfl, passthrough_sensible env request []⟩
  | cons first rest =>
    obtain ⟨entries, readOf⟩ := read.resolve_left (List.cons_ne_nil _ _)
    obtain ⟨cleaned, warnings, rejection, validated, judged⟩ :=
      validateDecomposition_returns env.unicode (first :: rest) request.endpointIds
        request.contextWindowLimit
    rw [List.isEmpty_cons, if_neg Bool.false_ne_true, validated]
    rcases judged with ⟨reason, nonempty, rfl⟩ | ⟨rfl, rfl, known⟩
    · dsimp only
      rw [if_pos (bne_iff_ne.2 nonempty)]
      exact ⟨_, rfl, passthrough_sensible env request [reason]⟩
    · obtain ⟨data, loaded, listed⟩ := readOf.output
      exact ⟨_, rfl, .inl rfl, fun _ => ⟨data, entries, loaded, listed, readOf.resolves known⟩⟩

/-- A short task is passed through. Otherwise planner output of the expected shape gives a
result, and an accepted decomposition keeps the dependencies. -/
theorem handle_robust (env : DecomposerEnv) (request : ModelSwarmDecomposeRequest)
    (on : request.decompose = true) :
    (belowThreshold request = true → ∃ result, handle env request = some (.ok result) ∧
        result.status = .passthroughTokenThreshold) ∧
      (belowThreshold request = false →
        Shaped env.text (env.text.loads request.plannerOutput.value) →
        ∃ result, handle env request = some (.ok result) ∧ Sensible env request result) := by
  unfold handle
  rw [on]
  constructor
  · intro short
    rw [short]
    exact ⟨_, rfl, rfl⟩
  · intro long shaped
    rw [long, if_neg (by decide), if_neg Bool.false_ne_true]
    rcases @parseSubtasks_shaped env.text request.endpointIds _ (taskHash env request) shaped with
      ⟨raised, failed, caught⟩ | ⟨subtasks, parsed, read⟩
    · rw [failed]
      dsimp only
      rw [if_pos caught]
      exact decomposed_sensible (.inl rfl)
    · rw [parsed]
      exact decomposed_sensible read

/-! ## A chain of two subtasks -/

def chainText : String :=
  "\x7b\"subtasks\": [\x7b\"description\": \"read the notes\"\x7d, " ++
    "\x7b\"description\": \"write the summary\", \"depends_on\": [0]\x7d]\x7d"

def readNotes : PyDict := [("description", .str "read the notes")]

def plannerLoads (raw : String) : Loaded :=
  if raw = chainText then
    .value (.dict [("subtasks", .list [.dict readNotes,
      .dict [("description", .str "write the summary"), ("depends_on", .list [.int 0])]])])
  else .malformed "Expecting value: line 1 column 1 (char 0)"

/-- The digests of the texts that the output leads to. -/
def plannerSha256 (value : String) : String :=
  if value = "5f2b" then "536b2ffbe8fd00063b50f50f1e5e05b880acb61359280a1aec791de074eb22f4"
  else if value = "read the notes" then
    "6b8bb0c3265975a5d7c62a7ba9172013cc747379113e83a54949f5a19d375aa2"
  else if value = "write the summary" then
    "5374b667110bb678c8d2e55f4299c1d47d0b98aa277ee3c2449a56f4d968d71a"
  else if value = "536b2ffbe8fd00060" ++
      "6b8bb0c3265975a5d7c62a7ba9172013cc747379113e83a54949f5a19d375aa2" then
    "5a159e8d3dd0a1ba882125823e96618aa4870de919db5f18f97b072a4872f0c8"
  else if value = "536b2ffbe8fd00061" ++
      "5374b667110bb678c8d2e55f4299c1d47d0b98aa277ee3c2449a56f4d968d71a" then
    "39e12c17789b8a6a62774b6e766684175f838774220748441cc87a6935b18064"
  else "e3b0c44298fc1c149afbf4c8996fb92427ae41e4649b934ca495991b7852b855"

def plannerEnv : DecomposerEnv where
  text :=
    { loads := plannerLoads
      strValue := fun _ => ""
      parseInt := fun _ => none
      sha256 := plannerSha256 }
  unicode := PyText.asciiTable
  internalRunId := "7d1c0a3e-8f6b-4b57-9a0e-0d4f0a2f6c11"
  freshCorrelationId := "b1a8e1d2-5a64-4f0e-8d1f-9e1f3f7c2a55"

def plannerRequest (plannerOutput : NonEmptyString) : ModelSwarmDecomposeRequest where
  plannerOutput := plannerOutput
  plannerModelId := ⟨"planner", by decide⟩
  plannerOutputHash := ⟨"5f2b", by decide⟩

/-- A short task is passed through whatever the planner says, with a third status. -/
theorem short_task_passed_through :
    (handle plannerEnv { plannerRequest ⟨chainText, by decide⟩ with
      originalTask := "sum up" }).map (·.map (·.status)) =
        some (.ok .passthroughTokenThreshold) := by
  decide +kernel

theorem handle_robust_chain :
    ∃ result, handle plannerEnv (plannerRequest ⟨chainText, by decide⟩) = some (.ok result) ∧
      Sensible plannerEnv (plannerRequest ⟨chainText, by decide⟩) result := by
  refine (handle_robust plannerEnv (plannerRequest ⟨chainText, by decide⟩) rfl).2 rfl ?_
  have loaded : plannerLoads chainText =
      .value (.dict [("subtasks", .list [.dict readNotes,
        .dict [("description", .str "write the summary"), ("depends_on", .list [.int 0])]])]) := by
    unfold plannerLoads
    rw [if_pos rfl]
  show Shaped plannerEnv.text (plannerLoads chainText)
  rw [loaded]
  refine ⟨_, rfl, [readNotes, _], rfl, ?_, ?_, trivial⟩
  · exact ⟨nofun, nofun⟩
  · exact ⟨by decide, by decide⟩

end OmniMarket.SwarmDecomposer
