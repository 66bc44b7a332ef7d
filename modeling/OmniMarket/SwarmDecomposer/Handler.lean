import OmniMarket.Lib.OrderedDict
import OmniMarket.Lib.PyText
import OmniMarket.Lib.PyValue

/-!
# Validation of a decomposition

`validate_decomposition` rejects a list of subtasks with a blank description, a dangling
dependency or a cycle, in this order. `_detect_cycle` colours the subtasks by a recursive
depth-first search; `none` is a recursion that does not end, an error the key of a `KeyError`.
-/

namespace OmniMarket.SwarmDecomposer

inductive EnumSubtaskCategory
  | code | reasoning | synthesis | analysis | planning | general
deriving DecidableEq

def EnumSubtaskCategory.value : EnumSubtaskCategory → String
  | .code => "code"
  | .reasoning => "reasoning"
  | .synthesis => "synthesis"
  | .analysis => "analysis"
  | .planning => "planning"
  | .general => "general"

structure ModelSubtask where
  subtaskId : String
  description : String
  modelAffinity : String
  dependsOn : List String := []
  estimatedTokens : ℤ := 0
  tokenEstimationMethod : String := "char_ratio"
  category : EnumSubtaskCategory := .general
deriving DecidableEq

/-! ## The search for a cycle -/

inductive Color
  | white | gray | black
deriving DecidableEq

abbrev Colors := OrderedDict String Color

/-- The loop of `dfs` over the dependencies of a subtask. -/
def dfsDependencies (dfs : Colors → String → Option (Except String (Bool × Colors))) :
    Colors → List String → Option (Except String (Bool × Colors))
  | color, [] => some (.ok (false, color))
  | color, dep :: rest =>
    match color.get? dep with
    | none => dfsDependencies dfs color rest
    | some .gray => some (.ok (true, color))
    | some .black => dfsDependencies dfs color rest
    | some .white =>
      match dfs color dep with
      | none => none
      | some (.error missing) => some (.error missing)
      | some (.ok (true, color)) => some (.ok (true, color))
      | some (.ok (false, color)) => dfsDependencies dfs color rest

def dfs (idToSubtask : OrderedDict String ModelSubtask) :
    ℕ → Colors → String → Option (Except String (Bool × Colors))
  | 0, _, _ => none
  | fuel + 1, color, nodeId =>
    match idToSubtask.get? nodeId with
    | none => some (.error nodeId)
    | some subtask =>
      match dfsDependencies (dfs idToSubtask fuel) (color.set nodeId .gray)
          subtask.dependsOn with
      | none => none
      | some (.error missing) => some (.error missing)
      | some (.ok (true, color)) => some (.ok (true, color))
      | some (.ok (false, color)) => some (.ok (false, color.set nodeId .black))

section

variable (unicode : UnicodeTable)

def cycleDetected (sid : String) : String :=
  "dependency cycle detected involving subtask " ++ PyText.reprString unicode sid

/-- The loop of `_detect_cycle` over the subtasks. -/
def detectFrom (dfs : Colors → String → Option (Except String (Bool × Colors))) :
    Colors → List String → Option (Except String (Option String))
  | _, [] => some (.ok none)
  | color, sid :: rest =>
    if color.get? sid = some .white then
      match dfs color sid with
      | none => none
      | some (.error missing) => some (.error missing)
      | some (.ok (true, _)) => some (.ok (some (cycleDetected unicode sid)))
      | some (.ok (false, color)) => detectFrom dfs color rest
    else detectFrom dfs color rest

def detectCycle (idToSubtask : OrderedDict String ModelSubtask) :
    Option (Except String (Option String)) :=
  detectFrom unicode (dfs idToSubtask (idToSubtask.size + 1))
    (idToSubtask.mapValues fun _ => Color.white) idToSubtask.keys

/-! ## The checks in order -/

def emptyDescription (st : ModelSubtask) : String :=
  "subtask " ++ PyText.reprString unicode st.subtaskId ++ " has empty description"

def unknownAffinityCleared (st : ModelSubtask) : String :=
  "subtask " ++ PyText.reprString unicode st.subtaskId ++ " has unknown model_affinity " ++
    PyText.reprString unicode st.modelAffinity ++ "; cleared"

def danglingDependency (st : ModelSubtask) (dep : String) : String :=
  "subtask " ++ PyText.reprString unicode st.subtaskId ++ " has dangling dependency " ++
    PyText.reprString unicode dep

def exceedsContextWindow (contextWindowLimit : ℤ) (st : ModelSubtask) : String :=
  "subtask " ++ PyText.reprString unicode st.subtaskId ++ " estimated_tokens " ++
    toString st.estimatedTokens ++ " exceeds context_window_limit " ++
    toString contextWindowLimit ++ "; dispatcher will handle"

/-- `st.model_affinity and endpoint_ids and st.model_affinity not in endpoint_ids`. -/
def unknownAffinity (endpointIds : List String) (st : ModelSubtask) : Bool :=
  st.modelAffinity != "" && !endpointIds.isEmpty && !endpointIds.contains st.modelAffinity

def clean (endpointIds : List String) (st : ModelSubtask) : ModelSubtask :=
  if unknownAffinity endpointIds st then { st with modelAffinity := "" } else st

def firstDangling (knownIds : List String) (cleaned : List ModelSubtask) : Option String :=
  cleaned.findSome? fun st =>
    (st.dependsOn.find? (!knownIds.contains ·)).map (danglingDependency unicode st)

/-- `{st.subtask_id: st for st in cleaned}`. -/
def idToSubtask (cleaned : List ModelSubtask) : OrderedDict String ModelSubtask :=
  .foldByKey ModelSubtask.subtaskId (fun _ st => st) .empty cleaned

/-- The subtasks kept, the warnings and the reason of a rejection. -/
abbrev Validated := List ModelSubtask × List String × Option String

def validateDecomposition (subtasks : List ModelSubtask) (endpointIds : List String)
    (contextWindowLimit : ℤ) : Option (Except String Validated) :=
  match subtasks.find? (PyText.stripString ·.description == "") with
  | some st => some (.ok ([], [], some (emptyDescription unicode st)))
  | none =>
    let warnings := (subtasks.filter (unknownAffinity endpointIds)).map
      (unknownAffinityCleared unicode)
    let cleaned := subtasks.map (clean endpointIds)
    let knownIds := cleaned.map (·.subtaskId)
    match firstDangling unicode knownIds cleaned with
    | some reason => some (.ok ([], warnings, some reason))
    | none =>
      match detectCycle unicode (idToSubtask cleaned) with
      | none => none
      | some (.error missing) => some (.error missing)
      | some (.ok cycleReason) =>
        if PyText.textTruthy cycleReason then some (.ok ([], warnings, cycleReason))
        else
          let exceeding := if contextWindowLimit > 0 then
              cleaned.filter (·.estimatedTokens > contextWindowLimit)
            else []
          some (.ok (cleaned,
            warnings ++ exceeding.map (exceedsContextWindow unicode contextWindowLimit), none))

end

/-!
# The swarm decomposer

`HandlerSwarmDecomposer` reads the output of a planner: `_parse_subtasks` walks untyped JSON, and
the handler falls back on the whole task as one subtask when it finds none, when a JSON, key or
type error is raised, or when the decomposition is rejected. Other exceptions leave the handler.
`json.loads`, `int` and `str` of values, `sha256` and the fresh ids are parameters.
-/

inductive PyError
  | jsonDecode (text : String)
  | keyError (key : String)
  | typeError
  | attributeError
  | valueError
  | overflowError
  | other (text : String)
deriving DecidableEq

/-- `except (json.JSONDecodeError, KeyError, TypeError)`. -/
def PyError.caught : PyError → Bool
  | .jsonDecode _ | .keyError _ | .typeError => true
  | _ => false

structure PlannerText where
  loads : String → Loaded
  /-- `str(v)` of a value that is no text. -/
  strValue : PyValue → String
  /-- `int(text)`; `none` is the value error. -/
  parseInt : String → Option ℤ
  /-- `hashlib.sha256(text.encode()).hexdigest()`. -/
  sha256 : String → String

structure ModelSwarmDecomposeRequest where
  plannerOutput : NonEmptyString
  plannerModelId : NonEmptyString
  plannerOutputHash : NonEmptyString
  endpointIds : List String := []
  originalTask : String := ""
  correlationId : String := ""
  runId : String := ""
  decompose : Bool := true
  tokenThreshold : ℤ := 2000
  contextWindowLimit : ℤ := 0

inductive EnumDecompositionStatus
  | succeeded | failedFallbackPassthrough | passthroughTokenThreshold | passthroughCallerDisabled
deriving DecidableEq

structure ModelDecomposition where
  originalTask : String
  originalTaskHash : String
  subtasks : List ModelSubtask
  decompositionModel : String
  decompositionEndpointId : String
  decompositionLatencyMs : ℤ
  decompositionStatus : EnumDecompositionStatus
  decompositionRunId : String
  correlationId : String := ""
  warnings : List String := []
deriving DecidableEq

structure ModelSwarmDecomposeResult where
  decomposition : ModelDecomposition
  status : EnumDecompositionStatus
  warnings : List String := []
  runId : String := ""
deriving DecidableEq

/-! ## Reading untyped JSON -/

section

variable (text : PlannerText)

/-- `str(v)`. -/
def strOf : PyValue → String
  | .str value => value
  | value => text.strValue value

/-- `int(q)` of a finite double. -/
def truncate (value : ℚ) : ℤ := if 0 ≤ value then ⌊value⌋ else ⌈value⌉

/-- `int(v)`. -/
def toInt : PyValue → Except PyError ℤ
  | .bool value => .ok (if value then 1 else 0)
  | .int value => .ok value
  | .float (.finite value) => .ok (truncate value)
  | .float .nan => .error .valueError
  | .float _ => .error .overflowError
  | .str value =>
    match text.parseInt value with
    | some number => .ok number
    | none => .error .valueError
  | .none | .list _ | .dict _ => .error .typeError

/-- `v.get`, which objects alone have. -/
def asObject : PyValue → Except PyError PyDict
  | .dict entries => .ok entries
  | _ => .error .attributeError

/-- `d.get(key, default)`. -/
def getOr (entries : PyDict) (key : String) (default : PyValue) : PyValue :=
  (entries.get? key).getD default

/-- The items of `enumerate(v)`. -/
def enumerate : PyValue → Except PyError (List PyValue)
  | .list items => .ok items
  | .dict entries => .ok (entries.map fun entry => .str entry.1)
  | .str value => .ok (value.toList.map fun c => .str (String.singleton c))
  | _ => .error .typeError

def loadJson (raw : String) : Except PyError PyValue :=
  match text.loads raw with
  | .value value => .ok value
  | .malformed reason => .error (.jsonDecode reason)
  | .raised reason => .error (.other reason)

/-! ## Subtasks -/

/-- `hexdigest()[:16]`. -/
def shortHash (value : String) : String := String.ofList ((text.sha256 value).toList.take 16)

def makeSubtaskId (originalTaskHash : String) (subtaskIndex : ℕ) (description : String) :
    String :=
  shortHash text (originalTaskHash ++ toString subtaskIndex ++ text.sha256 description)

def passthroughSubtask (task taskHash : String) : ModelSubtask where
  subtaskId := makeSubtaskId text taskHash 0 task
  description := task
  modelAffinity := ""

def describe (entry : PyDict) : String := strOf text (getOr entry "description" (.str ""))

def subtaskIdsOf (originalTaskHash : String) (rawSubtasks : List PyDict) : List String :=
  rawSubtasks.zipIdx.map fun (entry, index) =>
    makeSubtaskId text originalTaskHash index (describe text entry)

/-- `subtask_ids[dep_idx]` if `0 <= dep_idx < len(subtask_ids)`. -/
def subtaskAt (subtaskIds : List String) (depIdx : ℤ) : Option String :=
  if 0 ≤ depIdx then subtaskIds[depIdx.toNat]? else none

/-- What one entry of `depends_on` adds to the dependencies. -/
def resolveOne (subtaskIds : List String) (d : PyValue) : Except PyError (List String) :=
  match toInt text d with
  | .ok depIdx => .ok (subtaskAt subtaskIds depIdx).toList
  | .error .valueError | .error .typeError => .ok [strOf text d]
  | .error raised => .error raised

def resolveDependsOn (subtaskIds : List String) (rawDepends : PyValue) :
    Except PyError (List String) :=
  match rawDepends with
  | .list items => (items.mapM (resolveOne text subtaskIds)).map List.flatten
  | _ => .ok []

def categoryOf (rawCategory : String) : EnumSubtaskCategory :=
  ([.code, .reasoning, .synthesis, .analysis, .planning, .general].find?
    fun category : EnumSubtaskCategory => category.value == rawCategory).getD .general

/-- The body of the loop of `_parse_subtasks`. -/
def parseEntry (endpointIds subtaskIds : List String) (entry : PyDict × String) :
    Except PyError ModelSubtask := do
  let modelAffinity := strOf text (getOr entry.1 "model_affinity" (.str ""))
  let dependsOn ← resolveDependsOn text subtaskIds (getOr entry.1 "depends_on" (.list []))
  let estimatedTokens ← toInt text (getOr entry.1 "estimated_tokens" (.int 0))
  return {
    subtaskId := entry.2
    description := describe text entry.1
    modelAffinity :=
      if modelAffinity != "" && !endpointIds.contains modelAffinity then "" else modelAffinity
    dependsOn := dependsOn
    estimatedTokens := estimatedTokens
    tokenEstimationMethod :=
      strOf text (getOr entry.1 "token_estimation_method" (.str "char_ratio"))
    category := categoryOf (strOf text (getOr entry.1 "category" (.str "general"))) }

def parseSubtasks (rawJson originalTaskHash : String) (endpointIds : List String) :
    Except PyError (List ModelSubtask) := do
  let value ← loadJson text rawJson
  let data ← asObject value
  let items ← enumerate (getOr data "subtasks" (.list []))
  let rawSubtasks ← items.mapM asObject
  let subtaskIds := subtaskIdsOf text originalTaskHash rawSubtasks
  (rawSubtasks.zip subtaskIds).mapM (parseEntry text endpointIds subtaskIds)

end

/-! ## The handler -/

/-- What the handler takes from outside; the ids are fresh for each call. -/
structure DecomposerEnv where
  text : PlannerText
  unicode : UnicodeTable
  internalRunId : String
  freshCorrelationId : String

section

variable (env : DecomposerEnv) (request : ModelSwarmDecomposeRequest)

def taskHash : String :=
  shortHash env.text
    (if request.originalTask != "" then request.originalTask
      else request.plannerOutputHash.value)

/-- The result of each branch of the handler. -/
def resultWith (status : EnumDecompositionStatus) (subtasks : List ModelSubtask)
    (warnings : List String) : ModelSwarmDecomposeResult where
  decomposition :=
    { originalTask := request.originalTask
      originalTaskHash := taskHash env request
      subtasks := subtasks
      decompositionModel := request.plannerModelId.value
      decompositionEndpointId := request.endpointIds.headD ""
      decompositionLatencyMs := 0
      decompositionStatus := status
      decompositionRunId := env.internalRunId
      correlationId :=
        if request.correlationId != "" then request.correlationId else env.freshCorrelationId
      warnings := warnings }
  status := status
  warnings := warnings
  runId := if request.runId != "" then request.runId else env.internalRunId

def passthrough (status : EnumDecompositionStatus) (warnings : List String) :
    ModelSwarmDecomposeResult :=
  resultWith env request status
    [passthroughSubtask env.text request.originalTask (taskHash env request)] warnings

/-- `original_task and len(original_task) < request.token_threshold`. -/
def belowThreshold : Bool :=
  request.originalTask != "" && decide ((request.originalTask.length : ℤ) < request.tokenThreshold)

/-- The handler after the subtasks are parsed. -/
def decomposed (subtasks : List ModelSubtask) :
    Option (Except PyError ModelSwarmDecomposeResult) :=
  if subtasks.isEmpty then some (.ok (passthrough env request .failedFallbackPassthrough []))
  else
    match validateDecomposition env.unicode subtasks request.endpointIds
        request.contextWindowLimit with
    | none => none
    | some (.error missing) => some (.error (.keyError missing))
    | some (.ok (cleaned, warns, rejection)) =>
      match rejection with
      | none => some (.ok (resultWith env request .succeeded cleaned warns))
      | some reason =>
        if reason != "" then
          some (.ok (passthrough env request .failedFallbackPassthrough [reason]))
        else some (.ok (resultWith env request .succeeded cleaned warns))

/-- `handle`; `none` is a recursion that does not end. -/
def handle : Option (Except PyError ModelSwarmDecomposeResult) :=
  if !request.decompose then some (.ok (passthrough env request .passthroughCallerDisabled []))
  else if belowThreshold request then
    some (.ok (passthrough env request .passthroughTokenThreshold []))
  else
    match parseSubtasks env.text request.plannerOutput.value (taskHash env request)
        request.endpointIds with
    | .ok subtasks => decomposed env request subtasks
    | .error raised => if raised.caught then decomposed env request [] else some (.error raised)

end

end OmniMarket.SwarmDecomposer
