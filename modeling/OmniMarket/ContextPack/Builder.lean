import Mathlib.Data.List.Sort
import Mathlib.Data.Prod.Lex
import Mathlib.Data.String.Basic
import OmniMarket.Lib.OrderedDict
import OmniMarket.Lib.PyText
import OmniMarket.Lib.PyValue

/-!
# Building a context pack

`HandlerContextPackBuilder.handle` orders the artifacts that are not excluded, turns them into
chunks and hashes the pack. The factors, the provenances, the digest, the chunk ids and the dumps
come from other packages and are parameters.
-/

namespace OmniMarket.ContextPack

variable {Factor Provenance : Type} [DecidableEq Factor]

/-! ## The request -/

structure ModelContextPackArtifact (Factor Provenance : Type) where
  factor : Factor
  content : NonEmptyString
  tokenEstimate : ℕ
  provenance : Provenance
  sourceArtifactHash : NonEmptyString
  sourceTicketId : Option String := none
  sourceContractHash : NonEmptyString
  sourceRunId : Option String := none
  sourcePriority : ℕ := 100

/-- The last three fields are the checks of the source's model. -/
structure ModelContextProfile (Factor : Type) where
  profileSchemaVersion : NonEmptyString := ⟨"1.0.0", by decide⟩
  profileVersion : NonEmptyString := ⟨"1.0.0", by decide⟩
  modelId : NonEmptyString
  requiredFactors : List Factor := []
  optionalFactors : List Factor := []
  excludedFactors : List Factor := []
  factorPrecedence : List Factor := []
  tokenBudget : ℕ := 16000
  tokenEstimationMethod : NonEmptyString := ⟨"heuristic_chars", by decide⟩
  tokenizerSource : NonEmptyString := ⟨"heuristic", by decide⟩
  tokenizerVersion : NonEmptyString := ⟨"1.0.0", by decide⟩
  estimationAccuracy : NonEmptyString := ⟨"estimated", by decide⟩
  budgetPositive : 0 < tokenBudget
  requiredKept : ∀ factor ∈ requiredFactors, factor ∉ excludedFactors
  optionalKept : ∀ factor ∈ optionalFactors, factor ∉ excludedFactors

structure ModelContextPackBuilderRequest (Factor Provenance : Type) where
  contractHash : NonEmptyString
  generatedAt : NonEmptyString
  profile : ModelContextProfile Factor
  artifacts : List (ModelContextPackArtifact Factor Provenance) := []

/-! ## The result -/

structure ModelContextChunk (Factor Provenance : Type) where
  chunkId : String
  factor : Factor
  content : String
  tokenEstimate : ℕ
  tokenEstimationMethod : String
  tokenizerSource : String
  tokenizerVersion : String
  estimationAccuracy : String
  provenance : Provenance
  sourceArtifactHash : String
  sourceTicketId : Option String
  sourceContractHash : String
  sourceRunId : Option String

structure ModelContextPack (Factor Provenance : Type) where
  packId : String
  contractHash : String
  modelId : String
  chunks : List (ModelContextChunk Factor Provenance)
  totalTokenEstimate : ℕ
  generatedAt : String
  profileVersion : String

inductive EnumContextPackBuilderStatus where
  | ok
  | failed
deriving DecidableEq

inductive EnumContextPackFailure where
  | requiredFactorMissing
  | artifactHashMismatch
  | tokenBudgetExceeded

structure ModelContextPackBuilderResult (Factor Provenance : Type) where
  status : EnumContextPackBuilderStatus
  contextPack : Option (ModelContextPack Factor Provenance) := none
  packHash : Option String := none
  failureClass : Option EnumContextPackFailure := none
  errors : List String := []

/-- What the builder takes from other packages. -/
structure PackEnv (Factor Provenance : Type) where
  /-- `factor.value`. -/
  factorValue : Factor → String
  /-- `hashlib.sha256(text.encode("utf-8")).hexdigest()`. -/
  sha256 : String → String
  /-- `compute_chunk_id`. -/
  computeChunkId : Factor → String → String
  /-- `json.dumps(payload, sort_keys=True, separators=(",", ":"), default=str)`. -/
  dumpsStable : PyDict → String
  /-- `chunk.model_dump(mode="json")`. -/
  dumpChunk : ModelContextChunk Factor Provenance → PyDict
  /-- `context_pack.model_dump(mode="json")`. -/
  dumpPack : ModelContextPack Factor Provenance → PyDict

/-! ## The builder -/

variable (env : PackEnv Factor Provenance)

def hashJson (payload : PyDict) : String := env.sha256 (env.dumpsStable payload)

def failure (failureClass : EnumContextPackFailure) (error : String) :
    ModelContextPackBuilderResult Factor Provenance where
  status := .failed
  failureClass := some failureClass
  errors := [error]

section

variable (profile : ModelContextProfile Factor)

/-- The last place of each listed factor. -/
def precedence : OrderedDict Factor ℕ :=
  let ordered :=
    if profile.factorPrecedence.isEmpty then profile.requiredFactors ++ profile.optionalFactors
    else profile.factorPrecedence
  ordered.zipIdx.foldl (fun ranks entry => ranks.set entry.1 entry.2) .empty

def rank (factor : Factor) : ℕ :=
  ((precedence profile).get? factor).getD (precedence profile).size

def sortKey (artifact : ModelContextPackArtifact Factor Provenance) :
    ℕ ×ₗ (ℕ ×ₗ (String ×ₗ String)) :=
  toLex (rank profile artifact.factor, toLex (artifact.sourcePriority,
    toLex (artifact.sourceArtifactHash.value, env.sha256 artifact.content.value)))

section

variable (artifacts : List (ModelContextPackArtifact Factor Provenance))

def included :
    List (ModelContextPackArtifact Factor Provenance) :=
  artifacts.filter fun artifact => artifact.factor ∉ profile.excludedFactors

def orderedArtifacts (profile : ModelContextProfile Factor) :
    List (ModelContextPackArtifact Factor Provenance) :=
  (included profile artifacts).insertionSort fun first second =>
    sortKey env profile first ≤ sortKey env profile second

def missingRequiredFactors (profile : ModelContextProfile Factor) : List Factor :=
  profile.requiredFactors.filter fun factor =>
    factor ∉ artifacts.map ModelContextPackArtifact.factor

end

/-- One step of `_chunks`. -/
def chunkOf (artifact : ModelContextPackArtifact Factor Provenance) :
    ModelContextChunk Factor Provenance where
  chunkId := env.computeChunkId artifact.factor artifact.content.value
  factor := artifact.factor
  content := artifact.content.value
  tokenEstimate := artifact.tokenEstimate
  tokenEstimationMethod := profile.tokenEstimationMethod.value
  tokenizerSource := profile.tokenizerSource.value
  tokenizerVersion := profile.tokenizerVersion.value
  estimationAccuracy := profile.estimationAccuracy.value
  provenance := artifact.provenance
  sourceArtifactHash := artifact.sourceArtifactHash.value
  sourceTicketId := artifact.sourceTicketId
  sourceContractHash := artifact.sourceContractHash.value
  sourceRunId := artifact.sourceRunId

end

def chunks (artifacts : List (ModelContextPackArtifact Factor Provenance))
    (profile : ModelContextProfile Factor) : List (ModelContextChunk Factor Provenance) :=
  artifacts.map (chunkOf env profile)

/-- `_duplicate_chunk_ids`, with the ids seen so far. -/
def duplicateChunkIds (seen : List String) :
    List (ModelContextChunk Factor Provenance) → List String
  | [] => []
  | chunk :: rest =>
    let later := duplicateChunkIds (chunk.chunkId :: seen) rest
    if chunk.chunkId ∈ seen then chunk.chunkId :: later else later

section

variable (request : ModelContextPackBuilderRequest Factor Provenance)

def packId (chunks : List (ModelContextChunk Factor Provenance)) : String :=
  "pack_" ++ String.ofList ((hashJson env [
    ("contract_hash", .str request.contractHash.value),
    ("model_id", .str request.profile.modelId.value),
    ("profile_schema_version", .str request.profile.profileSchemaVersion.value),
    ("profile_version", .str request.profile.profileVersion.value),
    ("chunks", .list (chunks.map fun chunk => .dict (env.dumpChunk chunk)))]).toList.take 16)

/-- `ModelContextPack(...)` in `handle`. -/
def contextPack (chunks : List (ModelContextChunk Factor Provenance)) :
    ModelContextPack Factor Provenance where
  packId := packId env request chunks
  contractHash := request.contractHash.value
  modelId := request.profile.modelId.value
  chunks := chunks
  totalTokenEstimate := (chunks.map ModelContextChunk.tokenEstimate).sum
  generatedAt := request.generatedAt.value
  profileVersion := request.profile.profileVersion.value

def handle :
    ModelContextPackBuilderResult Factor Provenance :=
  let missing := missingRequiredFactors request.artifacts request.profile
  if !missing.isEmpty then
    failure .requiredFactorMissing
      ("missing required factors: " ++ ", ".intercalate (missing.map env.factorValue))
  else
    let chunks := chunks env (orderedArtifacts env request.artifacts request.profile)
      request.profile
    let duplicateIds := duplicateChunkIds [] chunks
    if !duplicateIds.isEmpty then
      failure .artifactHashMismatch ("duplicate chunk ids: " ++ ", ".intercalate duplicateIds)
    else
      let totalTokens := (chunks.map ModelContextChunk.tokenEstimate).sum
      if totalTokens > request.profile.tokenBudget then
        failure .tokenBudgetExceeded
          ("token estimate " ++ toString totalTokens ++ " exceeds budget " ++
            toString request.profile.tokenBudget)
      else
        { status := .ok
          contextPack := some (contextPack env request chunks)
          packHash := some (hashJson env (env.dumpPack (contextPack env request chunks))) }

end

end OmniMarket.ContextPack
