import Mathlib.Data.List.Sort
import Mathlib.Data.Prod.Lex
import Mathlib.Data.String.Basic
import OmniMarket.Lib.OrderedDict
import OmniMarket.Lib.PyText

/-!
# The PR ledger

A ledger entry is folded from the source events of one PR. `InMemoryPrLedgerStore` folds events
as they arrive, `ProjectionDatabasePrLedgerStore` keeps the entries as rows of a keyed table,
and `reconstruct_pr_ledger` folds a log of events. A UUID and a timestamp are texts.
-/

namespace OmniMarket.PrLedger

inductive EnumPrLedgerEventKind where
  | prInventoried
  | workflowRunObserved
  | mergeGroupShaMinted
  | rerunAttempted
  | finalConclusion
deriving DecidableEq

def EnumPrLedgerEventKind.value : EnumPrLedgerEventKind → String
  | .prInventoried => "pr_inventoried"
  | .workflowRunObserved => "workflow_run_observed"
  | .mergeGroupShaMinted => "merge_group_sha_minted"
  | .rerunAttempted => "rerun_attempted"
  | .finalConclusion => "final_conclusion"

inductive EnumOrchestratorAction where
  | inventory
  | observe
  | enqueue
  | requeue
  | merge
  | fix
  | skip
deriving DecidableEq

inductive EnumPrLedgerConclusion where
  | pending
  | merged
  | failed
  | skipped
deriving DecidableEq

inductive EnumPrLifecyclePhase where
  | inventory
  | triage
  | branchChecks
  | mergeGroup
  | postMergeTail
  | terminal
deriving DecidableEq

def EnumPrLifecyclePhase.value : EnumPrLifecyclePhase → String
  | .inventory => "inventory"
  | .triage => "triage"
  | .branchChecks => "branch_checks"
  | .mergeGroup => "merge_group"
  | .postMergeTail => "post_merge_tail"
  | .terminal => "terminal"

/-! ## Phase transitions -/

def allowedPhaseTransitions : List (EnumPrLifecyclePhase × EnumPrLifecyclePhase) :=
  [(.inventory, .triage), (.inventory, .terminal), (.triage, .branchChecks),
    (.triage, .mergeGroup), (.triage, .terminal), (.branchChecks, .mergeGroup),
    (.branchChecks, .terminal), (.mergeGroup, .postMergeTail), (.mergeGroup, .terminal),
    (.postMergeTail, .branchChecks), (.postMergeTail, .terminal)]

def isAllowedPhaseTransition (fromPhase toPhase : EnumPrLifecyclePhase) : Bool :=
  fromPhase == toPhase || allowedPhaseTransitions.contains (fromPhase, toPhase)

structure ModelPrLifecyclePhaseTransition where
  runId : NonEmptyString
  correlationId : String
  fromPhase : EnumPrLifecyclePhase
  toPhase : EnumPrLifecyclePhase
  recordedAt : NonEmptyString
deriving DecidableEq

def ModelPrLifecyclePhaseTransition.isLegal (transition : ModelPrLifecyclePhaseTransition) : Bool :=
  isAllowedPhaseTransition transition.fromPhase transition.toPhase

def illegalTransition (transition : ModelPrLifecyclePhaseTransition) : String :=
  "illegal phase transition " ++ transition.fromPhase.value ++ " -> " ++ transition.toPhase.value ++
    "; not a declared orchestrator state-machine transition"

/-! ## Events and entries -/

structure ModelPrLedgerSourceEvent where
  kind : EnumPrLedgerEventKind
  runId : NonEmptyString
  correlationId : String
  repo : String
  prNumber : ℕ
  headSha : Option String := none
  workflowRunId : Option ℤ := none
  mergeGroupSha : Option String := none
  conclusion : Option EnumPrLedgerConclusion := none
  orchestratorAction : EnumOrchestratorAction
  phase : EnumPrLifecyclePhase := .inventory
  observedAt : NonEmptyString
deriving DecidableEq

structure ModelPrLedgerProvenance where
  eventKind : EnumPrLedgerEventKind
  workflowRun : Option ℤ
  mergeGroupSha : Option String
  branchSha : Option String
  orchestratorAction : EnumOrchestratorAction
  phase : EnumPrLifecyclePhase
  observedAt : NonEmptyString
deriving DecidableEq

structure ModelPrLedgerEntry where
  runId : NonEmptyString
  correlationId : String
  repo : String
  prNumber : ℕ
  headSha : Option String := none
  workflowRunIds : List ℤ := []
  mergeGroupShas : List String := []
  rerunAttempts : ℕ := 0
  conclusion : EnumPrLedgerConclusion := .pending
  lastAction : Option EnumOrchestratorAction := none
  lastPhase : EnumPrLifecyclePhase := .inventory
  firstObservedAt : Option NonEmptyString := none
  lastObservedAt : Option NonEmptyString := none
  provenance : List ModelPrLedgerProvenance := []
deriving DecidableEq

def provenanceKind : String := "derived_projection"

def prLedgerFreshnessSlaSeconds : ℕ := 900

structure ModelPrLedger where
  runId : NonEmptyString
  provenanceKind : String := PrLedger.provenanceKind
  freshnessSlaSeconds : ℕ := prLedgerFreshnessSlaSeconds
  lastEventAt : Option NonEmptyString := none
  entries : List ModelPrLedgerEntry := []
  phaseTransitions : List ModelPrLifecyclePhaseTransition := []
deriving DecidableEq

def provenanceOf (event : ModelPrLedgerSourceEvent) : ModelPrLedgerProvenance where
  eventKind := event.kind
  workflowRun := event.workflowRunId
  mergeGroupSha := event.mergeGroupSha
  branchSha := event.headSha
  orchestratorAction := event.orchestratorAction
  phase := event.phase
  observedAt := event.observedAt

/-- The values with one more, unless it is there. -/
def addNew {α : Type} [DecidableEq α] (values : List α) : Option α → List α
  | some value => if value ∈ values then values else values ++ [value]
  | none => values

def baseEntry (entry : Option ModelPrLedgerEntry) (event : ModelPrLedgerSourceEvent) :
    ModelPrLedgerEntry :=
  entry.getD
    { runId := event.runId
      correlationId := event.correlationId
      repo := event.repo
      prNumber := event.prNumber
      firstObservedAt := some event.observedAt }

def foldEvent (entry : Option ModelPrLedgerEntry) (event : ModelPrLedgerSourceEvent) :
    ModelPrLedgerEntry :=
  let base := baseEntry entry event
  { base with
    headSha := if event.headSha.isSome then event.headSha else base.headSha
    workflowRunIds := addNew base.workflowRunIds event.workflowRunId
    mergeGroupShas := addNew base.mergeGroupShas event.mergeGroupSha
    rerunAttempts :=
      if event.kind = .rerunAttempted then base.rerunAttempts + 1 else base.rerunAttempts
    conclusion :=
      if event.kind = .finalConclusion then event.conclusion.getD base.conclusion
      else base.conclusion
    lastAction := some event.orchestratorAction
    lastPhase := event.phase
    -- the first event folded, not the earliest one
    firstObservedAt := base.firstObservedAt.or (some event.observedAt)
    lastObservedAt := some event.observedAt
    provenance := base.provenance ++ [provenanceOf event] }

/-! ## The ledger of a run -/

/-- `(repo, pr_number)`. -/
abbrev PrKey := String × ℕ

def ModelPrLedgerSourceEvent.key (event : ModelPrLedgerSourceEvent) : PrKey :=
  (event.repo, event.prNumber)

def ModelPrLedgerEntry.key (entry : ModelPrLedgerEntry) : PrKey := (entry.repo, entry.prNumber)

/-- The order of the keys as tuples. -/
def KeyLe (first second : PrKey) : Prop := toLex first ≤ toLex second

instance : DecidableRel KeyLe := fun first second =>
  inferInstanceAs (Decidable (toLex first ≤ toLex second))

def buildLedger (runId : NonEmptyString) (entries : List ModelPrLedgerEntry)
    (lastEventAt : Option NonEmptyString)
    (phaseTransitions : List ModelPrLifecyclePhaseTransition) : ModelPrLedger where
  runId := runId
  lastEventAt := lastEventAt
  entries := entries.insertionSort fun first second => KeyLe first.key second.key
  phaseTransitions := phaseTransitions

/-- The later of the last event's time and this one. -/
def laterOf (last : Option NonEmptyString) (observedAt : NonEmptyString) : NonEmptyString :=
  match last with
  | none => observedAt
  | some held => if held.value < observedAt.value then observedAt else held

/-!
# The stores and the reconstruction

The projection database is a keyed table: an upsert replaces the row with the same key in place
or adds one at the end, and a query returns the rows whose keys match, in that order. A row is
what `model_dump` makes of a model; the dump and its validation are a parameter, `RowCodec`.
-/

/-- What a client of a store does. -/
inductive LedgerOp where
  | apply (event : ModelPrLedgerSourceEvent)
  | record (transition : ModelPrLifecyclePhaseTransition)

/-! ## In memory -/

structure InMemoryPrLedgerStore where
  runs : OrderedDict NonEmptyString (OrderedDict PrKey ModelPrLedgerEntry) := .empty
  lastEventAt : OrderedDict NonEmptyString NonEmptyString := .empty
  transitions : OrderedDict NonEmptyString (List ModelPrLifecyclePhaseTransition) := .empty

namespace InMemoryPrLedgerStore

section

variable (store : InMemoryPrLedgerStore)

def load (runId : NonEmptyString) : ModelPrLedger :=
  buildLedger runId ((store.runs.get? runId).getD .empty).values (store.lastEventAt.get? runId)
    ((store.transitions.get? runId).getD [])

def apply (event : ModelPrLedgerSourceEvent) :
    InMemoryPrLedgerStore :=
  let run := (store.runs.get? event.runId).getD .empty
  let entry := foldEvent (run.get? event.key) event
  { store with
    runs := store.runs.set event.runId (run.set event.key entry)
    lastEventAt := store.lastEventAt.set event.runId
      (laterOf (store.lastEventAt.get? event.runId) event.observedAt) }

/-- `record_transition`; an illegal transition raises and is not recorded. -/
def recordTransition (transition : ModelPrLifecyclePhaseTransition) :
    InMemoryPrLedgerStore × Except String Unit :=
  if transition.isLegal then
    ({ store with
        transitions := store.transitions.set transition.runId
          ((store.transitions.get? transition.runId).getD [] ++ [transition]) }, .ok ())
  else (store, .error (illegalTransition transition))

def step : LedgerOp → InMemoryPrLedgerStore
  | .apply event => store.apply event
  | .record transition => (store.recordTransition transition).1

end

end InMemoryPrLedgerStore

def latestOf (times : List NonEmptyString) : Option NonEmptyString :=
  times.foldl (fun last observedAt => some (laterOf last observedAt)) none

/-! ## In the projection database -/

/-- `model_dump(mode="json")` and `model_validate`. -/
structure RowCodec (Row : Type) where
  dumpEntry : ModelPrLedgerEntry → Row
  validateEntry : Row → Option ModelPrLedgerEntry
  dumpTransition : ModelPrLifecyclePhaseTransition → Row
  validateTransition : Row → Option ModelPrLifecyclePhaseTransition

/-- `run_id,repo,pr_number`. -/
abbrev EntryRowKey := NonEmptyString × PrKey

/-- `run_id,from_phase,to_phase,recorded_at`. -/
abbrev TransitionRowKey :=
  NonEmptyString × EnumPrLifecyclePhase × EnumPrLifecyclePhase × NonEmptyString

def ModelPrLedgerEntry.rowKey (entry : ModelPrLedgerEntry) : EntryRowKey := (entry.runId, entry.key)

def ModelPrLifecyclePhaseTransition.rowKey (transition : ModelPrLifecyclePhaseTransition) :
    TransitionRowKey :=
  (transition.runId, transition.fromPhase, transition.toPhase, transition.recordedAt)

/-- The rows whose keys match, in insertion order. -/
def query {κ Row : Type} [DecidableEq κ] (table : OrderedDict κ Row) (filter : κ → Bool) :
    List Row :=
  (table.entries.filter fun row => filter row.1).map Prod.snd

structure ProjectionDatabasePrLedgerStore (Row : Type) where
  table : OrderedDict EntryRowKey Row := .empty
  transitionTable : OrderedDict TransitionRowKey Row := .empty

namespace ProjectionDatabasePrLedgerStore

variable {Row : Type} (codec : RowCodec Row) (store : ProjectionDatabasePrLedgerStore Row)

/-- `none` when a row does not validate. -/
def load (runId : NonEmptyString) : Option ModelPrLedger := do
  let entries ← (query store.table fun key => key.1 = runId).mapM codec.validateEntry
  let lastEventAt := latestOf (entries.filterMap ModelPrLedgerEntry.lastObservedAt)
  let transitions ←
    (query store.transitionTable fun key => key.1 = runId).mapM codec.validateTransition
  return buildLedger runId entries lastEventAt transitions

/-- The entry of the PR's first row; the outer `none` is a row that does not validate. -/
def loadEntry (runId : NonEmptyString) (key : PrKey) : Option (Option ModelPrLedgerEntry) :=
  match query store.table fun rowKey => rowKey = (runId, key) with
  | [] => some none
  | row :: _ => (codec.validateEntry row).map some

/-- An event whose PR has a row that does not validate raises and changes nothing. -/
def apply (event : ModelPrLedgerSourceEvent) : ProjectionDatabasePrLedgerStore Row :=
  match loadEntry codec store event.runId event.key with
  | none => store
  | some existing =>
    let entry := foldEvent existing event
    { store with table := store.table.set entry.rowKey (codec.dumpEntry entry) }

def recordTransition (transition : ModelPrLifecyclePhaseTransition) :
    ProjectionDatabasePrLedgerStore Row × Except String Unit :=
  if transition.isLegal then
    ({ store with
        transitionTable :=
          store.transitionTable.set transition.rowKey (codec.dumpTransition transition) }, .ok ())
  else (store, .error (illegalTransition transition))

def step (op : LedgerOp) : ProjectionDatabasePrLedgerStore Row :=
  match op with
  | .apply event => store.apply codec event
  | .record transition => (store.recordTransition codec transition).1

end ProjectionDatabasePrLedgerStore

/-! ## Reconstruction -/

/-- The sort key `(repo, pr_number, observed_at, kind)`. -/
def EventLe (first second : ModelPrLedgerSourceEvent) : Prop :=
  toLex (first.repo, toLex (first.prNumber, toLex (first.observedAt.value, first.kind.value))) ≤
    toLex (second.repo, toLex (second.prNumber, toLex (second.observedAt.value, second.kind.value)))

instance : DecidableRel EventLe := fun _ _ => inferInstanceAs (Decidable (toLex _ ≤ toLex _))

/-- The sort key `(recorded_at, from_phase)`. -/
def TransitionLe (first second : ModelPrLifecyclePhaseTransition) : Prop :=
  toLex (first.recordedAt.value, first.fromPhase.value) ≤
    toLex (second.recordedAt.value, second.fromPhase.value)

instance : DecidableRel TransitionLe := fun _ _ => inferInstanceAs (Decidable (toLex _ ≤ toLex _))

def foldEntries (events : List ModelPrLedgerSourceEvent) : OrderedDict PrKey ModelPrLedgerEntry :=
  events.foldl
    (fun entries event => entries.set event.key (foldEvent (entries.get? event.key) event)) .empty

def sortedTexts (texts : List String) : List String := texts.dedup.insertionSort (· ≤ ·)

def reconstructPrLedger (unicode : UnicodeTable) (events : List ModelPrLedgerSourceEvent)
    (phaseTransitions : List ModelPrLifecyclePhaseTransition) : Except String ModelPrLedger :=
  match events with
  | [] => .error "reconstruct_pr_ledger requires at least one source event"
  | first :: _ =>
    let runIds := sortedTexts (events.map fun event => event.runId.value)
    let transitionRunIds := sortedTexts (phaseTransitions.map fun transition =>
      transition.runId.value)
    if runIds.length ≠ 1 then
      .error ("reconstruct_pr_ledger expects a single run_id, got " ++
        PyText.reprList unicode runIds)
    else if transitionRunIds ≠ [] ∧ transitionRunIds ≠ runIds then
      .error ("reconstruct_pr_ledger transitions must share the events' run_id; got events run_id " ++
        PyText.reprList unicode runIds ++ ", transitions " ++
        PyText.reprList unicode transitionRunIds)
    else
      match phaseTransitions.find? fun transition => !transition.isLegal with
      | some transition => .error (illegalTransition transition)
      | none =>
        let ordered := events.insertionSort EventLe
        .ok (buildLedger first.runId (foldEntries ordered).values
          (latestOf (ordered.map (·.observedAt)))
          (phaseTransitions.insertionSort TransitionLe))

end OmniMarket.PrLedger
