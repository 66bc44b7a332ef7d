import OmniMarket.Lib.Search
import OmniMarket.WaveScheduler.Waves

/-!
# Wave execution

The schedule is built before the first wave runs, and the statuses that come back from a wave
are only counted: no later wave is held back for them, a ticket that is not in the map counts as
completed, and of the counts only those of failed and blocked tickets decide the run's status.
-/

namespace OmniMarket.WaveScheduler

variable {waves : List ModelWaveAssignment}

section

/-! ## Statuses -/

inductive EnumTicketExecutionStatus where
  | completed
  | failed
  | blocked
  | stalled
  | skipped
  | timeout
  | deferred
deriving DecidableEq

def EnumTicketExecutionStatus.value : EnumTicketExecutionStatus → String
  | .completed => "completed"
  | .failed => "failed"
  | .blocked => "blocked"
  | .stalled => "stalled"
  | .skipped => "skipped"
  | .timeout => "timeout"
  | .deferred => "deferred"

/-- `EnumTicketExecutionStatus(value)`. -/
def EnumTicketExecutionStatus.ofValue? (text : String) : Option EnumTicketExecutionStatus :=
  [completed, failed, blocked, stalled, skipped, timeout, deferred].find? fun status =>
    status.value = text

inductive EnumWaveSchedulerStatus where
  | completed
  | partially
  | failed
  | dryRun

/-- What `dispatch_wave` returns for a wave. -/
abbrev ProtocolWaveDispatcher := ModelWaveAssignment → OrderedDict String String

structure ModelWaveExecutionSummary where
  waveId : ℕ
  dispatchedCount : ℕ := 0
  completedCount : ℕ := 0
  failedCount : ℕ := 0
  blockedCount : ℕ := 0
  stalledCount : ℕ := 0
  skippedCount : ℕ := 0
  ticketStatuses : List (String × EnumTicketExecutionStatus) := []

structure ModelWaveSchedulerRequest where
  planPath : String
  maxConcurrency : ℕ := 6
  atLeastOne : 1 ≤ maxConcurrency := by decide
  atMostTwenty : maxConcurrency ≤ 20 := by decide
  dryRun : Bool := false
  resume : Bool := false
  deferRepoConflicts : Bool := false

structure ModelWaveSchedulerResult where
  planPath : String
  runStatus : EnumWaveSchedulerStatus
  waveAssignments : List ModelWaveAssignment := []
  waveExecutionSummaries : List ModelWaveExecutionSummary := []
  dependencyViolations : List ModelDependencyViolation := []
  totalTickets : ℕ := 0
  ticketsCompleted : ℕ := 0
  ticketsFailed : ℕ := 0
  ticketsBlocked : ℕ := 0
  dryRun : Bool := false
  resumed : Bool := false

/-! ## Running the waves -/

variable (unicode : UnicodeTable)

def rawStatus (rawStatuses : OrderedDict String String) (ticketId : String) : String :=
  -- a ticket that the dispatcher leaves out counts as completed
  (rawStatuses.get? ticketId).getD "completed"

def ticketStatus (rawStatuses : OrderedDict String String) (ticketId : String) :
    Except String (String × EnumTicketExecutionStatus) :=
  match EnumTicketExecutionStatus.ofValue? (rawStatus rawStatuses ticketId) with
  | some status => .ok (ticketId, status)
  | none =>
    .error (PyText.reprString unicode (rawStatus rawStatuses ticketId) ++
      " is not a valid EnumTicketExecutionStatus")

def countStatus (statuses : List (String × EnumTicketExecutionStatus))
    (status : EnumTicketExecutionStatus) : ℕ :=
  statuses.countP fun entry => entry.2 = status

def summaryOf (assignment : ModelWaveAssignment)
    (statuses : List (String × EnumTicketExecutionStatus)) : ModelWaveExecutionSummary where
  waveId := assignment.waveId
  dispatchedCount := assignment.ticketIds.length
  completedCount := countStatus statuses .completed
  failedCount := countStatus statuses .failed
  blockedCount := countStatus statuses .blocked
  stalledCount := countStatus statuses .stalled
  skippedCount := countStatus statuses .skipped
  ticketStatuses := statuses

def executeAssignment (dispatcher : ProtocolWaveDispatcher) (assignment : ModelWaveAssignment) :
    Except String ModelWaveExecutionSummary :=
  (assignment.ticketIds.mapM (ticketStatus unicode (dispatcher assignment))).map
    (summaryOf assignment)

def executeAll (dispatcher : ProtocolWaveDispatcher) :
    List ModelWaveAssignment →
      List ModelWaveAssignment × Except String (List ModelWaveExecutionSummary)
  | [] => ([], .ok [])
  | assignment :: rest =>
    match executeAssignment unicode dispatcher assignment with
    | .error raised => ([assignment], .error raised)
    | .ok summary =>
      let (dispatched, summaries) := executeAll dispatcher rest
      (assignment :: dispatched, summaries.map (summary :: ·))

/-- What a call does: the waves it hands to the dispatcher and what it returns or raises. -/
structure SchedulerRun where
  dispatched : List ModelWaveAssignment := []
  result : Except String ModelWaveSchedulerResult

section

variable (request : ModelWaveSchedulerRequest)

def resultOf (tickets : TicketMap) (assignments : List ModelWaveAssignment)
    (summaries : List ModelWaveExecutionSummary) :
    ModelWaveSchedulerResult :=
  let failed := (summaries.map (·.failedCount)).sum
  let blocked := (summaries.map (·.blockedCount)).sum
  { planPath := request.planPath
    -- stalled and skipped tickets do not make a run partial
    runStatus := if failed = 0 ∧ blocked = 0 then .completed else .partially
    waveAssignments := assignments
    waveExecutionSummaries := summaries
    totalTickets := tickets.size
    ticketsCompleted := (summaries.map (·.completedCount)).sum
    ticketsFailed := failed
    ticketsBlocked := blocked
    resumed := request.resume }

def violationResult (tickets : TicketMap) (violations : List ModelDependencyViolation) :
    ModelWaveSchedulerResult where
  planPath := request.planPath
  runStatus := .failed
  dependencyViolations := violations
  totalTickets := tickets.size
  dryRun := request.dryRun
  resumed := request.resume

def dryRunResult (tickets : TicketMap) (assignments : List ModelWaveAssignment) :
    ModelWaveSchedulerResult where
  planPath := request.planPath
  runStatus := .dryRun
  waveAssignments := assignments
  totalTickets := tickets.size
  dryRun := true
  resumed := request.resume

end

/-- The end of `handle`, once the waves are built. -/
def runWaves (dispatcher : Option ProtocolWaveDispatcher) (request : ModelWaveSchedulerRequest)
    (tickets : TicketMap) (assignments : List ModelWaveAssignment) : SchedulerRun :=
  if request.dryRun then { result := .ok (dryRunResult request tickets assignments) }
  else
    match dispatcher with
    | none => { result := .error "dispatcher adapter required when dry_run is false" }
    | some dispatcher =>
      { dispatched := (executeAll unicode dispatcher assignments).1
        result := (executeAll unicode dispatcher assignments).2.map
          (resultOf request tickets assignments) }

/-- `HandlerWaveSchedulerOrchestrator.handle` on the loaded plan file; `none` is a call that does
not end. -/
def handle (str : PyValue → String) (dispatcher : Option ProtocolWaveDispatcher) (plan : PyValue)
    (request : ModelWaveSchedulerRequest) : Option SchedulerRun :=
  match readPlan str plan with
  | .error raised => some { result := .error raised }
  | .ok tickets =>
    match dependencyViolations tickets with
    | none => none
    | some (violation :: violations) =>
      some { result := .ok (violationResult request tickets (violation :: violations)) }
    | some [] =>
      match buildWaveAssignments tickets request.maxConcurrency request.deferRepoConflicts with
      | none => none
      | some (.error raised) => some { result := .error raised }
      | some (.ok assignments) => some (runWaves unicode dispatcher request tickets assignments)

end

/-!
# Dependencies and reports
-/

section

def Reported (dispatcher : ProtocolWaveDispatcher) (wave : ModelWaveAssignment)
    (ticketId : String) : Prop :=
  ticketId ∈ wave.ticketIds ∧
    (dispatcher wave).get? ticketId = some EnumTicketExecutionStatus.completed.value

def Readable (dispatcher : ProtocolWaveDispatcher) (wave : ModelWaveAssignment) : Prop :=
  ∀ ticketId ∈ wave.ticketIds, ∃ status,
    EnumTicketExecutionStatus.ofValue? (rawStatus (dispatcher wave) ticketId) = some status

variable {unicode : UnicodeTable} {dispatcher : ProtocolWaveDispatcher}

/-! ## One wave -/

variable {ticketId : String}

theorem ticketStatus_eq_ok {rawStatuses : OrderedDict String String}
    {entry : String × EnumTicketExecutionStatus} :
    ticketStatus unicode rawStatuses ticketId = .ok entry ↔
      entry.1 = ticketId ∧
        EnumTicketExecutionStatus.ofValue? (rawStatus rawStatuses ticketId) = some entry.2 := by
  obtain ⟨named, status⟩ := entry
  rw [ticketStatus]
  cases EnumTicketExecutionStatus.ofValue? (rawStatus rawStatuses ticketId) with
  | none => simp
  | some read => simp [Prod.ext_iff, eq_comm]

variable {wave : ModelWaveAssignment} {summary : ModelWaveExecutionSummary}

theorem executeAssignment_eq_ok (executed : executeAssignment unicode dispatcher wave = .ok summary)
    :
    ∃ statuses, summary = summaryOf wave statuses ∧
      wave.ticketIds.mapM (ticketStatus unicode (dispatcher wave)) = .ok statuses := by
  rw [executeAssignment] at executed
  cases read : wave.ticketIds.mapM (ticketStatus unicode (dispatcher wave)) with
  | error raised =>
    rw [read] at executed
    cases executed
  | ok statuses =>
    rw [read] at executed
    exact ⟨statuses, (Except.ok.inj executed).symm, rfl⟩

theorem readable_iff :
    Readable dispatcher wave ↔
      ∃ summary, executeAssignment unicode dispatcher wave = .ok summary := by
  have each : Readable dispatcher wave ↔ ∀ ticketId ∈ wave.ticketIds, ∃ entry,
      ticketStatus unicode (dispatcher wave) ticketId = .ok entry := by
    refine forall₂_congr fun ticketId _ => ?_
    constructor
    · rintro ⟨status, own⟩
      exact ⟨(ticketId, status), ticketStatus_eq_ok.2 ⟨rfl, own⟩⟩
    · rintro ⟨entry, read⟩
      exact ⟨entry.2, (ticketStatus_eq_ok.1 read).2⟩
  rw [each, ← Search.exists_mapM_eq_ok]
  constructor
  · rintro ⟨statuses, read⟩
    exact ⟨summaryOf wave statuses, by rw [executeAssignment, read]; rfl⟩
  · rintro ⟨summary, executed⟩
    obtain ⟨statuses, -, read⟩ := executeAssignment_eq_ok executed
    exact ⟨statuses, read⟩

variable {status : EnumTicketExecutionStatus}

theorem countStatus_eq_zero {statuses : List (String × EnumTicketExecutionStatus)}
    (read : wave.ticketIds.mapM (ticketStatus unicode (dispatcher wave)) = .ok statuses) :
    countStatus statuses status = 0 ↔ ∀ ticketId ∈ wave.ticketIds,
      EnumTicketExecutionStatus.ofValue? (rawStatus (dispatcher wave) ticketId) ≠ some status := by
  rw [countStatus, List.countP_eq_zero]
  constructor
  · intro none' ticketId listed own
    have counted : (ticketId, status) ∈ statuses :=
      (Search.mem_of_mapM read _).2 ⟨ticketId, listed, ticketStatus_eq_ok.2 ⟨rfl, own⟩⟩
    exact none' _ counted (decide_eq_true rfl)
  · intro none' entry counted same
    obtain ⟨ticketId, listed, own⟩ := (Search.mem_of_mapM read entry).1 counted
    have status' := (ticketStatus_eq_ok.1 own).2
    rw [of_decide_eq_true same] at status'
    exact none' ticketId listed status'

/-! ## All the waves -/

theorem executeAll_dispatched {waves before : List ModelWaveAssignment} :
    (∃ after, (executeAll unicode dispatcher waves).1 = before ++ wave :: after) ↔
      (∃ after, waves = before ++ wave :: after) ∧
        ∀ earlier ∈ before, Readable dispatcher earlier := by
  induction waves generalizing before with
  | nil => simp [executeAll]
  | cons first rest ih =>
    rw [executeAll]
    cases executed : executeAssignment unicode dispatcher first with
    | error raised =>
      -- the dispatcher raises for the first wave: nothing after it is dispatched
      have unreadable : ¬ Readable dispatcher first := by
        intro readable
        obtain ⟨summary, returned⟩ : ∃ summary,
            executeAssignment unicode dispatcher first = .ok summary := readable_iff.1 readable
        rw [executed] at returned
        cases returned
      cases before with
      | nil => simp
      | cons head before =>
        constructor
        · rintro ⟨after, whole⟩
          exact absurd (congrArg List.length whole) (by simp)
        · rintro ⟨⟨after, whole⟩, readable⟩
          obtain ⟨rfl, -⟩ := List.cons.inj whole
          exact absurd (readable first List.mem_cons_self) unreadable
    | ok summary =>
      have readable : Readable dispatcher first := readable_iff.2 ⟨summary, executed⟩
      cases before with
      | nil => simp
      | cons head before =>
        constructor
        · rintro ⟨after, whole⟩
          obtain ⟨rfl, later⟩ := List.cons.inj whole
          obtain ⟨⟨after', split⟩, all⟩ := ih.1 ⟨after, later⟩
          exact ⟨⟨after', congrArg (first :: ·) split⟩, List.forall_mem_cons.2 ⟨readable, all⟩⟩
        · rintro ⟨⟨after, whole⟩, all⟩
          obtain ⟨rfl, later⟩ := List.cons.inj whole
          obtain ⟨after', split⟩ := ih.2 ⟨⟨after, later⟩, (List.forall_mem_cons.1 all).2⟩
          exact ⟨after', congrArg (first :: ·) split⟩

variable {summaries : List ModelWaveExecutionSummary}

theorem executeAll_ok
    (returned : (executeAll unicode dispatcher waves).2 = .ok summaries) :
    (executeAll unicode dispatcher waves).1 = waves ∧
      List.Forall₂ (fun wave summary => executeAssignment unicode dispatcher wave = .ok summary)
        waves summaries := by
  induction waves generalizing summaries with
  | nil =>
    obtain rfl : [] = summaries := Except.ok.inj returned
    exact ⟨rfl, .nil⟩
  | cons first rest ih =>
    rw [executeAll] at returned ⊢
    cases executed : executeAssignment unicode dispatcher first with
    | error raised =>
      rw [executed] at returned
      cases returned
    | ok summary =>
      rw [executed] at returned
      cases later : (executeAll unicode dispatcher rest).2 with
      | error raised =>
        simp only [later] at returned
        cases returned
      | ok summaries' =>
        simp only [later] at returned
        obtain rfl : summary :: summaries' = summaries := Except.ok.inj returned
        obtain ⟨whole, each⟩ := ih later
        exact ⟨congrArg (first :: ·) whole, .cons executed each⟩

theorem executeAll_returns
    (readable : ∀ wave ∈ waves, Readable dispatcher wave) :
    ∃ summaries, (executeAll unicode dispatcher waves).2 = .ok summaries := by
  induction waves with
  | nil => exact ⟨[], rfl⟩
  | cons first rest ih =>
    obtain ⟨own, others⟩ := List.forall_mem_cons.1 readable
    obtain ⟨summary, executed⟩ : ∃ summary,
        executeAssignment unicode dispatcher first = .ok summary := readable_iff.1 own
    obtain ⟨summaries, later⟩ := ih others
    refine ⟨summary :: summaries, ?_⟩
    rw [executeAll, executed]
    simp only [later]
    rfl

theorem executeAll_readable
    (each : List.Forall₂ (fun wave summary =>
      executeAssignment unicode dispatcher wave = .ok summary) waves summaries) :
    ∀ wave ∈ waves, Readable dispatcher wave := by
  induction each with
  | nil => exact fun _ none' => absurd none' List.not_mem_nil
  | cons executed _ ih =>
    exact List.forall_mem_cons.2 ⟨readable_iff.2 ⟨_, executed⟩, ih⟩

def Unfailed (dispatcher : ProtocolWaveDispatcher) (wave : ModelWaveAssignment) : Prop :=
  ∀ ticketId ∈ wave.ticketIds,
    EnumTicketExecutionStatus.ofValue? (rawStatus (dispatcher wave) ticketId) ≠ some .failed ∧
    EnumTicketExecutionStatus.ofValue? (rawStatus (dispatcher wave) ticketId) ≠ some .blocked

theorem unfailed_iff (executed : executeAssignment unicode dispatcher wave = .ok summary) :
    summary.failedCount = 0 ∧ summary.blockedCount = 0 ↔ Unfailed dispatcher wave := by
  obtain ⟨statuses, rfl, read⟩ := executeAssignment_eq_ok executed
  show countStatus statuses .failed = 0 ∧ countStatus statuses .blocked = 0 ↔ _
  rw [countStatus_eq_zero read, countStatus_eq_zero read]
  exact ⟨fun both ticketId listed => ⟨both.1 ticketId listed, both.2 ticketId listed⟩,
    fun each => ⟨fun ticketId listed => (each ticketId listed).1,
      fun ticketId listed => (each ticketId listed).2⟩⟩

theorem runStatus_completed_iff {request : ModelWaveSchedulerRequest} {tickets : TicketMap}
    {waves assignments : List ModelWaveAssignment}
    (each : List.Forall₂ (fun wave summary =>
      executeAssignment unicode dispatcher wave = .ok summary) waves summaries) :
    (resultOf request tickets assignments summaries).runStatus = .completed ↔
      ∀ wave ∈ waves, Unfailed dispatcher wave := by
  have counted : (summaries.map (·.failedCount)).sum = 0 ∧
      (summaries.map (·.blockedCount)).sum = 0 ↔ ∀ wave ∈ waves, Unfailed dispatcher wave := by
    induction each with
    | nil => simp
    | cons executed _ ih =>
      rw [List.forall_mem_cons, ← unfailed_iff executed, ← ih]
      simp only [List.map_cons, List.sum_cons, Nat.add_eq_zero_iff]
      exact and_and_and_comm
  rw [← counted]
  show (if _ then EnumWaveSchedulerStatus.completed else .partially) = .completed ↔ _
  split
  · next zero => exact iff_of_true rfl zero
  · next positive => exact iff_of_false nofun positive

/-! ## Sound executions -/

structure ExecutionSound (tickets : TicketMap) (dispatcher : ProtocolWaveDispatcher)
    (run : SchedulerRun) : Prop where
  dependencies : ∀ before wave after, run.dispatched = before ++ wave :: after →
    ∀ ticketId ∈ wave.ticketIds, ∀ dependencyId ∈ (ticketOf tickets ticketId).dependsOn,
      ∃ earlier ∈ before, Reported dispatcher earlier dependencyId
  completed : ∀ result, run.result = .ok result → result.runStatus = .completed →
    ∀ ticketId ∈ tickets.keys, ∃ wave ∈ run.dispatched, Reported dispatcher wave ticketId

structure ReportsHarmless (tickets : TicketMap) (dispatcher : ProtocolWaveDispatcher)
    (waves : List ModelWaveAssignment) : Prop where
  prerequisites : ∀ before wave after, waves = before ++ wave :: after →
    (∀ earlier ∈ before, Readable dispatcher earlier) →
    ∀ earlier ∈ before, ∀ dependencyId ∈ earlier.ticketIds,
      (∃ ticketId ∈ wave.ticketIds, dependencyId ∈ (ticketOf tickets ticketId).dependsOn) →
      (dispatcher earlier).get? dependencyId = some EnumTicketExecutionStatus.completed.value
  all : (∀ wave ∈ waves, Readable dispatcher wave ∧ Unfailed dispatcher wave) →
    ∀ wave ∈ waves, ∀ ticketId ∈ wave.ticketIds,
      (dispatcher wave).get? ticketId = some EnumTicketExecutionStatus.completed.value

def liveRun (unicode : UnicodeTable) (dispatcher : ProtocolWaveDispatcher)
    (request : ModelWaveSchedulerRequest) (tickets : TicketMap)
    (waves : List ModelWaveAssignment) : SchedulerRun where
  dispatched := (executeAll unicode dispatcher waves).1
  result := (executeAll unicode dispatcher waves).2.map (resultOf request tickets waves)

variable {tickets : TicketMap} {waves : List ModelWaveAssignment} {maxConcurrency : ℕ}
  {deferRepoConflicts : Bool}

section

variable (valid : ValidPartition tickets maxConcurrency deferRepoConflicts waves)

include valid

theorem ValidPartition.one_wave
    {first second : ModelWaveAssignment} (listed : first ∈ waves) (listed' : second ∈ waves)
    (own : ticketId ∈ first.ticketIds) (own' : ticketId ∈ second.ticketIds) : first = second := by
  by_contra differ
  have nodup : (waves.flatMap (·.ticketIds)).Nodup := valid.once.nodup_iff.2 tickets.nodup
  have apart := (List.nodup_flatMap.1 nodup).2
  have symmetric : Std.Symm (Function.onFun List.Disjoint ModelWaveAssignment.ticketIds) :=
    ⟨fun _ _ disjoint => disjoint.symm⟩
  exact apart.forall listed listed' differ own own'

theorem ValidPartition.mem_keys :
    ticketId ∈ tickets.keys ↔ ∃ wave ∈ waves, ticketId ∈ wave.ticketIds := by
  rw [← valid.once.mem_iff, List.mem_flatMap]

theorem liveRun_sound_iff {request : ModelWaveSchedulerRequest} :
    ExecutionSound tickets dispatcher (liveRun unicode dispatcher request tickets waves) ↔
      ReportsHarmless tickets dispatcher waves := by
  constructor
  · intro sound
    constructor
    · rintro before wave after split readable earlier among dependencyId own ⟨ticketId, listed, step⟩
      obtain ⟨after', whole⟩ : ∃ after', (executeAll unicode dispatcher waves).1 =
          before ++ wave :: after' := executeAll_dispatched.2 ⟨⟨after, split⟩, readable⟩
      obtain ⟨reporter, among', own', reported⟩ :=
        sound.dependencies before wave after' whole ticketId listed dependencyId step
      have within : before ⊆ waves := split ▸ fun _ member => List.mem_append_left _ member
      -- the ticket lies in one wave only, so that wave is the one that reported
      obtain rfl := valid.one_wave (within among) (within among') own own'
      exact reported
    · intro harmless wave listed ticketId own
      obtain ⟨summaries, executed⟩ : ∃ summaries,
          (executeAll unicode dispatcher waves).2 = .ok summaries :=
        executeAll_returns fun wave listed => (harmless wave listed).1
      obtain ⟨whole, each⟩ := executeAll_ok executed
      have status : (resultOf request tickets waves summaries).runStatus = .completed :=
        (runStatus_completed_iff each).2 fun wave listed => (harmless wave listed).2
      have returned : (liveRun unicode dispatcher request tickets waves).result =
          .ok (resultOf request tickets waves summaries) := by
        rw [liveRun, executed]
        rfl
      obtain ⟨reporter, among, own', reported⟩ := sound.completed _ returned status ticketId
        (valid.mem_keys.2 ⟨wave, listed, own⟩)
      have dispatched : reporter ∈ waves := whole ▸ among
      obtain rfl := valid.one_wave listed dispatched own own'
      exact reported
  · intro harmless
    constructor
    · intro before wave after whole ticketId listed dependencyId step
      obtain ⟨⟨after', split⟩, readable⟩ := executeAll_dispatched.1 ⟨after, whole⟩
      obtain ⟨earlier, among, own⟩ :=
        valid.ordered before wave after' split ticketId listed dependencyId step
      exact ⟨earlier, among, own, harmless.prerequisites before wave after' split readable earlier
        among dependencyId own ⟨ticketId, listed, step⟩⟩
    · intro result returned status ticketId known
      cases executed : (executeAll unicode dispatcher waves).2 with
      | error raised =>
        rw [liveRun, executed] at returned
        cases returned
      | ok summaries =>
        rw [liveRun, executed] at returned
        obtain rfl : resultOf request tickets waves summaries = result := Except.ok.inj returned
        obtain ⟨whole, each⟩ := executeAll_ok executed
        have unfailed := (runStatus_completed_iff each).1 status
        have readable := executeAll_readable each
        obtain ⟨wave, listed, own⟩ := valid.mem_keys.1 known
        have dispatched : wave ∈ (executeAll unicode dispatcher waves).1 := by
          rw [whole]
          exact listed
        -- a completed run has executed every wave without a failure
        refine ⟨wave, dispatched, own, ?_⟩
        exact harmless.all (fun wave listed => ⟨readable wave listed, unfailed wave listed⟩) wave
          listed ticketId own

end

/-! ## Calls -/

section Calls

variable {str : PyValue → String} {plan : PyValue} {request : ModelWaveSchedulerRequest}

theorem handle_unread {raised : String} (read : readPlan str plan = .error raised) :
    handle unicode str (some dispatcher) plan request = some { result := .error raised } := by
  rw [handle, read]

theorem handle_violations {violation : ModelDependencyViolation}
    {violations : List ModelDependencyViolation} (read : readPlan str plan = .ok tickets)
    (checked : dependencyViolations tickets = some (violation :: violations)) :
    handle unicode str (some dispatcher) plan request =
      some { result := .ok (violationResult request tickets (violation :: violations)) } := by
  rw [handle, read]
  simp only [checked]

theorem handle_live (read : readPlan str plan = .ok tickets)
    (checked : dependencyViolations tickets = some [])
    (built : buildWaveAssignments tickets request.maxConcurrency request.deferRepoConflicts =
      some (.ok waves)) (live : request.dryRun = false) :
    handle unicode str (some dispatcher) plan request =
      some (liveRun unicode dispatcher request tickets waves) := by
  rw [handle, read]
  simp only [checked, built, runWaves, live, Bool.false_eq_true, if_false]
  rfl

end Calls

def PlanHarmless (str : PyValue → String) (dispatcher : ProtocolWaveDispatcher) (plan : PyValue)
    (request : ModelWaveSchedulerRequest) : Prop :=
  ∀ tickets waves, readPlan str plan = .ok tickets → dependencyViolations tickets = some [] →
    buildWaveAssignments tickets request.maxConcurrency request.deferRepoConflicts =
      some (.ok waves) →
    ReportsHarmless tickets dispatcher waves

/-- A call that is not a dry run ends, and it respects the dependencies and the reports of the
plan's tickets exactly if the reports are harmless for the schedule. -/
theorem execution_sound_iff (unicode : UnicodeTable) (str : PyValue → String)
    (dispatcher : ProtocolWaveDispatcher) (plan : PyValue) (request : ModelWaveSchedulerRequest)
    (live : request.dryRun = false) :
    ∃ run, handle unicode str (some dispatcher) plan request = some run ∧
      ((∀ tickets, readPlan str plan = .ok tickets → ExecutionSound tickets dispatcher run) ↔
        PlanHarmless str dispatcher plan request) := by
  cases read : readPlan str plan with
  | error raised =>
    -- a plan that cannot be read dispatches nothing
    refine ⟨_, handle_unread read, iff_of_true nofun ?_⟩
    intro tickets waves unread
    rw [read] at unread
    cases unread
  | ok tickets =>
    obtain ⟨violations, checked⟩ : ∃ violations,
        dependencyViolations tickets = some violations := by
      obtain ⟨cycle, found, -⟩ := findCycle_spec tickets
      exact ⟨_, by rw [dependencyViolations, found]; rfl⟩
    cases violations with
    | cons violation violations =>
      -- a plan with violations is refused before any wave
      refine ⟨_, handle_violations read checked, iff_of_true ?_ ?_⟩
      · intro _ _
        constructor
        · intro before wave after whole
          exact absurd (congrArg List.length whole) (by simp)
        · intro result returned status
          obtain rfl := Except.ok.inj returned
          cases status
      · intro tickets' waves same none'
        obtain rfl : tickets = tickets' := Except.ok.inj (read.symm.trans same)
        rw [checked] at none'
        cases none'
    | nil =>
      obtain ⟨waves, built, valid⟩ : ∃ waves, buildWaveAssignments tickets
          request.maxConcurrency request.deferRepoConflicts = some (.ok waves) ∧
          ValidPartition tickets request.maxConcurrency request.deferRepoConflicts waves :=
        buildWaveAssignments_valid checked request.atLeastOne
      refine ⟨_, handle_live read checked built live, ?_⟩
      have own : ExecutionSound tickets dispatcher
          (liveRun unicode dispatcher request tickets waves) ↔
          ReportsHarmless tickets dispatcher waves := liveRun_sound_iff valid
      constructor
      · intro sound tickets' waves' same _ built'
        obtain rfl : tickets = tickets' := Except.ok.inj (read.symm.trans same)
        obtain rfl : waves = waves' := Except.ok.inj (Option.some.inj (built.symm.trans built'))
        exact own.1 (sound tickets rfl)
      · intro harmless tickets' same
        obtain rfl : tickets = tickets' := Except.ok.inj same
        exact own.2 (harmless tickets waves read checked built)

/-! ## A plan of two tickets -/

/-- `str` of the values of a plan whose ids are texts. -/
def plainStr : PyValue → String
  | .str text => text
  | _ => ""

def twoTickets : PyValue :=
  .dict [("tickets", .list [
    .dict [("ticket_id", .str "OMN-1")],
    .dict [("ticket_id", .str "OMN-2"), ("depends_on", .list [.str "OMN-1"])]])]

def twoTicketsRequest : ModelWaveSchedulerRequest := { planPath := "plan.yaml" }

def reporting (status : EnumTicketExecutionStatus) : ProtocolWaveDispatcher := fun wave =>
  .foldByKey id (fun _ _ => status.value) .empty wave.ticketIds

theorem get?_reporting (listed : ticketId ∈ wave.ticketIds) :
    (reporting status wave).get? ticketId = some status.value := by
  rw [reporting, OrderedDict.get?_foldByKey]
  have own : ticketId ∈ wave.ticketIds.filter fun other => id other = ticketId :=
    List.mem_filter.2 ⟨listed, decide_eq_true rfl⟩
  generalize wave.ticketIds.filter (fun other => id other = ticketId) = mine at own
  cases mine using List.reverseRecOn with
  | nil => exact absurd own List.not_mem_nil
  | append_singleton before last =>
    rw [List.foldl_append]
    rfl

theorem reporting_completed_harmless (tickets : TicketMap) (waves : List ModelWaveAssignment) :
    ReportsHarmless tickets (reporting .completed) waves :=
  ⟨fun _ _ _ _ _ _ _ _ own _ => get?_reporting own, fun _ _ _ _ own => get?_reporting own⟩

/-- The second ticket is handed over although the first, on which it depends, failed. -/
theorem failed_dependency_dispatched : ¬ ∀ run tickets,
      handle PyText.asciiTable plainStr (some (reporting .failed)) twoTickets twoTicketsRequest =
        some run →
      readPlan plainStr twoTickets = .ok tickets →
      ExecutionSound tickets (reporting .failed) run := by
  intro sound
  have handed : (handle PyText.asciiTable plainStr (some (reporting .failed)) twoTickets
      twoTicketsRequest).map (·.dispatched) =
      some [{ waveId := 0, ticketIds := ["OMN-1"] }, { waveId := 1, ticketIds := ["OMN-2"] }] := by
    decide +kernel
  have depends : (readPlan plainStr twoTickets).toOption.map (fun tickets =>
      (ticketOf tickets "OMN-2").dependsOn) = some ["OMN-1"] := by
    decide +kernel
  obtain ⟨run, returned, dispatched⟩ := Option.map_eq_some_iff.1 handed
  cases read : readPlan plainStr twoTickets with
  | error raised =>
    rw [read] at depends
    cases depends
  | ok tickets =>
    rw [read] at depends
    have only : (ticketOf tickets "OMN-2").dependsOn = ["OMN-1"] := Option.some.inj depends
    have step : "OMN-1" ∈ (ticketOf tickets "OMN-2").dependsOn := by
      rw [only]
      exact List.mem_cons_self
    obtain ⟨earlier, among, -, reported⟩ := (sound run tickets returned read).dependencies
      [_] _ [] dispatched "OMN-2" List.mem_cons_self "OMN-1" step
    obtain rfl := List.mem_singleton.1 among
    rw [get?_reporting List.mem_cons_self] at reported
    exact absurd reported (by decide)

theorem two_tickets_sound :
    ∃ run, handle PyText.asciiTable plainStr (some (reporting .completed)) twoTickets
        twoTicketsRequest = some run ∧
      ∀ tickets, readPlan plainStr twoTickets = .ok tickets →
        ExecutionSound tickets (reporting .completed) run := by
  obtain ⟨run, returned, sound⟩ := execution_sound_iff PyText.asciiTable plainStr
    (reporting .completed) twoTickets twoTicketsRequest rfl
  exact ⟨run, returned, sound.2 fun tickets waves _ _ _ => reporting_completed_harmless tickets waves⟩

end

end OmniMarket.WaveScheduler
