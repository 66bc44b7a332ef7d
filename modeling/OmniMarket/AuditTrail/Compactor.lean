import OmniMarket.Lib.OrderedDict
import OmniMarket.Lib.PyText
import OmniMarket.Lib.PyValue

/-!
# The audit trail compactor

The reader makes entries of the friction files and of the lines of the dispatch log; `handle`
keeps those of the window and aggregates them into failure modes, recurring tickets and a stall
heatmap. A friction file is read inside a handler of its own. The log is read inside one handler
for all of its lines, and only a `JSONDecodeError` is caught line by line. The JSON and ISO
readers of the standard library are parameters.
-/

namespace OmniMarket.AuditTrail

/-! ## Models -/

structure ModelAuditEntry where
  entryType : String
  ticketId : Option String
  agentId : Option String
  description : String
  recordedAt : String
deriving DecidableEq

structure ModelCompactorCommand where
  lookbackDays : ℤ := 7
  dryRun : Bool := false

structure ModelFailureMode where
  description : String
  count : ℕ
  ticketIds : List String

structure ModelRecurringTicket where
  ticketId : String
  failureCount : ℕ
  lastFailure : String

structure ModelStallHeatmapEntry where
  agentId : String
  stallCount : ℕ
  affectedTickets : List String

structure ModelCompactorResult where
  totalEntries : ℕ
  failureModes : List ModelFailureMode
  recurringTickets : List ModelRecurringTicket
  stallHeatmap : List ModelStallHeatmapEntry
  rollupPath : Option String
  dryRun : Bool

/-- A file of the friction directory; reading it as UTF-8 may raise. -/
structure FrictionFile where
  name : String
  text : Option String

/-- What the reader finds at the two paths of the command: a directory or none, a file or none. -/
structure AuditFiles where
  frictionDir : Option (List FrictionFile)
  dispatchLog : Option (List String)

/-- What the interpreter supplies. -/
structure AuditText where
  unicode : UnicodeTable
  jsonLoads : String → Loaded
  /-- `str(value)` of a value that is no string. -/
  str : PyValue → String
  /-- `datetime.fromisoformat`; `none` is a `ValueError`. -/
  fromisoformat : String → Option PyDatetime
  isoformat : PyDatetime → String

/-- The clock at the two places that ask for it. -/
structure AuditClock where
  now : ℤ
  renderedAt : ℤ

/-- `writer.write_rollup(content, dry_run=…)` of a writer that returns. -/
abbrev RollupWriter := String → Bool → Option String

/-! ## Entries -/

section

variable (text : AuditText)

/-- The check of a `str | None` field. -/
def optionalText : PyValue → Option (Option String)
  | .none => some none
  | .str value => some (some value)
  | _ => none

/-- `ModelAuditEntry(...)`; `none` is a `ValidationError`. -/
def modelAuditEntry (entryType : String) (ticketId agentId description recordedAt : PyValue) :
    Option ModelAuditEntry := do
  let ticketId ← optionalText ticketId
  let agentId ← optionalText agentId
  let description ← description.asStr?
  let recordedAt ← recordedAt.asStr?
  some ⟨entryType, ticketId, agentId, description, recordedAt⟩

def frictionEntry (data : PyDict) : Option ModelAuditEntry :=
  modelAuditEntry "friction" (data.get "ticket_id") (data.get "agent_id")
    ((data.get? "description").getD (.str "")) ((data.get? "recorded_at").getD (.str ""))

/-- `f"dispatch_{outcome}"`. -/
def dispatchType : PyValue → String
  | .str outcome => "dispatch_" ++ outcome
  | outcome => "dispatch_" ++ text.str outcome

def dispatchEntry (data : PyDict) : Option ModelAuditEntry :=
  let outcome := (data.get? "outcome").getD (.str "unknown")
  let skillId := data.get "skill_id"
  modelAuditEntry (dispatchType text outcome) (data.get "ticket_id")
    (if skillId.truthy then skillId else data.get "agent_id")
    (if outcome ≠ .str "success" then (data.get? "error").getD (.str "") else .str "")
    ((data.get? "timestamp").getD (.str ""))

/-! ## Reading -/

def readFrictionFile (file : FrictionFile) : Option ModelAuditEntry :=
  match file.text.map text.jsonLoads with
  | some (.value (.dict data)) => frictionEntry data
  | _ => none

/-- `sorted(os.listdir(dir_path))`, as far as it is read. -/
def frictionFiles (files : AuditFiles) : List FrictionFile :=
  match files.frictionDir with
  | none => []
  | some listed =>
    (listed.insertionSort fun first second => first.name ≤ second.name).filter fun file =>
      ".json".toList.isSuffixOf file.name.toList

def readFrictionEntries (files : AuditFiles) : List ModelAuditEntry :=
  (frictionFiles files).filterMap (readFrictionFile text)

inductive LineRead where
  | skipped
  | appended (entry : ModelAuditEntry)
  /-- An exception that the handler around the whole log catches. -/
  | stopped
deriving DecidableEq

def readLine (line : String) : LineRead :=
  let line := PyText.stripString line
  if line.isEmpty then .skipped
  else
    match text.jsonLoads line with
    | .malformed _ => .skipped
    | .value (.dict data) =>
      match dispatchEntry text data with
      | some entry => .appended entry
      | none => .stopped
    | _ => .stopped

def readLines : List String → List ModelAuditEntry
  | [] => []
  | line :: rest =>
    match readLine text line with
    | .skipped => readLines rest
    | .appended entry => entry :: readLines rest
    | .stopped => []

def dispatchLines (files : AuditFiles) : List String := files.dispatchLog.getD []

def readDispatchEntries (files : AuditFiles) : List ModelAuditEntry :=
  readLines text (dispatchLines files)

/-! ## The window -/

/-- `datetime.now(tz=UTC) - timedelta(days=lookback_days)`; `none` is an `OverflowError`. -/
def windowStart (now : ℤ) (lookbackDays : ℤ) : Option PyDatetime :=
  if |lookbackDays| ≤ 999999999 then
    PyDatetime.astimezoneUtc ⟨now - lookbackDays * 86400000000, some 0⟩
  else none

def parseRecordedAt (recordedAt : String) : Option PyDatetime :=
  text.fromisoformat (String.ofList
    (PyText.replaceText "Z".toList "+00:00".toList 0 recordedAt.toList))

/-- The condition of the filter; `none` is the `TypeError` of a naive time. -/
def inWindow? (cutoff : PyDatetime) (entry : ModelAuditEntry) : Option Bool :=
  match parseRecordedAt text entry.recordedAt with
  | none => some false
  | some parsed =>
    if parsed.Comparable cutoff then some (decide (cutoff.instant ≤ parsed.instant)) else none

def filterWindow (cutoff : PyDatetime) : List ModelAuditEntry → Option (List ModelAuditEntry)
  | [] => some []
  | entry :: rest => do
      let kept ← inWindow? text cutoff entry
      let later ← filterWindow cutoff rest
      some (if kept then entry :: later else later)

/-! ## Aggregates -/

/-- `counter[key] += 1` for each key. -/
def countKeys (keys : List String) : OrderedDict String ℕ :=
  OrderedDict.foldByKey id (fun held _ => held.getD 0 + 1) .empty keys

/-- `sorted(set(texts))`. -/
def sortedSet (texts : List String) : List String := texts.dedup.insertionSort (· ≤ ·)

def normalizeFailureKey (description : String) : String :=
  String.ofList (PyText.strip ((description.toList.takeWhile (· ≠ '\n')).take 120))

/-- An entry that counts as a failure mode. -/
def isDescribed (entry : ModelAuditEntry) : Bool :=
  entry.entryType ≠ "dispatch_success" && entry.description ≠ ""

def computeFailureModes (entries : List ModelAuditEntry) : List ModelFailureMode :=
  let described := entries.filter isDescribed
  let counter := countKeys (described.map fun entry => normalizeFailureKey entry.description)
  let ticketed := described.filter fun entry => PyText.textTruthy entry.ticketId
  let tickets := OrderedDict.groupBy (fun entry => normalizeFailureKey entry.description) ticketed
  ((counter.entries.insertionSort fun first second => second.2 ≤ first.2).take 10).map
    fun (key, count) =>
      ⟨key, count, sortedSet (((tickets.get? key).getD []).filterMap ModelAuditEntry.ticketId)⟩

/-- `datetime.min.replace(tzinfo=UTC)`. -/
def datetimeMin : PyDatetime := ⟨-62135596800000000, some 0⟩

/-- The key of `max`; every entry of the window has an offset. -/
def recordedInstant (entry : ModelAuditEntry) : ℤ :=
  ((parseRecordedAt text entry.recordedAt).getD datetimeMin).instant

/-- `max(failures, key=...)`: the first entry with the latest time. -/
def latestFailure : List ModelAuditEntry → Option ModelAuditEntry
  | [] => none
  | first :: rest => some (rest.foldl (fun latest entry =>
    if recordedInstant text latest < recordedInstant text entry then entry else latest) first)

def recurringTicket (ticketId : String) (failures : List ModelAuditEntry) :
    Option ModelRecurringTicket :=
  (latestFailure text failures).bind fun latest =>
    if 2 ≤ failures.length then
      some ⟨ticketId, failures.length,
        if latest.description ≠ "" then latest.description else latest.entryType⟩
    else none

def computeRecurringTickets (entries : List ModelAuditEntry) : List ModelRecurringTicket :=
  let ticketed := entries.filter fun entry =>
    entry.entryType ≠ "dispatch_success" && PyText.textTruthy entry.ticketId
  let failures := OrderedDict.groupBy (fun entry => entry.ticketId.getD "") ticketed
  let recurring := failures.entries.filterMap fun (ticketId, failures) =>
    recurringTicket text ticketId failures
  (recurring.insertionSort fun first second => second.failureCount ≤ first.failureCount).take 20

def isStall (entry : ModelAuditEntry) : Bool :=
  PyText.containsText "stall".toList entry.entryType.toList ||
    PyText.containsText "stall".toList (PyText.lowerString text.unicode entry.description)

def stallTicket (entry : ModelAuditEntry) : String := PyText.textOrElse entry.ticketId "_no_ticket"

def computeStallHeatmap (entries : List ModelAuditEntry) : List ModelStallHeatmapEntry :=
  let stalls := OrderedDict.groupBy (fun entry => PyText.textOrElse entry.agentId "unknown")
    (entries.filter (isStall text))
  let counted := stalls.entries.map fun (agent, stalled) =>
    (agent, countKeys (stalled.map stallTicket))
  (counted.insertionSort fun first second => second.2.values.sum ≤ first.2.values.sum).map
    fun (agent, counts) =>
      ⟨agent, counts.values.sum, sortedSet (counts.keys.filter (· ≠ "_no_ticket"))⟩

/-! ## The rollup -/

def renderRollup (command : ModelCompactorCommand) (renderedAt : ℤ)
    (entries : List ModelAuditEntry) (failureModes : List ModelFailureMode)
    (recurringTickets : List ModelRecurringTicket) (stallHeatmap : List ModelStallHeatmapEntry) :
    String :=
  let days := toString command.lookbackDays
  let head := ["# Audit Trail Rollup — " ++ days ++ "-day window", "",
    "**Generated**: " ++ text.isoformat ⟨renderedAt, some 0⟩,
    "**Total entries**: " ++ toString entries.length, "**Lookback**: " ++ days ++ " days", "",
    "## Top Failure Modes", ""]
  let modes :=
    if failureModes.isEmpty then ["(no failures found)"]
    else failureModes.map fun mode =>
      "- **" ++ mode.description ++ "** — " ++ toString mode.count ++ " occurrences" ++
        (if mode.ticketIds.isEmpty then ""
          else " (" ++ toString mode.ticketIds.length ++ " tickets)")
  let recurring :=
    if recurringTickets.isEmpty then []
    else ["## Recurring Tickets", ""] ++ (recurringTickets.map fun ticket =>
      "- **" ++ ticket.ticketId ++ "** — " ++ toString ticket.failureCount ++
        " failures (last: " ++ ticket.lastFailure ++ ")") ++ [""]
  let stalls :=
    if stallHeatmap.isEmpty then []
    else ["## Stall Heatmap", ""] ++ (stallHeatmap.map fun stall =>
      let tickets := ", ".intercalate (stall.affectedTickets.take 5)
      "- **" ++ stall.agentId ++ "** — " ++ toString stall.stallCount ++ " stalls: " ++
        (if tickets.isEmpty then "(none)" else tickets)) ++ [""]
  "\n".intercalate (head ++ modes ++ [""] ++ recurring ++ stalls)

/-- What `handle` makes of the entries of the window. -/
def compact (writer : Option RollupWriter) (command : ModelCompactorCommand) (renderedAt : ℤ)
    (filtered : List ModelAuditEntry) : ModelCompactorResult :=
  let failureModes := computeFailureModes filtered
  let recurringTickets := computeRecurringTickets text filtered
  let stallHeatmap := computeStallHeatmap text filtered
  { totalEntries := filtered.length
    failureModes := failureModes
    recurringTickets := recurringTickets
    stallHeatmap := stallHeatmap
    rollupPath := writer.bind fun write =>
      write (renderRollup text command renderedAt filtered failureModes recurringTickets
        stallHeatmap) command.dryRun
    dryRun := command.dryRun }

/-- `HandlerAuditTrailCompactor.handle` with the file-system reader; `none` is an exception. -/
def handle (writer : Option RollupWriter) (clock : AuditClock) (command : ModelCompactorCommand)
    (files : AuditFiles) : Option ModelCompactorResult := do
  let cutoff ← windowStart clock.now command.lookbackDays
  let allEntries := readFrictionEntries text files ++ readDispatchEntries text files
  let filtered ← filterWindow text cutoff allEntries
  some (compact text writer command clock.renderedAt filtered)

end

end OmniMarket.AuditTrail
