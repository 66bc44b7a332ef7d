import Mathlib.Data.List.Sort
import Mathlib.Data.String.Basic
import OmniMarket.Lib.Graph
import OmniMarket.Lib.OrderedDict
import OmniMarket.Lib.PyText
import OmniMarket.Lib.PyValue

/-!
# The wave scheduler

A plan file lists tickets with their repositories and dependencies. The scheduler checks the
dependencies, assigns the tickets to waves and hands one wave after the other to a dispatcher.
`str` of a value in the plan is a parameter, and so is the dispatcher: the statuses that it
reports for a wave, by ticket. A status is the text of an enum member or any other text.
-/

namespace OmniMarket.WaveScheduler

/-! ## Plans -/

structure ModelTicket where
  repo : String := ""
  dependsOn : List String := []

/-- The tickets of a plan, by id. -/
abbrev TicketMap := OrderedDict String ModelTicket

/-- `first or second`. -/
def orElse (first second : PyValue) : PyValue := if first.truthy then first else second

/-- `depends_on` of a row, as a list. -/
def dependsOnOf (str : PyValue → String) (row : PyDict) : Option (List String) :=
  match (PyDict.get? row "depends_on").getD (.list []) with
  | .none => some []
  | .str single => some [single]
  | .list items => some (items.map str)
  | _ => none

def readRow (str : PyValue → String) (tickets : TicketMap) : PyValue → Except String TicketMap
  | .dict row =>
    let ticketId := PyText.stripString
      (str (orElse (orElse (PyDict.get row "ticket_id") (PyDict.get row "id")) (.str "")))
    if ticketId = "" then .error "each plan ticket must include ticket_id or id"
    else
      match dependsOnOf str row with
      | none => .error (ticketId ++ " depends_on must be a list")
      | some dependsOn =>
        .ok (tickets.set ticketId
          { repo := str (orElse (orElse (PyDict.get row "repo") (PyDict.get row "repository")) (.str ""))
            dependsOn := dependsOn })
  | _ => .error "each plan ticket must be a mapping"

/-- `_read_plan`, from the loaded file on. -/
def readPlan (str : PyValue → String) : PyValue → Except String TicketMap
  | .dict raw =>
    match (PyDict.get? raw "tickets").getD ((PyDict.get? raw "tasks").getD (.list [])) with
    | .list rows => rows.foldlM (readRow str) .empty
    | _ => .error "plan tickets/tasks must be a list"
  | _ => .error "plan file must contain a mapping"

/-- `tickets[ticket_id]`, for a ticket of the plan. -/
def ticketOf (tickets : TicketMap) (ticketId : String) : ModelTicket :=
  (tickets.get? ticketId).getD {}

/-- `sorted(tickets)`. -/
def sortedIds (ids : List String) : List String := ids.insertionSort (· ≤ ·)

/-! ## Dependency violations -/

inductive EnumDependencyViolationKind where
  | cycle
  | missingDependency
  | selfReference

structure ModelDependencyViolation where
  kind : EnumDependencyViolationKind
  ticketId : String
  dependencyId : String := ""
  cyclePath : List String := []
  message : String := ""

def knownDependencies (tickets : TicketMap) (ticketId : String) : List String :=
  (ticketOf tickets ticketId).dependsOn.filter (· ∈ tickets.keys)

/-- `_find_cycle`; `none` is a recursion that does not end. -/
def findCycle (tickets : TicketMap) : Option (List String) :=
  DependencyGraph.search (knownDependencies tickets) (sortedIds tickets.keys)

def dependencyViolation (tickets : TicketMap) (ticketId dependencyId : String) :
    Option ModelDependencyViolation :=
  if dependencyId = ticketId then
    some { kind := .selfReference
           ticketId := ticketId
           dependencyId := dependencyId
           message := ticketId ++ " depends on itself" }
  else if dependencyId ∉ tickets.keys then
    some { kind := .missingDependency
           ticketId := ticketId
           dependencyId := dependencyId
           message := ticketId ++ " depends on missing " ++ dependencyId }
  else none

def cycleViolation : List String → Option ModelDependencyViolation
  | [] => none
  | first :: rest =>
    some { kind := .cycle
           ticketId := first
           cyclePath := first :: rest
           message := "dependency cycle detected: " ++ " -> ".intercalate (first :: rest) }

def dependencyViolations (tickets : TicketMap) : Option (List ModelDependencyViolation) :=
  (findCycle tickets).map fun cycle =>
    ((sortedIds tickets.keys).flatMap fun ticketId =>
      (ticketOf tickets ticketId).dependsOn.filterMap (dependencyViolation tickets ticketId)) ++
    (cycleViolation cycle).toList

/-! ## Waves -/

structure ModelWaveAssignment where
  waveId : ℕ
  ticketIds : List String := []
  repoAssignments : List (String × String) := []
  deferredTicketIds : List String := []
deriving DecidableEq

/-- What a pass over the ready tickets has selected and deferred so far. -/
structure WaveSelection where
  selected : List String := []
  deferred : List String := []
  usedRepos : List String := []

section

variable (tickets : TicketMap)

def selectTicket (maxConcurrency : ℕ) (deferRepoConflicts : Bool) (selection : WaveSelection)
    (ticketId : String) : WaveSelection :=
  let repo := (ticketOf tickets ticketId).repo
  if maxConcurrency ≤ selection.selected.length then
    { selection with deferred := selection.deferred ++ [ticketId] }
  -- tickets without a repository never conflict
  else if deferRepoConflicts ∧ repo ≠ "" ∧ repo ∈ selection.usedRepos then
    { selection with deferred := selection.deferred ++ [ticketId] }
  else
    { selection with
      selected := selection.selected ++ [ticketId]
      usedRepos := if repo = "" then selection.usedRepos else repo :: selection.usedRepos }

def selectWaveTickets (maxConcurrency : ℕ) (deferRepoConflicts : Bool) (ready : List String) :
    WaveSelection :=
  ready.foldl (selectTicket tickets maxConcurrency deferRepoConflicts) {}

def readyTickets (remaining completed : List String) : List String :=
  sortedIds (remaining.filter fun ticketId =>
    (ticketOf tickets ticketId).dependsOn.all (· ∈ completed))

def waveAssignment (waveId : ℕ) (selection : WaveSelection) :
    ModelWaveAssignment where
  waveId := waveId
  ticketIds := selection.selected
  repoAssignments := selection.selected.filterMap fun ticketId =>
    let repo := (ticketOf tickets ticketId).repo
    if repo = "" then none else some (ticketId, repo)
  deferredTicketIds := selection.deferred

/-- The loop of `_build_wave_assignments`; `none` is a loop that does not end. -/
def buildWaves (tickets : TicketMap) (maxConcurrency : ℕ) (deferRepoConflicts : Bool) :
    ℕ → List String → List String → ℕ → Option (Except String (List ModelWaveAssignment))
  | _, [], _, _ => some (.ok [])
  | 0, _ :: _, _, _ => none
  | fuel + 1, first :: others, completed, waveId =>
    let remaining := first :: others
    match readyTickets tickets remaining completed with
    | [] => some (.error "dependency graph has no ready tickets")
    | ready =>
      let selection := selectWaveTickets tickets maxConcurrency deferRepoConflicts ready
      (buildWaves tickets maxConcurrency deferRepoConflicts fuel
        (remaining.filter (· ∉ selection.selected)) (completed ++ selection.selected)
        (waveId + 1)).map fun built =>
          built.map fun later => waveAssignment tickets waveId selection :: later

def buildWaveAssignments (maxConcurrency : ℕ) (deferRepoConflicts : Bool) :
    Option (Except String (List ModelWaveAssignment)) :=
  buildWaves tickets maxConcurrency deferRepoConflicts tickets.keys.length tickets.keys [] 0

end

/-!
# Waves that partition a plan
-/

section

open DependencyGraph

variable {tickets : TicketMap}

variable {ticketId : String}

theorem mem_sortedIds {ids : List String} : ticketId ∈ sortedIds ids ↔ ticketId ∈ ids :=
  List.mem_insertionSort _

theorem mem_knownDependencies {dependencyId : String} :
    dependencyId ∈ knownDependencies tickets ticketId ↔
      dependencyId ∈ (ticketOf tickets ticketId).dependsOn ∧ dependencyId ∈ tickets.keys := by
  simp [knownDependencies]

/-! ## Cycles -/

theorem IsCycle.head_known {cycle : List String}
    (isCycle : IsCycle (knownDependencies tickets) cycle) :
    ∃ ticketId ∈ tickets.keys, OnCycle (knownDependencies tickets) ticketId := by
  obtain ⟨first, heads⟩ : ∃ first, cycle.head? = some first :=
    Option.ne_none_iff_exists'.1 fun none' => isCycle.ne_nil (List.head?_eq_none_iff.1 none')
  have onCycle := onCycle_of_isCycle isCycle heads
  refine ⟨first, ?_, onCycle⟩
  obtain ⟨last, -, step⟩ := Relation.TransGen.tail'_iff.1 onCycle
  exact (mem_knownDependencies.1 step).2

theorem findCycle_spec (tickets : TicketMap) :
    ∃ cycle, findCycle tickets = some cycle ∧
      (cycle ≠ [] ↔ ∃ ticketId ∈ tickets.keys, OnCycle (knownDependencies tickets) ticketId) ∧
      (cycle ≠ [] → IsCycle (knownDependencies tickets) cycle) := by
  have closed : ∀ node ∈ sortedIds tickets.keys,
      knownDependencies tickets node ⊆ sortedIds tickets.keys := fun _ _ _ step =>
    mem_sortedIds.2 (mem_knownDependencies.1 step).2
  obtain ⟨cycle, found, result⟩ := search_finds closed
  refine ⟨cycle, found, ?_⟩
  rcases result with isCycle | ⟨rfl, acyclic⟩
  · exact ⟨iff_of_true isCycle.ne_nil (IsCycle.head_known isCycle), fun _ => isCycle⟩
  · refine ⟨iff_of_false (fun some' => some' rfl) ?_, fun some' => absurd rfl some'⟩
    rintro ⟨ticketId, known, onCycle⟩
    exact acyclic ticketId (mem_sortedIds.2 known) onCycle

structure WellPlanned (tickets : TicketMap) : Prop where
  known : ∀ ticketId ∈ tickets.keys, (ticketOf tickets ticketId).dependsOn ⊆ tickets.keys
  acyclic : ∀ ticketId ∈ tickets.keys, ¬ OnCycle (knownDependencies tickets) ticketId

theorem wellPlanned_of_no_violations (none' : dependencyViolations tickets = some []) :
    WellPlanned tickets := by
  obtain ⟨cycle, found, onCycle, -⟩ := findCycle_spec tickets
  rw [dependencyViolations, found, Option.map_some, Option.some_inj, List.append_eq_nil_iff] at none'
  obtain ⟨noneHere, noCycle⟩ := none'
  constructor
  · intro ticketId listed dependencyId step
    by_contra missing
    have each := List.filterMap_eq_nil_iff.1
      (List.flatMap_eq_nil_iff.1 noneHere ticketId (mem_sortedIds.2 listed)) dependencyId step
    rw [dependencyViolation] at each
    by_cases self : dependencyId = ticketId
    · rw [if_pos self] at each
      cases each
    · rw [if_neg self, if_pos missing] at each
      cases each
  · intro ticketId listed back
    have some' : cycle ≠ [] := onCycle.2 ⟨ticketId, listed, back⟩
    cases cycle with
    | nil => exact some' rfl
    | cons first rest => cases noCycle

/-! ## Selection -/

/-- Two tickets of a wave that may run side by side. -/
def RepoApart (tickets : TicketMap) (first second : String) : Prop :=
  (ticketOf tickets first).repo ≠ "" →
    (ticketOf tickets first).repo ≠ (ticketOf tickets second).repo

structure WaveSelection.Sound (tickets : TicketMap) (maxConcurrency : ℕ)
    (deferRepoConflicts : Bool) (ready : List String) (selection : WaveSelection) : Prop where
  chosen : selection.selected.Sublist ready
  width : selection.selected.length ≤ maxConcurrency
  started : ready ≠ [] → selection.selected ≠ []
  apart : deferRepoConflicts = true → selection.selected.Pairwise (RepoApart tickets)
  used : ∀ ticketId ∈ selection.selected, (ticketOf tickets ticketId).repo ≠ "" →
    (ticketOf tickets ticketId).repo ∈ selection.usedRepos
  unused : selection.selected = [] → selection.usedRepos = []

variable {maxConcurrency : ℕ} {deferRepoConflicts : Bool}

theorem WaveSelection.Sound.step {ready : List String} {selection : WaveSelection}
    (positive : 1 ≤ maxConcurrency)
    (sound : selection.Sound tickets maxConcurrency deferRepoConflicts ready) (ticketId : String) :
    (selectTicket tickets maxConcurrency deferRepoConflicts selection ticketId).Sound tickets
      maxConcurrency deferRepoConflicts (ready ++ [ticketId]) := by
  obtain ⟨chosen, width, started, apart, used, unused⟩ := sound
  have kept : selection.selected.Sublist (ready ++ [ticketId]) :=
    chosen.trans (List.sublist_append_left ready [ticketId])
  rw [selectTicket]
  split
  · next full =>
    refine ⟨kept, width, ?_, apart, used, unused⟩
    intro _ none'
    -- an empty wave has room, since `max_concurrency` is positive
    rw [none', List.length_nil] at full
    omega
  · next room =>
    split
    · next conflict =>
      refine ⟨kept, width, ?_, apart, used, unused⟩
      intro _ none'
      -- an empty wave has used no repository
      rw [unused none'] at conflict
      exact absurd conflict.2.2 List.not_mem_nil
    · next free =>
      refine ⟨chosen.append (List.Sublist.refl _), ?_, ?_, ?_, ?_, ?_⟩
      · show (selection.selected ++ [ticketId]).length ≤ maxConcurrency
        rw [List.length_append, List.length_singleton]
        omega
      · exact fun _ none' => absurd none' (by simp)
      · intro deferred
        refine List.pairwise_append.2 ⟨apart deferred, List.pairwise_singleton _ _, ?_⟩
        intro other among own single named same
        rw [List.mem_singleton.1 single] at same
        exact free ⟨deferred, same ▸ named, same ▸ used other among named⟩
      · intro other among named
        show _ ∈ if (ticketOf tickets ticketId).repo = "" then _ else _
        rcases List.mem_append.1 among with old | single
        · split
          · exact used other old named
          · exact List.mem_cons_of_mem _ (used other old named)
        · obtain rfl := List.mem_singleton.1 single
          rw [if_neg named]
          exact List.mem_cons_self
      · exact fun none' => absurd none' (by simp)

theorem selectWaveTickets_sound (positive : 1 ≤ maxConcurrency) (ready : List String) :
    (selectWaveTickets tickets maxConcurrency deferRepoConflicts ready).Sound tickets
      maxConcurrency deferRepoConflicts ready := by
  induction ready using List.reverseRecOn with
  | nil =>
    refine ⟨List.Sublist.refl [], Nat.zero_le _, fun some' => absurd rfl some',
      fun _ => List.Pairwise.nil, ?_, fun _ => rfl⟩
    exact fun _ none' => absurd none' List.not_mem_nil
  | append_singleton ready ticketId ih =>
    rw [selectWaveTickets, List.foldl_append]
    exact ih.step positive ticketId

/-! ## The loop -/

structure Scheduled (tickets : TicketMap) (maxConcurrency : ℕ) (deferRepoConflicts : Bool)
    (remaining completed : List String) (waves : List ModelWaveAssignment) : Prop where
  once : (waves.flatMap (·.ticketIds)).Perm remaining
  ordered : ∀ before wave after, waves = before ++ wave :: after → ∀ ticketId ∈ wave.ticketIds,
    ∀ dependencyId ∈ (ticketOf tickets ticketId).dependsOn,
      dependencyId ∈ completed ∨ ∃ earlier ∈ before, dependencyId ∈ earlier.ticketIds
  width : ∀ wave ∈ waves, wave.ticketIds.length ≤ maxConcurrency
  apart : deferRepoConflicts = true →
    ∀ wave ∈ waves, wave.ticketIds.Pairwise (RepoApart tickets)

variable {remaining completed : List String}

theorem mem_readyTickets :
    ticketId ∈ readyTickets tickets remaining completed ↔
      ticketId ∈ remaining ∧ (ticketOf tickets ticketId).dependsOn ⊆ completed := by
  rw [readyTickets, mem_sortedIds, List.mem_filter, List.all_eq_true]
  exact and_congr_right fun _ =>
    ⟨fun all _ step => of_decide_eq_true (all _ step), fun all _ step => decide_eq_true (all step)⟩

theorem exists_ready (planned : WellPlanned tickets) (some' : remaining ≠ [])
    (within : remaining ⊆ tickets.keys)
    (rest : ∀ ticketId ∈ tickets.keys, ticketId ∈ remaining ∨ ticketId ∈ completed) :
    readyTickets tickets remaining completed ≠ [] := by
  obtain ⟨ticketId, listed, sink⟩ :=
    exists_sink some' fun node listed => planned.acyclic node (within listed)
  have ready : ticketId ∈ readyTickets tickets remaining completed := by
    refine mem_readyTickets.2 ⟨listed, ?_⟩
    intro dependencyId step
    have known := planned.known ticketId (within listed) step
    rcases rest dependencyId known with later | done
    · exact absurd later (sink dependencyId (mem_knownDependencies.2 ⟨step, known⟩))
    · exact done
  exact List.ne_nil_of_mem ready

theorem readyTickets_nodup (nodup : remaining.Nodup) :
    (readyTickets tickets remaining completed).Nodup :=
  (List.perm_insertionSort _ _).nodup_iff.2 (nodup.filter _)

theorem Scheduled.cons {remaining completed : List String} {selection : WaveSelection}
    {later : List ModelWaveAssignment} {waveId : ℕ} (nodup : remaining.Nodup)
    (sound : selection.Sound tickets maxConcurrency deferRepoConflicts
      (readyTickets tickets remaining completed))
    (scheduled : Scheduled tickets maxConcurrency deferRepoConflicts
      (remaining.filter (· ∉ selection.selected)) (completed ++ selection.selected) later) :
    Scheduled tickets maxConcurrency deferRepoConflicts remaining completed
      (waveAssignment tickets waveId selection :: later) := by
  have taken : selection.selected.Perm (remaining.filter (· ∈ selection.selected)) := by
    refine (List.perm_ext_iff_of_nodup (sound.chosen.nodup (readyTickets_nodup nodup))
      (nodup.filter _)).2 ?_
    intro ticketId
    rw [List.mem_filter, decide_eq_true_iff]
    exact ⟨fun chosen => ⟨(mem_readyTickets.1 (sound.chosen.subset chosen)).1, chosen⟩, And.right⟩
  constructor
  · have split := List.filter_append_perm (fun ticketId => decide (ticketId ∈ selection.selected))
      remaining
    -- what is selected and what remains make up the tickets that were waiting
    have others : (remaining.filter fun ticketId => !decide (ticketId ∈ selection.selected)) =
        remaining.filter (· ∉ selection.selected) := by
      refine List.filter_congr ?_
      intro ticketId _
      rw [decide_not]
    rw [others] at split
    exact (taken.append scheduled.once).trans split
  · intro before wave after whole ticketId among dependencyId step
    cases before with
    | nil =>
      obtain ⟨rfl, -⟩ := List.cons.inj whole
      exact .inl ((mem_readyTickets.1 (sound.chosen.subset among)).2 step)
    | cons first before =>
      obtain ⟨rfl, rest⟩ := List.cons.inj whole
      rcases scheduled.ordered before wave after rest ticketId among dependencyId step with
        done | ⟨earlier, listed, own⟩
      · rcases List.mem_append.1 done with old | selected
        · exact .inl old
        · exact .inr ⟨_, List.mem_cons_self, selected⟩
      · exact .inr ⟨earlier, List.mem_cons_of_mem _ listed, own⟩
  · exact List.forall_mem_cons.2 ⟨sound.width, scheduled.width⟩
  · exact fun deferred =>
      List.forall_mem_cons.2 ⟨sound.apart deferred, scheduled.apart deferred⟩

def nextSelection (tickets : TicketMap) (maxConcurrency : ℕ) (deferRepoConflicts : Bool)
    (remaining completed : List String) : WaveSelection :=
  selectWaveTickets tickets maxConcurrency deferRepoConflicts
    (readyTickets tickets remaining completed)

theorem buildWaves_succ {fuel : ℕ} (waveId : ℕ) (some' : remaining ≠ [])
    (ready : readyTickets tickets remaining completed ≠ []) :
    buildWaves tickets maxConcurrency deferRepoConflicts (fuel + 1) remaining completed waveId =
      (buildWaves tickets maxConcurrency deferRepoConflicts fuel
        (remaining.filter
          (· ∉ (nextSelection tickets maxConcurrency deferRepoConflicts remaining
            completed).selected))
        (completed ++
          (nextSelection tickets maxConcurrency deferRepoConflicts remaining completed).selected)
        (waveId + 1)).map fun built => built.map fun later =>
          waveAssignment tickets waveId
            (nextSelection tickets maxConcurrency deferRepoConflicts remaining completed) ::
              later := by
  cases remaining with
  | nil => exact absurd rfl some'
  | cons first others =>
    rw [buildWaves, nextSelection]
    cases listed : readyTickets tickets (first :: others) completed with
    | nil => exact absurd listed ready
    | cons _ _ => rfl

theorem buildWaves_scheduled (planned : WellPlanned tickets) (positive : 1 ≤ maxConcurrency)
    {fuel : ℕ} (waveId : ℕ) (nodup : remaining.Nodup) (within : remaining ⊆ tickets.keys)
    (rest : ∀ ticketId ∈ tickets.keys, ticketId ∈ remaining ∨ ticketId ∈ completed)
    (enough : remaining.length ≤ fuel) :
    ∃ waves, buildWaves tickets maxConcurrency deferRepoConflicts fuel remaining completed waveId =
        some (.ok waves) ∧
      Scheduled tickets maxConcurrency deferRepoConflicts remaining completed waves := by
  -- induction on the fuel, which is at least the number of tickets that wait
  induction fuel generalizing remaining completed waveId with
  | zero =>
    obtain rfl : remaining = [] := List.length_eq_zero_iff.1 (Nat.le_zero.1 enough)
    refine ⟨[], by rw [buildWaves], .refl _, ?_, ?_, ?_⟩
    all_goals simp
  | succ fuel ih =>
    by_cases none' : remaining = []
    · subst none'
      refine ⟨[], by rw [buildWaves], .refl _, ?_, ?_, ?_⟩
      all_goals simp
    · have ready := exists_ready planned none' within rest
      have sound : (nextSelection tickets maxConcurrency deferRepoConflicts remaining
          completed).Sound tickets maxConcurrency deferRepoConflicts
          (readyTickets tickets remaining completed) := selectWaveTickets_sound positive _
      rw [buildWaves_succ waveId none' ready]
      generalize nextSelection tickets maxConcurrency deferRepoConflicts remaining completed =
        selection at sound
      -- the wave is not empty, so fewer tickets remain
      have shorter : (remaining.filter (· ∉ selection.selected)).length < remaining.length := by
        obtain ⟨ticketId, chosen⟩ := List.exists_mem_of_ne_nil _ (sound.started ready)
        refine List.length_filter_lt_length_iff_exists.2 ⟨ticketId, ?_, by simpa using chosen⟩
        exact (mem_readyTickets.1 (sound.chosen.subset chosen)).1
      have further : ∀ ticketId ∈ tickets.keys,
          ticketId ∈ remaining.filter (· ∉ selection.selected) ∨
            ticketId ∈ completed ++ selection.selected := by
        intro ticketId known
        by_cases chosen : ticketId ∈ selection.selected
        · exact .inr (List.mem_append_right _ chosen)
        · rcases rest ticketId known with later | done
          · exact .inl (List.mem_filter.2 ⟨later, decide_eq_true chosen⟩)
          · exact .inr (List.mem_append_left _ done)
      obtain ⟨waves, built, scheduled⟩ := ih (waveId + 1) (nodup.filter _)
        (fun _ listed => within (List.mem_filter.1 listed).1) further (by omega)
      rw [built]
      exact ⟨waveAssignment tickets waveId selection :: waves, rfl, scheduled.cons nodup sound⟩

/-! ## The schedule -/

/-- The waves partition the plan, respect its dependencies, are no wider than allowed and, when
conflicts are deferred, hold no repository twice. -/
structure ValidPartition (tickets : TicketMap) (maxConcurrency : ℕ) (deferRepoConflicts : Bool)
    (waves : List ModelWaveAssignment) : Prop where
  once : (waves.flatMap (·.ticketIds)).Perm tickets.keys
  ordered : ∀ before wave after, waves = before ++ wave :: after → ∀ ticketId ∈ wave.ticketIds,
    ∀ dependencyId ∈ (ticketOf tickets ticketId).dependsOn,
      ∃ earlier ∈ before, dependencyId ∈ earlier.ticketIds
  width : ∀ wave ∈ waves, wave.ticketIds.length ≤ maxConcurrency
  apart : deferRepoConflicts = true →
    ∀ wave ∈ waves, wave.ticketIds.Pairwise (RepoApart tickets)

theorem buildWaveAssignments_valid (none' : dependencyViolations tickets = some [])
    (positive : 1 ≤ maxConcurrency) :
    ∃ waves, buildWaveAssignments tickets maxConcurrency deferRepoConflicts = some (.ok waves) ∧
      ValidPartition tickets maxConcurrency deferRepoConflicts waves := by
  obtain ⟨waves, built, scheduled⟩ : ∃ waves, buildWaveAssignments tickets maxConcurrency
      deferRepoConflicts = some (.ok waves) ∧
      Scheduled tickets maxConcurrency deferRepoConflicts tickets.keys [] waves :=
    buildWaves_scheduled (wellPlanned_of_no_violations none') positive 0 tickets.nodup
      (List.Subset.refl _) (fun _ listed => .inl listed) (le_refl _)
  refine ⟨waves, built, scheduled.once, ?_, scheduled.width, scheduled.apart⟩
  intro before wave after whole ticketId among dependencyId step
  rcases scheduled.ordered before wave after whole ticketId among dependencyId step with
    done | earlier
  · exact absurd done List.not_mem_nil
  · exact earlier

/-- The search for a cycle ends and finds one exactly when known tickets depend on each other in
a cycle, and a plan without violations is built into waves that partition it. -/
theorem wave_schedule_valid (tickets : TicketMap) :
    (∃ cycle, findCycle tickets = some cycle ∧
      (cycle ≠ [] ↔ ∃ ticketId ∈ tickets.keys, OnCycle (knownDependencies tickets) ticketId) ∧
      (cycle ≠ [] → IsCycle (knownDependencies tickets) cycle)) ∧
    ∀ maxConcurrency deferRepoConflicts, dependencyViolations tickets = some [] →
      1 ≤ maxConcurrency →
      ∃ waves, buildWaveAssignments tickets maxConcurrency deferRepoConflicts = some (.ok waves) ∧
        ValidPartition tickets maxConcurrency deferRepoConflicts waves :=
  ⟨findCycle_spec tickets, fun _ _ none' positive => buildWaveAssignments_valid none' positive⟩

end

end OmniMarket.WaveScheduler
