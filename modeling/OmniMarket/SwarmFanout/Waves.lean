import Mathlib.Data.List.MinMax
import Mathlib.Data.List.Sort
import Mathlib.Data.String.Basic
import OmniMarket.Lib.Graph
import OmniMarket.Lib.OrderedDict

/-!
# Waves of subtasks

`_compute_waves` gives each subtask the wave after the last of its dependencies, with a memoised
recursion. `none` is a recursion that does not end; an error is the key of a `KeyError`.
-/

namespace OmniMarket.SwarmFanout

open DependencyGraph
variable {subtaskId : String} {next : String → List String}

structure ModelSubtask where
  subtaskId : String
  description : String
  modelAffinity : String := ""
  dependsOn : List String := []
  estimatedTokens : ℤ := 0
  category : String := "general"
deriving DecidableEq

section

variable (subtasks : List ModelSubtask)

/-- `{s.subtask_id: s for s in subtasks}`. -/
def idToSubtask : OrderedDict String ModelSubtask :=
  .foldByKey ModelSubtask.subtaskId (fun _ subtask => subtask) .empty subtasks

/-- The waves assigned so far, by subtask. -/
abbrev Assigned := OrderedDict String ℕ

def latestWave (waveOf : Assigned → String → Option (Except String (ℕ × Assigned))) :
    Assigned → List String → Option (Except String (ℕ × Assigned))
  | assigned, [] => some (.ok (0, assigned))
  | assigned, subtaskId :: rest =>
    match waveOf assigned subtaskId with
    | none => none
    | some (.error missing) => some (.error missing)
    | some (.ok (wave, assigned)) =>
      match latestWave waveOf assigned rest with
      | none => none
      | some (.error missing) => some (.error missing)
      | some (.ok (latest, assigned)) => some (.ok (max wave latest, assigned))

def waveOf (known : OrderedDict String ModelSubtask) :
    ℕ → Assigned → String → Option (Except String (ℕ × Assigned))
  | 0, _, _ => none
  | fuel + 1, assigned, subtaskId =>
    match assigned.get? subtaskId with
    | some wave => some (.ok (wave, assigned))
    | none =>
      match known.get? subtaskId with
      | none => some (.error subtaskId)
      | some subtask =>
        match subtask.dependsOn with
        | [] => some (.ok (0, assigned.set subtaskId 0))
        | first :: others =>
          match latestWave (waveOf known fuel) assigned (first :: others) with
          | none => none
          | some (.error missing) => some (.error missing)
          | some (.ok (latest, assigned)) =>
            some (.ok (latest + 1, assigned.set subtaskId (latest + 1)))

def waveAt (assigned : Assigned) (wave : ℕ) : List ModelSubtask :=
  (subtasks.filter fun subtask => assigned.get? subtask.subtaskId = some wave).insertionSort
    fun first second => first.subtaskId ≤ second.subtaskId

def computeWaves :
    Option (Except String (List (List ModelSubtask))) :=
  match latestWave (waveOf (idToSubtask subtasks) (subtasks.length + 1)) .empty
      (subtasks.map (·.subtaskId)) with
  | none => none
  | some (.error missing) => some (.error missing)
  | some (.ok (_, assigned)) =>
    if assigned.size = 0 then some (.ok [])
    else
      let maxWave := assigned.values.foldr max 0
      some (.ok ((List.range (maxWave + 1)).map (waveAt subtasks assigned)))

/-! ## The graph of the dependencies -/

def dependenciesOf (subtaskId : String) : List String :=
  (((idToSubtask subtasks).get? subtaskId).map (·.dependsOn)).getD []

def idsOf : List String := subtasks.map (·.subtaskId)

structure Schedulable : Prop where
  distinct : (idsOf subtasks).Nodup
  known : ∀ subtask ∈ subtasks, subtask.dependsOn ⊆ idsOf subtasks
  acyclic : ∀ subtaskId ∈ idsOf subtasks, ¬ OnCycle (dependenciesOf subtasks) subtaskId

end

variable {subtasks : List ModelSubtask}

variable {subtask : ModelSubtask}

theorem idToSubtask_get? (distinct : (idsOf subtasks).Nodup) :
    (idToSubtask subtasks).get? subtask.subtaskId = some subtask ↔ subtask ∈ subtasks :=
  OrderedDict.get?_foldByKey_distinct distinct

theorem dependenciesOf_eq (distinct : (idsOf subtasks).Nodup) (listed : subtask ∈ subtasks) :
    dependenciesOf subtasks subtask.subtaskId = subtask.dependsOn := by
  rw [dependenciesOf, (idToSubtask_get? distinct).2 listed]
  rfl

theorem dependenciesOf_unlisted (unlisted : subtaskId ∉ idsOf subtasks) :
    dependenciesOf subtasks subtaskId = [] := by
  rw [dependenciesOf, idToSubtask, OrderedDict.get?_foldByKey_unlisted unlisted]
  rfl

/-! ## The recursion -/

def Correct (next : String → List String) (assigned : Assigned) : Prop :=
  ∀ subtaskId wave, assigned.get? subtaskId = some wave → Longest next subtaskId wave

structure Assigns (next : String → List String) (before : Assigned) (subtaskIds : List String)
    (after : Assigned) : Prop where
  correct : Correct next after
  kept : ∀ subtaskId wave, before.get? subtaskId = some wave → after.get? subtaskId = some wave
  reached : ∀ subtaskId ∈ subtaskIds, ∃ wave, after.get? subtaskId = some wave

variable {before after : Assigned}

theorem Assigns.trans {middle : Assigned} {first second : List String}
    (earlier : Assigns next before first middle) (later : Assigns next middle second after) :
    Assigns next before (first ++ second) after := by
  refine ⟨later.correct, fun subtaskId wave held => later.kept _ _ (earlier.kept _ _ held), ?_⟩
  intro subtaskId listed
  rcases List.mem_append.1 listed with among | among
  · obtain ⟨wave, held⟩ := earlier.reached subtaskId among
    exact ⟨wave, later.kept _ _ held⟩
  · exact later.reached subtaskId among

def Returns (next : String → List String) (before : Assigned) (subtaskId : String)
    (outcome : Option (Except String (ℕ × Assigned))) : Prop :=
  ∃ wave after, outcome = some (.ok (wave, after)) ∧ Assigns next before [subtaskId] after ∧
    after.get? subtaskId = some wave

structure LatestOf (assigned : Assigned) (subtaskIds : List String) (latest : ℕ) : Prop where
  bound : ∀ subtaskId ∈ subtaskIds, ∀ wave, assigned.get? subtaskId = some wave → wave ≤ latest
  attained : subtaskIds ≠ [] → ∃ subtaskId ∈ subtaskIds, assigned.get? subtaskId = some latest

theorem latestWave_returns {waveOf : Assigned → String → Option (Except String (ℕ × Assigned))}
    {subtaskIds : List String} (correct : Correct next before)
    (each : ∀ subtaskId ∈ subtaskIds, ∀ assigned, Correct next assigned →
      Returns next assigned subtaskId (waveOf assigned subtaskId)) :
    ∃ latest after, latestWave waveOf before subtaskIds = some (.ok (latest, after)) ∧
      Assigns next before subtaskIds after ∧ LatestOf after subtaskIds latest := by
  induction subtaskIds generalizing before with
  | nil =>
    refine ⟨0, before, rfl, ⟨correct, fun _ _ => id, ?_⟩, ⟨?_, fun some' => absurd rfl some'⟩⟩
    · exact fun _ none' => absurd none' List.not_mem_nil
    · exact fun _ none' => absurd none' List.not_mem_nil
  | cons subtaskId rest ih =>
    obtain ⟨wave, middle, returned, assigns, own⟩ :=
      each subtaskId List.mem_cons_self before correct
    obtain ⟨latest, after, walked, further, most⟩ := ih assigns.correct
      fun other listed => each other (List.mem_cons_of_mem _ listed)
    have kept := further.kept _ _ own
    refine ⟨max wave latest, after, by simp only [latestWave, returned, walked],
      assigns.trans further, ?_, ?_⟩
    · intro other listed w held
      rcases List.mem_cons.1 listed with rfl | among
      · rw [kept] at held
        exact (Option.some.inj held) ▸ le_max_left _ _
      · exact (most.bound other among w held).trans (le_max_right _ _)
    · intro _
      by_cases greater : latest ≤ wave
      · rw [max_eq_left greater]
        exact ⟨subtaskId, List.mem_cons_self, kept⟩
      · rw [max_eq_right (le_of_not_ge greater)]
        cases rest with
        | nil =>
          obtain ⟨⟩ : latest = 0 := by
            have walked' : some (Except.ok (0, middle)) = some (.ok (latest, after)) := walked
            cases walked'
            rfl
          exact absurd (Nat.zero_le _) greater
        | cons other rest =>
          obtain ⟨deepest, among, held⟩ := most.attained (List.cons_ne_nil _ _)
          exact ⟨deepest, List.mem_cons_of_mem _ among, held⟩

theorem Assigns.add {subtaskIds : List String} {wave : ℕ}
    (assigns : Assigns next before subtaskIds after) (fresh : before.get? subtaskId = none)
    (longest : Longest next subtaskId wave) :
    Assigns next before [subtaskId] (after.set subtaskId wave) := by
  refine ⟨?_, ?_, ?_⟩
  · intro other w held
    by_cases own : other = subtaskId
    · subst own
      rw [OrderedDict.get?_set_self] at held
      exact Option.some.inj held ▸ longest
    · rw [OrderedDict.get?_set_other own] at held
      exact assigns.correct other w held
  · intro other w held
    have differs : other ≠ subtaskId := by
      rintro rfl
      rw [fresh] at held
      cases held
    rw [OrderedDict.get?_set_other differs]
    exact assigns.kept other w held
  · intro other single
    obtain rfl := List.mem_singleton.1 single
    exact ⟨wave, OrderedDict.get?_set_self ..⟩

theorem longest_of_latest {first : String} {others : List String} {latest : ℕ}
    (successors : next subtaskId = first :: others)
    (assigns : Assigns next before (first :: others) after)
    (most : LatestOf after (first :: others) latest) : Longest next subtaskId (latest + 1) := by
  obtain ⟨deepest, among, held⟩ := most.attained (List.cons_ne_nil _ _)
  let depth (dependency : String) : ℕ := (after.get? dependency).getD 0
  have depthDeepest : depth deepest = latest := by
    show (after.get? deepest).getD 0 = latest
    rw [held]
    rfl
  have reached : ∀ dependency ∈ next subtaskId,
      after.get? dependency = some (depth dependency) := by
    intro dependency step
    obtain ⟨wave, found⟩ := assigns.reached dependency (successors ▸ step)
    show after.get? dependency = some ((after.get? dependency).getD 0)
    rw [found]
    rfl
  rw [← depthDeepest]
  refine Longest.node (fun dependency step => assigns.correct _ _ (reached dependency step))
    (successors ▸ among) ?_
  intro dependency step
  rw [depthDeepest]
  exact most.bound dependency (successors ▸ step) _ (reached dependency step)

theorem mem_idsOf :
    subtaskId ∈ idsOf subtasks ↔ ∃ subtask ∈ subtasks, subtask.subtaskId = subtaskId :=
  List.mem_map

variable {assigned : Assigned}

theorem waveOf_returns (schedulable : Schedulable subtasks) {fuel : ℕ} {path : List String}
    (correct : Correct (dependenciesOf subtasks) assigned)
    (chain : (path ++ [subtaskId]).IsChain (Edge (dependenciesOf subtasks)))
    (within : path ++ [subtaskId] ⊆ idsOf subtasks)
    (enough : (idsOf subtasks).length < fuel + path.length) :
    Returns (dependenciesOf subtasks) assigned subtaskId
      (waveOf (idToSubtask subtasks) fuel assigned subtaskId) := by
  -- induction on the fuel: the path of the call is a chain, and chains are short without cycles
  induction fuel generalizing path assigned subtaskId with
  | zero =>
    have short := chain_length_le schedulable.acyclic chain within
    rw [List.length_append, List.length_singleton] at short
    omega
  | succ fuel ih =>
    cases held : assigned.get? subtaskId with
    | some wave =>
      refine ⟨wave, assigned, by simp only [waveOf, held], ⟨correct, fun _ _ => id, ?_⟩, held⟩
      intro other single
      exact ⟨wave, List.mem_singleton.1 single ▸ held⟩
    | none =>
      obtain ⟨subtask, listed, rfl⟩ := mem_idsOf.1
        (within (List.mem_append_right _ (List.mem_singleton.2 rfl)))
      have found := (idToSubtask_get? schedulable.distinct).2 listed
      have successors := dependenciesOf_eq schedulable.distinct listed
      have start : Assigns (dependenciesOf subtasks) assigned [] assigned :=
        ⟨correct, fun _ _ => id, fun _ none' => absurd none' List.not_mem_nil⟩
      cases depends : subtask.dependsOn with
      | nil =>
        -- a leaf is in the first wave
        have longest : Longest (dependenciesOf subtasks) subtask.subtaskId 0 :=
          Longest.leaf (successors.trans depends)
        exact ⟨0, _, by simp only [waveOf, held, found, depends], start.add held longest,
          OrderedDict.get?_set_self ..⟩
      | cons first others =>
        have step : ∀ dependency ∈ first :: others,
            Edge (dependenciesOf subtasks) subtask.subtaskId dependency := by
          intro dependency among
          show dependency ∈ dependenciesOf subtasks subtask.subtaskId
          rw [successors, depends]
          exact among
        have each : ∀ dependency ∈ first :: others, ∀ further,
            Correct (dependenciesOf subtasks) further →
              Returns (dependenciesOf subtasks) further dependency
                (waveOf (idToSubtask subtasks) fuel further dependency) := by
          intro dependency among further correct'
          have longer : (path ++ [subtask.subtaskId] ++ [dependency]).IsChain
              (Edge (dependenciesOf subtasks)) := by
            refine chain.append (List.isChain_singleton dependency) ?_
            intro last isLast other isHead
            rw [List.getLast?_concat] at isLast
            cases isLast
            cases isHead
            exact step dependency among
          have known : dependency ∈ idsOf subtasks :=
            schedulable.known subtask listed (depends ▸ among)
          refine ih correct' longer
            (List.append_subset.2 ⟨within, List.cons_subset.2 ⟨known, List.nil_subset _⟩⟩) ?_
          rw [List.length_append, List.length_singleton]
          omega
        obtain ⟨latest, after, walked, assigns, most⟩ := latestWave_returns correct each
        -- the wave after the latest of the dependencies
        have longest : Longest (dependenciesOf subtasks) subtask.subtaskId (latest + 1) :=
          longest_of_latest (successors.trans depends) assigns most
        exact ⟨latest + 1, _, by simp only [waveOf, held, found, depends, walked],
          assigns.add held longest, OrderedDict.get?_set_self ..⟩

/-! ## The waves -/

structure Scheduled (subtasks : List ModelSubtask) (waves : List (List ModelSubtask)) : Prop where
  once : waves.flatten.Perm subtasks
  longest : ∀ (wave : ℕ) (members : List ModelSubtask), waves[wave]? = some members → ∀ subtask ∈ members,
    Longest (dependenciesOf subtasks) subtask.subtaskId wave
  earlier : ∀ (wave : ℕ) (members : List ModelSubtask), waves[wave]? = some members →
    ∀ subtask ∈ members, ∀ dependency ∈ subtask.dependsOn,
      ∃ (before : ℕ) (members' : List ModelSubtask), before < wave ∧
        waves[before]? = some members' ∧ dependency ∈ idsOf members'

theorem flatMap_filter_perm {α : Type} (place : α → Option ℕ) (bound : ℕ) (members : List α) :
    ((List.range bound).flatMap fun index => members.filter (place · = some index)).Perm
      (members.filter fun member => (place member).any (· < bound)) := by
  induction bound with
  | zero =>
    have none' : members.filter (fun member => (place member).any (· < 0)) = [] := by
      simp
    rw [none']
    exact .refl _
  | succ bound ih =>
    rw [List.range_succ, List.flatMap_append, List.flatMap_singleton]
    refine (ih.append_right _).trans ?_
    have split := List.filter_append_perm (fun member => (place member).any (· < bound))
      (members.filter fun member => (place member).any (· < bound + 1))
    rw [List.filter_filter, List.filter_filter] at split
    refine List.Perm.trans (List.Perm.of_eq ?_) split
    congr 1
    · refine List.filter_congr fun member _ => ?_
      cases place member with
      | none => rfl
      | some index =>
        rw [Bool.eq_iff_iff]
        simp
        omega
    · refine List.filter_congr fun member _ => ?_
      cases place member with
      | none => rfl
      | some index =>
        rw [Bool.eq_iff_iff]
        simp
        omega

theorem mem_waveAt {wave : ℕ} :
    subtask ∈ waveAt subtasks assigned wave ↔
      subtask ∈ subtasks ∧ assigned.get? subtask.subtaskId = some wave := by
  rw [waveAt, List.mem_insertionSort, List.mem_filter, decide_eq_true_iff]

theorem waveAt_of_getElem? {waves wave : ℕ} {members : List ModelSubtask}
    (found : ((List.range waves).map (waveAt subtasks assigned))[wave]? = some members) :
    members = waveAt subtasks assigned wave := by
  obtain ⟨inRange, rfl⟩ := List.getElem?_eq_some_iff.1 found
  rw [List.getElem_map, List.getElem_range]

theorem scheduled_of_assigned {waves : ℕ} (schedulable : Schedulable subtasks)
    (assigns : Assigns (dependenciesOf subtasks) before (idsOf subtasks) assigned)
    (bound : ∀ subtaskId wave, assigned.get? subtaskId = some wave → wave < waves) :
    Scheduled subtasks ((List.range waves).map (waveAt subtasks assigned)) := by
  refine ⟨?_, ?_, ?_⟩
  · have sorted : ((List.range waves).map (waveAt subtasks assigned)).flatten.Perm
        ((List.range waves).flatMap fun wave =>
          subtasks.filter fun subtask => assigned.get? subtask.subtaskId = some wave) := by
      rw [← List.flatMap_def]
      exact List.Perm.flatMap_left _ fun wave _ => List.perm_insertionSort _ _
    refine (sorted.trans (flatMap_filter_perm _ waves subtasks)).trans (List.Perm.of_eq ?_)
    refine List.filter_eq_self.2 fun subtask listed => ?_
    obtain ⟨wave, held⟩ := assigns.reached _ (mem_idsOf.2 ⟨subtask, listed, rfl⟩)
    simp [held, bound _ _ held]
  · intro wave members found subtask listed
    obtain rfl := waveAt_of_getElem? found
    exact assigns.correct _ _ (mem_waveAt.1 listed).2
  · intro wave members found subtask listed dependency depends
    obtain rfl := waveAt_of_getElem? found
    obtain ⟨among, own⟩ := mem_waveAt.1 listed
    obtain ⟨other, known, rfl⟩ := mem_idsOf.1 (schedulable.known subtask among depends)
    obtain ⟨earlier, held⟩ := assigns.reached _ (mem_idsOf.2 ⟨other, known, rfl⟩)
    have step : Edge (dependenciesOf subtasks) subtask.subtaskId other.subtaskId := by
      show other.subtaskId ∈ dependenciesOf subtasks subtask.subtaskId
      rw [dependenciesOf_eq schedulable.distinct among]
      exact depends
    refine ⟨earlier, waveAt subtasks assigned earlier,
      (assigns.correct _ _ own).lt step (assigns.correct _ _ held), ?_,
      mem_idsOf.2 ⟨other, mem_waveAt.2 ⟨known, held⟩, rfl⟩⟩
    rw [List.getElem?_map, List.getElem?_range (bound _ _ held)]
    rfl

theorem computeWaves_scheduled (schedulable : Schedulable subtasks) :
    ∃ waves, computeWaves subtasks = some (.ok waves) ∧ Scheduled subtasks waves := by
  have start : Correct (dependenciesOf subtasks) .empty := by
    intro subtaskId wave held
    cases held
  have each : ∀ subtaskId ∈ idsOf subtasks, ∀ assigned,
      Correct (dependenciesOf subtasks) assigned →
        Returns (dependenciesOf subtasks) assigned subtaskId
          (waveOf (idToSubtask subtasks) (subtasks.length + 1) assigned subtaskId) := by
    intro subtaskId listed assigned correct
    have alone : ([] ++ [subtaskId]).IsChain (Edge (dependenciesOf subtasks)) :=
      List.isChain_singleton subtaskId
    refine waveOf_returns schedulable correct alone ?_ ?_
    · exact List.cons_subset.2 ⟨listed, List.nil_subset _⟩
    · rw [idsOf, List.length_map]
      exact Nat.lt_succ_self _
  obtain ⟨latest, assigned, walked, assigns, -⟩ := latestWave_returns start each
  rw [idsOf] at walked
  rw [computeWaves, walked]
  by_cases nothing : assigned.size = 0
  · refine ⟨[], if_pos nothing, ?_⟩
    have alone : Scheduled subtasks ((List.range 0).map (waveAt subtasks assigned)) := by
      refine scheduled_of_assigned schedulable assigns ?_
      intro subtaskId wave held
      rw [← OrderedDict.mem_entries, List.eq_nil_of_length_eq_zero nothing] at held
      exact absurd held List.not_mem_nil
    exact alone
  · refine ⟨_, if_neg nothing, scheduled_of_assigned schedulable assigns ?_⟩
    intro subtaskId wave held
    exact Nat.lt_succ_of_le
      (List.le_max_of_le' 0 (OrderedDict.mem_values.2 ⟨subtaskId, held⟩) (le_refl wave))

/-! ## The best schedule -/

section

variable {rank : String → ℕ}
  (layered : ∀ subtask ∈ subtasks, ∀ dependency ∈ subtask.dependsOn,
    rank dependency < rank subtask.subtaskId)

include layered

theorem rank_descends (distinct : (idsOf subtasks).Nodup) (subtaskId dependency : String)
    (step : Edge (dependenciesOf subtasks) subtaskId dependency) :
    rank dependency < rank subtaskId := by
  by_cases listed : subtaskId ∈ idsOf subtasks
  · obtain ⟨subtask, among, rfl⟩ := mem_idsOf.1 listed
    rw [Edge, dependenciesOf_eq distinct among] at step
    exact layered subtask among dependency step
  · rw [Edge, dependenciesOf_unlisted listed] at step
    cases step

/-- Subtasks that can be put in layers at all are scheduled, and none of them later than in any
such layers. -/
theorem waves_optimal (distinct : (idsOf subtasks).Nodup)
    (known : ∀ subtask ∈ subtasks, subtask.dependsOn ⊆ idsOf subtasks) :
    ∃ waves, computeWaves subtasks = some (.ok waves) ∧ waves.flatten.Perm subtasks ∧
      ∀ (wave : ℕ) (members : List ModelSubtask), waves[wave]? = some members →
        ∀ subtask ∈ members, wave ≤ rank subtask.subtaskId := by
  have descends := rank_descends layered distinct
  have schedulable : Schedulable subtasks :=
    ⟨distinct, known, fun _ _ cycle => lt_irrefl _ (lt_of_leads descends cycle)⟩
  obtain ⟨waves, computed, scheduled⟩ := computeWaves_scheduled schedulable
  refine ⟨waves, computed, scheduled.once, fun wave members found subtask listed => ?_⟩
  obtain ⟨rest, length, chain⟩ := (scheduled.longest wave members found subtask listed).reached
  exact length ▸ length_le_rank descends chain

end

/-- The later of two subtasks is listed first. -/
def useThenMake : List ModelSubtask :=
  [⟨"use", "use it", "", ["make"], 0, "general"⟩, ⟨"make", "make it", "", [], 0, "general"⟩]

theorem waves_optimal_twoLayers : ∃ waves, computeWaves useThenMake = some (.ok waves) ∧
    waves.flatten.Perm useThenMake ∧
    ∀ (wave : ℕ) (members : List ModelSubtask), waves[wave]? = some members →
      ∀ subtask ∈ members, wave ≤ if subtask.subtaskId = "use" then 1 else 0 :=
  @waves_optimal useThenMake (fun subtaskId => if subtaskId = "use" then 1 else 0) (by decide)
    (by decide) (by decide)

end OmniMarket.SwarmFanout
