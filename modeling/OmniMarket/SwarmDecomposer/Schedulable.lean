import OmniMarket.SwarmDecomposer.Handler
import OmniMarket.SwarmFanout.Waves

/-!
# The search for a cycle by colours

The colours of `_detect_cycle` follow a depth-first search: black are the subtasks visited, gray
those on the stack.
-/

namespace OmniMarket.SwarmDecomposer
variable {nodeId : String}

section

open DependencyGraph

section

variable (idToSubtask : OrderedDict String ModelSubtask)

def dependsOnOf (nodeId : String) : List String :=
  ((idToSubtask.get? nodeId).map (·.dependsOn)).getD []

def colorOf (search : Search String) (nodeId : String) : Color :=
  if nodeId ∈ search.visited then .black
  else if nodeId ∈ search.visiting then .gray
  else .white

def Matches (color : Colors) (search : Search String) : Prop :=
  ∀ nodeId ∈ idToSubtask.keys, color.get? nodeId = some (colorOf search nodeId)

def Agrees (cycle : List String) (after : Search String)
    (outcome : Option (Except String (Bool × Colors))) : Prop :=
  ∃ color, outcome = some (.ok (!cycle.isEmpty, color)) ∧
    (cycle = [] → Matches idToSubtask color after)

/-- From a white subtask on, `dfs` agrees with a visit. -/
def Follows (visit : Search String → String → Option (List String × Search String))
    (dfs : Colors → String → Option (Except String (Bool × Colors))) : Prop :=
  ∀ nodeId ∈ idToSubtask.keys, ∀ color search cycle after, Matches idToSubtask color search →
    colorOf search nodeId = .white → visit search nodeId = some (cycle, after) →
    Agrees idToSubtask cycle after (dfs color nodeId)

end

variable {idToSubtask : OrderedDict String ModelSubtask} {color : Colors} {search : Search String}

theorem colorOf_cases (search : Search String) (nodeId : String) :
    nodeId ∈ search.visited ∧ colorOf search nodeId = .black ∨
      nodeId ∉ search.visited ∧ nodeId ∈ search.visiting ∧ colorOf search nodeId = .gray ∨
      nodeId ∉ search.visited ∧ nodeId ∉ search.visiting ∧ colorOf search nodeId = .white := by
  by_cases left : nodeId ∈ search.visited
  · exact .inl ⟨left, if_pos left⟩
  · by_cases opened : nodeId ∈ search.visiting
    · exact .inr (.inl ⟨left, opened, by rw [colorOf, if_neg left, if_pos opened]⟩)
    · exact .inr (.inr ⟨left, opened, by rw [colorOf, if_neg left, if_neg opened]⟩)

variable {cycle : List String} {after : Search String}

theorem Agrees.of_cycle (some' : cycle ≠ []) (color : Colors) :
    Agrees idToSubtask cycle after (some (.ok (true, color))) := by
  cases cycle with
  | nil => exact absurd rfl some'
  | cons first rest => exact ⟨color, rfl, fun none' => absurd none' some'⟩

theorem dfsDependencies_agrees {fuel : ℕ} {deps : List String}
    {dfs : Colors → String → Option (Except String (Bool × Colors))}
    (follows : Follows idToSubtask (visit (dependsOnOf idToSubtask) fuel) dfs)
    (known : deps ⊆ idToSubtask.keys) (matched : Matches idToSubtask color search)
    (walked : visitAll (visit (dependsOnOf idToSubtask) fuel) search deps = some (cycle, after)) :
    Agrees idToSubtask cycle after (dfsDependencies dfs color deps) := by
  -- each colour is a place of the search: black was visited, gray is on the stack
  induction deps generalizing color search with
  | nil =>
    cases walked
    exact ⟨color, rfl, fun _ => matched⟩
  | cons dep rest ih =>
    obtain ⟨listed, others⟩ := List.cons_subset.1 known
    have held := matched dep listed
    rcases colorOf_cases search dep with ⟨left, black⟩ | ⟨left, opened, gray⟩ | ⟨_, _, white⟩
    · rw [black] at held
      rcases visitAll_cons walked with ⟨moved, visited, further⟩ | ⟨some', visited⟩
      · obtain rfl := (visit_visited left visited).2
        simp only [dfsDependencies, held]
        exact ih others matched further
      · exact absurd (visit_visited left visited).1 some'
    · -- a gray dependency closes a cycle on the stack
      rw [gray] at held
      simp only [dfsDependencies, held]
      rcases visitAll_cons walked with ⟨moved, visited, -⟩ | ⟨some', -⟩
      · exact absurd rfl (visit_visiting left opened visited)
      · exact Agrees.of_cycle some' color
    · rw [white] at held
      rcases visitAll_cons walked with ⟨moved, visited, further⟩ | ⟨some', visited⟩
      · obtain ⟨colored, found, matched'⟩ :=
          follows dep listed color search [] moved matched white visited
        simp only [dfsDependencies, held, found]
        exact ih others (matched' rfl) further
      · obtain ⟨colored, found, -⟩ :=
          follows dep listed color search cycle after matched white visited
        cases cycle with
        | nil => exact absurd rfl some'
        | cons first cycle =>
          simp only [dfsDependencies, held, found]
          exact Agrees.of_cycle some' colored

theorem Matches.enter (matched : Matches idToSubtask color search)
    (unvisited : nodeId ∉ search.visited) : Matches idToSubtask (color.set nodeId .gray)
      { search with visiting := search.visiting ++ [nodeId] } := by
  intro other listed
  by_cases own : other = nodeId
  · subst own
    rw [OrderedDict.get?_set_self]
    simp [colorOf, unvisited]
  · rw [OrderedDict.get?_set_other own, matched other listed]
    simp [colorOf, own]

theorem Matches.leave {stack : List String} (matched : Matches idToSubtask color search)
    (top : search.visiting = stack ++ [nodeId]) : Matches idToSubtask (color.set nodeId .black)
      { visiting := stack, visited := nodeId :: search.visited } := by
  intro other listed
  by_cases own : other = nodeId
  · subst own
    rw [OrderedDict.get?_set_self]
    simp [colorOf]
  · rw [OrderedDict.get?_set_other own, matched other listed]
    simp [colorOf, own, top]

theorem dfs_agrees
    (closed : ∀ nodeId ∈ idToSubtask.keys, dependsOnOf idToSubtask nodeId ⊆ idToSubtask.keys)
    (fuel : ℕ) :
    Follows idToSubtask (visit (dependsOnOf idToSubtask) fuel) (dfs idToSubtask fuel) := by
  induction fuel with
  | zero =>
    intro nodeId listed color search cycle after matched white visited
    cases visited
  | succ fuel ih =>
    intro nodeId listed color search cycle after matched white visited
    rcases colorOf_cases search nodeId with ⟨-, black⟩ | ⟨-, -, gray⟩ | ⟨left, unopened, -⟩
    · rw [black] at white
      cases white
    · rw [gray] at white
      cases white
    · obtain ⟨moved, inner, leaves⟩ := visit_fresh left unopened visited
      obtain ⟨subtask, found⟩ := OrderedDict.mem_keys.1 listed
      have depends : dependsOnOf idToSubtask nodeId = subtask.dependsOn := by
        rw [dependsOnOf, found]
        rfl
      have agrees := dfsDependencies_agrees ih (closed nodeId listed) (matched.enter left) inner
      obtain ⟨colored, walked, matched'⟩ := agrees
      rw [depends] at walked
      simp only [dfs, found, walked]
      cases cycle with
      | cons first cycle => exact Agrees.of_cycle (List.cons_ne_nil _ _) colored
      | nil =>
        have stack : moved.visiting = search.visiting ++ [nodeId] :=
          visitAll_stack (fun _ _ _ => visit_stack) inner
        refine ⟨_, rfl, fun _ => ?_⟩
        rw [leaves rfl, stack, List.dropLast_concat]
        exact (matched' rfl).leave stack

/-! ## The loop over the subtasks -/

theorem detectFrom_agrees (unicode : UnicodeTable) {fuel : ℕ} {sids : List String}
    {dfs : Colors → String → Option (Except String (Bool × Colors))}
    (follows : Follows idToSubtask (visit (dependsOnOf idToSubtask) fuel) dfs)
    (known : sids ⊆ idToSubtask.keys) (matched : Matches idToSubtask color search)
    (bottom : search.visiting = [])
    (walked : visitAll (visit (dependsOnOf idToSubtask) fuel) search sids = some (cycle, after)) :
    ∃ reason, detectFrom unicode dfs color sids = some (.ok reason) ∧
      (cycle = [] ∧ reason = none ∨
        cycle ≠ [] ∧ ∃ sid ∈ sids, reason = some (cycleDetected unicode sid)) := by
  induction sids generalizing color search with
  | nil =>
    cases walked
    exact ⟨none, rfl, .inl ⟨rfl, rfl⟩⟩
  | cons sid rest ih =>
    obtain ⟨listed, others⟩ := List.cons_subset.1 known
    have held := matched sid listed
    have later : ∀ {color : Colors} {search : Search String},
        Matches idToSubtask color search → search.visiting = [] →
        visitAll (visit (dependsOnOf idToSubtask) fuel) search rest = some (cycle, after) →
        ∃ reason, detectFrom unicode dfs color rest = some (.ok reason) ∧
          (cycle = [] ∧ reason = none ∨
            cycle ≠ [] ∧ ∃ sid' ∈ sid :: rest, reason = some (cycleDetected unicode sid')) := by
      intro color search matched bottom walked
      obtain ⟨reason, detected, outcome⟩ := ih others matched bottom walked
      refine ⟨reason, detected, outcome.imp_right ?_⟩
      rintro ⟨some', sid', among, told⟩
      exact ⟨some', sid', List.mem_cons_of_mem _ among, told⟩
    rcases colorOf_cases search sid with ⟨left, black⟩ | ⟨-, opened, -⟩ | ⟨_, _, white⟩
    · rw [black] at held
      rcases visitAll_cons walked with ⟨moved, visited, further⟩ | ⟨some', visited⟩
      · obtain rfl := (visit_visited left visited).2
        have differs : ¬ color.get? sid = some .white := by
          rw [held]
          decide
        rw [detectFrom, if_neg differs]
        exact later matched bottom further
      · exact absurd (visit_visited left visited).1 some'
    · -- nothing is gray between two searches
      rw [bottom] at opened
      exact absurd opened List.not_mem_nil
    · rw [white] at held
      rw [detectFrom, if_pos held]
      rcases visitAll_cons walked with ⟨moved, visited, further⟩ | ⟨some', visited⟩
      · obtain ⟨colored, found, matched'⟩ :=
          follows sid listed color search [] moved matched white visited
        simp only [found]
        exact later (matched' rfl) ((visit_stack visited).trans bottom) further
      · obtain ⟨colored, found, -⟩ :=
          follows sid listed color search cycle after matched white visited
        cases cycle with
        | nil => exact absurd rfl some'
        | cons first cycle =>
          simp only [found]
          exact ⟨_, rfl, .inr ⟨some', sid, List.mem_cons_self, rfl⟩⟩

theorem detectCycle_sound (unicode : UnicodeTable)
    (closed : ∀ nodeId ∈ idToSubtask.keys, dependsOnOf idToSubtask nodeId ⊆ idToSubtask.keys) :
    ∃ reason, detectCycle unicode idToSubtask = some (.ok reason) ∧
      ((∀ nodeId ∈ idToSubtask.keys, ¬ OnCycle (dependsOnOf idToSubtask) nodeId) ∧ reason = none ∨
        (∃ nodeId, OnCycle (dependsOnOf idToSubtask) nodeId) ∧
          ∃ sid ∈ idToSubtask.keys, reason = some (cycleDetected unicode sid)) := by
  obtain ⟨cycle, searched, result⟩ := search_finds closed
  obtain ⟨⟨cycle', after⟩, walked, rfl⟩ := Option.map_eq_some_iff.1 searched
  have start : Matches idToSubtask (idToSubtask.mapValues fun _ => Color.white) {} := by
    intro nodeId listed
    obtain ⟨subtask, found⟩ := OrderedDict.mem_keys.1 listed
    rw [OrderedDict.get?_mapValues, found]
    rfl
  have size : idToSubtask.keys.length = idToSubtask.size := List.length_map _
  rw [size] at walked
  obtain ⟨reason, detected, outcome⟩ :=
    detectFrom_agrees unicode (dfs_agrees closed _) (List.Subset.refl _) start rfl
      walked
  refine ⟨reason, detected, ?_⟩
  rcases result with isCycle | ⟨none', acyclic⟩
  · refine .inr ⟨?_, (outcome.resolve_left fun empty => isCycle.ne_nil empty.1).2⟩
    obtain ⟨first, heads⟩ : ∃ first, cycle'.head? = some first :=
      Option.isSome_iff_exists.1 (List.isSome_head?.2 isCycle.ne_nil)
    exact ⟨first, onCycle_of_isCycle isCycle heads⟩
  · exact .inl ⟨acyclic, (outcome.resolve_right fun some' => some'.1 none').2⟩

end

/-!
# Accepted decompositions are schedulable
-/

section

open DependencyGraph

/-- A decomposition that can be run. -/
structure WellFormed (subtasks : List ModelSubtask) : Prop where
  described : ∀ st ∈ subtasks, PyText.stripString st.description ≠ ""
  known : ∀ st ∈ subtasks, ∀ dep ∈ st.dependsOn, dep ∈ subtasks.map (·.subtaskId)
  acyclic : ∀ st ∈ subtasks, ¬ OnCycle (dependsOnOf (idToSubtask subtasks)) st.subtaskId

/-- The subtask as the fan-out receives it. -/
def passedOn (st : ModelSubtask) : SwarmFanout.ModelSubtask where
  subtaskId := st.subtaskId
  description := st.description
  modelAffinity := st.modelAffinity
  dependsOn := st.dependsOn
  estimatedTokens := st.estimatedTokens
  category := st.category.value

section Clean

variable (endpointIds : List String) (st : ModelSubtask)

@[simp] theorem clean_subtaskId : (clean endpointIds st).subtaskId = st.subtaskId := by
  unfold clean
  split <;> rfl

@[simp] theorem clean_description : (clean endpointIds st).description = st.description := by
  unfold clean
  split <;> rfl

@[simp] theorem clean_dependsOn : (clean endpointIds st).dependsOn = st.dependsOn := by
  unfold clean
  split <;> rfl

end Clean

variable {subtasks : List ModelSubtask}

theorem map_clean_subtaskId (endpointIds : List String) (subtasks : List ModelSubtask) :
    (subtasks.map (clean endpointIds)).map (·.subtaskId) = subtasks.map (·.subtaskId) := by
  rw [List.map_map]
  exact List.map_congr_left fun st _ => clean_subtaskId endpointIds st

theorem dependsOnOf_listed (distinct : (subtasks.map (·.subtaskId)).Nodup) {st : ModelSubtask}
    (listed : st ∈ subtasks) : dependsOnOf (idToSubtask subtasks) st.subtaskId = st.dependsOn := by
  rw [dependsOnOf, idToSubtask, (OrderedDict.get?_foldByKey_distinct distinct).2 listed]
  rfl

theorem dependsOnOf_unlisted (unlisted : nodeId ∉ subtasks.map (·.subtaskId)) :
    dependsOnOf (idToSubtask subtasks) nodeId = [] := by
  rw [dependsOnOf, idToSubtask, OrderedDict.get?_foldByKey_unlisted unlisted]
  rfl

theorem dependsOnOf_clean (distinct : (subtasks.map (·.subtaskId)).Nodup)
    (endpointIds : List String) :
    dependsOnOf (idToSubtask (subtasks.map (clean endpointIds))) =
      dependsOnOf (idToSubtask subtasks) := by
  have distinct' : ((subtasks.map (clean endpointIds)).map (·.subtaskId)).Nodup := by
    rw [map_clean_subtaskId]
    exact distinct
  funext nodeId
  by_cases listed : nodeId ∈ subtasks.map (·.subtaskId)
  · obtain ⟨st, among, rfl⟩ := List.mem_map.1 listed
    have cleaned := dependsOnOf_listed distinct' (List.mem_map_of_mem among)
    rw [clean_subtaskId, clean_dependsOn] at cleaned
    rw [cleaned, dependsOnOf_listed distinct among]
  · rw [dependsOnOf_unlisted listed, dependsOnOf_unlisted ?_]
    rw [map_clean_subtaskId]
    exact listed

theorem WellFormed.clean (wellFormed : WellFormed subtasks)
    (distinct : (subtasks.map (·.subtaskId)).Nodup) (endpointIds : List String) :
    WellFormed (subtasks.map (clean endpointIds)) := by
  refine ⟨?_, ?_, ?_⟩
  · intro cleaned among
    obtain ⟨st, listed, rfl⟩ := List.mem_map.1 among
    rw [clean_description]
    exact wellFormed.described st listed
  · intro cleaned among dep depends
    obtain ⟨st, listed, rfl⟩ := List.mem_map.1 among
    rw [clean_dependsOn] at depends
    rw [map_clean_subtaskId]
    exact wellFormed.known st listed dep depends
  · intro cleaned among
    obtain ⟨st, listed, rfl⟩ := List.mem_map.1 among
    rw [dependsOnOf_clean distinct, clean_subtaskId]
    exact wellFormed.acyclic st listed

/-! ## Acceptance -/

section Acceptance

variable {unicode : UnicodeTable} {endpointIds : List String}

theorem firstDangling_none {knownIds : List String} :
    firstDangling unicode knownIds subtasks = none ↔
      ∀ st ∈ subtasks, ∀ dep ∈ st.dependsOn, dep ∈ knownIds := by
  rw [firstDangling, List.findSome?_eq_none_iff]
  refine forall₂_congr fun st listed => ?_
  rw [Option.map_eq_none_iff, List.find?_eq_none]
  refine forall₂_congr fun dep depends => ?_
  simp

theorem detectCycle_reports (unicode : UnicodeTable) (distinct : (subtasks.map (·.subtaskId)).Nodup)
    (known : ∀ st ∈ subtasks, ∀ dep ∈ st.dependsOn, dep ∈ subtasks.map (·.subtaskId)) :
    ∃ reason, detectCycle unicode (idToSubtask subtasks) = some (.ok reason) ∧
      ((∀ st ∈ subtasks, ¬ OnCycle (dependsOnOf (idToSubtask subtasks)) st.subtaskId) ∧
          reason = none ∨
        (¬ ∀ st ∈ subtasks, ¬ OnCycle (dependsOnOf (idToSubtask subtasks)) st.subtaskId) ∧
          ∃ sid ∈ subtasks.map (·.subtaskId), reason = some (cycleDetected unicode sid)) := by
  have keys : (idToSubtask subtasks).keys = subtasks.map (·.subtaskId) :=
    OrderedDict.keys_foldByKey_distinct distinct
  have closed : ∀ nodeId ∈ (idToSubtask subtasks).keys,
      dependsOnOf (idToSubtask subtasks) nodeId ⊆ (idToSubtask subtasks).keys := by
    intro nodeId listed
    rw [keys] at listed ⊢
    obtain ⟨st, among, rfl⟩ := List.mem_map.1 listed
    rw [dependsOnOf_listed distinct among]
    exact known st among
  obtain ⟨reason, detected, outcome⟩ := detectCycle_sound unicode closed
  rw [keys] at outcome
  refine ⟨reason, detected, ?_⟩
  rcases outcome with ⟨acyclic, told⟩ | ⟨⟨nodeId, onCycle⟩, told⟩
  · exact .inl ⟨fun st listed => acyclic _ (List.mem_map_of_mem listed), told⟩
  · refine .inr ⟨?_, told⟩
    intro acyclic
    by_cases listed : nodeId ∈ subtasks.map (·.subtaskId)
    · obtain ⟨st, among, rfl⟩ := List.mem_map.1 listed
      exact acyclic st among onCycle
    · -- an id that is not listed has no dependencies
      obtain ⟨successor, step, -⟩ := Relation.TransGen.head'_iff.1 onCycle
      have step' : successor ∈ dependsOnOf (idToSubtask subtasks) nodeId := step
      rw [dependsOnOf_unlisted listed] at step'
      exact absurd step' List.not_mem_nil

theorem textTruthy_cycleDetected (sid : String) :
    PyText.textTruthy (some (cycleDetected unicode sid)) = true := by
  rw [PyText.textTruthy, bne_iff_ne]
  intro empty
  unfold cycleDetected at empty
  exact absurd (String.append_eq_empty_iff.1 empty).1 (by decide)

theorem validateDecomposition_validates (unicode : UnicodeTable) (endpointIds : List String)
    (contextWindowLimit : ℤ) (distinct : (subtasks.map (·.subtaskId)).Nodup) :
    ∃ cleaned warnings rejection,
      validateDecomposition unicode subtasks endpointIds contextWindowLimit =
        some (.ok (cleaned, warnings, rejection)) ∧
      (WellFormed subtasks ∧ rejection = none ∧ cleaned = subtasks.map (clean endpointIds) ∨
        ¬ WellFormed subtasks ∧ rejection ≠ none ∧ cleaned = []) := by
  rw [validateDecomposition]
  cases blank : subtasks.find? (PyText.stripString ·.description == "") with
  | some st =>
    refine ⟨_, _, _, rfl, .inr ⟨?_, Option.some_ne_none _, rfl⟩⟩
    intro wellFormed
    -- a blank description is refused first
    have empty := List.find?_some blank
    exact wellFormed.described st (List.mem_of_find?_eq_some blank) (eq_of_beq empty)
  | none =>
    have described : ∀ st ∈ subtasks, PyText.stripString st.description ≠ "" := by
      intro st listed empty
      exact List.find?_eq_none.1 blank st listed (beq_iff_eq.2 empty)
    have distinct' : ((subtasks.map (clean endpointIds)).map (·.subtaskId)).Nodup := by
      rw [map_clean_subtaskId]
      exact distinct
    cases dangling : firstDangling unicode
        ((subtasks.map (clean endpointIds)).map (·.subtaskId))
        (subtasks.map (clean endpointIds)) with
    | some reason =>
      simp only [dangling]
      refine ⟨_, _, _, rfl, .inr ⟨?_, Option.some_ne_none reason, rfl⟩⟩
      intro wellFormed
      -- then a dependency that names no subtask
      rw [firstDangling_none.2 (wellFormed.clean distinct endpointIds).known] at dangling
      cases dangling
    | none =>
      have known := firstDangling_none.1 dangling
      obtain ⟨reason, detected, outcome⟩ := detectCycle_reports unicode distinct' known
      simp only [dangling, detected]
      rcases outcome with ⟨acyclic, rfl⟩ | ⟨onCycle, sid, -, rfl⟩
      · refine ⟨_, _, _, rfl, .inl ⟨?_, rfl, rfl⟩⟩
        refine ⟨described, ?_, ?_⟩
        · intro st listed dep depends
          have known' := known (clean endpointIds st) (List.mem_map_of_mem listed) dep
          rw [clean_dependsOn, map_clean_subtaskId] at known'
          exact known' depends
        · intro st listed
          have acyclic' := acyclic (clean endpointIds st) (List.mem_map_of_mem listed)
          rw [clean_subtaskId, dependsOnOf_clean distinct] at acyclic'
          exact acyclic'
      · -- and last a cycle
        rw [if_pos (textTruthy_cycleDetected sid)]
        refine ⟨_, _, _, rfl, .inr ⟨?_, Option.some_ne_none _, rfl⟩⟩
        intro wellFormed
        exact onCycle (wellFormed.clean distinct endpointIds).acyclic

end Acceptance

/-! ## The waves of what is accepted -/

theorem dependenciesOf_passedOn (distinct : (subtasks.map (·.subtaskId)).Nodup) :
    SwarmFanout.dependenciesOf (subtasks.map passedOn) = dependsOnOf (idToSubtask subtasks) := by
  have ids : SwarmFanout.idsOf (subtasks.map passedOn) = subtasks.map (·.subtaskId) := by
    rw [SwarmFanout.idsOf, List.map_map]
    rfl
  have distinct' : (SwarmFanout.idsOf (subtasks.map passedOn)).Nodup := ids ▸ distinct
  funext nodeId
  by_cases listed : nodeId ∈ subtasks.map (·.subtaskId)
  · obtain ⟨st, among, rfl⟩ := List.mem_map.1 listed
    rw [dependsOnOf_listed distinct among]
    exact SwarmFanout.dependenciesOf_eq distinct' (List.mem_map_of_mem (f := passedOn) among)
  · rw [dependsOnOf_unlisted listed]
    exact SwarmFanout.dependenciesOf_unlisted (ids ▸ listed)

theorem WellFormed.schedulable (wellFormed : WellFormed subtasks)
    (distinct : (subtasks.map (·.subtaskId)).Nodup) :
    SwarmFanout.Schedulable (subtasks.map passedOn) := by
  have ids : SwarmFanout.idsOf (subtasks.map passedOn) = subtasks.map (·.subtaskId) := by
    rw [SwarmFanout.idsOf, List.map_map]
    rfl
  refine ⟨ids ▸ distinct, ?_, ?_⟩
  · intro subtask listed dep depends
    obtain ⟨st, among, rfl⟩ := List.mem_map.1 listed
    rw [ids]
    exact wellFormed.known st among dep depends
  · intro subtaskId listed
    rw [ids] at listed
    obtain ⟨st, among, rfl⟩ := List.mem_map.1 listed
    rw [dependenciesOf_passedOn distinct]
    exact wellFormed.acyclic st among

/-- A decomposition is accepted if and only if it is well formed, and what is accepted, with or
without the affinities cleared, is scheduled by the fan-out. -/
theorem decomposition_schedulable (unicode : UnicodeTable) (subtasks : List ModelSubtask)
    (endpointIds : List String) (contextWindowLimit : ℤ)
    (distinct : (subtasks.map (·.subtaskId)).Nodup) : ∃ cleaned warnings rejection,
      validateDecomposition unicode subtasks endpointIds contextWindowLimit =
        some (.ok (cleaned, warnings, rejection)) ∧
      (rejection = none ↔ WellFormed subtasks) ∧
      (rejection = none → cleaned = subtasks.map (clean endpointIds) ∧
        ∀ accepted ∈ [subtasks, cleaned], ∃ waves,
          SwarmFanout.computeWaves (accepted.map passedOn) = some (.ok waves) ∧
          SwarmFanout.Scheduled (accepted.map passedOn) waves) := by
  obtain ⟨cleaned, warnings, rejection, validated, outcome⟩ :=
    validateDecomposition_validates unicode endpointIds contextWindowLimit distinct
  refine ⟨cleaned, warnings, rejection, validated, ?_⟩
  rcases outcome with ⟨wellFormed, rfl, rfl⟩ | ⟨illFormed, rejected, -⟩
  · refine ⟨⟨fun _ => wellFormed, fun _ => rfl⟩, fun _ => ⟨rfl, ?_⟩⟩
    have distinct' : ((subtasks.map (clean endpointIds)).map (·.subtaskId)).Nodup := by
      rw [map_clean_subtaskId]
      exact distinct
    intro accepted listed
    rcases List.mem_pair.1 listed with rfl | rfl
    · exact SwarmFanout.computeWaves_scheduled (wellFormed.schedulable distinct)
    · exact SwarmFanout.computeWaves_scheduled
        ((wellFormed.clean distinct endpointIds).schedulable distinct')
  · exact ⟨⟨fun accepted => absurd accepted rejected, fun wellFormed => absurd wellFormed illFormed⟩,
      fun accepted => absurd accepted rejected⟩

def research : List ModelSubtask :=
  [{ subtaskId := "merge", description := "merge the notes", modelAffinity := ""
     dependsOn := ["read", "list"] },
   { subtaskId := "read", description := "read the paper", modelAffinity := "local"
     dependsOn := ["list"] },
   { subtaskId := "list", description := "list the papers", modelAffinity := "" }]

theorem research_schedulable : ∃ cleaned warnings rejection,
      validateDecomposition PyText.asciiTable research ["local"] 0 =
        some (.ok (cleaned, warnings, rejection)) ∧
      (rejection = none ↔ WellFormed research) ∧
      (rejection = none → cleaned = research.map (clean ["local"]) ∧
        ∀ accepted ∈ [research, cleaned], ∃ waves,
          SwarmFanout.computeWaves (accepted.map passedOn) = some (.ok waves) ∧
          SwarmFanout.Scheduled (accepted.map passedOn) waves) :=
  decomposition_schedulable PyText.asciiTable research ["local"] 0 (by decide)

end

end OmniMarket.SwarmDecomposer
