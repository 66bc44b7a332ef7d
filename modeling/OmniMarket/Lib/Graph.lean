import Mathlib

/-!
# Graphs given by their successors

Dependency graphs and their waves, the depth-first search for a cycle, and the flood fill of a component.
-/

/-!
# Graphs of dependencies

A graph is given by the list of successors of each node. A chain is a list in which each node
is followed by a successor of it; a cycle is a chain from a node back to itself.

Results: `onCycle_of_isCycle`, `chain_length_le`, `exists_sink`, `Longest.node`.
-/

namespace DependencyGraph

variable {fuel : ℕ}

section

open Relation

variable {α : Type} {next : α → List α}

def Edge (next : α → List α) (node successor : α) : Prop := successor ∈ next node

/-- The node leads back to itself. -/
def OnCycle (next : α → List α) (node : α) : Prop := TransGen (Edge next) node node

/-- A chain whose last node is its first one again. -/
structure IsCycle (next : α → List α) (cycle : List α) : Prop where
  chain : cycle.IsChain (Edge next)
  long : 2 ≤ cycle.length
  closes : cycle.head? = cycle.getLast?

theorem IsCycle.ne_nil {cycle : List α} (isCycle : IsCycle next cycle) : cycle ≠ [] := by
  rintro rfl
  exact absurd isCycle.long (Nat.not_succ_le_zero 1)

theorem leads_of_chain {node : α} {rest : List α} (chain : (node :: rest).IsChain (Edge next)) :
    ∀ other ∈ rest, TransGen (Edge next) node other := by
  induction rest generalizing node with
  | nil => exact fun _ listed => absurd listed List.not_mem_nil
  | cons successor rest ih =>
    obtain ⟨step, further⟩ := List.isChain_cons_cons.1 chain
    intro other listed
    rcases List.mem_cons.1 listed with rfl | later
    · exact .single step
    · exact .head step (ih further other later)

theorem onCycle_of_isCycle {cycle : List α} (isCycle : IsCycle next cycle) {node : α}
    (heads : cycle.head? = some node) : OnCycle next node := by
  obtain ⟨rest, rfl⟩ := List.head?_eq_some_iff.1 heads
  cases rest using List.reverseRecOn with
  | nil => exact absurd isCycle.long (Nat.lt_irrefl 1)
  | append_singleton before last =>
    have closes := isCycle.closes
    rw [← List.cons_append, List.getLast?_concat] at closes
    obtain rfl : node = last := Option.some.inj closes
    exact leads_of_chain isCycle.chain node
      (List.mem_append_right _ (List.mem_singleton.2 rfl))

theorem mem_of_leads {nodes : List α} (closed : ∀ node ∈ nodes, next node ⊆ nodes) {node other : α}
    (listed : node ∈ nodes) (leads : TransGen (Edge next) node other) : other ∈ nodes := by
  induction leads with
  | single step => exact closed node listed step
  | tail _ step ih => exact closed _ ih step

/-! ## Chains without cycles -/

theorem chain_nodup {chain : List α} (isChain : chain.IsChain (Edge next))
    (acyclic : ∀ node ∈ chain, ¬ OnCycle next node) : chain.Nodup := by
  induction chain with
  | nil => exact List.nodup_nil
  | cons node rest ih =>
    rw [List.nodup_cons]
    refine ⟨?_, ih isChain.tail fun other listed => acyclic other (List.mem_cons_of_mem _ listed)⟩
    intro again
    exact acyclic node List.mem_cons_self (leads_of_chain isChain node again)

theorem chain_length_le {nodes chain : List α} (acyclic : ∀ node ∈ nodes, ¬ OnCycle next node)
    (isChain : chain.IsChain (Edge next)) (within : chain ⊆ nodes) :
    chain.length ≤ nodes.length :=
  (List.subperm_of_subset (chain_nodup isChain fun node listed => acyclic node (within listed))
    within).length_le

theorem exists_sink {nodes : List α} (some' : nodes ≠ [])
    (acyclic : ∀ node ∈ nodes, ¬ OnCycle next node) :
    ∃ node ∈ nodes, ∀ successor ∈ next node, successor ∉ nodes := by
  by_contra stuck
  push Not at stuck
  -- every node has a successor among them, so a chain within them can be as long as one likes
  have long (edges : ℕ) : ∀ node ∈ nodes, ∃ rest : List α, rest.length = edges ∧
      (node :: rest).IsChain (Edge next) ∧ rest ⊆ nodes := by
    induction edges with
    | zero => exact fun node _ => ⟨[], rfl, List.isChain_singleton node, List.nil_subset _⟩
    | succ edges ih =>
      intro node listed
      obtain ⟨successor, step, among⟩ := stuck node listed
      obtain ⟨rest, length, chain, within⟩ := ih successor among
      exact ⟨successor :: rest, by rw [List.length_cons, length],
        List.isChain_cons_cons.2 ⟨step, chain⟩, List.cons_subset.2 ⟨among, within⟩⟩
  obtain ⟨node, listed⟩ := List.exists_mem_of_ne_nil nodes some'
  obtain ⟨rest, length, chain, within⟩ := long nodes.length node listed
  have short := chain_length_le acyclic chain (List.cons_subset.2 ⟨listed, within⟩)
  rw [List.length_cons, length] at short
  exact Nat.not_succ_le_self _ short

/-! ## Ranks -/

section

variable {rank : α → ℕ} {node other : α}
  (descends : ∀ node successor, Edge next node successor → rank successor < rank node)

include descends

theorem lt_of_leads (leads : TransGen (Edge next) node other) : rank other < rank node := by
  induction leads with
  | single step => exact descends _ _ step
  | tail _ step ih => exact (descends _ _ step).trans ih

theorem length_le_rank {rest : List α} (chain : (node :: rest).IsChain (Edge next)) :
    rest.length ≤ rank node := by
  induction rest generalizing node with
  | nil => exact Nat.zero_le _
  | cons successor rest ih =>
    obtain ⟨step, further⟩ := List.isChain_cons_cons.1 chain
    exact (ih further).trans_lt (descends _ _ step)

end

/-! ## The longest chain from a node -/

structure Longest (next : α → List α) (node : α) (edges : ℕ) : Prop where
  reached : ∃ rest : List α, rest.length = edges ∧ (node :: rest).IsChain (Edge next)
  bound : ∀ rest : List α, (node :: rest).IsChain (Edge next) → rest.length ≤ edges

theorem Longest.leaf {node : α} (none' : next node = []) : Longest next node 0 := by
  refine ⟨⟨[], rfl, List.isChain_singleton node⟩, ?_⟩
  intro rest chain
  cases rest with
  | nil => exact le_refl _
  | cons successor rest =>
    have step : successor ∈ next node := (List.isChain_cons_cons.1 chain).1
    rw [none'] at step
    exact absurd step List.not_mem_nil

theorem Longest.node {node deepest : α} {depth : α → ℕ}
    (longest : ∀ successor ∈ next node, Longest next successor (depth successor))
    (listed : deepest ∈ next node)
    (most : ∀ successor ∈ next node, depth successor ≤ depth deepest) :
    Longest next node (depth deepest + 1) := by
  constructor
  · obtain ⟨rest, length, chain⟩ := (longest deepest listed).reached
    exact ⟨deepest :: rest, by rw [List.length_cons, length], List.isChain_cons_cons.2 ⟨listed, chain⟩⟩
  · intro rest chain
    cases rest with
    | nil => exact Nat.zero_le _
    | cons successor rest =>
      obtain ⟨step, further⟩ := List.isChain_cons_cons.1 chain
      have below := (longest successor step).bound rest further
      have within := most successor step
      rw [List.length_cons]
      omega

theorem Longest.lt {node successor : α} {edges edges' : ℕ} (longest : Longest next node edges)
    (step : Edge next node successor) (longest' : Longest next successor edges') :
    edges' < edges := by
  obtain ⟨rest, rfl, chain⟩ := longest'.reached
  exact longest.bound (successor :: rest) (List.isChain_cons_cons.2 ⟨step, chain⟩)

end

/-!
# Depth-first search for a cycle

`visit` follows the successors of a node with the nodes on its way on a stack and gives back the
part of the stack that a successor on it closes. Nodes it has left are visited and not entered
again. `none` is a recursion that has used up its fuel.

Results: `visit_explored`, `visit_stack`, `search_finds`.
-/

section

open Relation

variable {α : Type} [DecidableEq α]

structure Search (α : Type) where
  visiting : List α := []
  visited : List α := []

def visitAll (visit : Search α → α → Option (List α × Search α)) :
    Search α → List α → Option (List α × Search α)
  | search, [] => some ([], search)
  | search, node :: rest =>
    match visit search node with
    | none => none
    | some ([], moved) => visitAll visit moved rest
    | some (first :: cycle, moved) => some (first :: cycle, moved)

def visit (next : α → List α) : ℕ → Search α → α → Option (List α × Search α)
  | 0, _, _ => none
  | fuel + 1, search, node =>
    if node ∈ search.visited then some ([], search)
    else if node ∈ search.visiting then
      some (search.visiting.drop (search.visiting.idxOf node) ++ [node], search)
    else
      match visitAll (visit next fuel) { search with visiting := search.visiting ++ [node] }
          (next node) with
      | none => none
      | some ([], moved) =>
        some ([], { visiting := moved.visiting.dropLast, visited := node :: moved.visited })
      | some (first :: cycle, moved) => some (first :: cycle, moved)

def search (next : α → List α) (nodes : List α) : Option (List α) :=
  (visitAll (visit next (nodes.length + 1)) {} nodes).map Prod.fst

section

variable {next : α → List α}

omit [DecidableEq α] in
theorem visitAll_cons {visit : Search α → α → Option (List α × Search α)} {before after : Search α}
    {node : α} {rest cycle : List α}
    (walked : visitAll visit before (node :: rest) = some (cycle, after)) :
    (∃ moved, visit before node = some ([], moved) ∧ visitAll visit moved rest = some (cycle, after)) ∨
      cycle ≠ [] ∧ visit before node = some (cycle, after) := by
  rw [visitAll] at walked
  cases visited : visit before node with
  | none => rw [visited] at walked; cases walked
  | some outcome =>
    obtain ⟨found, moved⟩ := outcome
    rw [visited] at walked
    cases found with
    | nil => exact .inl ⟨moved, rfl, walked⟩
    | cons first rest' =>
      cases walked
      exact .inr ⟨List.cons_ne_nil _ _, rfl⟩

section

variable {fuel : ℕ} {before after : Search α} {node : α} {cycle : List α}

theorem visit_visited
    (left : node ∈ before.visited) (walked : visit next fuel before node = some (cycle, after)) :
    cycle = [] ∧ after = before := by
  cases fuel with
  | zero => cases walked
  | succ fuel =>
    rw [visit, if_pos left] at walked
    cases walked
    exact ⟨rfl, rfl⟩

theorem visit_visiting (unvisited : node ∉ before.visited) (opened : node ∈ before.visiting)
    (walked : visit next fuel before node = some (cycle, after)) : cycle ≠ [] := by
  cases fuel with
  | zero => cases walked
  | succ fuel =>
    rw [visit, if_neg unvisited, if_pos opened] at walked
    cases walked
    exact List.append_ne_nil_of_right_ne_nil _ (List.cons_ne_nil _ _)

theorem visit_fresh (unvisited : node ∉ before.visited) (unopened : node ∉ before.visiting)
    (walked : visit next (fuel + 1) before node = some (cycle, after)) :
    ∃ moved, visitAll (visit next fuel) { before with visiting := before.visiting ++ [node] }
        (next node) = some (cycle, moved) ∧
      (cycle = [] →
        after = { visiting := moved.visiting.dropLast, visited := node :: moved.visited }) := by
  rw [visit, if_neg unvisited, if_neg unopened] at walked
  cases inner : visitAll (visit next fuel) { before with visiting := before.visiting ++ [node] }
      (next node) with
  | none => rw [inner] at walked; cases walked
  | some outcome =>
    obtain ⟨found, moved⟩ := outcome
    rw [inner] at walked
    cases found with
    | nil =>
      cases walked
      exact ⟨moved, rfl, fun _ => rfl⟩
    | cons first rest =>
      cases walked
      exact ⟨_, rfl, fun none' => absurd none' (List.cons_ne_nil _ _)⟩

end

omit [DecidableEq α] in
theorem visitAll_stack {visit : Search α → α → Option (List α × Search α)} {before after : Search α}
    {entered : List α}
    (each : ∀ node before after, visit before node = some ([], after) →
      after.visiting = before.visiting)
    (walked : visitAll visit before entered = some ([], after)) :
    after.visiting = before.visiting := by
  induction entered generalizing before with
  | nil =>
    cases walked
    rfl
  | cons node rest ih =>
    rcases visitAll_cons walked with ⟨moved, visited, further⟩ | ⟨some', -⟩
    · exact (ih further).trans (each _ _ _ visited)
    · exact absurd rfl some'

theorem visit_stack {before after : Search α} {node : α}
    (walked : visit next fuel before node = some ([], after)) :
    after.visiting = before.visiting := by
  induction fuel generalizing before after node with
  | zero => cases walked
  | succ fuel ih =>
    by_cases left : node ∈ before.visited
    · rw [(visit_visited left walked).2]
    · by_cases opened : node ∈ before.visiting
      · exact absurd rfl (visit_visiting left opened walked)
      · obtain ⟨moved, inner, leaves⟩ := visit_fresh left opened walked
        obtain rfl := leaves rfl
        have stack : moved.visiting = before.visiting ++ [node] :=
          visitAll_stack (fun _ _ _ => ih) inner
        show moved.visiting.dropLast = before.visiting
        rw [stack, List.dropLast_concat]

end

structure Search.Sound (next : α → List α) (nodes : List α) (search : Search α) : Prop where
  chain : search.visiting.IsChain (Edge next)
  nodup : search.visiting.Nodup
  within : search.visiting ⊆ nodes
  apart : ∀ node ∈ search.visiting, node ∉ search.visited
  closed : ∀ node ∈ search.visited, next node ⊆ search.visited
  acyclic : ∀ node ∈ search.visited, ¬ OnCycle next node

/-- What has been visited after some nodes that gave no cycle. -/
structure Search.Explores (next : α → List α) (nodes : List α) (before : Search α)
    (entered : List α) (after : Search α) : Prop where
  sound : after.Sound next nodes
  stack : after.visiting = before.visiting
  kept : before.visited ⊆ after.visited
  entered : entered ⊆ after.visited

def Search.Finds (next : α → List α) (nodes : List α) (before : Search α) (entered : List α)
    (outcome : Option (List α × Search α)) : Prop :=
  ∃ cycle after, outcome = some (cycle, after) ∧
    (IsCycle next cycle ∨ cycle = [] ∧ before.Explores next nodes entered after)

variable {next : α → List α} {nodes : List α}

omit [DecidableEq α] in
theorem Search.Finds.all {visit : Search α → α → Option (List α × Search α)} {before : Search α}
    {entered : List α} (sound : before.Sound next nodes)
    (each : ∀ node ∈ entered, ∀ search : Search α, search.Sound next nodes →
      search.visiting = before.visiting → search.Finds next nodes [node] (visit search node)) :
    before.Finds next nodes entered (visitAll visit before entered) := by
  induction entered generalizing before with
  | nil => exact ⟨[], before, rfl, .inr ⟨rfl, sound, rfl, fun _ => id, List.nil_subset _⟩⟩
  | cons node rest ih =>
    obtain ⟨cycle, moved, visited, result⟩ := each node List.mem_cons_self before sound rfl
    rw [visitAll, visited]
    cases cycle with
    | cons first cycle =>
      rcases result with isCycle | ⟨none', -⟩
      · -- the first cycle ends the walk
        exact ⟨first :: cycle, moved, rfl, .inl isCycle⟩
      · cases none'
    | nil =>
      rcases result with isCycle | ⟨-, explored⟩
      · exact absurd rfl isCycle.ne_nil
      · have later := ih explored.sound fun other listed search soundHere stack =>
          each other (List.mem_cons_of_mem _ listed) search soundHere
            (stack.trans explored.stack)
        obtain ⟨cycle, after, walked, result⟩ := later
        refine ⟨cycle, after, walked, ?_⟩
        rcases result with isCycle | ⟨none', further⟩
        · exact .inl isCycle
        · refine .inr ⟨none', further.sound, further.stack.trans explored.stack,
            fun _ listed => further.kept (explored.kept listed), ?_⟩
          intro other listed
          rcases List.mem_cons.1 listed with rfl | among
          · exact further.kept (explored.entered List.mem_cons_self)
          · exact further.entered among

theorem isCycle_of_visiting {search : Search α} {node last : α} (sound : search.Sound next nodes)
    (top : search.visiting.getLast? = some last) (step : Edge next last node)
    (listed : node ∈ search.visiting) :
    IsCycle next (search.visiting.drop (search.visiting.idxOf node) ++ [node]) := by
  have position : search.visiting.idxOf node < search.visiting.length :=
    List.idxOf_lt_length_of_mem listed
  have heads : (search.visiting.drop (search.visiting.idxOf node)).head? = some node := by
    rw [List.head?_drop, List.getElem?_eq_getElem position, List.getElem_idxOf]
  have lasts : (search.visiting.drop (search.visiting.idxOf node)).getLast? = some last := by
    rw [List.getLast?_drop, if_neg (by omega), top]
  refine ⟨?_, ?_, ?_⟩
  · refine (sound.chain.drop _).append (List.isChain_singleton node) ?_
    intro a isLast b isHead
    rw [lasts] at isLast
    cases isLast
    cases isHead
    exact step
  · rw [List.length_append, List.length_drop, List.length_singleton]
    omega
  · rw [List.getLast?_concat, List.head?_append, heads]
    rfl

omit [DecidableEq α] in
theorem Search.Sound.push {search : Search α} {node : α} (sound : search.Sound next nodes)
    (listed : node ∈ nodes) (fresh : node ∉ search.visiting) (unvisited : node ∉ search.visited)
    (reached : ∀ last ∈ search.visiting.getLast?, Edge next last node) :
    ({ search with visiting := search.visiting ++ [node] } : Search α).Sound next nodes := by
  refine ⟨?_, ?_, ?_, ?_, sound.closed, sound.acyclic⟩
  · refine sound.chain.append (List.isChain_singleton node) ?_
    intro last isLast b isHead
    cases isHead
    exact reached last isLast
  · rw [List.nodup_append]
    refine ⟨sound.nodup, List.nodup_singleton node, ?_⟩
    intro other among b single same
    rw [List.mem_singleton] at single
    exact fresh (single ▸ same ▸ among)
  · intro other among
    rcases List.mem_append.1 among with old | single
    · exact sound.within old
    · exact List.mem_singleton.1 single ▸ listed
  · intro other among
    rcases List.mem_append.1 among with old | single
    · exact sound.apart other old
    · exact List.mem_singleton.1 single ▸ unvisited

omit [DecidableEq α] in
theorem Search.Sound.leave {search : Search α} {node : α} {stack : List α}
    (sound : search.Sound next nodes) (top : search.visiting = stack ++ [node])
    (explored : next node ⊆ search.visited) :
    ({ visiting := stack, visited := node :: search.visited } : Search α).Sound next nodes := by
  obtain ⟨chain, nodup, within, apart, closed, acyclic⟩ := sound
  rw [top] at chain nodup within apart
  have unvisited : node ∉ search.visited :=
    apart node (List.mem_append_right _ (List.mem_singleton.2 rfl))
  refine ⟨chain.left_of_append, (List.nodup_append.1 nodup).1,
    fun _ among => within (List.mem_append_left _ among), ?_, ?_, ?_⟩
  · intro other among
    rw [List.mem_cons, not_or]
    refine ⟨?_, apart other (List.mem_append_left _ among)⟩
    rintro rfl
    exact (List.nodup_append.1 nodup).2.2 other among other (List.mem_singleton.2 rfl) rfl
  · intro other among
    rcases List.mem_cons.1 among with rfl | old
    · exact fun _ successor => List.mem_cons_of_mem _ (explored successor)
    · exact fun _ successor => List.mem_cons_of_mem _ (closed other old successor)
  · intro other among
    rcases List.mem_cons.1 among with rfl | old
    · -- a way back to the node would stay among the visited ones
      intro leads
      obtain ⟨successor, step, back⟩ := TransGen.head'_iff.1 leads
      rcases ReflTransGen.cases_head_iff.1 back with rfl | ⟨further, step', rest⟩
      · exact unvisited (explored step)
      · exact unvisited (mem_of_leads closed (explored step) (TransGen.head' step' rest))
    · exact acyclic other old

theorem visit_explored (closed : ∀ node ∈ nodes, next node ⊆ nodes)
    {before : Search α} {node : α} (sound : before.Sound next nodes) (listed : node ∈ nodes)
    (reached : ∀ last ∈ before.visiting.getLast?, Edge next last node)
    (enough : nodes.length < fuel + before.visiting.length) :
    before.Finds next nodes [node] (visit next fuel before node) := by
  -- induction on the fuel; the stack holds distinct nodes, so it outlasts every path
  induction fuel generalizing before node with
  | zero =>
    have short := (List.subperm_of_subset sound.nodup sound.within).length_le
    omega
  | succ fuel ih =>
    rw [visit]
    by_cases left : node ∈ before.visited
    · rw [if_pos left]
      refine ⟨[], before, rfl, .inr ⟨rfl, sound, rfl, fun _ => id, ?_⟩⟩
      exact List.cons_subset.2 ⟨left, List.nil_subset _⟩
    · rw [if_neg left]
      by_cases open' : node ∈ before.visiting
      · rw [if_pos open']
        obtain ⟨last, top⟩ : ∃ last, before.visiting.getLast? = some last :=
          Option.ne_none_iff_exists'.1 fun none' =>
            absurd open' (List.getLast?_eq_none_iff.1 none' ▸ List.not_mem_nil)
        exact ⟨_, before, rfl, .inl (isCycle_of_visiting sound top (reached last top) open')⟩
      · rw [if_neg open']
        -- the invariant holds of the stack with the node on top, and its successors keep it
        have pushed := sound.push listed open' left reached
        have inner : Search.Finds next nodes
            { before with visiting := before.visiting ++ [node] } (next node)
            (visitAll (visit next fuel) { before with visiting := before.visiting ++ [node] }
              (next node)) := by
          refine Search.Finds.all pushed ?_
          intro successor step search soundHere stack
          refine ih soundHere (closed node listed step) ?_ ?_
          · intro last top
            rw [stack, List.getLast?_concat] at top
            cases top
            exact step
          · rw [stack, List.length_append, List.length_singleton]
            omega
        obtain ⟨cycle, after, walked, result⟩ := inner
        rw [walked]
        cases cycle with
        | cons first cycle =>
          rcases result with isCycle | ⟨none', -⟩
          · exact ⟨first :: cycle, after, rfl, .inl isCycle⟩
          · cases none'
        | nil =>
          rcases result with isCycle | ⟨-, explored⟩
          · exact absurd rfl isCycle.ne_nil
          · have stack : after.visiting.dropLast = before.visiting := by
              rw [explored.stack, List.dropLast_concat]
            have leaves := explored.sound.leave explored.stack explored.entered
            refine ⟨[], _, rfl, .inr ⟨rfl, ?_, stack, ?_, ?_⟩⟩
            · rw [stack]
              exact leaves
            · exact fun _ old => List.mem_cons_of_mem _ (explored.kept old)
            · exact List.cons_subset.2 ⟨List.mem_cons_self, List.nil_subset _⟩

theorem search_finds (closed : ∀ node ∈ nodes, next node ⊆ nodes) :
    ∃ cycle, search next nodes = some cycle ∧
      (IsCycle next cycle ∨ cycle = [] ∧ ∀ node ∈ nodes, ¬ OnCycle next node) := by
  have start : ({} : Search α).Sound next nodes :=
    ⟨List.isChain_nil, List.nodup_nil, List.nil_subset _, fun _ none' => absurd none' List.not_mem_nil,
      fun _ none' => absurd none' List.not_mem_nil, fun _ none' => absurd none' List.not_mem_nil⟩
  have found : Search.Finds next nodes {} nodes
      (visitAll (visit next (nodes.length + 1)) {} nodes) := by
    refine Search.Finds.all start ?_
    intro node listed search sound stack
    refine visit_explored closed sound listed ?_ ?_
    · intro last top
      rw [stack] at top
      cases top
    · rw [stack]
      exact Nat.lt_succ_self _
  obtain ⟨cycle, after, walked, result⟩ := found
  refine ⟨cycle, by rw [search, walked]; rfl, ?_⟩
  rcases result with isCycle | ⟨none', explored⟩
  · exact .inl isCycle
  · exact .inr ⟨none', fun node listed => explored.sound.acyclic node (explored.entered listed)⟩

end

/-!
# Flood fill with a stack

A node is taken from the stack; if it is new it joins the component and its neighbours outside the
component are put on the stack. `none` is a loop that has used up its fuel.

Results: `floodFill_isSome`, `mem_floodFill`, `nodup_floodFill`.
-/

section

open Relation

variable {α : Type} [DecidableEq α] {next : α → List α}

/-- The rest of the loop, with the component so far and the stack, its top first. -/
def floodFill (next : α → List α) : ℕ → List α → List α → Option (List α)
  | 0, _, _ => none
  | _ + 1, component, [] => some component
  | fuel + 1, component, current :: stack =>
    if current ∈ component then floodFill next fuel component stack
    else
      floodFill next fuel (current :: component)
        ((next current).filter (· ∉ current :: component) ++ stack)

def floodMeasure (next : α → List α) (nodes component stack : List α) : ℕ :=
  ((nodes.filter (· ∉ component)).map fun node => (next node).length).sum + stack.length

theorem floodMeasure_enter {nodes component stack : List α} {current : α}
    (inside : next current ≠ [] → current ∈ nodes) (fresh : current ∉ component) :
    floodMeasure next nodes (current :: component)
        ((next current).filter (· ∉ current :: component) ++ stack) <
      floodMeasure next nodes component (current :: stack) := by
  have pushed := List.length_filter_le (fun node => decide (node ∉ current :: component))
    (next current)
  have outside : ((nodes.filter (· ∉ current :: component)).map fun node =>
        (next node).length).sum + (next current).length ≤
      ((nodes.filter (· ∉ component)).map fun node => (next node).length).sum := by
    have split := List.filter_append_perm (fun node => decide (node ≠ current))
      (nodes.filter (· ∉ component))
    rw [List.filter_filter, List.filter_filter] at split
    have same : (nodes.filter fun node => decide (node ≠ current) && decide (node ∉ component)) =
        nodes.filter (· ∉ current :: component) := by
      refine List.filter_congr fun node _ => ?_
      simp
    rw [← (split.map fun node => (next node).length).sum_eq, List.map_append, List.sum_append, same]
    refine Nat.add_le_add_left ?_ _
    by_cases none : next current = []
    · rw [none]
      exact Nat.zero_le _
    · refine List.le_sum_of_mem (List.mem_map_of_mem ?_)
      simp [inside none, fresh]
  simp only [floodMeasure, List.length_append, List.length_cons]
  omega

theorem floodFill_isSome {nodes component stack : List α}
    (inside : ∀ node, next node ≠ [] → node ∈ nodes)
    (enough : floodMeasure next nodes component stack < fuel) :
    (floodFill next fuel component stack).isSome = true := by
  induction fuel generalizing component stack with
  | zero => exact absurd enough (Nat.not_lt_zero _)
  | succ fuel ih =>
    cases stack with
    | nil => rfl
    | cons current stack =>
      rw [floodFill]
      split
      · refine ih ?_
        simp only [floodMeasure, List.length_cons] at enough ⊢
        omega
      · next fresh =>
        exact ih ((floodMeasure_enter (inside current) fresh).trans_le (Nat.le_of_lt_succ enough))

structure Filling (next : α → List α) (start : α) (component stack : List α) : Prop where
  begun : start ∈ component ∨ start ∈ stack
  led : ∀ node ∈ component ++ stack, ReflTransGen (Edge next) start node
  closed : ∀ node ∈ component, ∀ other ∈ next node, other ∈ component ∨ other ∈ stack
  nodup : component.Nodup

section

variable {start current : α} {component stack : List α}
  (filling : Filling next start component (current :: stack))

include filling

omit [DecidableEq α] in
theorem Filling.skip (known : current ∈ component) : Filling next start component stack := by
  have off {node : α} (among : node ∈ component ∨ node ∈ current :: stack) :
      node ∈ component ∨ node ∈ stack := by
    rcases among with filled | waits
    · exact .inl filled
    · rcases List.mem_cons.1 waits with rfl | later
      · exact .inl known
      · exact .inr later
  refine ⟨off filling.begun, ?_, fun node filled other near =>
    off (filling.closed node filled other near), filling.nodup⟩
  intro node among
  refine filling.led node ?_
  rcases List.mem_append.1 among with filled | waits
  · exact List.mem_append_left _ filled
  · exact List.mem_append_right _ (List.mem_cons_of_mem _ waits)

theorem Filling.enter (fresh : current ∉ component) : Filling next start (current :: component)
      ((next current).filter (· ∉ current :: component) ++ stack) := by
  have led : ReflTransGen (Edge next) start current :=
    filling.led current (List.mem_append_right _ List.mem_cons_self)
  refine ⟨?_, ?_, ?_, List.nodup_cons.2 ⟨fresh, filling.nodup⟩⟩
  · rcases filling.begun with filled | waits
    · exact .inl (List.mem_cons_of_mem _ filled)
    · rcases List.mem_cons.1 waits with rfl | later
      · exact .inl List.mem_cons_self
      · exact .inr (List.mem_append_right _ later)
  · intro node among
    rcases List.mem_append.1 among with filled | waits
    · rcases List.mem_cons.1 filled with rfl | filled'
      · exact led
      · exact filling.led node (List.mem_append_left _ filled')
    · rcases List.mem_append.1 waits with pushed | later
      · exact led.tail (List.mem_filter.1 pushed).1
      · exact filling.led node (List.mem_append_right _ (List.mem_cons_of_mem _ later))
  · intro node filled other near
    by_cases known : other ∈ current :: component
    · exact .inl known
    · rcases List.mem_cons.1 filled with rfl | filled'
      · exact .inr (List.mem_append_left _ (List.mem_filter.2 ⟨near, decide_eq_true known⟩))
      · rcases filling.closed node filled' other near with filled'' | waits
        · exact absurd (List.mem_cons_of_mem _ filled'') known
        · rcases List.mem_cons.1 waits with rfl | later
          · exact absurd List.mem_cons_self known
          · exact .inr (List.mem_append_right _ later)

end

theorem Filling.done {start : α} {component stack filled : List α}
    (filling : Filling next start component stack)
    (finished : floodFill next fuel component stack = some filled) :
    Filling next start filled [] := by
  induction fuel generalizing component stack with
  | zero => cases finished
  | succ fuel ih =>
    cases stack with
    | nil =>
      obtain rfl := Option.some_inj.1 finished
      exact filling
    | cons current stack =>
      rw [floodFill] at finished
      split at finished
      · next known => exact ih (filling.skip known) finished
      · next fresh => exact ih (filling.enter fresh) finished

omit [DecidableEq α] in
theorem Filling.begin (start : α) : Filling next start [] [start] := by
  refine ⟨.inr (List.mem_singleton_self _), ?_, ?_, List.nodup_nil⟩
  · intro node among
    rw [List.mem_singleton.1 among]
  · intro node impossible
    exact absurd impossible List.not_mem_nil

theorem mem_floodFill {start node : α} {filled : List α}
    (finished : floodFill next fuel [] [start] = some filled) :
    node ∈ filled ↔ ReflTransGen (Edge next) start node := by
  have filling : Filling next start filled [] := (Filling.begin start).done finished
  constructor
  · intro member
    exact filling.led node (List.mem_append_left _ member)
  · intro led
    induction led with
    | refl => exact filling.begun.resolve_right List.not_mem_nil
    | tail _ step ih => exact (filling.closed _ ih _ step).resolve_right List.not_mem_nil

theorem nodup_floodFill {start : α} {filled : List α}
    (finished : floodFill next fuel [] [start] = some filled) : filled.Nodup :=
  ((Filling.begin start).done finished).nodup

end

end DependencyGraph
