import Mathlib.Data.List.Sort
import Mathlib.Data.String.Basic
import OmniMarket.Lib.Graph
import OmniMarket.Lib.OrderedDict
import OmniMarket.Lib.PyText

/-!
# The contract topic graph

Nodes are contracts and edges are topics. `findDefects` lists what the graph alone shows to be
wrong. A set of names is a list without repetitions; the order in which it is iterated is a
parameter.
-/

namespace OmniMarket.TopicGraph

/-! ## The graph -/

structure ModelContractNode where
  name : String
  package : String
  publishTopics : List String := []
  subscribeTopics : List String := []
  commandTopic : Option String := none
  terminalTopics : List String := []
  externallyConsumed : List String := []
  hasDispatchWiring : Bool := false
  runtimeLoaded : Bool := false
  declaredIngressRoot : Bool := false

inductive DefectClass where
  | orphanedConsumer
  | orphanedProducer
  | declaredButUnwired
  | disconnectedSubgraph
deriving DecidableEq

def DefectClass.text : DefectClass → String
  | orphanedConsumer => "ORPHANED_CONSUMER"
  | orphanedProducer => "ORPHANED_PRODUCER"
  | declaredButUnwired => "DECLARED_BUT_UNWIRED"
  | disconnectedSubgraph => "DISCONNECTED_SUBGRAPH"

structure ModelGraphFinding where
  defect : DefectClass
  topic : Option String := none
  node : Option String := none
  package : String := ""
  detail : String := ""

def ModelGraphFinding.key (finding : ModelGraphFinding) : String :=
  finding.defect.text ++ "::" ++ PyText.textOrElse finding.node "-" ++ "::" ++
    PyText.textOrElse finding.topic "-"

structure ModelTopicGraph where
  nodes : List ModelContractNode
  producers : OrderedDict String (List String)
  consumers : OrderedDict String (List String)
  externalProducers : OrderedDict String String

def declaredTopics (topics : ModelContractNode → List String) (nodes : List ModelContractNode) :
    OrderedDict String (List String) :=
  (OrderedDict.groupBy Prod.fst
    (nodes.flatMap fun node => (topics node).map fun topic => (topic, node.name))).mapValues
      (List.map Prod.snd)

/-- The graph of some nodes, as `build_graph` makes it. -/
def graphOf (nodes : List ModelContractNode) (externalProducers : OrderedDict String String) :
    ModelTopicGraph :=
  { nodes
    producers := declaredTopics ModelContractNode.publishTopics nodes
    consumers := declaredTopics ModelContractNode.subscribeTopics nodes
    externalProducers }

namespace ModelTopicGraph

variable (graph : ModelTopicGraph)

def producersOf (topic : String) : List String := (graph.producers.get? topic).getD []

def consumersOf (topic : String) : List String := (graph.consumers.get? topic).getD []

def edges : List (String × String × String) :=
  graph.producers.entries.flatMap fun entry =>
    (graph.consumersOf entry.1).flatMap fun consumer =>
      entry.2.map fun producer => (producer, entry.1, consumer)

def isExternal (topic : String) : Bool := (graph.externalProducers.get? topic).isSome

def isReachable (topic : String) : Bool :=
  !(graph.producersOf topic).isEmpty || graph.isExternal topic ||
    graph.nodes.any fun node => node.commandTopic == some topic

end ModelTopicGraph

/-! ## Orphans -/

def nodesByName (nodes : List ModelContractNode) : OrderedDict String (List ModelContractNode) :=
  OrderedDict.groupBy ModelContractNode.name nodes

def candidatesOf (byName : OrderedDict String (List ModelContractNode)) (name : String) :
    List ModelContractNode := (byName.get? name).getD []

/-- `_resolve_node_for_topic`; `topics` are the subscribed or the published ones. -/
def resolveNodeForTopic (byName : OrderedDict String (List ModelContractNode))
    (topics : ModelContractNode → List String) (name topic : String) : Option ModelContractNode :=
  match candidatesOf byName name with
  | [] => none
  | [only] => some only
  | first :: rest =>
    some (((first :: rest).find? fun node => (topics node).contains topic).getD first)

def orphans (defect : DefectClass) (detail : String) (topics : ModelContractNode → List String)
    (byName : OrderedDict String (List ModelContractNode))
    (declared : OrderedDict String (List String)) (answered : String → Bool) :
    List ModelGraphFinding :=
  (declared.keys.insertionSort (· ≤ ·)).flatMap fun topic =>
    if answered topic then []
    else
      ((declared.get? topic).getD []).filterMap fun name =>
        match resolveNodeForTopic byName topics name topic with
        | some node =>
          if node.runtimeLoaded then
            some { defect, topic := some topic, node := some name, package := node.package, detail }
          else none
        | none => none

section

variable (graph : ModelTopicGraph)

section

variable (byName : OrderedDict String (List ModelContractNode))

def orphanedConsumers :
    List ModelGraphFinding :=
  orphans .orphanedConsumer
    ("subscribes to a topic that NO contract publishes, that is not declared as an external " ++
      "producer, and that is no node's runtime_dispatch.command_topic — nothing can ever send " ++
      "it a message")
    ModelContractNode.subscribeTopics byName graph.consumers graph.isReachable

def externallyConsumedTopics : List String :=
  graph.nodes.flatMap fun node => node.externallyConsumed ++ node.terminalTopics

def orphanedProducers :
    List ModelGraphFinding :=
  orphans .orphanedProducer
    ("publishes a topic that NO contract subscribes to and that is not declared in " ++
      "externally_consumed_topics — its output goes nowhere")
    ModelContractNode.publishTopics byName graph.producers fun topic =>
      !(graph.consumersOf topic).isEmpty || (externallyConsumedTopics graph).contains topic

def declaredButUnwired : List ModelGraphFinding :=
  graph.nodes.filterMap fun node =>
    if node.runtimeLoaded && !node.subscribeTopics.isEmpty && !node.hasDispatchWiring then
      some
        { defect := .declaredButUnwired
          node := some node.name
          package := node.package
          detail :=
            "declares " ++ toString node.subscribeTopics.length ++ " subscribe topic(s) with NO " ++
              "handler_routing and NO handler — the runtime subscribes, receives, and drops " ++
              "every event because there is nothing to dispatch to" }
    else none

/-! ## Disconnected subgraphs -/

structure SetOrder where
  list : List String → List String
  perm : ∀ names, (list names).Perm names

/-- A `dict` of sets. -/
abbrev Adjacency := OrderedDict String (List String)

/-- `adjacency.setdefault(first, set()).add(second)`. -/
def Adjacency.add (adjacency : Adjacency) (first second : String) : Adjacency :=
  let held := (adjacency.get? first).getD []
  adjacency.set first (if second ∈ held then held else held ++ [second])

def adjacencyOf : Adjacency :=
  graph.edges.foldl (fun adjacency edge =>
      (Adjacency.add adjacency edge.1 edge.2.2).add edge.2.2 edge.1)
    (graph.nodes.foldl (fun adjacency node => adjacency.set node.name []) .empty)

def neighbours (order : SetOrder) (adjacency : Adjacency) (name : String) : List String :=
  order.list ((adjacency.get? name).getD [])

/-- The turns that a fill needs at most. -/
def fillFuel (adjacency : Adjacency) : ℕ :=
  (adjacency.values.map List.length).sum + 2

def componentOf (order : SetOrder) (adjacency : Adjacency) (name : String) : List String :=
  (DependencyGraph.floodFill (neighbours order adjacency) (fillFuel adjacency) [] [name]).getD []

/-- A member through which something from outside reaches the component. -/
def isEntryMember (component : List String) (node : ModelContractNode) :
    Bool :=
  node.commandTopic.isSome ||
    (node.subscribeTopics.isEmpty && !node.publishTopics.isEmpty && node.declaredIngressRoot) ||
    node.subscribeTopics.any fun topic =>
      graph.isExternal topic ||
        (graph.producersOf topic).any fun producer => producer ∉ component

def hasEntry (component : List String) :
    Bool :=
  component.any fun member =>
    (candidatesOf byName member).head?.any (isEntryMember graph component)

end

end

/-- `by_name[leader][0]` of a name without nodes. -/
inductive GraphError where
  | keyError (name : String)

def subgraphFinding (unicode : UnicodeTable)
    (byName : OrderedDict String (List ModelContractNode)) (component : List String) :
    Except GraphError ModelGraphFinding :=
  let leader := component.min?.getD ""
  match (candidatesOf byName leader).head? with
  | none => .error (.keyError leader)
  | some node => .ok
      { defect := .disconnectedSubgraph
        node := some leader
        package := node.package
        detail :=
          toString component.length ++ " internally-wired nodes with NO inbound edge from the " ++
            "rest of the platform and no entry point: " ++
            PyText.reprList unicode (component.insertionSort (· ≤ ·)) ++
            " — the cluster is fully wired and can never receive a message" }

/-- The loop of `_find_disconnected_subgraphs` over the nodes that are left. -/
def subgraphsFrom (unicode : UnicodeTable) (order : SetOrder) (graph : ModelTopicGraph)
    (byName : OrderedDict String (List ModelContractNode)) (adjacency : Adjacency) :
    List String → List ModelContractNode → Except GraphError (List ModelGraphFinding)
  | _, [] => .ok []
  | seen, node :: rest =>
    if node.name ∈ seen ∨ node.runtimeLoaded = false then
      subgraphsFrom unicode order graph byName adjacency seen rest
    else
      let component := componentOf order adjacency node.name
      if component.length < 2 ∨ hasEntry graph byName component = true then
        subgraphsFrom unicode order graph byName adjacency (component ++ seen) rest
      else do
        let finding ← subgraphFinding unicode byName component
        let later ← subgraphsFrom unicode order graph byName adjacency (component ++ seen) rest
        return finding :: later

def findDisconnectedSubgraphs (unicode : UnicodeTable) (order : SetOrder) (graph : ModelTopicGraph)
    (byName : OrderedDict String (List ModelContractNode)) :
    Except GraphError (List ModelGraphFinding) :=
  subgraphsFrom unicode order graph byName (adjacencyOf graph) [] graph.nodes

def findDefects (unicode : UnicodeTable) (order : SetOrder) (graph : ModelTopicGraph) :
    Except GraphError (List ModelGraphFinding) := do
  let byName := nodesByName graph.nodes
  let subgraphs ← findDisconnectedSubgraphs unicode order graph byName
  return orphanedConsumers graph byName ++ orphanedProducers graph byName ++
    declaredButUnwired graph ++ subgraphs

/-!
# The components of a contract graph

Two nodes are linked when one publishes a topic to which the other subscribes, and connected when
links lead from one to the other.
-/

section

open Relation

variable {nodes : List ModelContractNode} {externalProducers : OrderedDict String String}

/-! ## Declared topics -/

variable {name : String}

theorem mem_declaredTopics {topics : ModelContractNode → List String} {topic : String} :
    name ∈ ((declaredTopics topics nodes).get? topic).getD [] ↔
      ∃ node ∈ nodes, node.name = name ∧ topic ∈ topics node := by
  have held : ((declaredTopics topics nodes).get? topic).getD [] =
      (((OrderedDict.groupBy Prod.fst (nodes.flatMap fun node =>
        (topics node).map fun topic => (topic, node.name))).get? topic).getD []).map Prod.snd := by
    rw [declaredTopics, OrderedDict.get?_mapValues]
    cases (OrderedDict.groupBy Prod.fst (nodes.flatMap fun node =>
      (topics node).map fun topic => (topic, node.name))).get? topic <;> rfl
  rw [held, OrderedDict.groupBy_getD]
  simp only [List.mem_map, List.mem_filter, List.mem_flatMap, decide_eq_true_iff]
  constructor
  · rintro ⟨_, ⟨⟨node, listed, topic', declared, rfl⟩, rfl⟩, rfl⟩
    exact ⟨node, listed, rfl, declared⟩
  · rintro ⟨node, listed, rfl, declared⟩
    exact ⟨_, ⟨⟨node, listed, topic, declared, rfl⟩, rfl⟩, rfl⟩

theorem mem_producersOf {topic name : String} :
    name ∈ (graphOf nodes externalProducers).producersOf topic ↔
      ∃ node ∈ nodes, node.name = name ∧ topic ∈ node.publishTopics := mem_declaredTopics

theorem mem_consumersOf {topic name : String} :
    name ∈ (graphOf nodes externalProducers).consumersOf topic ↔
      ∃ node ∈ nodes, node.name = name ∧ topic ∈ node.subscribeTopics := mem_declaredTopics

/-! ## Edges -/

def Feeds (nodes : List ModelContractNode) (producer consumer : String) : Prop :=
  ∃ topic, (∃ node ∈ nodes, node.name = producer ∧ topic ∈ node.publishTopics) ∧
    ∃ node ∈ nodes, node.name = consumer ∧ topic ∈ node.subscribeTopics

def Linked (nodes : List ModelContractNode) (first second : String) : Prop :=
  Feeds nodes first second ∨ Feeds nodes second first

/-- Links lead from one name to the other. -/
def Connected (nodes : List ModelContractNode) : String → String → Prop :=
  ReflTransGen (Linked nodes)

variable {first second : String}

theorem Linked.symm (linked : Linked nodes first second) :
    Linked nodes second first := Or.symm linked

theorem Connected.symm (connected : Connected nodes first second) :
    Connected nodes second first := by
  have symmetric : Std.Symm (Linked nodes) := ⟨fun _ _ => Linked.symm⟩
  exact ReflTransGen.stdSymm.symm _ _ connected

theorem exists_edge_iff {producer consumer : String} :
    (∃ topic, (producer, topic, consumer) ∈ (graphOf nodes externalProducers).edges) ↔
      Feeds nodes producer consumer := by
  refine exists_congr fun topic => ?_
  rw [← @mem_producersOf nodes externalProducers, ← @mem_consumersOf nodes externalProducers]
  simp only [ModelTopicGraph.edges, ModelTopicGraph.producersOf, List.mem_flatMap, List.mem_map,
    Prod.mk.injEq]
  constructor
  · rintro ⟨⟨topic', prods⟩, listed, consumer', consumes, producer', produces, rfl, rfl, rfl⟩
    rw [OrderedDict.mem_entries.1 listed]
    exact ⟨produces, consumes⟩
  · rintro ⟨produces, consumes⟩
    cases found : (graphOf nodes externalProducers).producers.get? topic with
    | none =>
      rw [found] at produces
      cases produces
    | some prods =>
      rw [found] at produces
      exact ⟨(topic, prods), OrderedDict.mem_entries.2 found, consumer, consumes, producer,
        produces, rfl, rfl, rfl⟩

/-! ## The adjacency -/

def adjacent (adjacency : Adjacency) (name : String) : List String :=
  (adjacency.get? name).getD []

variable {adjacency : Adjacency} {other : String}

theorem mem_add :
    other ∈ adjacent (adjacency.add first second) name ↔
      other ∈ adjacent adjacency name ∨ name = first ∧ other = second := by
  unfold adjacent Adjacency.add
  by_cases own : name = first
  · subst own
    rw [OrderedDict.get?_set_self, Option.getD_some]
    split
    · next held =>
      constructor
      · exact .inl
      · rintro (there | ⟨-, rfl⟩)
        · exact there
        · exact held
    · simp
  · rw [OrderedDict.get?_set_other own]
    exact (or_iff_left fun same => own same.1).symm

theorem mem_link {edges : List (String × String × String)} :
    other ∈ adjacent (edges.foldl (fun adjacency edge =>
        (Adjacency.add adjacency edge.1 edge.2.2).add edge.2.2 edge.1) adjacency) name ↔
      other ∈ adjacent adjacency name ∨
        ∃ topic, (name, topic, other) ∈ edges ∨ (other, topic, name) ∈ edges := by
  induction edges generalizing adjacency with
  | nil => simp
  | cons edge rest ih =>
    obtain ⟨producer, topic, consumer⟩ := edge
    rw [List.foldl_cons, ih, mem_add, mem_add]
    simp only [List.mem_cons, Prod.mk.injEq]
    constructor
    · rintro (((held | ⟨rfl, rfl⟩) | ⟨rfl, rfl⟩) | ⟨topic', later | later⟩)
      · exact .inl held
      · exact .inr ⟨topic, .inl (.inl ⟨rfl, rfl, rfl⟩)⟩
      · exact .inr ⟨topic, .inr (.inl ⟨rfl, rfl, rfl⟩)⟩
      · exact .inr ⟨topic', .inl (.inr later)⟩
      · exact .inr ⟨topic', .inr (.inr later)⟩
    · rintro (held | ⟨topic', (⟨rfl, -, rfl⟩ | later) | ⟨rfl, -, rfl⟩ | later⟩)
      · exact .inl (.inl (.inl held))
      · exact .inl (.inl (.inr ⟨rfl, rfl⟩))
      · exact .inr ⟨topic', .inl later⟩
      · exact .inl (.inr ⟨rfl, rfl⟩)
      · exact .inr ⟨topic', .inr later⟩

theorem adjacent_unlinked (blank : adjacent adjacency name = []) :
    adjacent (nodes.foldl (fun adjacency node => adjacency.set node.name []) adjacency) name =
      [] := by
  induction nodes generalizing adjacency with
  | nil => exact blank
  | cons node rest ih =>
    refine ih ?_
    unfold adjacent
    by_cases own : name = node.name
    · rw [own, OrderedDict.get?_set_self]
      rfl
    · rw [OrderedDict.get?_set_other own]
      exact blank

theorem mem_adjacencyOf :
    other ∈ adjacent (adjacencyOf (graphOf nodes externalProducers)) name ↔
      Linked nodes name other := by
  rw [adjacencyOf, mem_link, adjacent_unlinked (by rfl), Linked,
    ← @exists_edge_iff nodes externalProducers, ← @exists_edge_iff nodes externalProducers,
    ← exists_or]
  exact or_iff_right List.not_mem_nil

/-! ## The flood fill -/

variable {order : SetOrder}

theorem mem_neighbours :
    other ∈ neighbours order (adjacencyOf (graphOf nodes externalProducers)) name ↔
      Linked nodes name other :=
  (order.perm _).mem_iff.trans mem_adjacencyOf

theorem neighbours_length (adjacency : Adjacency) (name : String) :
    (neighbours order adjacency name).length = (adjacent adjacency name).length :=
  (order.perm _).length_eq

theorem mem_keys_of_neighbours (some' : neighbours order adjacency name ≠ []) :
    name ∈ adjacency.keys := by
  cases found : adjacency.get? name with
  | some held => exact OrderedDict.mem_keys.2 ⟨held, found⟩
  | none =>
    refine absurd (List.eq_nil_of_length_eq_zero ?_) some'
    rw [neighbours_length, adjacent, found]
    rfl

theorem degrees_eq (adjacency : Adjacency) :
    (adjacency.keys.map fun name => (neighbours order adjacency name).length) =
      adjacency.values.map List.length := by
  rw [OrderedDict.keys, OrderedDict.values, List.map_map, List.map_map]
  refine List.map_congr_left fun entry listed => ?_
  simp only [Function.comp_apply, neighbours_length, adjacent, OrderedDict.mem_entries.1 listed,
    Option.getD_some]

theorem floodFill_eq_componentOf (adjacency : Adjacency) (name : String) :
    DependencyGraph.floodFill (neighbours order adjacency) (fillFuel adjacency) [] [name] =
      some (componentOf order adjacency name) := by
  have enough : DependencyGraph.floodMeasure (neighbours order adjacency) adjacency.keys [] [name] <
      fillFuel adjacency := by
    have all : adjacency.keys.filter (· ∉ []) = adjacency.keys := by simp
    rw [DependencyGraph.floodMeasure, all, degrees_eq, fillFuel]
    exact Nat.lt_succ_self _
  have filled := DependencyGraph.floodFill_isSome (fun _ => mem_keys_of_neighbours) enough
  exact (Option.some_get filled).symm.trans (by rw [componentOf, Option.get_eq_getD])

theorem mem_componentOf {name other : String} :
    other ∈ componentOf order (adjacencyOf (graphOf nodes externalProducers)) name ↔
      Connected nodes name other := by
  have edges : DependencyGraph.Edge
      (neighbours order (adjacencyOf (graphOf nodes externalProducers))) = Linked nodes :=
    funext₂ fun _ _ => propext mem_neighbours
  rw [DependencyGraph.mem_floodFill (floodFill_eq_componentOf _ name), edges]
  exact Iff.rfl

theorem nodup_componentOf (adjacency : Adjacency) (name : String) :
    (componentOf order adjacency name).Nodup :=
  DependencyGraph.nodup_floodFill (floodFill_eq_componentOf adjacency name)

theorem two_le_length_iff {items : List String} (distinct : items.Nodup) {item : String}
    (listed : item ∈ items) : 2 ≤ items.length ↔ ∃ other ∈ items, other ≠ item := by
  match items, distinct, listed with
  | [only], _, listed =>
    constructor
    · intro two
      exact absurd two (by simp)
    · rintro ⟨other, among, differ⟩
      exact absurd ((List.mem_singleton.1 among).trans (List.mem_singleton.1 listed).symm) differ
  | first :: second :: rest, distinct, _ =>
    refine iff_of_true (by simp) ?_
    rcases eq_or_ne first item with rfl | differ
    · refine ⟨second, by simp, ?_⟩
      rintro rfl
      exact (List.nodup_cons.1 distinct).1 List.mem_cons_self
    · exact ⟨first, List.mem_cons_self, differ⟩

theorem two_le_componentOf :
    2 ≤ (componentOf order (adjacencyOf (graphOf nodes externalProducers)) name).length ↔
      ∃ other, Connected nodes name other ∧ other ≠ name := by
  have self : name ∈ componentOf order (adjacencyOf (graphOf nodes externalProducers)) name :=
    mem_componentOf.2 .refl
  simp only [two_le_length_iff (nodup_componentOf _ name) self, mem_componentOf]

end

end OmniMarket.TopicGraph
