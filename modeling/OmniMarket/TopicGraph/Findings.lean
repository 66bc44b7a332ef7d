import OmniMarket.TopicGraph.Graph

/-!
# What is reported about a graph

A component is isolated when none of its nodes is an entry. What `findDefects` reports is stated
without the order of the nodes, for graphs whose nodes have distinct names.
-/

namespace OmniMarket.TopicGraph

variable {node : ModelContractNode}

open Relation

variable {nodes : List ModelContractNode} {externalProducers : OrderedDict String String}
  {name topic : Option String} {defect : DefectClass}
  {topics : ModelContractNode → List String} {finding : ModelGraphFinding} {leader : String}

/-! ## Isolation -/

/-- A node that something outside the graph reaches. -/
def IsEntry (externalProducers : OrderedDict String String) (node : ModelContractNode) : Prop :=
  node.commandTopic ≠ none ∨
    (∃ topic ∈ node.subscribeTopics, topic ∈ externalProducers.keys) ∨
    node.subscribeTopics = [] ∧ node.publishTopics ≠ [] ∧ node.declaredIngressRoot = true

def EntryFree (nodes : List ModelContractNode) (externalProducers : OrderedDict String String)
    (name : String) : Prop :=
  ∀ node ∈ nodes, Connected nodes name node.name → ¬ IsEntry externalProducers node

def Least (nodes : List ModelContractNode) (name leader : String) : Prop :=
  Connected nodes name leader ∧ ∀ other, Connected nodes name other → leader ≤ other

/-- Something can put a message on the topic. -/
def Reachable (nodes : List ModelContractNode) (externalProducers : OrderedDict String String)
    (topic : String) : Prop :=
  (∃ node ∈ nodes, topic ∈ node.publishTopics) ∨ topic ∈ externalProducers.keys ∨
    ∃ node ∈ nodes, node.commandTopic = some topic

/-! ## Nodes by name -/

section

variable (distinct : (nodes.map ModelContractNode.name).Nodup)

include distinct

theorem filter_name_eq (listed : node ∈ nodes) :
    (nodes.filter fun other => other.name = node.name) = [node] := by
  induction nodes with
  | nil => cases listed
  | cons head rest ih =>
    obtain ⟨fresh, distinct'⟩ := List.nodup_cons.1 distinct
    rcases List.mem_cons.1 listed with rfl | later
    · rw [List.filter_cons_of_pos (by simp), List.filter_eq_nil_iff.2]
      intro other among same
      exact fresh (of_decide_eq_true same ▸ List.mem_map_of_mem among)
    · rw [List.filter_cons_of_neg, ih distinct' later]
      intro same
      exact fresh (of_decide_eq_true same ▸ List.mem_map_of_mem later)

theorem candidatesOf_eq (listed : node ∈ nodes) :
    candidatesOf (nodesByName nodes) node.name = [node] := by
  rw [candidatesOf, nodesByName, OrderedDict.groupBy_getD, filter_name_eq distinct listed]

theorem head?_candidatesOf {name : String} :
    (candidatesOf (nodesByName nodes) name).head? = some node ↔
      node ∈ nodes ∧ node.name = name := by
  constructor
  · intro first
    have listed := List.mem_of_head? first
    rw [candidatesOf, nodesByName, OrderedDict.groupBy_getD, List.mem_filter] at listed
    exact ⟨listed.1, of_decide_eq_true listed.2⟩
  · rintro ⟨listed, rfl⟩
    rw [candidatesOf_eq distinct listed]
    rfl

theorem resolveNodeForTopic_eq (listed : node ∈ nodes)
    (topics : ModelContractNode → List String) (topic : String) :
    resolveNodeForTopic (nodesByName nodes) topics node.name topic = some node := by
  unfold resolveNodeForTopic
  rw [candidatesOf_eq distinct listed]

end

def Reports (findings : List ModelGraphFinding) (defect : DefectClass)
    (node topic : Option String) : Prop :=
  ∃ finding ∈ findings, finding.defect = defect ∧ finding.node = node ∧ finding.topic = topic

theorem mem_orphans (distinct : (nodes.map ModelContractNode.name).Nodup) {detail : String}
    {answered : String → Bool} :
    finding ∈ orphans defect detail topics (nodesByName nodes) (declaredTopics topics nodes)
        answered ↔
      ∃ node ∈ nodes, ∃ topic ∈ topics node, answered topic = false ∧ node.runtimeLoaded = true ∧
        finding =
          { defect, topic := some topic, node := some node.name, package := node.package, detail } := by
  simp only [orphans, List.mem_flatMap, List.mem_insertionSort]
  constructor
  · rintro ⟨topic, -, found⟩
    split at found
    · cases found
    · next unanswered =>
      obtain ⟨name, declared, made⟩ := List.mem_filterMap.1 found
      obtain ⟨node, listed, rfl, declares⟩ := mem_declaredTopics.1 declared
      rw [resolveNodeForTopic_eq distinct listed] at made
      split at made
      · next same =>
        obtain rfl := Option.some_inj.1 same
        split at made
        · next loaded =>
          exact ⟨_, listed, topic, declares, by simpa using unanswered, loaded,
            (Option.some_inj.1 made).symm⟩
        · cases made
      · cases made
  · rintro ⟨node, listed, topic, declares, unanswered, loaded, rfl⟩
    have declared : node.name ∈ ((declaredTopics topics nodes).get? topic).getD [] :=
      mem_declaredTopics.2 ⟨node, listed, rfl, declares⟩
    refine ⟨topic, ?_, ?_⟩
    · cases found : (declaredTopics topics nodes).get? topic with
      | some names => exact OrderedDict.mem_keys.2 ⟨names, found⟩
      | none =>
        rw [found] at declared
        cases declared
    · rw [unanswered]
      refine List.mem_filterMap.2 ⟨node.name, declared, ?_⟩
      rw [resolveNodeForTopic_eq distinct listed]
      simp [loaded]

/-! ## Entries -/

theorem isExternal_iff {topic : String} :
    (graphOf nodes externalProducers).isExternal topic = true ↔ topic ∈ externalProducers.keys := by
  rw [OrderedDict.mem_keys, ModelTopicGraph.isExternal, Option.isSome_iff_exists]
  exact Iff.rfl

theorem connected_listed {name other : String} (connected : Connected nodes name other)
    (listed : name ∈ nodes.map ModelContractNode.name) :
    other ∈ nodes.map ModelContractNode.name := by
  induction connected with
  | refl => exact listed
  | tail _ step _ =>
    rcases step with ⟨_, -, node, among, rfl, -⟩ | ⟨_, ⟨node, among, rfl, -⟩, -⟩
    · exact List.mem_map_of_mem among
    · exact List.mem_map_of_mem among

variable {order : SetOrder}

theorem isEntryMember_iff {name : String} (listed : node ∈ nodes)
    (member : Connected nodes name node.name) : isEntryMember (graphOf nodes externalProducers)
        (componentOf order (adjacencyOf (graphOf nodes externalProducers)) name) node = true ↔
      IsEntry externalProducers node := by
  have inside {topic : String} (subscribes : topic ∈ node.subscribeTopics) :
      ((graphOf nodes externalProducers).producersOf topic).any (fun producer => decide
        (producer ∉ componentOf order (adjacencyOf (graphOf nodes externalProducers)) name)) =
        false := by
    refine List.any_eq_false.2 fun producer produces outside => ?_
    refine of_decide_eq_true outside (mem_componentOf.2 (member.tail (.inr ⟨topic, ?_, ?_⟩)))
    · exact mem_producersOf.1 produces
    · exact ⟨node, listed, rfl, subscribes⟩
  have fed : (node.subscribeTopics.any fun topic =>
      (graphOf nodes externalProducers).isExternal topic ||
        ((graphOf nodes externalProducers).producersOf topic).any fun producer => decide
          (producer ∉ componentOf order (adjacencyOf (graphOf nodes externalProducers)) name)) =
        true ↔ ∃ topic ∈ node.subscribeTopics, topic ∈ externalProducers.keys := by
    rw [List.any_eq_true]
    refine exists_congr fun topic => and_congr_right fun subscribes => ?_
    rw [inside subscribes, Bool.or_false, isExternal_iff]
  rw [isEntryMember, Bool.or_eq_true, Bool.or_eq_true, fed, IsEntry]
  simp only [Bool.and_eq_true, List.isEmpty_iff, List.isEmpty_eq_false_iff, Bool.not_eq_true',
    Option.isSome_iff_ne_none]
  rw [or_assoc]
  exact or_congr_right (or_comm.trans (or_congr_right and_assoc))

theorem hasEntry_eq_false (distinct : (nodes.map ModelContractNode.name).Nodup) {name : String} :
    hasEntry (graphOf nodes externalProducers) (nodesByName nodes)
        (componentOf order (adjacencyOf (graphOf nodes externalProducers)) name) = false ↔
      EntryFree nodes externalProducers name := by
  rw [hasEntry, List.any_eq_false]
  constructor
  · intro none' node listed connected entry
    refine none' node.name (mem_componentOf.2 connected) ?_
    rw [(head?_candidatesOf distinct).2 ⟨listed, rfl⟩]
    exact (isEntryMember_iff listed connected).2 entry
  · intro free member among
    cases found : (candidatesOf (nodesByName nodes) member).head? with
    | none => exact Bool.false_ne_true
    | some node =>
      obtain ⟨listed, rfl⟩ := (head?_candidatesOf distinct).1 found
      have connected := mem_componentOf.1 among
      intro entry
      exact free node listed connected ((isEntryMember_iff listed connected).1 entry)

/-! ## Disconnected subgraphs -/

theorem exists_least (nodes : List ModelContractNode)
    (externalProducers : OrderedDict String String) (order : SetOrder) (name : String) :
    ∃ leader, (componentOf order (adjacencyOf (graphOf nodes externalProducers)) name).min? =
      some leader ∧ Least nodes name leader := by
  have filled : componentOf order (adjacencyOf (graphOf nodes externalProducers)) name ≠ [] :=
    List.ne_nil_of_mem (mem_componentOf.2 .refl)
  cases found : (componentOf order (adjacencyOf (graphOf nodes externalProducers)) name).min? with
  | none => exact absurd (List.min?_eq_none_iff.1 found) filled
  | some leader =>
    obtain ⟨member, least⟩ := List.min?_eq_some_iff.1 found
    exact ⟨leader, rfl, mem_componentOf.1 member, fun other connected =>
      least other (mem_componentOf.2 connected)⟩

theorem subgraphFinding_eq_ok (distinct : (nodes.map ModelContractNode.name).Nodup)
    (unicode : UnicodeTable) (listed : node ∈ nodes) :
    ∃ finding leader, subgraphFinding unicode (nodesByName nodes)
        (componentOf order (adjacencyOf (graphOf nodes externalProducers)) node.name) =
          .ok finding ∧
      Least nodes node.name leader ∧ finding.defect = .disconnectedSubgraph ∧
      finding.node = some leader ∧ finding.topic = none := by
  obtain ⟨leader, least?, least⟩ := exists_least nodes externalProducers order node.name
  obtain ⟨first, among, rfl⟩ := List.mem_map.1
    (connected_listed least.1 (List.mem_map_of_mem listed))
  have first? := (head?_candidatesOf distinct).2 ⟨among, rfl⟩
  simp only [subgraphFinding, least?, Option.getD_some, first?]
  exact ⟨_, first.name, rfl, least, rfl, rfl, rfl⟩

def Disconnected (nodes : List ModelContractNode)
    (externalProducers : OrderedDict String String) (node : ModelContractNode) (leader : String) :
    Prop :=
  node.runtimeLoaded = true ∧ (∃ other, Connected nodes node.name other ∧ other ≠ node.name) ∧
    EntryFree nodes externalProducers node.name ∧ Least nodes node.name leader

theorem Least.eq_of_connected {name other leader' : String} (least : Least nodes name leader)
    (least' : Least nodes other leader') (connected : Connected nodes name other) :
    leader = leader' := by
  refine le_antisymm (least.2 _ (connected.trans least'.1)) (least'.2 _ ?_)
  exact connected.symm.trans least.1

theorem Disconnected.of_connected {node other : ModelContractNode}
    (disconnected : Disconnected nodes externalProducers other leader)
    (loaded : node.runtimeLoaded = true) (connected : Connected nodes node.name other.name) :
    Disconnected nodes externalProducers node leader := by
  obtain ⟨-, ⟨member, joined, differ⟩, free, least⟩ := disconnected
  refine ⟨loaded, ?_, fun entry listed joins => free entry listed (connected.symm.trans joins),
    connected.trans least.1, fun member joins => least.2 member (connected.symm.trans joins)⟩
  rcases eq_or_ne member node.name with rfl | apart
  · exact ⟨other.name, connected, Ne.symm differ⟩
  · exact ⟨member, connected.trans joined, apart⟩

theorem passes_iff (distinct : (nodes.map ModelContractNode.name).Nodup)
    (loaded : node.runtimeLoaded = true) :
    (componentOf order (adjacencyOf (graphOf nodes externalProducers)) node.name).length < 2 ∨
        hasEntry (graphOf nodes externalProducers) (nodesByName nodes)
          (componentOf order (adjacencyOf (graphOf nodes externalProducers)) node.name) = true ↔
      ∀ leader, ¬ Disconnected nodes externalProducers node leader := by
  rw [← not_le, two_le_componentOf, ← Bool.not_eq_false, hasEntry_eq_false distinct,
    ← not_and_or, ← not_exists]
  refine not_congr ?_
  obtain ⟨leader, -, least⟩ := exists_least nodes externalProducers order node.name
  constructor
  · rintro ⟨several, free⟩
    exact ⟨leader, loaded, several, free, least⟩
  · rintro ⟨-, -, several, free, -⟩
    exact ⟨several, free⟩

structure Covers (nodes : List ModelContractNode)
    (externalProducers : OrderedDict String String) (seen : List String)
    (rest : List ModelContractNode) (findings : List ModelGraphFinding) : Prop where
  sound : ∀ finding ∈ findings, finding.defect = .disconnectedSubgraph ∧ finding.topic = none ∧
    ∃ leader, finding.node = some leader ∧ ∃ node ∈ rest, node.name ∉ seen ∧
      Disconnected nodes externalProducers node leader
  complete : ∀ node ∈ rest, node.name ∉ seen → ∀ leader,
    Disconnected nodes externalProducers node leader →
      ∃ finding ∈ findings, finding.node = some leader
  once : (findings.map ModelGraphFinding.node).Nodup

namespace Covers

variable {seen component : List String} {node : ModelContractNode}
  {rest : List ModelContractNode} {findings : List ModelGraphFinding}

theorem skip (covers : Covers nodes externalProducers seen rest findings)
    (skipped : node.name ∈ seen ∨ node.runtimeLoaded = false) :
    Covers nodes externalProducers seen (node :: rest) findings := by
  refine ⟨?_, ?_, covers.once⟩
  · intro finding listed
    obtain ⟨class', topic, leader, led, other, later, rest'⟩ := covers.sound finding listed
    exact ⟨class', topic, leader, led, other, List.mem_cons_of_mem _ later, rest'⟩
  · intro other listed fresh leader disconnected
    rcases List.mem_cons.1 listed with rfl | later
    · rcases skipped with already | unloaded
      · exact absurd already fresh
      · rw [disconnected.1] at unloaded
        cases unloaded
    · exact covers.complete other later fresh leader disconnected

variable (covers : Covers nodes externalProducers (component ++ seen) rest findings)
  (whole : ∀ other, other ∈ component ↔ Connected nodes node.name other)
  (loaded : node.runtimeLoaded = true)

include covers

theorem sound_cons : ∀ finding ∈ findings,
    finding.defect = .disconnectedSubgraph ∧ finding.topic = none ∧
      ∃ leader, finding.node = some leader ∧ ∃ other ∈ node :: rest, other.name ∉ seen ∧
        Disconnected nodes externalProducers other leader := by
  intro finding reported
  obtain ⟨class', topic, leader, led, other, later, outside, disconnected⟩ :=
    covers.sound finding reported
  exact ⟨class', topic, leader, led, other, List.mem_cons_of_mem _ later,
    fun already => outside (List.mem_append_right _ already), disconnected⟩

include whole loaded

theorem own_or_later {other : ModelContractNode} (waits : other ∈ node :: rest)
    (fresh : other.name ∉ seen) (disconnected : Disconnected nodes externalProducers other leader) :
    Disconnected nodes externalProducers node leader ∨
      ∃ finding ∈ findings, finding.node = some leader := by
  by_cases connected : Connected nodes node.name other.name
  · exact .inl (disconnected.of_connected loaded connected)
  · have later : other ∈ rest := (List.mem_cons.1 waits).resolve_left fun same =>
      connected (same ▸ .refl)
    refine .inr (covers.complete other later ?_ leader disconnected)
    rw [List.mem_append, whole]
    exact not_or.2 ⟨connected, fresh⟩

theorem pass (passes : ∀ leader, ¬ Disconnected nodes externalProducers node leader) :
    Covers nodes externalProducers seen (node :: rest) findings := by
  refine ⟨covers.sound_cons, ?_, covers.once⟩
  intro other waits fresh leader disconnected
  exact (covers.own_or_later whole loaded waits fresh disconnected).resolve_left (passes leader)

theorem report (fresh : node.name ∉ seen)
    (disconnected : Disconnected nodes externalProducers node leader)
    (class' : finding.defect = .disconnectedSubgraph) (topic : finding.topic = none)
    (led : finding.node = some leader) :
    Covers nodes externalProducers seen (node :: rest) (finding :: findings) := by
  have least := disconnected.2.2.2
  refine ⟨?_, ?_, ?_⟩
  · rw [List.forall_mem_cons]
    exact ⟨⟨class', topic, leader, led, node, List.mem_cons_self, fresh, disconnected⟩,
      covers.sound_cons⟩
  · intro other waits unseen leader' disconnected'
    rcases covers.own_or_later whole loaded waits unseen disconnected' with
      same | ⟨later, reported, led'⟩
    · rw [same.2.2.2.eq_of_connected least .refl]
      exact ⟨finding, List.mem_cons_self, led⟩
    · exact ⟨later, List.mem_cons_of_mem _ reported, led'⟩
  · rw [List.map_cons, List.nodup_cons, List.mem_map]
    refine ⟨?_, covers.once⟩
    rintro ⟨later, reported, same⟩
    obtain ⟨-, -, leader', led', other, -, outside, disconnected'⟩ := covers.sound later reported
    rw [led, led', Option.some_inj] at same
    obtain rfl := same
    refine outside (List.mem_append_left _ ((whole _).2 ?_))
    exact least.1.trans disconnected'.2.2.2.1.symm

end Covers

theorem exists_subgraphs (distinct : (nodes.map ModelContractNode.name).Nodup)
    (unicode : UnicodeTable) {seen : List String} {rest : List ModelContractNode}
    (among : ∀ node ∈ rest, node ∈ nodes) :
    ∃ findings, subgraphsFrom unicode order (graphOf nodes externalProducers)
        (nodesByName nodes) (adjacencyOf (graphOf nodes externalProducers)) seen rest =
          .ok findings ∧ Covers nodes externalProducers seen rest findings := by
  induction rest generalizing seen with
  | nil => exact ⟨[], rfl, by simp, by simp, List.nodup_nil⟩
  | cons node rest ih =>
    have among' : ∀ node ∈ rest, node ∈ nodes := fun other later =>
      among other (List.mem_cons_of_mem _ later)
    rw [subgraphsFrom]
    split
    · next skipped =>
      obtain ⟨findings, found, covers⟩ := @ih seen among'
      exact ⟨findings, found, covers.skip skipped⟩
    · next entered =>
      rw [not_or, Bool.not_eq_false] at entered
      obtain ⟨fresh, loaded⟩ := entered
      obtain ⟨findings, found, covers⟩ := @ih (componentOf order
        (adjacencyOf (graphOf nodes externalProducers)) node.name ++ seen) among'
      have whole (other : String) := @mem_componentOf nodes externalProducers order
        node.name other
      dsimp only
      split
      · next passes =>
        exact ⟨findings, found, covers.pass whole loaded ((passes_iff distinct loaded).1 passes)⟩
      · next reports =>
        obtain ⟨finding, leader, made, least, class', led, topic⟩ :=
          subgraphFinding_eq_ok distinct unicode (among node List.mem_cons_self)
        obtain ⟨leader', disconnected⟩ :=
          not_forall_not.1 (mt (passes_iff distinct loaded).2 reports)
        obtain rfl := least.eq_of_connected disconnected.2.2.2 .refl
        rw [made, found]
        exact ⟨_, rfl, covers.report whole loaded fresh disconnected class' topic led⟩

/-! ## The findings of a graph -/

/-- What is reported about a graph, from its nodes in no order. -/
def Found (nodes : List ModelContractNode) (externalProducers : OrderedDict String String)
    (defect : DefectClass) (name topic : Option String) : Prop :=
  match defect with
  | .orphanedConsumer =>
    ∃ node ∈ nodes, ∃ declared ∈ node.subscribeTopics,
      ¬ Reachable nodes externalProducers declared ∧ node.runtimeLoaded = true ∧
        name = some node.name ∧ topic = some declared
  | .orphanedProducer =>
    ∃ node ∈ nodes, ∃ declared ∈ node.publishTopics,
      (¬ ∃ other ∈ nodes, declared ∈ other.subscribeTopics ∨
        declared ∈ other.externallyConsumed ∨ declared ∈ other.terminalTopics) ∧
      node.runtimeLoaded = true ∧ name = some node.name ∧ topic = some declared
  | .declaredButUnwired =>
    ∃ node ∈ nodes, node.runtimeLoaded = true ∧ node.subscribeTopics ≠ [] ∧
      node.hasDispatchWiring = false ∧ name = some node.name ∧ topic = none
  | .disconnectedSubgraph =>
    ∃ node ∈ nodes, ∃ leader, Disconnected nodes externalProducers node leader ∧
      name = some leader ∧ topic = none

theorem isReachable_eq_false {topic : String} :
    (graphOf nodes externalProducers).isReachable topic = false ↔
      ¬ Reachable nodes externalProducers topic := by
  have produced : (!((graphOf nodes externalProducers).producersOf topic).isEmpty) = true ↔
      ∃ node ∈ nodes, topic ∈ node.publishTopics := by
    rw [Bool.not_eq_true', List.isEmpty_eq_false_iff_exists_mem]
    simp only [mem_producersOf]
    constructor
    · rintro ⟨_, node, listed, -, publishes⟩
      exact ⟨node, listed, publishes⟩
    · rintro ⟨node, listed, publishes⟩
      exact ⟨_, node, listed, rfl, publishes⟩
  have commanded : (nodes.any fun node => node.commandTopic == some topic) = true ↔
      ∃ node ∈ nodes, node.commandTopic = some topic := by
    simp [List.any_eq_true]
  rw [← Bool.not_eq_true, ModelTopicGraph.isReachable, Bool.or_eq_true, Bool.or_eq_true, produced,
    isExternal_iff, Reachable, or_assoc]
  exact not_congr (or_congr_right (or_congr_right commanded))

theorem unconsumed_iff {topic : String} :
    (!((graphOf nodes externalProducers).consumersOf topic).isEmpty ||
        (externallyConsumedTopics (graphOf nodes externalProducers)).contains topic) = false ↔
      ¬ ∃ node ∈ nodes, topic ∈ node.subscribeTopics ∨ topic ∈ node.externallyConsumed ∨
        topic ∈ node.terminalTopics := by
  rw [Bool.or_eq_false_iff, Bool.not_eq_false', List.isEmpty_iff, List.eq_nil_iff_forall_not_mem]
  simp only [mem_consumersOf, externallyConsumedTopics, List.contains_eq_mem, List.mem_flatMap,
    List.mem_append, decide_eq_false_iff_not, not_exists, not_and, not_or]
  constructor
  · rintro ⟨unsubscribed, unawaited⟩ node listed
    exact ⟨unsubscribed _ node listed rfl, unawaited node listed⟩
  · intro unused
    exact ⟨fun _ node listed _ => (unused node listed).1, fun node listed => (unused node listed).2⟩

theorem reports_append {first second : List ModelGraphFinding} :
    Reports (first ++ second) defect name topic ↔
      Reports first defect name topic ∨ Reports second defect name topic := by
  simp only [Reports, List.mem_append, or_and_right, exists_or]

theorem reports_orphans (distinct : (nodes.map ModelContractNode.name).Nodup) {class' : DefectClass}
    {detail : String} {answered : String → Bool} :
    Reports (orphans class' detail topics (nodesByName nodes) (declaredTopics topics nodes)
        answered) defect name topic ↔
      class' = defect ∧ ∃ node ∈ nodes, ∃ declared ∈ topics node, answered declared = false ∧
        node.runtimeLoaded = true ∧ name = some node.name ∧ topic = some declared := by
  simp only [Reports, mem_orphans distinct]
  constructor
  · rintro ⟨_, ⟨node, listed, declared, declares, unanswered, loaded, rfl⟩, rfl, rfl, rfl⟩
    exact ⟨rfl, node, listed, declared, declares, unanswered, loaded, rfl, rfl⟩
  · rintro ⟨rfl, node, listed, declared, declares, unanswered, loaded, rfl, rfl⟩
    exact ⟨_, ⟨node, listed, declared, declares, unanswered, loaded, rfl⟩, rfl, rfl, rfl⟩

theorem reports_unwired :
    Reports (declaredButUnwired (graphOf nodes externalProducers)) defect name topic ↔
      .declaredButUnwired = defect ∧ ∃ node ∈ nodes, node.runtimeLoaded = true ∧
        node.subscribeTopics ≠ [] ∧ node.hasDispatchWiring = false ∧ name = some node.name ∧
        topic = none := by
  simp only [Reports, declaredButUnwired, List.mem_filterMap, Option.ite_none_right_eq_some,
    Option.some.injEq, Bool.and_eq_true, Bool.not_eq_true', List.isEmpty_eq_false_iff]
  constructor
  · rintro ⟨_, ⟨node, listed, ⟨⟨loaded, subscribes⟩, unwired⟩, rfl⟩, rfl, rfl, rfl⟩
    exact ⟨rfl, node, listed, loaded, subscribes, unwired, rfl, rfl⟩
  · rintro ⟨rfl, node, listed, loaded, subscribes, unwired, rfl, rfl⟩
    exact ⟨_, ⟨node, listed, ⟨⟨loaded, subscribes⟩, unwired⟩, rfl⟩, rfl, rfl, rfl⟩

theorem reports_subgraphs {findings : List ModelGraphFinding}
    (covers : Covers nodes externalProducers [] nodes findings) :
    Reports findings defect name topic ↔
      .disconnectedSubgraph = defect ∧ ∃ node ∈ nodes, ∃ leader,
        Disconnected nodes externalProducers node leader ∧ name = some leader ∧ topic = none := by
  constructor
  · rintro ⟨finding, reported, rfl, rfl, rfl⟩
    obtain ⟨class', topic, leader, led, node, listed, -, disconnected⟩ :=
      covers.sound finding reported
    exact ⟨class'.symm, node, listed, leader, disconnected, led, topic⟩
  · rintro ⟨rfl, node, listed, leader, disconnected, rfl, rfl⟩
    obtain ⟨finding, reported, led⟩ :=
      covers.complete node listed List.not_mem_nil leader disconnected
    obtain ⟨class', topic, -⟩ := covers.sound finding reported
    exact ⟨finding, reported, class', led, topic⟩

theorem filter_of_reports {findings : List ModelGraphFinding} {class' other : DefectClass}
    (only : ∀ defect name topic, Reports findings defect name topic → class' = defect)
    (differ : class' ≠ other) : (findings.filter fun finding => finding.defect = other) = [] := by
  rw [List.filter_eq_nil_iff]
  intro finding listed same
  exact differ ((only _ _ _ ⟨finding, listed, rfl, rfl, rfl⟩).trans (of_decide_eq_true same))

theorem exists_findings (distinct : (nodes.map ModelContractNode.name).Nodup)
    (externalProducers : OrderedDict String String) (unicode : UnicodeTable) (order : SetOrder) :
    ∃ findings, findDefects unicode order (graphOf nodes externalProducers) = .ok findings ∧
      (∀ defect name topic, Reports findings defect name topic ↔
        Found nodes externalProducers defect name topic) ∧
      ((findings.filter fun finding => finding.defect = .disconnectedSubgraph).map
        ModelGraphFinding.node).Nodup := by
  obtain ⟨subgraphs, made, covers⟩ := @exists_subgraphs nodes externalProducers order distinct
    unicode [] nodes fun _ listed => listed
  have consumers (defect : DefectClass) (name topic : Option String) :
      Reports (orphanedConsumers (graphOf nodes externalProducers) (nodesByName nodes)) defect name
          topic ↔
        .orphanedConsumer = defect ∧
          Found nodes externalProducers .orphanedConsumer name topic := by
    refine (reports_orphans distinct).trans (and_congr_right fun _ => ?_)
    simp only [isReachable_eq_false]
    exact Iff.rfl
  have producers (defect : DefectClass) (name topic : Option String) :
      Reports (orphanedProducers (graphOf nodes externalProducers) (nodesByName nodes)) defect name
          topic ↔
        .orphanedProducer = defect ∧
          Found nodes externalProducers .orphanedProducer name topic := by
    refine (reports_orphans distinct).trans (and_congr_right fun _ => ?_)
    simp only [unconsumed_iff]
    exact Iff.rfl
  refine ⟨orphanedConsumers (graphOf nodes externalProducers) (nodesByName nodes) ++
    orphanedProducers (graphOf nodes externalProducers) (nodesByName nodes) ++
    declaredButUnwired (graphOf nodes externalProducers) ++ subgraphs, ?_, ?_, ?_⟩
  · unfold findDefects findDisconnectedSubgraphs
    show (subgraphsFrom _ _ _ (nodesByName nodes) _ [] nodes >>= _) = _
    rw [made]
    rfl
  · intro defect name topic
    rw [reports_append, reports_append, reports_append, reports_subgraphs covers, reports_unwired,
      consumers, producers]
    cases defect <;> simp [Found]
  · rw [List.filter_append, List.filter_append, List.filter_append,
      filter_of_reports (fun _ _ _ reports => ((consumers _ _ _).1 reports).1) (by decide),
      filter_of_reports (fun _ _ _ reports => ((producers _ _ _).1 reports).1) (by decide),
      filter_of_reports (fun _ _ _ reports => (reports_unwired.1 reports).1) (by decide)]
    exact covers.once.sublist (List.filter_sublist.map _)

end OmniMarket.TopicGraph
