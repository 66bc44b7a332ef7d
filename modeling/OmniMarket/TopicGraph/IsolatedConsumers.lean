import OmniMarket.TopicGraph.Findings

/-!
# Isolated consumers

A consumer alone in its component is only seen by the check of its topics, for which the command
topic of any node answers.
-/

namespace OmniMarket.TopicGraph

open Relation

variable {nodes : List ModelContractNode} {externalProducers : OrderedDict String String}
  {others : List ModelContractNode} {findings : List ModelGraphFinding}
  {node : ModelContractNode}

/-! ## The order of the nodes -/

theorem connected_perm (reordered : others.Perm nodes) : Connected others = Connected nodes := by
  have linked : Linked others = Linked nodes := by
    funext first second
    simp only [Linked, Feeds, reordered.mem_iff]
  rw [Connected, linked]
  rfl

theorem found_perm (reordered : others.Perm nodes) {defect : DefectClass}
    {name topic : Option String} :
    Found others externalProducers defect name topic ↔
      Found nodes externalProducers defect name topic := by
  cases defect <;>
    simp only [Found, Reachable, Disconnected, EntryFree, Least, connected_perm reordered,
      reordered.mem_iff]

theorem mem_keys_iff {key : String} :
    key ∈ findings.map ModelGraphFinding.key ↔
      ∃ defect name topic, Reports findings defect name topic ∧
        ModelGraphFinding.key { defect, node := name, topic := topic } = key := by
  rw [List.mem_map]
  constructor
  · rintro ⟨finding, listed, rfl⟩
    exact ⟨_, _, _, ⟨finding, listed, rfl, rfl, rfl⟩, rfl⟩
  · rintro ⟨_, _, _, ⟨finding, listed, rfl, rfl, rfl⟩, rfl⟩
    exact ⟨finding, listed, rfl⟩

/-! ## Isolated consumers -/

def AloneAndAnswered (nodes : List ModelContractNode) (node : ModelContractNode) : Prop :=
  (∀ other, Connected nodes node.name other → other = node.name) ∧
    ∀ topic ∈ node.subscribeTopics,
      (∃ other ∈ nodes, other.commandTopic = some topic) ∨ topic ∈ node.publishTopics

def ReportedIsolated (nodes : List ModelContractNode) (findings : List ModelGraphFinding)
    (node : ModelContractNode) : Prop :=
  (∃ finding ∈ findings, finding.defect = .orphanedConsumer ∧ finding.node = some node.name) ∨
    ∃ finding ∈ findings, finding.defect = .disconnectedSubgraph ∧
      ∃ leader, finding.node = some leader ∧ Connected nodes node.name leader

structure Isolated (nodes : List ModelContractNode) (externalProducers : OrderedDict String String)
    (node : ModelContractNode) : Prop where
  listed : node ∈ nodes
  loaded : node.runtimeLoaded = true
  consumes : node.subscribeTopics ≠ []
  unfed : EntryFree nodes externalProducers node.name

section

variable (distinct : (nodes.map ModelContractNode.name).Nodup)
  (isolated : Isolated nodes externalProducers node)

include distinct isolated

theorem Isolated.exists_unreachable
    (alone : ∀ other, Connected nodes node.name other → other = node.name)
    (unanswered : ¬ AloneAndAnswered nodes node) :
    ∃ topic ∈ node.subscribeTopics, ¬ Reachable nodes externalProducers topic := by
  by_contra reachable
  push Not at reachable
  refine unanswered ⟨alone, fun topic subscribes => ?_⟩
  rcases reachable topic subscribes with ⟨other, among, publishes⟩ | external | commanded
  · have linked : Linked nodes node.name other.name :=
      .inr ⟨topic, ⟨other, among, rfl, publishes⟩, node, isolated.listed, rfl, subscribes⟩
    have same := List.inj_on_of_nodup_map distinct among isolated.listed
      (alone other.name (.single linked))
    exact .inr (same ▸ publishes)
  · exact absurd (.inr (.inl ⟨topic, subscribes, external⟩))
      (isolated.unfed node isolated.listed .refl)
  · exact .inl commanded

theorem Isolated.found (unanswered : ¬ AloneAndAnswered nodes node)
    (reports : ∀ defect name topic, Reports findings defect name topic ↔
      Found nodes externalProducers defect name topic) : ReportedIsolated nodes findings node := by
  by_cases several : ∃ other, Connected nodes node.name other ∧ other ≠ node.name
  · obtain ⟨leader, -, least⟩ :=
      exists_least nodes externalProducers ⟨id, fun _ => .refl _⟩ node.name
    obtain ⟨finding, listed, class', led, -⟩ :=
      (reports .disconnectedSubgraph (some leader) none).2 ⟨node, isolated.listed, leader,
        ⟨isolated.loaded, several, isolated.unfed, least⟩, rfl, rfl⟩
    exact .inr ⟨finding, listed, class', leader, led, least.1⟩
  · push Not at several
    obtain ⟨topic, subscribes, unreachable⟩ :=
      isolated.exists_unreachable distinct several unanswered
    obtain ⟨finding, listed, class', named, -⟩ :=
      (reports .orphanedConsumer (some node.name) (some topic)).2 ⟨node, isolated.listed, topic,
        subscribes, unreachable, isolated.loaded, rfl, rfl⟩
    exact .inl ⟨finding, listed, class', named⟩

end

/-! ## The leaders of subgraphs -/

structure LeadsIsolated (nodes : List ModelContractNode)
    (externalProducers : OrderedDict String String) (leader : String) : Prop where
  listed : leader ∈ nodes.map ModelContractNode.name
  least : ∀ other, Connected nodes leader other → leader ≤ other
  unfed : EntryFree nodes externalProducers leader

theorem Disconnected.leadsIsolated {leader : String}
    (disconnected : Disconnected nodes externalProducers node leader) (listed : node ∈ nodes) :
    LeadsIsolated nodes externalProducers leader := by
  obtain ⟨-, -, free, connected, least⟩ := disconnected
  exact ⟨connected_listed connected (List.mem_map_of_mem listed),
    fun other joined => least other (connected.trans joined),
    fun entry among joined => free entry among (connected.trans joined)⟩

theorem LeadsIsolated.eq_of_connected {first second : String}
    (leads : LeadsIsolated nodes externalProducers first)
    (leads' : LeadsIsolated nodes externalProducers second)
    (connected : Connected nodes first second) : first = second :=
  le_antisymm (leads.least second connected) (leads'.least first connected.symm)

/-- For graphs of nodes with distinct names. The findings of an isolated consumer that is alone in
its component and answered are left open. -/
theorem findDefects_isolated (distinct : (nodes.map ModelContractNode.name).Nodup)
    (externalProducers : OrderedDict String String) (unicode : UnicodeTable) (order : SetOrder) :
    ∃ findings, findDefects unicode order (graphOf nodes externalProducers) = .ok findings ∧
      (∀ node, Isolated nodes externalProducers node → ¬ AloneAndAnswered nodes node →
        ReportedIsolated nodes findings node) ∧
      (∀ finding ∈ findings, finding.defect = .disconnectedSubgraph →
        ∃ leader, finding.node = some leader ∧ LeadsIsolated nodes externalProducers leader) ∧
      ((findings.filter fun finding => finding.defect = .disconnectedSubgraph).Pairwise
        fun first second => ∀ leader leader', first.node = some leader →
          second.node = some leader' → ¬ Connected nodes leader leader') ∧
      ∀ (order' : SetOrder) (others : List ModelContractNode), others.Perm nodes →
        ∃ findings', findDefects unicode order' (graphOf others externalProducers) = .ok findings' ∧
          ∀ key, key ∈ findings'.map ModelGraphFinding.key ↔
            key ∈ findings.map ModelGraphFinding.key := by
  obtain ⟨findings, made, reports, once⟩ :=
    exists_findings distinct externalProducers unicode order
  have leads {finding : ModelGraphFinding} (listed : finding ∈ findings)
      (class' : finding.defect = .disconnectedSubgraph) :
      ∃ leader, finding.node = some leader ∧ LeadsIsolated nodes externalProducers leader := by
    obtain ⟨node, among, leader, disconnected, led, -⟩ :=
      (reports .disconnectedSubgraph _ _).1 ⟨finding, listed, class', rfl, rfl⟩
    exact ⟨leader, led, disconnected.leadsIsolated among⟩
  refine ⟨findings, made, fun node isolated unanswered =>
    isolated.found distinct unanswered reports, fun finding => leads, ?_, ?_⟩
  · rw [List.Nodup, List.pairwise_map] at once
    refine once.imp_of_mem ?_
    intro first second inFirst inSecond differ leader leader' led led' connected
    rw [List.mem_filter, decide_eq_true_iff] at inFirst inSecond
    obtain ⟨own, same, isolated⟩ := leads inFirst.1 inFirst.2
    obtain ⟨own', same', isolated'⟩ := leads inSecond.1 inSecond.2
    obtain rfl := Option.some_inj.1 (led.symm.trans same)
    obtain rfl := Option.some_inj.1 (led'.symm.trans same')
    exact differ (by rw [led, led', isolated.eq_of_connected isolated' connected])
  · intro order' others reordered
    obtain ⟨findings', made', reports', -⟩ := exists_findings
      ((reordered.map _).nodup_iff.2 distinct) externalProducers unicode order'
    refine ⟨findings', made', fun key => ?_⟩
    simp only [mem_keys_iff, reports, reports', found_perm reordered]

/-! ## Two graphs -/

def listedOrder : SetOrder := ⟨fun names => names, fun _ => .refl _⟩

def rivalLedgers : List ModelContractNode :=
  [{ name := "ledger_orchestrator"
     package := "omnimarket"
     publishTopics := ["onex.evt.omnimarket.ledger-reduced.v1"]
     subscribeTopics := ["onex.cmd.omnimarket.ledger-tick.v1"]
     hasDispatchWiring := true
     runtimeLoaded := true },
   { name := "ledger_state_reducer"
     package := "omnimarket"
     publishTopics := ["onex.cmd.omnimarket.ledger-tick.v1"]
     subscribeTopics := ["onex.evt.omnimarket.ledger-reduced.v1"]
     hasDispatchWiring := true
     runtimeLoaded := true }]

theorem rivals_isolated : ∀ node ∈ rivalLedgers, Isolated rivalLedgers .empty node := by
  have consumes : ∀ node ∈ rivalLedgers, node.runtimeLoaded = true ∧ node.subscribeTopics ≠ [] := by
    decide
  have unfed : ∀ node ∈ rivalLedgers, ¬ IsEntry .empty node := by
    unfold IsEntry
    decide
  exact fun node listed => ⟨listed, (consumes node listed).1, (consumes node listed).2,
    fun other among _ => unfed other among⟩

/-- Two ledgers that only feed each other are both isolated and both reported. -/
theorem rival_ledgers_found : ∃ findings,
    findDefects PyText.asciiTable listedOrder (graphOf rivalLedgers .empty) = .ok findings ∧
      ∀ node ∈ rivalLedgers, Isolated rivalLedgers .empty node ∧
        ReportedIsolated rivalLedgers findings node := by
  obtain ⟨findings, made, found, -⟩ := @findDefects_isolated rivalLedgers (by decide) .empty
    PyText.asciiTable listedOrder
  have linked : Linked rivalLedgers "ledger_orchestrator" "ledger_state_reducer" :=
    .inl ⟨"onex.evt.omnimarket.ledger-reduced.v1", ⟨_, .head _, rfl, .head _⟩,
      ⟨_, .tail _ (.head _), rfl, .head _⟩⟩
  refine ⟨findings, made, fun node listed => ⟨rivals_isolated node listed, ?_⟩⟩
  refine found node (rivals_isolated node listed) fun alone => ?_
  rcases List.mem_cons.1 listed with rfl | later
  · exact absurd (alone.1 _ (.single linked)) (by decide)
  · cases List.mem_singleton.1 later
    exact absurd (alone.1 _ (.single linked.symm)) (by decide)

def answeredConsumer : ModelContractNode :=
  { name := "consumer"
    package := "omnimarket"
    subscribeTopics := ["onex.cmd.omnimarket.run.v1"]
    hasDispatchWiring := true
    runtimeLoaded := true }

def answeredGraph : List ModelContractNode :=
  [answeredConsumer,
   { name := "caller"
     package := "omnimarket"
     commandTopic := some "onex.cmd.omnimarket.run.v1" }]

theorem answeredConsumer_isolated : Isolated answeredGraph .empty answeredConsumer := by
  refine ⟨List.mem_cons_self, rfl, by decide, ?_⟩
  have unlinked (other : String) : ¬ Linked answeredGraph answeredConsumer.name other := by
    rintro (⟨topic, ⟨node, listed, -, publishes⟩, -⟩ | ⟨topic, ⟨node, listed, -, publishes⟩, -⟩) <;>
      simp only [answeredGraph, List.mem_cons, List.not_mem_nil, or_false] at listed <;>
      rcases listed with rfl | rfl <;> cases publishes
  intro node listed connected entry
  rw [Connected, Relation.reflTransGen_iff_eq unlinked] at connected
  simp only [answeredGraph, List.mem_cons, List.not_mem_nil, or_false] at listed
  rcases listed with rfl | rfl
  · revert entry
    unfold IsEntry
    decide
  · exact absurd connected (by decide)

/-- The consumer is alone and without entry, and nothing is reported. -/
theorem answered_consumer_unreported :
    ¬ ∀ (nodes : List ModelContractNode) (externalProducers : OrderedDict String String)
      (unicode : UnicodeTable) (order : SetOrder) (findings : List ModelGraphFinding),
      (nodes.map ModelContractNode.name).Nodup →
      findDefects unicode order (graphOf nodes externalProducers) = .ok findings →
      ∀ node, Isolated nodes externalProducers node → ReportedIsolated nodes findings node := by
  intro always
  have silent : ((findDefects PyText.asciiTable listedOrder
      (graphOf answeredGraph .empty)).toOption.map List.length) = some 0 := by
    decide +kernel
  cases made : findDefects PyText.asciiTable listedOrder (graphOf answeredGraph .empty) with
  | error raised =>
    rw [made] at silent
    cases silent
  | ok findings =>
    rw [made] at silent
    have none : findings = [] := List.eq_nil_of_length_eq_zero (Option.some_inj.1 silent)
    rcases always _ _ _ _ findings (by decide) made _ answeredConsumer_isolated with
      ⟨finding, listed, -⟩ | ⟨finding, listed, -⟩
    · rw [none] at listed
      cases listed
    · rw [none] at listed
      cases listed

end OmniMarket.TopicGraph
