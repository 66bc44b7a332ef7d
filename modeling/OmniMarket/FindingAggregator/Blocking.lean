import OmniMarket.FindingAggregator.Aggregator
import OmniMarket.Lib.Search

/-!
# No blocking finding is lost

A cluster is the summary of a greedy group: its leader gives the file, the rule, the line and the
message, all of its members their number and their highest severity. So what the verdict depends
on is not affected by the order. Two conversions raise: a line that is no number, and the model of
a merged finding, for a leader or for weights that it refuses.
-/

namespace OmniMarket.FindingAggregator

open GreedyGroups
variable {finding : Attributed} {sources others : List ModelSourceFindings}

section

variable {F : Type} (ops : FloatOps F) (text : FindingText)

/-! ## What the aggregator owes -/

/-- The finding of a raw finding, where it is well formed. -/
def fieldsOf (finding : String × PyDict) : Option Attributed :=
  (extractFindingFields text finding.2).join.map fun fields => (finding.1, fields)

def wellFormed (sources : List ModelSourceFindings) : List Attributed :=
  (rawFindings sources).filterMap (fieldsOf text)

section

variable (request : ModelFindingAggregatorInput F)

def fits (threshold : F) (leader finding : Attributed) : Bool :=
  if finding.2.filePath ≠ leader.2.filePath then false
  else if finding.2.ruleId ≠ leader.2.ruleId then false
  else ops.le threshold (jaccardSimilarity ops (tokenize text leader.2.normalizedMessage)
    (tokenize text finding.2.normalizedMessage))

def groupsOf : List (LedGroup Attributed) :=
  grouped (fits ops text request.config.jaccardThreshold) (wellFormed text request.sources)

end

/-! ## Clusters -/

def mergeFollower (promotes : Bool) (cluster : FindingCluster) (finding : Attributed) :
    FindingCluster := cluster.merge finding.2 finding.1 promotes

def clusterOf (promotes : Bool) (group : LedGroup Attributed) : FindingCluster :=
  group.followers.foldl (mergeFollower promotes) (newCluster text group.leader.2 group.leader.1)

end

variable {F : Type} {ops : FloatOps F} {text : FindingText} {promotes : Bool}
  {group : LedGroup Attributed} {config : ModelFindingAggregatorConfig F}

variable (group) in
theorem clusterOf_add (finding : Attributed) :
    clusterOf text promotes (group.add finding) =
      mergeFollower promotes (clusterOf text promotes group) finding :=
  List.foldl_append

theorem clusterOf_invariant (Invariant : FindingCluster → List Attributed → Prop)
    (leader : Attributed) (followers : List Attributed)
    (start : Invariant (newCluster text leader.2 leader.1) [leader])
    (step : ∀ cluster members finding, Invariant cluster members →
      Invariant (mergeFollower promotes cluster finding) (members ++ [finding])) :
    Invariant (clusterOf text promotes ⟨leader, followers⟩) (leader :: followers) := by
  induction followers using List.reverseRecOn with
  | nil => exact start
  | append_singleton before finding ih =>
    have added : clusterOf text promotes ⟨leader, before ++ [finding]⟩ =
        mergeFollower promotes (clusterOf text promotes ⟨leader, before⟩) finding :=
      clusterOf_add ⟨leader, before⟩ finding
    rw [added]
    exact step _ _ finding ih

structure LedBy (text : FindingText) (leader : FindingFields) (cluster : FindingCluster) :
    Prop where
  ruleId : cluster.ruleId = leader.ruleId
  filePath : cluster.filePath = leader.filePath
  lineStart : cluster.lineStart = leader.lineStart
  lineEnd : cluster.lineEnd = leader.lineEnd
  message : cluster.normalizedMessage = leader.normalizedMessage
  tokens : cluster.tokens = tokenize text leader.normalizedMessage

variable (text promotes) in
theorem clusterOf_ledBy (group : LedGroup Attributed) :
    LedBy text group.leader.2 (clusterOf text promotes group) :=
  clusterOf_invariant (fun cluster _ => LedBy text group.leader.2 cluster)
    group.leader group.followers ⟨rfl, rfl, rfl, rfl, rfl, rfl⟩
    fun _ _ _ led => ⟨led.ruleId, led.filePath, led.lineStart, led.lineEnd, led.message, led.tokens⟩

theorem rank_le_higherSeverity_left (a b : String) :
    severityRank a ≤ severityRank (higherSeverity a b) := by
  unfold higherSeverity
  split_ifs with lower
  · exact le_refl _
  · exact (not_le.1 lower).le

theorem rank_le_higherSeverity_right (a b : String) :
    severityRank b ≤ severityRank (higherSeverity a b) := by
  unfold higherSeverity
  split_ifs with lower
  · exact lower
  · exact le_refl _

theorem higherSeverity_cases (a b : String) : higherSeverity a b = a ∨ higherSeverity a b = b := by
  unfold higherSeverity
  split_ifs
  · exact Or.inl rfl
  · exact Or.inr rfl

structure SeverityOf (cluster : FindingCluster) (members : List Attributed) : Prop where
  own : ∃ finding ∈ members, finding.2.severity = cluster.severity
  highest : ∀ finding ∈ members, severityRank finding.2.severity ≤ severityRank cluster.severity

variable (text) in
theorem clusterOf_severity (group : LedGroup Attributed) :
    SeverityOf (clusterOf text true group) group.members := by
  refine clusterOf_invariant SeverityOf group.leader group.followers ?_ ?_
  · refine ⟨⟨_, List.mem_singleton_self _, rfl⟩, fun finding listed => ?_⟩
    rw [List.mem_singleton.1 listed]
    rfl
  · intro cluster members finding held
    have merged : (mergeFollower true cluster finding).severity =
        higherSeverity cluster.severity finding.2.severity := rfl
    constructor
    · rw [merged]
      rcases higherSeverity_cases cluster.severity finding.2.severity with kept | raised
      · obtain ⟨other, listed, same⟩ := held.own
        exact ⟨other, List.mem_append_left _ listed, by rw [kept, same]⟩
      · exact ⟨finding, List.mem_append_right _ (List.mem_singleton_self _), raised.symm⟩
    · intro other listed
      rw [merged]
      rcases List.mem_append.1 listed with earlier | last
      · exact (held.highest other earlier).trans (rank_le_higherSeverity_left _ _)
      · rw [List.mem_singleton.1 last]
        exact rank_le_higherSeverity_right _ _

def mergedOf (ops : FloatOps F) (weights : OrderedDict String F) (cluster : FindingCluster) :
    ModelAggregatedFinding F where
  ruleId := cluster.ruleId
  filePath := cluster.filePath
  lineStart := cluster.lineStart
  lineEnd := cluster.lineEnd
  severity := cluster.severity
  normalizedMessage := cluster.normalizedMessage
  sourceModels := cluster.sourceModels
  weightedScore := computeWeightedScore ops cluster.sourceModels weights
  mergedCount := cluster.mergedCount

variable {weights : OrderedDict String F}

def mergedFindingsOf (ops : FloatOps F) (text : FindingText)
    (request : ModelFindingAggregatorInput F) : List (ModelAggregatedFinding F) :=
  (groupsOf ops text request).map fun group =>
    mergedOf ops (computeModelWeights ops request.sources request.config.modelWeights)
      (clusterOf text request.config.severityPromotesOnConflict group)

variable {request : ModelFindingAggregatorInput F} {output : ModelFindingAggregatorOutput F}

variable {findings : List (ModelAggregatedFinding F)}

theorem fits_same {threshold : F} {leader : Attributed}
    (joins : fits ops text threshold leader finding = true) :
    finding.2.filePath = leader.2.filePath ∧ finding.2.ruleId = leader.2.ruleId := by
  unfold fits at joins
  split_ifs at joins with file rule
  · exact ⟨not_not.1 file, not_not.1 rule⟩

theorem covered (promoting : request.config.severityPromotesOnConflict = true)
    (listed : finding ∈ wellFormed text request.sources) :
    ∃ merged ∈ mergedFindingsOf ops text request, merged.filePath = finding.2.filePath ∧
      merged.ruleId = finding.2.ruleId ∧
      severityRank finding.2.severity ≤ severityRank merged.severity := by
  obtain ⟨group, held, member, joins⟩ := exists_group
    (fits ops text request.config.jaccardThreshold) listed
  have same : finding.2.filePath = group.leader.2.filePath ∧
      finding.2.ruleId = group.leader.2.ruleId := by
    rcases joins with rfl | joins
    · exact ⟨rfl, rfl⟩
    · exact fits_same joins
  have led := clusterOf_ledBy text true group
  unfold mergedFindingsOf
  rw [promoting]
  exact ⟨_, List.mem_map_of_mem held, led.filePath.trans same.1.symm, led.ruleId.trans same.2.symm,
    (clusterOf_severity text group).highest finding member⟩

/-- Decimal numbers of one digit. -/
def sampleText : FindingText where
  unicode := PyText.asciiTable
  str
    | .int value => some (toString value)
    | _ => none
  int text := if text = "3" then some 3 else none

theorem reviewer_named : "qwen3-coder" ≠ "" := by decide

def reviewer : NonEmptyString := ⟨"qwen3-coder", reviewer_named⟩

end OmniMarket.FindingAggregator
