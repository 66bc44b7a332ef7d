import OmniMarket.ContextPack.Builder
import OmniMarket.Lib.Scans

/-!
# The identity of a pack and the order of its artifacts

The sort key of an artifact has the rank of its factor, not the factor. The factors outside the
precedence share one rank, which a listed factor has too where the precedence repeats factors.
-/

namespace OmniMarket.ContextPack

variable {Factor Provenance : Type} [DecidableEq Factor]

/-! ## Conditions on a request -/

namespace ModelContextPackBuilderRequest

variable (request : ModelContextPackBuilderRequest Factor Provenance)

def arrange (artifacts : List (ModelContextPackArtifact Factor Provenance)) :
    ModelContextPackBuilderRequest Factor Provenance :=
  { request with artifacts := artifacts }

def sources : List (ModelContextPackArtifact Factor Provenance) :=
  included request.profile request.artifacts

def RequiredMissing : Prop :=
  ∃ factor ∈ request.profile.requiredFactors,
    factor ∉ request.artifacts.map ModelContextPackArtifact.factor

def Repeats : Prop :=
  ¬ (request.sources.map fun artifact => (artifact.factor, artifact.content.value)).Nodup

def OverBudget : Prop :=
  request.profile.tokenBudget <
    (request.sources.map ModelContextPackArtifact.tokenEstimate).sum

def Refused : Prop := request.RequiredMissing ∨ request.Repeats ∨ request.OverBudget

def KeysSeparate : Prop :=
  ∀ first ∈ request.sources, ∀ second ∈ request.sources,
    rank request.profile first.factor = rank request.profile second.factor →
    first.sourcePriority = second.sourcePriority →
    first.sourceArtifactHash = second.sourceArtifactHash →
    first.content = second.content → first.factor = second.factor

variable {request}

section Arranged

variable {artifacts : List (ModelContextPackArtifact Factor Provenance)}
  (arranged : artifacts.Perm request.artifacts)

include arranged

theorem sources_perm : (request.arrange artifacts).sources.Perm request.sources :=
  arranged.filter _

omit [DecidableEq Factor] in
theorem requiredMissing_arrange :
    (request.arrange artifacts).RequiredMissing ↔ request.RequiredMissing := by
  unfold RequiredMissing
  refine exists_congr fun factor => and_congr_right fun _ => not_congr ?_
  exact (arranged.map _).mem_iff

theorem repeats_arrange : (request.arrange artifacts).Repeats ↔ request.Repeats :=
  not_congr ((sources_perm arranged).map _).nodup_iff

theorem overBudget_arrange : (request.arrange artifacts).OverBudget ↔ request.OverBudget := by
  unfold OverBudget
  rw [((sources_perm arranged).map _).sum_eq]
  exact Iff.rfl

end Arranged

theorem exists_arrange {order : List (ModelContextPackArtifact Factor Provenance)}
    (reordered : order.Perm request.sources) :
    ∃ artifacts, artifacts.Perm request.artifacts ∧
      (request.arrange artifacts).sources = order := by
  let kept (artifact : ModelContextPackArtifact Factor Provenance) : Bool :=
    artifact.factor ∉ request.profile.excludedFactors
  refine ⟨order ++ request.artifacts.filter (fun artifact => !kept artifact), ?_, ?_⟩
  · exact (reordered.append_right _).trans (List.filter_append_perm kept request.artifacts)
  · have all : order.filter kept = order := by
      rw [List.filter_eq_self]
      intro artifact listed
      exact List.of_mem_filter (reordered.subset listed)
    have none : (request.artifacts.filter fun artifact => !kept artifact).filter kept = [] := by
      rw [List.filter_eq_nil_iff]
      intro artifact listed
      simpa using List.of_mem_filter listed
    change (order ++ _).filter kept = order
    rw [List.filter_append, all, none, List.append_nil]

end ModelContextPackBuilderRequest

open ModelContextPackBuilderRequest

/-! ## What the builder returns -/

variable {env : PackEnv Factor Provenance}
  {request : ModelContextPackBuilderRequest Factor Provenance}

omit [DecidableEq Factor] in
theorem duplicateChunkIds_eq_nil {seen : List String}
    {chunks : List (ModelContextChunk Factor Provenance)} :
    duplicateChunkIds seen chunks = [] ↔
      (chunks.map ModelContextChunk.chunkId).Nodup ∧ ∀ chunk ∈ chunks, chunk.chunkId ∉ seen := by
  induction chunks generalizing seen with
  | nil => simp [duplicateChunkIds]
  | cons chunk rest ih =>
    simp only [duplicateChunkIds, List.map_cons, List.nodup_cons, List.forall_mem_cons]
    split
    · next repeated => simp [repeated]
    · next fresh =>
      rw [ih]
      simp only [List.mem_cons, not_or, List.mem_map, not_exists, not_and]
      constructor
      · rintro ⟨distinct, apart⟩
        exact ⟨⟨fun other listed => (apart other listed).1, distinct⟩, fresh,
          fun other listed => (apart other listed).2⟩
      · rintro ⟨⟨apart, distinct⟩, -, unseen⟩
        exact ⟨distinct, fun other listed => ⟨apart other listed, unseen other listed⟩⟩

/-- The chunks that `handle` builds for the request. -/
def requestChunks (env : PackEnv Factor Provenance)
    (request : ModelContextPackBuilderRequest Factor Provenance) :
    List (ModelContextChunk Factor Provenance) :=
  chunks env (orderedArtifacts env request.artifacts request.profile) request.profile

theorem orderedArtifacts_perm :
    (orderedArtifacts env request.artifacts request.profile).Perm request.sources :=
  List.perm_insertionSort _ _

theorem map_requestChunks {Value : Type} (read : ModelContextChunk Factor Provenance → Value) :
    (requestChunks env request).map read =
      (orderedArtifacts env request.artifacts request.profile).map fun artifact =>
        read (chunkOf env request.profile artifact) := by
  rw [requestChunks, chunks, List.map_map]
  rfl

theorem missing_isEmpty_iff :
    (missingRequiredFactors request.artifacts request.profile).isEmpty = true ↔
      ¬ request.RequiredMissing := by
  simp [missingRequiredFactors, RequiredMissing, List.filter_eq_nil_iff]

theorem totalTokens_eq :
    ((requestChunks env request).map ModelContextChunk.tokenEstimate).sum =
      (request.sources.map ModelContextPackArtifact.tokenEstimate).sum := by
  rw [map_requestChunks]
  exact (orderedArtifacts_perm.map _).sum_eq

theorem handle_missing (missing : request.RequiredMissing) :
    handle env request = failure .requiredFactorMissing
      ("missing required factors: " ++ ", ".intercalate
        ((missingRequiredFactors request.artifacts request.profile).map env.factorValue)) := by
  have listed : (missingRequiredFactors request.artifacts request.profile).isEmpty = false :=
    Bool.eq_false_iff.2 fun blank => missing_isEmpty_iff.1 blank missing
  simp only [handle, listed, Bool.not_false, if_true]

section Separating

variable (separates : ∀ factor content factor' content',
    env.computeChunkId factor content = env.computeChunkId factor' content' →
      factor = factor' ∧ content = content')

include separates

theorem duplicates_isEmpty_iff :
    (duplicateChunkIds [] (requestChunks env request)).isEmpty = true ↔ ¬ request.Repeats := by
  have named : (fun artifact : ModelContextPackArtifact Factor Provenance =>
      (chunkOf env request.profile artifact).chunkId) =
      (fun named => env.computeChunkId named.1 named.2) ∘
        fun artifact => (artifact.factor, artifact.content.value) := rfl
  have injective : Function.Injective fun named : Factor × String =>
      env.computeChunkId named.1 named.2 := by
    intro first second same
    obtain ⟨factors, contents⟩ := separates _ _ _ _ same
    exact Prod.ext factors contents
  rw [List.isEmpty_iff, duplicateChunkIds_eq_nil, map_requestChunks, Repeats, not_not, named,
    ← List.map_map, List.nodup_map_iff injective, (orderedArtifacts_perm.map _).nodup_iff]
  simp

theorem handle_repeats (present : ¬ request.RequiredMissing) (repeats : request.Repeats) :
    handle env request = failure .artifactHashMismatch
      ("duplicate chunk ids: " ++
        ", ".intercalate (duplicateChunkIds [] (requestChunks env request))) := by
  have all := missing_isEmpty_iff.2 present
  have listed : (duplicateChunkIds [] (requestChunks env request)).isEmpty = false :=
    Bool.eq_false_iff.2 fun blank => (duplicates_isEmpty_iff separates).1 blank repeats
  rw [requestChunks] at listed ⊢
  simp [handle, all, listed]

theorem handle_over (present : ¬ request.RequiredMissing) (distinct : ¬ request.Repeats)
    (beyond : request.OverBudget) : handle env request = failure .tokenBudgetExceeded
      ("token estimate " ++
        toString ((requestChunks env request).map ModelContextChunk.tokenEstimate).sum ++
        " exceeds budget " ++ toString request.profile.tokenBudget) := by
  have all := missing_isEmpty_iff.2 present
  have apart := (duplicates_isEmpty_iff separates).2 distinct
  have exceeds : ((requestChunks env request).map ModelContextChunk.tokenEstimate).sum >
      request.profile.tokenBudget := by
    rw [totalTokens_eq]
    exact beyond
  rw [requestChunks] at apart exceeds ⊢
  simp [handle, all, apart, exceeds]

theorem handle_accepted (accepted : ¬ request.Refused) :
    handle env request =
      { status := .ok
        contextPack := some (contextPack env request (requestChunks env request))
        packHash := some (hashJson env (env.dumpPack
          (contextPack env request (requestChunks env request)))) } := by
  simp only [Refused, not_or] at accepted
  have all := missing_isEmpty_iff.2 accepted.1
  have apart := (duplicates_isEmpty_iff separates).2 accepted.2.1
  have within : ¬ ((requestChunks env request).map ModelContextChunk.tokenEstimate).sum >
      request.profile.tokenBudget := by
    rw [totalTokens_eq]
    exact accepted.2.2
  rw [requestChunks] at apart within ⊢
  simp [handle, all, apart, within]

end Separating

theorem sortKey_eq_iff (digests : Function.Injective env.sha256)
    {profile : ModelContextProfile Factor}
    {first second : ModelContextPackArtifact Factor Provenance} :
    sortKey env profile first = sortKey env profile second ↔
      rank profile first.factor = rank profile second.factor ∧
        first.sourcePriority = second.sourcePriority ∧
        first.sourceArtifactHash = second.sourceArtifactHash ∧
        first.content = second.content := by
  simp only [sortKey, toLex_inj, Prod.mk.injEq, digests.eq_iff, NonEmptyString.ext_iff]

section Orders

variable (digests : Function.Injective env.sha256)

include digests

theorem chunks_independent_iff (distinct : ¬ request.Repeats) :
    (∀ artifacts, artifacts.Perm request.artifacts →
        requestChunks env (request.arrange artifacts) = requestChunks env request) ↔
      request.KeysSeparate := by
  rw [Repeats, not_not] at distinct
  have transitive : IsTrans (ModelContextPackArtifact Factor Provenance) fun first second =>
      sortKey env request.profile first ≤ sortKey env request.profile second :=
    ⟨fun _ _ _ below above => le_trans below above⟩
  have total : Std.Total fun first second : ModelContextPackArtifact Factor Provenance =>
      sortKey env request.profile first ≤ sortKey env request.profile second :=
    ⟨fun first second => le_total _ _⟩
  constructor
  · intro independent first inSources second inSources' ranks priorities hashes contents
    have tied : sortKey env request.profile first = sortKey env request.profile second :=
      (sortKey_eq_iff digests).2 ⟨ranks, priorities, hashes, contents⟩
    have separate := (sort_map_independent_iff (r := fun first second =>
      sortKey env request.profile first ≤ sortKey env request.profile second) distinct).1
    refine (Prod.mk.inj (separate ?_ first inSources second inSources' tied.le tied.ge)).1
    intro order reordered
    obtain ⟨artifacts, arranged, rfl⟩ := exists_arrange reordered
    have same := congrArg (List.map fun chunk => (chunk.factor, chunk.content))
      (independent artifacts arranged)
    rw [map_requestChunks, map_requestChunks] at same
    exact same
  · intro separate artifacts arranged
    refine congrArg (List.map (chunkOf env request.profile)) ?_
    refine insertionSort_perm (sources_perm arranged) ?_
    intro first inSources second inSources' below above
    obtain ⟨ranks, priorities, hashes, contents⟩ :=
      (sortKey_eq_iff digests).1 (le_antisymm below above)
    have factors := separate first inSources second inSources' ranks priorities hashes contents
    exact List.inj_on_of_nodup_map distinct inSources inSources'
      (Prod.ext factors (congrArg NonEmptyString.value contents))

end Orders

/-! ## Outcomes -/

def ModelContextPackBuilderResult.SameOutcome
    (first second : ModelContextPackBuilderResult Factor Provenance) : Prop :=
  first.status = second.status ∧ first.failureClass = second.failureClass ∧
    (first.status = .ok →
      first.contextPack.map ModelContextPack.chunks =
          second.contextPack.map ModelContextPack.chunks ∧
        first.contextPack.map ModelContextPack.packId =
          second.contextPack.map ModelContextPack.packId ∧
        first.packHash = second.packHash)

def OrderIndependent (env : PackEnv Factor Provenance)
    (request : ModelContextPackBuilderRequest Factor Provenance) : Prop :=
  ∀ artifacts, artifacts.Perm request.artifacts →
    (handle env (request.arrange artifacts)).SameOutcome (handle env request)

omit [DecidableEq Factor] in
theorem sameOutcome_failure (failureClass : EnumContextPackFailure) (error error' : String) :
    (failure failureClass error :
      ModelContextPackBuilderResult Factor Provenance).SameOutcome
      (failure failureClass error') := by
  refine ⟨rfl, rfl, ?_⟩
  exact nofun

theorem refused_arrange {artifacts : List (ModelContextPackArtifact Factor Provenance)}
    (arranged : artifacts.Perm request.artifacts) :
    (request.arrange artifacts).Refused ↔ request.Refused :=
  or_congr (requiredMissing_arrange arranged)
    (or_congr (repeats_arrange arranged) (overBudget_arrange arranged))

theorem orderIndependent_of_refused
    (separates : ∀ factor content factor' content',
      env.computeChunkId factor content = env.computeChunkId factor' content' →
        factor = factor' ∧ content = content')
    (refused : request.Refused) : OrderIndependent env request := by
  intro artifacts arranged
  by_cases missing : request.RequiredMissing
  · rw [handle_missing missing, handle_missing ((requiredMissing_arrange arranged).2 missing)]
    exact sameOutcome_failure _ _ _
  · have present := mt (requiredMissing_arrange arranged).1 missing
    by_cases repeats : request.Repeats
    · rw [handle_repeats separates missing repeats,
        handle_repeats separates present ((repeats_arrange arranged).2 repeats)]
      exact sameOutcome_failure _ _ _
    · have beyond := (refused.resolve_left missing).resolve_left repeats
      rw [handle_over separates missing repeats beyond,
        handle_over separates present (mt (repeats_arrange arranged).1 repeats)
          ((overBudget_arrange arranged).2 beyond)]
      exact sameOutcome_failure _ _ _

/-- The outcome of a request is that of every order of its artifacts exactly when the request is
refused or its sort keys tell the factors of its chunks apart. -/
theorem orderIndependent_iff (digests : Function.Injective env.sha256)
    (separates : ∀ factor content factor' content',
      env.computeChunkId factor content = env.computeChunkId factor' content' →
        factor = factor' ∧ content = content') :
    OrderIndependent env request ↔ request.Refused ∨ request.KeysSeparate := by
  constructor
  · intro independent
    by_cases refused : request.Refused
    · exact .inl refused
    · refine .inr ((chunks_independent_iff digests fun repeats =>
        refused (.inr (.inl repeats))).1 ?_)
      intro artifacts arranged
      obtain ⟨-, -, built⟩ := independent artifacts arranged
      rw [handle_accepted separates refused,
        handle_accepted separates (mt (refused_arrange arranged).1 refused)] at built
      exact Option.some_inj.1 (built rfl).1
  · intro condition
    by_cases refused : request.Refused
    · exact orderIndependent_of_refused separates refused
    · intro artifacts arranged
      have same := (chunks_independent_iff digests fun repeats =>
        refused (.inr (.inl repeats))).2 (condition.resolve_left refused) artifacts arranged
      rw [handle_accepted separates refused,
        handle_accepted separates (mt (refused_arrange arranged).1 refused), same]
      exact ⟨rfl, rfl, fun _ => ⟨rfl, rfl, rfl⟩⟩

/-! ## Two factors outside the precedence -/

/-- Factors are `true` and `false`; the digest is the text itself. -/
def textEnv : PackEnv Bool Unit where
  factorValue factor := if factor then "exemplar" else "claude_md"
  sha256 text := text
  computeChunkId factor content := String.ofList ((if factor then '1' else '0') :: content.toList)
  dumpsStable payload := ",".intercalate (payload.map Prod.fst)
  dumpChunk chunk := [("chunk_id", .str chunk.chunkId)]
  dumpPack pack := [("pack_id", .str pack.packId)]

theorem textEnv_separates (factor : Bool) (content : String) (factor' : Bool) (content' : String)
    (same : textEnv.computeChunkId factor content = textEnv.computeChunkId factor' content') :
    factor = factor' ∧ content = content' := by
  obtain ⟨marks, contents⟩ := List.cons.inj (String.ofList_injective same)
  refine ⟨?_, String.toList_injective contents⟩
  cases factor <;> cases factor' <;> first | rfl | exact absurd marks (by decide)

def sampleArtifact (factor : Bool) : ModelContextPackArtifact Bool Unit where
  factor := factor
  content := ⟨"text", by decide⟩
  tokenEstimate := 1
  provenance := ()
  sourceArtifactHash := ⟨"hash", by decide⟩
  sourceContractHash := ⟨"contract", by decide⟩

def bothFactors (factorPrecedence : List Bool) : ModelContextPackBuilderRequest Bool Unit where
  contractHash := ⟨"contract", by decide⟩
  generatedAt := ⟨"2026-01-01T00:00:00+00:00", by decide⟩
  profile :=
    { modelId := ⟨"model", by decide⟩
      factorPrecedence := factorPrecedence
      budgetPositive := by decide
      requiredKept := by simp
      optionalKept := by simp }
  artifacts := [sampleArtifact true, sampleArtifact false]

theorem listed_factors_independent : OrderIndependent textEnv (bothFactors [true, false]) := by
  refine (orderIndependent_iff Function.injective_id textEnv_separates).2 (.inr ?_)
  unfold KeysSeparate
  decide +kernel

theorem unlisted_factors_swap :
    ¬ ∀ (env : PackEnv Bool Unit) (request : ModelContextPackBuilderRequest Bool Unit),
      Function.Injective env.sha256 →
      (∀ factor content factor' content',
        env.computeChunkId factor content = env.computeChunkId factor' content' →
          factor = factor' ∧ content = content') →
      OrderIndependent env request := by
  intro always
  obtain ⟨-, -, built⟩ := always textEnv (bothFactors []) Function.injective_id textEnv_separates
    [sampleArtifact false, sampleArtifact true] (List.Perm.swap _ _ _)
  have chunks := congrArg (Option.map (List.map ModelContextChunk.factor))
    (built (by decide +kernel)).1
  exact absurd chunks (by decide +kernel)

end OmniMarket.ContextPack
