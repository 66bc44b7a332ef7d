import OmniMarket.DepCascade.Fates

/-!
# Which dependency PRs a run closes

The order of releases is a relation `atLeast` between versions, of which nothing is assumed.
-/

namespace OmniMarket.DepCascade

variable {env : DedupEnv} {request : ModelDepCascadeDedupRequest} {adapter : GithubAdapter}
  {pr : DependencyPR}

def IsSuperseded (atLeast : String → String → Prop) (records : List ModelPRRecord)
    (pr : DependencyPR) : Prop :=
  pr.alreadyOnMain = true ∨
    ∃ kept ∈ records, kept.action = .kept ∧ kept.repo = pr.repo ∧
      kept.package = pr.package.value ∧ atLeast kept.targetVersion pr.targetVersion.value

def OnlySuperseded (env : DedupEnv) (atLeast : String → String → Prop) (adapter : GithubAdapter)
    (request : ModelDepCascadeDedupRequest) : Prop :=
  ∃ result, (handle env adapter request).result = .ok result ∧
    (∀ closed ∈ (handle env adapter request).closes,
      IsSuperseded atLeast result.prRecords closed.pr) ∧
    ((handle env adapter request).closes.map fun closed => closed.pr.id).Nodup ∧
    ∀ listed ∈ listedPrs adapter request, ∃! action, ∃ record ∈ result.prRecords,
      record.repo = listed.1 ∧ readNumber env listed.2 = .ok record.prNumber ∧
        record.action = action

def Merged (request : ModelDepCascadeDedupRequest) (prs : List DependencyPR) : Prop :=
  request.dryRun = false → ∀ pr ∈ prs, OnMain (groupOf prs pr) → pr.alreadyOnMain = true

def HighestReleased (env : DedupEnv) (atLeast : String → String → Prop)
    (request : ModelDepCascadeDedupRequest) (prs : List DependencyPR) : Prop :=
  request.dryRun = false → ∀ pr ∈ prs, ¬ OnMain (groupOf prs pr) →
    ∀ leader, FirstMax (rankOf env) (groupOf prs pr) leader → pr.number ≠ leader.number →
      atLeast leader.targetVersion.value pr.targetVersion.value

/-- A PR that is listed more than once is one that stays open every time, or, if nothing is closed
or it cannot be read either time, never. -/
def ListedApart (env : DedupEnv) (request : ModelDepCascadeDedupRequest)
    (listings : List Listing) : Prop :=
  listings.Pairwise fun first second => first.id = second.id →
    first.Stays env (bumpsOf listings) ∧ second.Stays env (bumpsOf listings) ∨
      ¬ first.Stays env (bumpsOf listings) ∧ ¬ second.Stays env (bumpsOf listings) ∧
        (request.dryRun = true ∨ first.bump? = none ∧ second.bump? = none)

theorem parsePr_eq_some {repo : String} {raw : PyDict}
    (parsed : parsePr env repo raw = .ok (some pr)) :
    pr.repo = repo ∧ readNumber env raw = .ok pr.number := by
  obtain ⟨number, numbered, built⟩ := Raising.bind_eq_ok.1 parsed
  split at built
  · split at built
    · obtain rfl := Option.some_inj.1 (Except.ok.inj built)
      exact ⟨rfl, numbered⟩
    · cases built
  · cases built

theorem readListing_id {repo : String} {raw : PyDict} {listing : Listing}
    (read : readListing env repo raw = .ok listing) :
    ∃ number, readNumber env raw = .ok number ∧ listing.id = (repo, number) := by
  obtain ⟨parsed, found, made⟩ := Raising.bind_eq_ok.1 read
  cases parsed with
  | some pr =>
    obtain ⟨rfl, numbered⟩ := parsePr_eq_some found
    obtain rfl := Except.ok.inj made
    exact ⟨pr.number, numbered, rfl⟩
  | none =>
    obtain ⟨number, numbered, made'⟩ := Raising.bind_eq_ok.1 made
    obtain rfl := Except.ok.inj made'
    exact ⟨number, numbered, rfl⟩

/-! ## What is closed is superseded -/

theorem groupOf_eq {prs : List DependencyPR} {other : DependencyPR}
    (same : pr.groupKey = other.groupKey) : groupOf prs pr = groupOf prs other := by
  rw [groupOf, same]
  rfl

namespace Completed

variable {listings : List Listing} {outcomes : List GroupOutcome}
  (completed : Completed env adapter request listings outcomes)

include completed

theorem mem_closes :
    pr ∈ (outcomes.flatMap GroupOutcome.closes).map ClosedPr.pr ↔
      pr ∈ bumpsOf listings ∧ request.dryRun = false ∧
        ¬ Stays env (groupOf (bumpsOf listings) pr) pr := by
  rw [completed.closes_perm.mem_iff, List.mem_filter, decide_eq_true_iff, fate_eq_closed]

theorem closes_superseded_iff {atLeast : String → String → Prop} :
    (∀ closed ∈ outcomes.flatMap GroupOutcome.closes,
      IsSuperseded atLeast (resultOf adapter request listings outcomes).prRecords closed.pr) ↔
      Merged request (bumpsOf listings) ∧ HighestReleased env atLeast request (bumpsOf listings) := by
  -- a kept record of the package is of the leader of the PR's own group
  have leaderOf {pr : DependencyPR} {kept : ModelPRRecord}
      (recorded : kept ∈ (resultOf adapter request listings outcomes).prRecords)
      (keeps : kept.action = .kept) (repos : kept.repo = pr.repo)
      (packages : kept.package = pr.package.value) :
      ¬ OnMain (groupOf (bumpsOf listings) pr) ∧ ∃ leader,
        FirstMax (rankOf env) (groupOf (bumpsOf listings) pr) leader ∧
          kept.targetVersion = leader.targetVersion.value := by
    obtain ⟨leader, -, off, leads, reason, rfl⟩ := completed.leader_of_kept recorded keeps
    have same : groupOf (bumpsOf listings) leader = groupOf (bumpsOf listings) pr :=
      groupOf_eq (Prod.ext repos packages)
    rw [same] at off leads
    exact ⟨off, leader, leads, rfl⟩
  constructor
  · intro superseded
    have closed {pr : DependencyPR} (listed : pr ∈ bumpsOf listings) (wet : request.dryRun = false)
        (leaves : ¬ Stays env (groupOf (bumpsOf listings) pr) pr) :
        IsSuperseded atLeast (resultOf adapter request listings outcomes).prRecords pr := by
      obtain ⟨entry, among, rfl⟩ := List.mem_map.1 (completed.mem_closes.2 ⟨listed, wet, leaves⟩)
      exact superseded entry among
    constructor
    · intro wet pr listed onMain
      refine (closed listed wet fun stays => stays.1 onMain).resolve_right ?_
      rintro ⟨kept, recorded, keeps, repos, packages, -⟩
      exact (leaderOf recorded keeps repos packages).1 onMain
    · intro wet pr listed off leader leads differ
      have leaves : ¬ Stays env (groupOf (bumpsOf listings) pr) pr := by
        rintro ⟨-, other, leads', same⟩
        exact differ (same.trans (congrArg DependencyPR.number (leads'.unique leads)))
      rcases closed listed wet leaves with merged | ⟨kept, recorded, keeps, repos, packages, above⟩
      · exact absurd ⟨pr, mem_groupOf_self listed, merged⟩ off
      · obtain ⟨-, other, leads', version⟩ := leaderOf recorded keeps repos packages
        rw [version, leads'.unique leads] at above
        exact above
  · rintro ⟨merged, highest⟩ closed among
    obtain ⟨listed, wet, leaves⟩ := completed.mem_closes.1 (List.mem_map_of_mem among)
    by_cases onMain : OnMain (groupOf (bumpsOf listings) closed.pr)
    · exact .inl (merged wet closed.pr listed onMain)
    · have leader : ∃ leader,
          FirstMax (rankOf env) (groupOf (bumpsOf listings) closed.pr) leader :=
        FirstMax.exists_of_ne_nil (List.ne_nil_of_mem (mem_groupOf_self listed))
      obtain ⟨leader, leads⟩ := leader
      obtain ⟨reason, recorded⟩ := completed.leader_kept listed onMain leads
      obtain ⟨repos, packages⟩ :=
        Prod.mk.inj (of_decide_eq_true (List.mem_filter.1 leads.mem).2)
      refine .inr ⟨_, recorded, rfl, repos, packages, ?_⟩
      exact highest wet closed.pr listed onMain leader leads fun same =>
        leaves ⟨onMain, leader, leads, same⟩

/-! ## Nothing twice, and one action each -/

omit completed in
theorem pairwise_bumpsOf {apart : DependencyPR → DependencyPR → Prop} :
    (bumpsOf listings).Pairwise apart ↔ listings.Pairwise fun first second =>
      ∀ pr, first = .bump pr → ∀ other, second = .bump other → apart pr other := by
  have bump_iff {listing : Listing} {pr : DependencyPR} :
      listing.bump? = some pr ↔ listing = .bump pr := by
    cases listing <;> simp [Listing.bump?]
  simp only [bumpsOf, List.pairwise_filterMap, bump_iff]

theorem closes_once_iff :
    ((outcomes.flatMap GroupOutcome.closes).map fun closed => closed.pr.id).Nodup ↔
      listings.Pairwise fun first second => first.id = second.id →
        ¬ (first.fate env request (bumpsOf listings) = .closed ∧
          second.fate env request (bumpsOf listings) = .closed) := by
  have split : ((outcomes.flatMap GroupOutcome.closes).map fun closed => closed.pr.id) =
      ((outcomes.flatMap GroupOutcome.closes).map ClosedPr.pr).map DependencyPR.id := by
    rw [List.map_map]
    rfl
  rw [split, (completed.closes_perm.map _).nodup_iff, List.Nodup, List.pairwise_map,
    List.pairwise_filter, pairwise_bumpsOf]
  refine List.Pairwise.iff fun first second => ?_
  cases first with
  | unparsed repo number =>
    refine iff_of_true (fun _ impossible => nomatch impossible) fun _ both => nomatch both.1
  | bump pr =>
    cases second with
    | unparsed repo number =>
      exact iff_of_true (fun _ _ _ impossible => nomatch impossible) fun _ both =>
        nomatch both.2
    | bump other =>
      constructor
      · intro apart same both
        exact apart pr rfl other rfl (decide_eq_true both.1) (decide_eq_true both.2) same
      · rintro apart _ ⟨⟩ _ ⟨⟩ closes closes' same
        exact apart same ⟨of_decide_eq_true closes, of_decide_eq_true closes'⟩

theorem one_action_iff : (∀ listed ∈ listedPrs adapter request, ∃! action,
      ∃ record ∈ (resultOf adapter request listings outcomes).prRecords,
        record.repo = listed.1 ∧ readNumber env listed.2 = .ok record.prNumber ∧
          record.action = action) ↔
      ∀ first ∈ listings, ∀ second ∈ listings, first.id = second.id →
        first.fate env request (bumpsOf listings) = second.fate env request (bumpsOf listings) := by
  have action_iff {listed : String × PyDict} {listing : Listing}
      (read : readListing env listed.1 listed.2 = .ok listing) (action : EnumPRAction) :
      (∃ record ∈ (resultOf adapter request listings outcomes).prRecords,
        record.repo = listed.1 ∧ readNumber env listed.2 = .ok record.prNumber ∧
          record.action = action) ↔
        ∃ other ∈ listings, other.id = listing.id ∧
          other.fate env request (bumpsOf listings) = action := by
    obtain ⟨number, numbered, own⟩ := readListing_id read
    rw [← completed.exists_record_iff]
    refine exists_congr fun record => and_congr_right fun _ => ?_
    rw [numbered, own, Except.ok.injEq, ModelPRRecord.id, Prod.mk.injEq, and_assoc,
      eq_comm (a := number)]
  constructor
  · intro unique first inFirst second inSecond same
    obtain ⟨listed, among, read⟩ := (Search.mem_of_mapM completed.read first).1 inFirst
    have one := unique listed among
    simp only [action_iff read] at one
    exact one.unique ⟨first, inFirst, rfl, rfl⟩ ⟨second, inSecond, same.symm, rfl⟩
  · intro fates listed among
    obtain ⟨listing, read⟩ := Search.exists_mapM_eq_ok.1 ⟨_, completed.read⟩ listed among
    have inListings := (Search.mem_of_mapM completed.read listing).2 ⟨listed, among, read⟩
    simp only [action_iff read]
    refine ⟨_, ⟨listing, inListings, rfl, rfl⟩, ?_⟩
    rintro action ⟨other, inOther, same, rfl⟩
    exact fates other inOther listing inListings same

end Completed

theorem same_fate_iff {prs : List DependencyPR} {first second : Listing} :
    first.Stays env prs ∧ second.Stays env prs ∨
      ¬ first.Stays env prs ∧ ¬ second.Stays env prs ∧
        (request.dryRun = true ∨ first.bump? = none ∧ second.bump? = none) ↔
    ¬ (first.fate env request prs = .closed ∧ second.fate env request prs = .closed) ∧
      first.fate env request prs = second.fate env request prs := by
  have fate_kept (listing : Listing) (stays : listing.Stays env prs) :
      listing.fate env request prs = .kept := by
    cases listing with
    | unparsed => exact absurd stays not_false
    | bump pr => exact fate_of_stays stays
  have fate_dry (dry : request.dryRun = true) (listing : Listing)
      (leaves : ¬ listing.Stays env prs) : listing.fate env request prs = .skipped := by
    cases listing with
    | unparsed => rfl
    | bump pr => exact (fate_of_not_stays leaves).trans (if_pos dry)
  have fate_wet (wet : request.dryRun = false) (listing : Listing)
      (leaves : ¬ listing.Stays env prs) :
      listing.fate env request prs = if listing.bump? = none then .skipped else .closed := by
    cases listing with
    | unparsed => rfl
    | bump pr => exact (fate_of_not_stays leaves).trans (by rw [wet]; rfl)
  by_cases stays : first.Stays env prs <;> by_cases stays' : second.Stays env prs
  · simp [stays, stays', fate_kept]
  · cases dry : request.dryRun
    · rw [fate_kept first stays, fate_wet dry second stays']
      cases second.bump? <;> simp [stays, stays']
    · rw [fate_kept first stays, fate_dry dry second stays']
      simp [stays, stays']
  · cases dry : request.dryRun
    · rw [fate_kept second stays', fate_wet dry first stays]
      cases first.bump? <;> simp [stays, stays']
    · rw [fate_kept second stays', fate_dry dry first stays]
      simp [stays, stays']
  · cases dry : request.dryRun
    · rw [fate_wet dry first stays, fate_wet dry second stays']
      cases first.bump? <;> cases second.bump? <;> simp [stays, stays']
    · rw [fate_dry dry first stays, fate_dry dry second stays']
      simp [stays, stays']

theorem listedApart_iff {listings : List Listing} :
    ListedApart env request listings ↔
      (listings.Pairwise fun first second => first.id = second.id →
        ¬ (first.fate env request (bumpsOf listings) = .closed ∧
          second.fate env request (bumpsOf listings) = .closed)) ∧
      ∀ first ∈ listings, ∀ second ∈ listings, first.id = second.id →
        first.fate env request (bumpsOf listings) = second.fate env request (bumpsOf listings) := by
  simp only [ListedApart, same_fate_iff, imp_and, List.pairwise_and_iff]
  refine and_congr_right fun _ => ?_
  constructor
  · intro pairs
    have symmetric : Std.Symm fun first second : Listing => first.id = second.id →
        first.fate env request (bumpsOf listings) = second.fate env request (bumpsOf listings) :=
      ⟨fun _ _ agree same => (agree same.symm).symm⟩
    intro first inFirst second inSecond
    exact List.Pairwise.forall_of_forall (fun _ _ _ => rfl) pairs inFirst inSecond
  · intro all
    exact List.pairwise_of_forall_mem_list all

theorem exists_completed_iff {listings : List Listing}
    (read : ((listedPrs adapter request).mapM fun listed =>
      readListing env listed.1 listed.2) = .ok listings) :
    (∃ outcomes, Completed env adapter request listings outcomes) ↔
      ∀ pr ∈ bumpsOf listings, Keyed env (groupOf (bumpsOf listings) pr) := by
  have handled_iff : (∃ outcomes, Completed env adapter request listings outcomes) ↔
      ∃ outcomes, ((sortedGroups (bumpsOf listings)).mapM fun group =>
        handleGroup env request group.1.1 group.1.2 group.2) = .ok outcomes :=
    exists_congr fun outcomes => ⟨Completed.handled, Completed.mk read⟩
  rw [handled_iff, Search.exists_mapM_eq_ok]
  constructor
  · intro handled pr listed
    have outcome := handled _ (mem_sortedGroups.2 ⟨pr, listed, rfl⟩)
    exact (exists_handleGroup_iff (List.ne_nil_of_mem (mem_groupOf_self listed))).1 outcome
  · intro keyed entry among
    obtain ⟨pr, listed, rfl⟩ := mem_sortedGroups.1 among
    exact (exists_handleGroup_iff (List.ne_nil_of_mem (mem_groupOf_self listed))).2
      (keyed pr listed)

/-- When a run closes superseded PRs only, for every order of releases, every adapter and every
request. -/
theorem onlySuperseded_iff (atLeast : String → String → Prop) (adapter : GithubAdapter)
    (request : ModelDepCascadeDedupRequest) :
    OnlySuperseded env atLeast adapter request ↔
      ∃ listings, ((listedPrs adapter request).mapM fun listed =>
          readListing env listed.1 listed.2) = .ok listings ∧
        (∀ pr ∈ bumpsOf listings, Keyed env (groupOf (bumpsOf listings) pr)) ∧
        Merged request (bumpsOf listings) ∧
        HighestReleased env atLeast request (bumpsOf listings) ∧
        ListedApart env request listings := by
  have law_iff {listings : List Listing} {outcomes : List GroupOutcome}
      (completed : Completed env adapter request listings outcomes) :
      OnlySuperseded env atLeast adapter request ↔
        Merged request (bumpsOf listings) ∧
        HighestReleased env atLeast request (bumpsOf listings) ∧
        ListedApart env request listings := by
    rw [OnlySuperseded, handle_of_completed completed]
    simp only [Except.ok.injEq, exists_eq_left']
    rw [completed.closes_superseded_iff, completed.closes_once_iff, completed.one_action_iff,
      ← listedApart_iff, and_assoc]
  constructor
  · intro law
    obtain ⟨listings, outcomes, completed⟩ := completed_of_result law.choose_spec.1
    exact ⟨listings, completed.read, (exists_completed_iff completed.read).1 ⟨_, completed⟩,
      (law_iff completed).1 law⟩
  · rintro ⟨listings, read, keyed, condition⟩
    obtain ⟨outcomes, completed⟩ := (exists_completed_iff read).2 keyed
    exact (law_iff completed).2 condition

/-! ## A release and its own candidate -/

def asciiEnv : DedupEnv where
  unicode := PyText.asciiTable
  isDigit := Char.isDigit
  strOf
    | .str text => text
    | _ => ""
  intOf
    | .int number => .ok number
    | _ => .error .typeError

/-- PR 1 bumps the package to the release and PR 2 to a candidate of it. -/
def candidateAdapter : GithubAdapter where
  listRepos := ["repo"]
  listDependencyPrs _ _ _ :=
    [[("number", .int 1), ("package", .str "p"), ("target_version", .str "1.2.0")],
     [("number", .int 2), ("package", .str "p"), ("target_version", .str "1.2.0rc1")]]

/-- The release is closed in favour of its candidate. -/
theorem release_closed_for_candidate :
    ¬ ∃ atLeast : String → String → Prop, ¬ atLeast "1.2.0rc1" "1.2.0" ∧
      OnlySuperseded asciiEnv atLeast candidateAdapter {} := by
  rintro ⟨atLeast, below, result, returned, superseded, -⟩
  have closes : ((handle asciiEnv candidateAdapter {}).closes.map fun closed =>
      (closed.pr.alreadyOnMain, closed.pr.targetVersion.value)) = [(false, "1.2.0")] := by
    decide +kernel
  have keeps : ((handle asciiEnv candidateAdapter {}).result.toOption.map fun result =>
      (result.prRecords.filter fun record => record.action = .kept).map
        ModelPRRecord.targetVersion) = some ["1.2.0rc1"] := by
    decide +kernel
  rw [returned] at keeps
  have listed : (false, "1.2.0") ∈ (handle asciiEnv candidateAdapter {}).closes.map fun closed =>
      (closed.pr.alreadyOnMain, closed.pr.targetVersion.value) := by
    rw [closes]
    exact List.mem_singleton_self _
  obtain ⟨closed, among, same⟩ := List.mem_map.1 listed
  obtain ⟨merged, version⟩ := Prod.mk.inj same
  rcases superseded closed among with onMain | ⟨kept, recorded, keeper, -, -, above⟩
  · rw [merged] at onMain
    cases onMain
  · have candidate : kept.targetVersion ∈ ["1.2.0rc1"] := by
      rw [← Option.some_inj.1 keeps]
      exact List.mem_map_of_mem (List.mem_filter.2 ⟨recorded, decide_eq_true keeper⟩)
    rw [List.mem_singleton.1 candidate, version] at above
    exact below above

end OmniMarket.DepCascade
