import OmniMarket.DepCascade.Dedup
import OmniMarket.Lib.Scans
import OmniMarket.Lib.Raising
import OmniMarket.Lib.Search

/-!
# What a run does with each dependency PR

A PR stays open when no PR of its group is on main and it has the number of the first PR of the
highest rank there, which is the keeper.
-/

namespace OmniMarket.DepCascade

variable {env : DedupEnv} {request : ModelDepCascadeDedupRequest}
  {outcome : GroupOutcome} {prs : List DependencyPR}

/-! ## The keeper -/

def rankOf (env : DedupEnv) (pr : DependencyPR) : List VersionPart ×ₗ ℤ :=
  toLex ((versionKey env pr.targetVersion.value).toOption.getD [], pr.number)

def HasKey (env : DedupEnv) (pr : DependencyPR) : Prop :=
  ∃ key, versionKey env pr.targetVersion.value = .ok key

theorem firstMax_eq_ok {keyed : List (List VersionPart × DependencyPR)} {best : DependencyPR} :
    firstMax keyed = .ok best ↔ ∃ entry, FirstMax keyedScore keyed entry ∧ entry.2 = best := by
  cases keyed with
  | nil =>
    constructor
    · exact nofun
    · rintro ⟨entry, leads, -⟩
      exact absurd leads.mem List.not_mem_nil
  | cons first rest =>
    have scanned : FirstMax keyedScore (first :: rest) (rest.foldl _ first) :=
      FirstMax.singleton.foldl rest
    constructor
    · intro kept
      exact ⟨_, scanned, Except.ok.inj kept⟩
    · rintro ⟨entry, leads, rfl⟩
      exact congrArg (fun entry => Except.ok (Prod.snd entry)) (scanned.unique leads)

theorem keeper_eq_ok {best : DependencyPR} :
    keeper env prs = .ok best ↔ (∀ pr ∈ prs, HasKey env pr) ∧ FirstMax (rankOf env) prs best := by
  let withKey (pr : DependencyPR) : List VersionPart × DependencyPR :=
    ((versionKey env pr.targetVersion.value).toOption.getD [], pr)
  have keyed {pr : DependencyPR} {entry : List VersionPart × DependencyPR}
      (computed : (do
        let key ← versionKey env pr.targetVersion.value
        return (key, pr) : Except IntError _) = .ok entry) :
      HasKey env pr ∧ entry = withKey pr := by
    obtain ⟨key, found, same⟩ := Raising.bind_eq_ok.1 computed
    refine ⟨⟨key, found⟩, (Except.ok.inj same).symm.trans ?_⟩
    simp only [withKey, found]
    rfl
  have walked_iff {entries : List (List VersionPart × DependencyPR)} :
      (prs.mapM fun pr => do
        let key ← versionKey env pr.targetVersion.value
        return (key, pr) : Except IntError _) = .ok entries ↔
      (∀ pr ∈ prs, HasKey env pr) ∧ entries = prs.map withKey := by
    rw [Search.mapM_eq_ok]
    constructor
    · intro walked
      induction walked with
      | nil => exact ⟨fun _ listed => absurd listed List.not_mem_nil, rfl⟩
      | cons computed _ ih =>
        obtain ⟨first, rfl⟩ := keyed computed
        obtain ⟨rest, rfl⟩ := ih
        exact ⟨List.forall_mem_cons.2 ⟨first, rest⟩, rfl⟩
    · rintro ⟨all, rfl⟩
      rw [List.forall₂_map_right_iff, List.forall₂_same]
      intro pr listed
      obtain ⟨key, found⟩ := all pr listed
      simp only [withKey, found]
      rfl
  rw [keeper, Raising.bind_eq_ok]
  simp only [walked_iff, firstMax_eq_ok]
  constructor
  · rintro ⟨entries, ⟨all, rfl⟩, entry, leads, rfl⟩
    obtain ⟨pr, leads', rfl⟩ := FirstMax.map_iff.1 leads
    exact ⟨all, leads'⟩
  · rintro ⟨all, leads⟩
    exact ⟨prs.map withKey, ⟨all, rfl⟩, withKey best, FirstMax.map_iff.2 ⟨best, leads, rfl⟩, rfl⟩

/-! ## The fate of a PR in its group -/

def DependencyPR.id (pr : DependencyPR) : String × ℤ := (pr.repo, pr.number)

def ModelPRRecord.id (record : ModelPRRecord) : String × ℤ := (record.repo, record.prNumber)

def OnMain (prs : List DependencyPR) : Prop := ∃ pr ∈ prs, pr.alreadyOnMain = true

def Stays (env : DedupEnv) (prs : List DependencyPR) (pr : DependencyPR) : Prop :=
  ¬ OnMain prs ∧ ∃ leader, FirstMax (rankOf env) prs leader ∧ pr.number = leader.number

open Classical in
noncomputable def fate (env : DedupEnv) (request : ModelDepCascadeDedupRequest)
    (prs : List DependencyPR) (pr : DependencyPR) : EnumPRAction :=
  if Stays env prs pr then .kept else if request.dryRun then .skipped else .closed

variable {pr : DependencyPR}

theorem fate_of_stays (stays : Stays env prs pr) :
    fate env request prs pr = .kept := if_pos stays

theorem fate_of_not_stays (leaves : ¬ Stays env prs pr) :
    fate env request prs pr = if request.dryRun then .skipped else .closed := if_neg leaves

theorem fate_eq_closed :
    fate env request prs pr = .closed ↔ request.dryRun = false ∧ ¬ Stays env prs pr := by
  constructor
  · intro closed
    have leaves : ¬ Stays env prs pr := fun stays => by
      rw [fate_of_stays stays] at closed
      cases closed
    rw [fate_of_not_stays leaves] at closed
    refine ⟨?_, leaves⟩
    cases dry : request.dryRun
    · rfl
    · simp [dry] at closed
  · rintro ⟨wet, leaves⟩
    rw [fate_of_not_stays leaves, wet]
    rfl

structure Settled (env : DedupEnv) (request : ModelDepCascadeDedupRequest)
    (prs : List DependencyPR) (outcome : GroupOutcome) : Prop where
  recorded : ∀ id action, (∃ record ∈ outcome.records, record.id = id ∧ record.action = action) ↔
    ∃ pr ∈ prs, pr.id = id ∧ fate env request prs pr = action
  keptOnly : ∀ record ∈ outcome.records, record.action = .kept →
    ¬ OnMain prs ∧ ∃ leader reason, FirstMax (rankOf env) prs leader ∧
      record = recordOf leader .kept 0 reason
  leaderKept : ¬ OnMain prs → ∀ leader, FirstMax (rankOf env) prs leader →
    ∃ reason, recordOf leader .kept 0 reason ∈ outcome.records
  closes : outcome.closes.map ClosedPr.pr = prs.filter fun pr => fate env request prs pr = .closed

theorem settled_only (off : ¬ OnMain [pr]) : Settled env request [pr]
      { records := [recordOf pr .kept 0 "only open bump"], kept := 1 } := by
  have leads : FirstMax (rankOf env) [pr] pr := FirstMax.singleton
  have stays : Stays env [pr] pr := ⟨off, pr, leads, rfl⟩
  refine ⟨?_, ?_, ?_, ?_⟩
  · intro id action
    simp only [List.mem_singleton, exists_eq_left, fate_of_stays stays]
    exact Iff.rfl
  · intro record listed _
    exact ⟨off, pr, _, leads, List.mem_singleton.1 listed⟩
  · rintro - leader leads'
    rw [leads'.unique leads]
    exact ⟨_, List.mem_singleton_self _⟩
  · simp [fate_of_stays stays]

/-- What the keeper of a group stands for. -/
def Decided (env : DedupEnv) (prs : List DependencyPR) : Option DependencyPR → Prop
  | none => OnMain prs
  | some leader => ¬ OnMain prs ∧ FirstMax (rankOf env) prs leader

section

variable {prs : List DependencyPR} {keeper : Option DependencyPR}

theorem Decided.superseded_iff (decided : Decided env prs keeper) :
    (keeper.all fun keeper => decide (pr.number ≠ keeper.number)) = true ↔ ¬ Stays env prs pr := by
  cases keeper with
  | none => exact iff_of_true rfl fun stays => stays.1 decided
  | some leader =>
    obtain ⟨off, leads⟩ := decided
    rw [Option.all_some, decide_eq_true_iff]
    refine not_congr ?_
    constructor
    · intro same
      exact ⟨off, leader, leads, same⟩
    · rintro ⟨-, other, leads', same⟩
      exact same.trans (congrArg DependencyPR.number (leads'.unique leads))

theorem Decided.mem_supersededBy (decided : Decided env prs keeper) :
    pr ∈ supersededBy keeper prs ↔ pr ∈ prs ∧ ¬ Stays env prs pr := by
  rw [supersededBy, List.mem_filter, decided.superseded_iff]

theorem settled_resolved
    {repo package : String} (grouped : ∀ pr ∈ prs, pr.groupKey = (repo, package))
    (decided : Decided env prs keeper) :
    Settled env request prs (resolvedGroup request repo package prs keeper) := by
  have leaves {pr : DependencyPR} (superseded : pr ∈ supersededBy keeper prs) :
      pr ∈ prs ∧ fate env request prs pr = if request.dryRun then .skipped else .closed :=
    ⟨(decided.mem_supersededBy.1 superseded).1,
      fate_of_not_stays (decided.mem_supersededBy.1 superseded).2⟩
  refine ⟨?_, ?_, ?_, ?_⟩
  · intro id action
    constructor
    · rintro ⟨record, listed, rfl, rfl⟩
      rcases List.mem_append.1 listed with led | superseded
      · cases keeper with
        | none => cases led
        | some leader =>
          rw [List.mem_singleton.1 led]
          exact ⟨leader, decided.2.mem, rfl, fate_of_stays ⟨decided.1, leader, decided.2, rfl⟩⟩
      · obtain ⟨pr, among, rfl⟩ := List.mem_map.1 superseded
        exact ⟨pr, (leaves among).1, rfl, (leaves among).2⟩
    · rintro ⟨pr, listed, rfl, rfl⟩
      by_cases stays : Stays env prs pr
      · obtain ⟨off, leader, leads, same⟩ := stays
        cases keeper with
        | none => exact absurd decided off
        | some other =>
          obtain rfl : other = leader := decided.2.unique leads
          have repos : other.repo = pr.repo :=
            (Prod.mk.inj ((grouped other leads.mem).trans (grouped pr listed).symm)).1
          refine ⟨_, List.mem_append_left _ (List.mem_singleton_self _),
            Prod.ext repos same.symm, ?_⟩
          exact (fate_of_stays ⟨off, other, leads, same⟩).symm
      · have superseded := decided.mem_supersededBy.2 ⟨listed, stays⟩
        exact ⟨_, List.mem_append_right _ (List.mem_map_of_mem superseded), rfl,
          (fate_of_not_stays stays).symm⟩
  · intro record listed kept
    rcases List.mem_append.1 listed with led | superseded
    · cases keeper with
      | none => cases led
      | some leader =>
        exact ⟨decided.1, leader, _, decided.2, List.mem_singleton.1 led⟩
    · obtain ⟨pr, among, rfl⟩ := List.mem_map.1 superseded
      exfalso
      cases dry : request.dryRun <;> simp [supersededRecord, recordOf, dry] at kept
  · intro off leader leads
    cases keeper with
    | none => exact absurd decided off
    | some other =>
      obtain rfl : other = leader := decided.2.unique leads
      exact ⟨_, List.mem_append_left _ (List.mem_singleton_self _)⟩
  · have split : request.dryRun = false → supersededBy keeper prs =
        prs.filter fun pr => fate env request prs pr = .closed := by
      intro wet
      refine List.filter_congr fun pr _ => ?_
      rw [Bool.eq_iff_iff, decided.superseded_iff, decide_eq_true_iff, fate_eq_closed]
      exact (and_iff_right wet).symm
    cases dry : request.dryRun
    · simp [resolvedGroup, dry, split dry, Function.comp_def]
    · simp [resolvedGroup, dry, fate_eq_closed]

end

/-- Where a keeper is looked for, every version has a key. -/
def Keyed (env : DedupEnv) (prs : List DependencyPR) : Prop :=
  ¬ OnMain prs → 2 ≤ prs.length → ∀ pr ∈ prs, HasKey env pr

theorem any_onMain :
    prs.any DependencyPR.alreadyOnMain = true ↔ OnMain prs := List.any_eq_true

theorem any_eq_false (off : ¬ OnMain prs) :
    prs.any DependencyPR.alreadyOnMain = false :=
  Bool.eq_false_iff.2 fun merged => off (any_onMain.1 merged)

section HandleGroup

variable {repo package : String} {prs : List DependencyPR}

theorem handleGroup_onMain (onMain : OnMain prs) :
    handleGroup env request repo package prs =
      .ok (resolvedGroup request repo package prs none) := by
  unfold handleGroup
  rw [any_onMain.2 onMain]
  match prs with
  | [] => rfl
  | [_] => rfl
  | _ :: _ :: _ => rfl

theorem handleGroup_single (off : ¬ OnMain [pr]) :
    handleGroup env request repo package [pr] =
      .ok { records := [recordOf pr .kept 0 "only open bump"], kept := 1 } := by
  unfold handleGroup
  rw [any_eq_false off]

theorem handleGroup_several (off : ¬ OnMain prs) (several : 2 ≤ prs.length) :
    handleGroup env request repo package prs =
      (keeper env prs).map fun keeper =>
        resolvedGroup request repo package prs (some keeper) := by
  unfold handleGroup
  rw [any_eq_false off]
  match prs, several with
  | _ :: _ :: _, _ => rfl

theorem group_cases (filled : prs ≠ []) :
    OnMain prs ∨ ¬ OnMain prs ∧ ((∃ pr, prs = [pr]) ∨ 2 ≤ prs.length) := by
  refine (em (OnMain prs)).imp_right fun off => ⟨off, ?_⟩
  match prs, filled with
  | [pr], _ => exact .inl ⟨pr, rfl⟩
  | _ :: _ :: _, _ => exact .inr (by simp)

theorem exists_handleGroup_iff (filled : prs ≠ []) :
    (∃ outcome, handleGroup env request repo package prs = .ok outcome) ↔ Keyed env prs := by
  rcases group_cases filled with onMain | ⟨off, ⟨pr, rfl⟩ | several⟩
  · exact iff_of_true ⟨_, handleGroup_onMain onMain⟩ fun off => absurd onMain off
  · exact iff_of_true ⟨_, handleGroup_single off⟩ fun _ several => absurd several (by simp)
  · rw [handleGroup_several off several]
    constructor
    · rintro ⟨outcome, handled⟩ - -
      obtain ⟨best, kept, -⟩ := Raising.map_eq_ok.1 handled
      exact (keeper_eq_ok.1 kept).1
    · intro keyed
      have leader : ∃ best, FirstMax (rankOf env) prs best := FirstMax.exists_of_ne_nil filled
      obtain ⟨best, leads⟩ := leader
      exact ⟨_, Raising.map_eq_ok.2 ⟨best, keeper_eq_ok.2 ⟨keyed off several, leads⟩, rfl⟩⟩

theorem settled_of_handleGroup (filled : prs ≠ [])
    (grouped : ∀ pr ∈ prs, pr.groupKey = (repo, package))
    (handled : handleGroup env request repo package prs = .ok outcome) :
    Settled env request prs outcome := by
  rcases group_cases filled with onMain | ⟨off, ⟨pr, rfl⟩ | several⟩
  · rw [handleGroup_onMain onMain] at handled
    obtain rfl := Except.ok.inj handled
    exact settled_resolved grouped onMain
  · rw [handleGroup_single off] at handled
    obtain rfl := Except.ok.inj handled
    exact settled_only off
  · rw [handleGroup_several off several] at handled
    obtain ⟨best, kept, rfl⟩ := Raising.map_eq_ok.1 handled
    exact settled_resolved grouped ⟨off, (keeper_eq_ok.1 kept).2⟩

end HandleGroup

/-! ## A run -/

theorem runGroups_eq_none {groups : List ((String × String) × List DependencyPR)}
    {outcomes : List GroupOutcome} :
    runGroups env request groups = (outcomes, none) ↔
      (groups.mapM fun group => handleGroup env request group.1.1 group.1.2 group.2) =
        .ok outcomes := by
  induction groups generalizing outcomes with
  | nil =>
    rw [List.mapM_nil]
    exact ⟨fun same => congrArg Except.ok (Prod.mk.inj same).1,
      fun same => Prod.ext (Except.ok.inj same) rfl⟩
  | cons group rest ih =>
    obtain ⟨⟨repo, package⟩, prs⟩ := group
    rw [List.mapM_cons, Raising.bind_eq_ok]
    simp only [runGroups]
    cases handled : handleGroup env request repo package prs with
    | error raised => simp
    | ok outcome =>
      constructor
      · intro same
        obtain ⟨listed, none'⟩ := Prod.mk.inj same
        refine ⟨outcome, rfl, Raising.bind_eq_ok.2 ⟨_, ih.1 (Prod.ext rfl none'), ?_⟩⟩
        exact congrArg Except.ok listed
      · rintro ⟨first, same, later⟩
        obtain ⟨others, handled', listed⟩ := Raising.bind_eq_ok.1 later
        obtain rfl := Except.ok.inj same
        rw [ih.2 handled', ← Except.ok.inj listed]

variable {adapter : GithubAdapter}

/-- The first loop returns the listings and the second one handles every group. -/
structure Completed (env : DedupEnv) (adapter : GithubAdapter)
    (request : ModelDepCascadeDedupRequest) (listings : List Listing)
    (outcomes : List GroupOutcome) : Prop where
  read : ((listedPrs adapter request).mapM fun listed => readListing env listed.1 listed.2) =
    .ok listings
  handled : ((sortedGroups (listings.filterMap Listing.bump?)).mapM fun group =>
    handleGroup env request group.1.1 group.1.2 group.2) = .ok outcomes

theorem handle_of_completed {listings : List Listing} {outcomes : List GroupOutcome}
    (completed : Completed env adapter request listings outcomes) :
    handle env adapter request =
      { closes := outcomes.flatMap GroupOutcome.closes
        result := .ok (resultOf adapter request listings outcomes) } := by
  rw [handle, completed.read]
  simp only [runGroups_eq_none.2 completed.handled]
  rfl

theorem completed_of_result {result : ModelDepCascadeDedupResult}
    (returned : (handle env adapter request).result = .ok result) :
    ∃ listings outcomes, Completed env adapter request listings outcomes := by
  unfold handle at returned
  split at returned
  · cases returned
  · next listings read =>
    match ran : runGroups env request (sortedGroups (listings.filterMap Listing.bump?)) with
    | (outcomes, some raised) =>
      rw [ran] at returned
      cases returned
    | (outcomes, none) => exact ⟨listings, outcomes, read, runGroups_eq_none.1 ran⟩

/-- The PRs of the same repository and package. -/
def groupOf (prs : List DependencyPR) (pr : DependencyPR) : List DependencyPR :=
  prs.filter fun other => other.groupKey = pr.groupKey

theorem mem_groupOf_self (listed : pr ∈ prs) :
    pr ∈ groupOf prs pr := List.mem_filter.2 ⟨listed, decide_eq_true rfl⟩

theorem groupOf_congr {other : DependencyPR}
    (among : other ∈ groupOf prs pr) : groupOf prs other = groupOf prs pr := by
  rw [groupOf, of_decide_eq_true (List.mem_filter.1 among).2]
  rfl

theorem mem_sortedGroups {entry : (String × String) × List DependencyPR} :
    entry ∈ sortedGroups prs ↔ ∃ pr ∈ prs, entry = (pr.groupKey, groupOf prs pr) := by
  rw [sortedGroups, List.mem_insertionSort]
  obtain ⟨key, group⟩ := entry
  rw [OrderedDict.mem_groupBy]
  constructor
  · rintro ⟨rfl, filled⟩
    obtain ⟨pr, among⟩ := List.exists_mem_of_ne_nil _ filled
    obtain ⟨listed, own⟩ := List.mem_filter.1 among
    obtain rfl := of_decide_eq_true own
    exact ⟨pr, listed, rfl⟩
  · rintro ⟨pr, listed, same⟩
    obtain ⟨rfl, rfl⟩ := Prod.mk.inj same
    exact ⟨rfl, List.ne_nil_of_mem (mem_groupOf_self listed)⟩

/-! ## What a run does with each listing -/

def bumpsOf (listings : List Listing) : List DependencyPR := listings.filterMap Listing.bump?

theorem mem_bumpsOf {listings : List Listing} : pr ∈ bumpsOf listings ↔ .bump pr ∈ listings := by
  rw [bumpsOf, List.mem_filterMap]
  constructor
  · rintro ⟨listing, listed, same⟩
    cases listing with
    | unparsed => cases same
    | bump other => exact Option.some_inj.1 same ▸ listed
  · intro listed
    exact ⟨_, listed, rfl⟩

namespace Listing

def id : Listing → String × ℤ
  | unparsed repo number => (repo, number)
  | bump pr => pr.id

def Stays (env : DedupEnv) (prs : List DependencyPR) : Listing → Prop
  | unparsed _ _ => False
  | bump pr => DepCascade.Stays env (groupOf prs pr) pr

noncomputable def fate (env : DedupEnv) (request : ModelDepCascadeDedupRequest)
    (prs : List DependencyPR) : Listing → EnumPRAction
  | unparsed _ _ => .skipped
  | bump pr => DepCascade.fate env request (groupOf prs pr) pr

end Listing

theorem settled_entry (listed : pr ∈ prs)
    (handled : handleGroup env request pr.groupKey.1 pr.groupKey.2 (groupOf prs pr) = .ok outcome) :
    Settled env request (groupOf prs pr) outcome := by
  refine settled_of_handleGroup (List.ne_nil_of_mem (mem_groupOf_self listed)) ?_ handled
  intro other among
  exact of_decide_eq_true (List.mem_filter.1 among).2

namespace Completed

variable {listings : List Listing} {outcomes : List GroupOutcome}
  (completed : Completed env adapter request listings outcomes)

include completed

theorem settled (listed : pr ∈ bumpsOf listings) :
    ∃ outcome ∈ outcomes, Settled env request (groupOf (bumpsOf listings) pr) outcome := by
  have among := mem_sortedGroups.2 ⟨pr, listed, rfl⟩
  obtain ⟨outcome, handled⟩ := Search.exists_mapM_eq_ok.1 ⟨_, completed.handled⟩ _ among
  exact ⟨outcome, (Search.mem_of_mapM completed.handled outcome).2 ⟨_, among, handled⟩,
    settled_entry listed handled⟩

theorem of_outcome (listed : outcome ∈ outcomes) :
    ∃ pr ∈ bumpsOf listings, Settled env request (groupOf (bumpsOf listings) pr) outcome := by
  obtain ⟨entry, among, handled⟩ := (Search.mem_of_mapM completed.handled outcome).1 listed
  obtain ⟨pr, own, rfl⟩ := mem_sortedGroups.1 among
  exact ⟨pr, own, settled_entry own handled⟩

omit completed in
theorem mem_prRecords {record : ModelPRRecord} :
    record ∈ (resultOf adapter request listings outcomes).prRecords ↔
      record ∈ listings.filterMap Listing.skipRecord? ∨
        ∃ outcome ∈ outcomes, record ∈ outcome.records := by
  simp only [resultOf, List.mem_insertionSort, List.mem_append, List.mem_flatMap]

theorem exists_record_iff {id : String × ℤ} {action : EnumPRAction} :
    (∃ record ∈ (resultOf adapter request listings outcomes).prRecords,
        record.id = id ∧ record.action = action) ↔
      ∃ listing ∈ listings, listing.id = id ∧
        listing.fate env request (bumpsOf listings) = action := by
  constructor
  · rintro ⟨record, recorded, rfl, rfl⟩
    rcases mem_prRecords.1 recorded with skipped | ⟨outcome, among, recorded'⟩
    · obtain ⟨listing, listed, same⟩ := List.mem_filterMap.1 skipped
      cases listing with
      | bump pr => cases same
      | unparsed repo number =>
        cases same
        exact ⟨_, listed, rfl, rfl⟩
    · obtain ⟨pr, listed, settled⟩ := completed.of_outcome among
      obtain ⟨other, grouped, same, fated⟩ :=
        (settled.recorded record.id record.action).1 ⟨record, recorded', rfl, rfl⟩
      refine ⟨.bump other, mem_bumpsOf.1 (List.mem_filter.1 grouped).1, same, ?_⟩
      rw [Listing.fate, groupOf_congr grouped, fated]
  · rintro ⟨listing, listed, rfl, rfl⟩
    cases listing with
    | unparsed repo number =>
      refine ⟨_, mem_prRecords.2 (.inl (List.mem_filterMap.2 ⟨_, listed, rfl⟩)), rfl, rfl⟩
    | bump pr =>
      have own := mem_bumpsOf.2 listed
      obtain ⟨outcome, among, settled⟩ := completed.settled own
      obtain ⟨record, recorded, same, fated⟩ :=
        (settled.recorded _ _).2 ⟨pr, mem_groupOf_self own, rfl, rfl⟩
      exact ⟨record, mem_prRecords.2 (.inr ⟨outcome, among, recorded⟩), same, fated⟩

theorem leader_of_kept {record : ModelPRRecord}
    (recorded : record ∈ (resultOf adapter request listings outcomes).prRecords)
    (kept : record.action = .kept) :
    ∃ leader ∈ bumpsOf listings, ¬ OnMain (groupOf (bumpsOf listings) leader) ∧
      FirstMax (rankOf env) (groupOf (bumpsOf listings) leader) leader ∧
      ∃ reason, record = recordOf leader .kept 0 reason := by
  rcases mem_prRecords.1 recorded with skipped | ⟨outcome, among, recorded'⟩
  · obtain ⟨listing, -, same⟩ := List.mem_filterMap.1 skipped
    cases listing with
    | bump pr => cases same
    | unparsed repo number =>
      cases same
      cases kept
  · obtain ⟨pr, listed, settled⟩ := completed.of_outcome among
    obtain ⟨off, leader, reason, leads, rfl⟩ := settled.keptOnly record recorded' kept
    have group := groupOf_congr leads.mem
    exact ⟨leader, (List.mem_filter.1 leads.mem).1, by rwa [group], by rwa [group], reason, rfl⟩

theorem leader_kept {leader : DependencyPR} (listed : pr ∈ bumpsOf listings)
    (off : ¬ OnMain (groupOf (bumpsOf listings) pr))
    (leads : FirstMax (rankOf env) (groupOf (bumpsOf listings) pr) leader) :
    ∃ reason, recordOf leader .kept 0 reason ∈
      (resultOf adapter request listings outcomes).prRecords := by
  obtain ⟨outcome, among, settled⟩ := completed.settled listed
  obtain ⟨reason, recorded⟩ := settled.leaderKept off leader leads
  exact ⟨reason, mem_prRecords.2 (.inr ⟨outcome, among, recorded⟩)⟩

theorem closes_perm : ((outcomes.flatMap GroupOutcome.closes).map ClosedPr.pr).Perm
      ((bumpsOf listings).filter fun pr =>
        fate env request (groupOf (bumpsOf listings) pr) pr = .closed) := by
  have each : outcomes.map (fun outcome => outcome.closes.map ClosedPr.pr) =
      (sortedGroups (bumpsOf listings)).map fun entry => entry.2.filter fun pr =>
        fate env request (groupOf (bumpsOf listings) pr) pr = .closed := by
    refine Search.map_of_mapM_mem completed.handled fun entry among outcome handled => ?_
    obtain ⟨pr, listed, rfl⟩ := mem_sortedGroups.1 among
    refine (settled_entry listed handled).closes.trans (List.filter_congr ?_)
    intro other grouped
    rw [groupOf_congr grouped]
  have whole : ((sortedGroups (bumpsOf listings)).flatMap Prod.snd).Perm (bumpsOf listings) :=
    OrderedDict.flatMap_groupBy_perm (List.perm_insertionSort _ _)
  rw [List.map_flatMap, List.flatMap_def, each, ← List.flatMap_def]
  have filtered := whole.filter fun pr =>
    decide (fate env request (groupOf (bumpsOf listings) pr) pr = .closed)
  rwa [List.filter_flatMap] at filtered

end Completed

end OmniMarket.DepCascade
