import OmniMarket.PrSweep.Course

/-!
# The mutation envelope of a pass

Entry flags, outage breaker, verification, arm gate and wave cap stand at different points of a
pass. `staysInside_iff`: together they keep a pass inside its envelope if and only if no record
the pass calls the merge handler for shares its repository and number with a record that is green
where it is not, or with a verification that blocks. The work lists meet intents with triage
records, so a PR that occurs twice is a candidate several times, and each candidate has a
verification of its own; `CallsAreSound.of_distinct`: otherwise the condition holds.
-/

namespace OmniMarket.PrSweep

variable {classified : List TriageRecord}

open Acting

/-! ## The envelope -/

/-- The calls that change something outside. -/
def mutationKinds : List EntryKind := [.stallRemediation, .merge, .prune, .fixerDispatch, .fix]

section

variable (command : ModelPrLifecycleStartCommand)

def OutageObserved (around : Surroundings) : Prop :=
  ∃ inventory, around.inventory (reposFilter command) = .ok inventory ∧
    (∃ pr ∈ inventory.prs, outageCode ∈ pr.failedCheckReasonCodes) ∧
    around.recoveryProbe ≠ some (.ok true)

def CalledGreen (around : Surroundings) (mergeCommand : ModelPrMergeCommand) : Prop :=
  ∃ inventory classified record, around.inventory (reposFilter command) = .ok inventory ∧
    around.triage inventory.prs = .ok classified ∧ record ∈ classified ∧
    record.key = mergeCommand.key ∧ record.category = .green ∧
    mergeCommand.triageVerdict = record.category.value

structure FactsKnown (around : Surroundings) (inventory : InventoryResult) (log : List Entry)
    (mergeCommand : ModelPrMergeCommand) (record : PrRecord) : Prop where
  found : prLookup inventory mergeCommand.key = some record
  ready : record.isDraft = some false
  reviewed : record.coderabbitUnresolved = some 0
  clean : record.mergeStateStatus = some requiredMergeStateStatus
  passed : statusChecksForArm around record.checksStatus = some requiredStatusChecks
  attested : .armReadBack mergeCommand.repo mergeCommand.prNumber true ∈ log

/-- An outcome that lets a PR merge: neither failed, nor indeterminate for code or for files
that could not be listed. -/
structure Verification.Passes (verification : Verification) : Prop where
  passed : verification.outcome ≠ .verificationFailed
  determined : verification.outcome ∈ indeterminateVerificationOutcomes →
    verification.target = .skippedNoMapping ∧ verification.changedFilesUnavailable = false

structure StaysInside (around : Surroundings) (log : List Entry) : Prop where
  observing : command.dryRun = true ∨ command.inventoryOnly = true →
    ∀ entry ∈ log, entry.kind ∉ mutationKinds
  fixOnly : command.fixOnly = true → ∀ entry ∈ log, entry.kind ≠ .merge
  mergeOnly : command.mergeOnly = true → ∀ entry ∈ log, entry.kind ≠ .fix
  withheld : OutageObserved command around → ∀ entry ∈ log, entry.kind ∉ mutationKinds
  enforced : ∀ mergeCommand answer, .merge mergeCommand answer ∈ log →
    command.actionMode = .enforce ∧ command.mergeQueueMutationKillSwitch = false
  green : ∀ mergeCommand answer, .merge mergeCommand answer ∈ log →
    CalledGreen command around mergeCommand
  known : ∀ mergeCommand answer, .merge mergeCommand answer ∈ log →
    ∃ inventory record, around.inventory (reposFilter command) = .ok inventory ∧
      FactsKnown around inventory log mergeCommand record
  verified : command.verify = true →
    ∀ mergeCommand answer, .merge mergeCommand answer ∈ log →
      (∃ verification, .verified verification ∈ log ∧ verification.key = mergeCommand.key) ∧
        ∀ verification, .verified verification ∈ log → verification.key = mergeCommand.key →
          verification.Passes
  capped : (log.countP fun entry => entry.kind == .merge) ≤ command.mergeWaveCap

end

section Envelope

variable (command : ModelPrLifecycleStartCommand) (around : Surroundings)

def triageRecords : List TriageRecord :=
  match inventoried command around with
  | .error _ => []
  | .ok inventory =>
    match classifiedOf command around inventory with
    | .error _ => []
    | .ok classified => classified

/-- What shares its repository and number with a record that the merge handler is called for. -/
structure CallsAreSound : Prop where
  /-- A green record stands for the PR only where this one is green. -/
  records : ∀ pr ∈ takenPrs command around, ∀ other ∈ triageRecords command around,
    other.key = pr.key → other.category = .green → pr.category = .green
  clear : ∀ pr ∈ takenPrs command around, ∀ verification ∈ verifications command around,
    verification.key = pr.key → verification.shouldBlock = false

variable {verification : Verification}

theorem shouldBlock_eq_false : verification.shouldBlock = false ↔ verification.Passes := by
  unfold Verification.shouldBlock Verification.isCodePr
  constructor
  · intro clears
    simp only [Bool.or_eq_false_iff, beq_eq_false_iff_ne, Bool.and_eq_false_iff,
      List.contains_eq_mem, decide_eq_false_iff_not, bne_eq_false_iff_eq] at clears
    refine ⟨clears.1, fun indeterminate => ?_⟩
    rcases clears.2 with other | ⟨listed, target⟩
    · exact absurd indeterminate other
    · exact ⟨target, listed⟩
  · intro passes
    by_cases indeterminate : verification.outcome ∈ indeterminateVerificationOutcomes
    · obtain ⟨target, listed⟩ := passes.determined indeterminate
      simp [passes.passed, target, listed]
    · simp [passes.passed, indeterminate]

/-! ## What a pass that gets to merge has passed -/

variable {inventory : InventoryResult}

theorem inventoried_ok (found : inventoried command around = .ok inventory) :
    around.inventory (reposFilter command) = .ok inventory := by
  obtain ⟨_, -, found⟩ := Raising.bind_eq_ok.mp found
  obtain ⟨taken, answered, found⟩ := Raising.bind_eq_ok.mp found
  obtain ⟨_, -, found⟩ := Raising.bind_eq_ok.mp found
  rw [answered, Except.ok.inj found]

theorem classifiedOf_ok
    (found : classifiedOf command around inventory = .ok classified) :
    around.triage inventory.prs = .ok classified := by
  obtain ⟨_, -, found⟩ := Raising.bind_eq_ok.mp found
  obtain ⟨triaged, answered, found⟩ := Raising.bind_eq_ok.mp found
  obtain ⟨_, -, found⟩ := Raising.bind_eq_ok.mp found
  rw [answered, Except.ok.inj found]

/-- How a pass got to its merge phase. -/
structure GotReady (ready : Ready) (classified : List TriageRecord) : Prop where
  taken : inventoried command around = .ok ready.inventory
  triaged : classifiedOf command around ready.inventory = .ok classified
  kept : clearedOf command around (candidatesOf command classified) = .ok ready.mergePrs
  live : command.dryRun = false ∧ command.inventoryOnly = false
  outage : ready.outageActive = outageOpen around ready.inventory

variable {ready : Ready}

theorem prepared_ready (found : prepared command around = .ok (some ready)) :
    ∃ classified, GotReady command around ready classified := by
  obtain ⟨inventory, taken, found⟩ := Raising.bind_eq_ok.mp found
  cases inventoryOnly : command.inventoryOnly with
  | true =>
    simp only [inventoryOnly] at found
    cases Except.ok.inj found
  | false =>
    simp only [inventoryOnly] at found
    obtain ⟨classified, triaged, found⟩ := Raising.bind_eq_ok.mp found
    obtain ⟨mergePrs, cleared, found⟩ := Raising.bind_eq_ok.mp found
    have isReady : readyOf command around inventory classified mergePrs = some ready :=
      Except.ok.inj found
    unfold readyOf at isReady
    split at isReady
    · cases isReady
    · rename_i live
      cases isReady
      exact ⟨classified, taken, triaged, cleared, ⟨by simpa using live, inventoryOnly⟩, rfl⟩

theorem cleared_subset (mergePrs : List TriageRecord) :
    cleared command around mergePrs ⊆ mergePrs := by
  intro pr kept
  obtain ⟨indexed, isKept, rfl⟩ := List.mem_map.mp kept
  exact List.fst_mem_of_mem_zipIdx (List.mem_filter.mp isKept).1

theorem clearedOf_subset {candidates mergePrs : List TriageRecord}
    (kept : clearedOf command around candidates = .ok mergePrs) : mergePrs ⊆ candidates := by
  unfold clearedOf at kept
  split at kept
  · obtain ⟨_, -, kept⟩ := Raising.bind_eq_ok.mp kept
    exact Except.ok.inj kept ▸ cleared_subset command around candidates
  · exact Except.ok.inj kept ▸ List.Subset.refl _

/-- A candidate shares its repository and number with a green record. -/
theorem candidatesOf_green {pr : TriageRecord} (candidate : pr ∈ candidatesOf command classified) :
    ∃ other ∈ classified, other.key = pr.key ∧ other.category = .green := by
  obtain ⟨intent, asked, kept⟩ := List.mem_flatMap.mp candidate
  obtain ⟨other, listed, rfl⟩ := List.mem_map.mp asked
  have joined := (List.mem_filter.mp kept).2
  simp only [Bool.and_eq_true, beq_iff_eq] at joined
  refine ⟨other, listed, joined.1.symm, ?_⟩
  have merges := joined.2
  unfold intentFor at merges
  split at merges
  · cases merges
  · cases category : other.category <;> simp only [category] at merges
    · rfl
    all_goals
      first
      | cases merges
      | split at merges <;> cases merges

theorem candidatesOf_nodup
    (distinct : (classified.map TriageRecord.key).Nodup) :
    ((candidatesOf command classified).map TriageRecord.key).Nodup := by
  have keys : (reducerHandle command classified).map ReducerIntent.key =
      classified.map TriageRecord.key := List.map_map
  unfold candidatesOf recordsWith
  rw [List.map_flatMap, List.nodup_flatMap]
  refine ⟨fun intent _ => distinct.sublist (List.filter_sublist.map _), ?_⟩
  rw [← keys] at distinct
  refine (List.pairwise_map.mp distinct).imp fun differs key here there => differs ?_
  -- a record meets the intents of its own key only
  obtain ⟨tr, met, rfl⟩ := List.mem_map.mp here
  obtain ⟨tr', met', same⟩ := List.mem_map.mp there
  have own := (List.mem_filter.mp met).2
  have own' := (List.mem_filter.mp met').2
  simp only [Bool.and_eq_true, beq_iff_eq] at own own'
  rw [← own.1, ← own'.1, same]

theorem recordsWith_subset (kind : EnumReducerIntent) (intents : List ReducerIntent)
    (classified : List TriageRecord) : recordsWith kind intents classified ⊆ classified := by
  intro tr joined
  obtain ⟨intent, -, kept⟩ := List.mem_flatMap.mp joined
  exact List.mem_of_mem_filter kept

variable {pr : TriageRecord}

theorem attestations_mem {position : ℕ} {prs armed : List TriageRecord}
    (ended : armedOf command around inventory position prs = .ok armed) {turn : ℕ}
    (atTurn : (pr, turn) ∈ prs.zipIdx position) :
    attestation command around turn pr ⊆ attestations command around inventory position prs := by
  induction prs generalizing position armed with
  | nil => cases atTurn
  | cons head rest ih =>
    obtain ⟨decision, decided, ended⟩ := Raising.bind_eq_ok.mp ended
    obtain ⟨others, endedRest, -⟩ := Raising.bind_eq_ok.mp ended
    unfold attestations
    rw [decided]
    rw [List.zipIdx_cons] at atTurn
    rcases List.mem_cons.mp atTurn with here | later
    · cases here
      exact List.subset_append_left _ _
    · exact List.subset_append_of_subset_right _ (ih endedRest later)

structure Called (ready : Ready) (pr : TriageRecord) : Prop where
  reached : reachesFanout command around ready
  candidate : pr ∈ ready.mergePrs
  enforced : command.actionMode = .enforce ∧ command.mergeQueueMutationKillSwitch = false
  known : ∃ record, prLookup ready.inventory pr.key = some record ∧
    record.isDraft = some false ∧ record.coderabbitUnresolved = some 0 ∧
    record.mergeStateStatus = some requiredMergeStateStatus ∧
    statusChecksForArm around record.checksStatus = some requiredStatusChecks
  attested : .attested pr.key true ∈ attestations command around ready.inventory 0 ready.mergePrs

theorem decisionAt_arm {turn : ℕ} (arms : decisionAt command around inventory turn pr = .ok .arm) :
    (command.actionMode = .enforce ∧ command.mergeQueueMutationKillSwitch = false) ∧
      (∃ record, prLookup inventory pr.key = some record ∧
        record.isDraft = some false ∧ record.coderabbitUnresolved = some 0 ∧
        record.mergeStateStatus = some requiredMergeStateStatus ∧
        statusChecksForArm around record.checksStatus = some requiredStatusChecks) ∧
      attestation command around turn pr = [.attested pr.key true] := by
  obtain ⟨attested, readBack, arms⟩ := Raising.bind_eq_ok.mp arms
  obtain ⟨candidate, built, arms⟩ := Raising.bind_eq_ok.mp arms
  have armable := (armGate_arms _ _ _).mp (Except.ok.inj arms)
  unfold armCandidate at built
  dsimp only at built
  split at built
  · cases built
  · cases built
    refine ⟨⟨armable.enforced, armable.disengaged⟩, ?_, ?_⟩
    · cases found : prLookup inventory pr.key with
      | none =>
        have ready := armable.ready
        rw [found] at ready
        cases ready
      | some record =>
        obtain ⟨-, -, ready, reviewed, clean, passed, -⟩ := armable
        rw [found] at ready reviewed clean passed
        exact ⟨record, rfl, ready, reviewed, clean, passed⟩
    · unfold attestation
      have good : attested = some true := armable.attested
      rw [readBack, good]

theorem takenOf_called (taken : pr ∈ takenOf command around ready) :
    Called command around ready pr := by
  obtain ⟨reached, -, armed, ended, isArmed⟩ := takenOf_armed command around taken
  obtain ⟨turn, atTurn, arms⟩ := armedOf_mem command around ended isArmed
  obtain ⟨enforced, known, attested⟩ := decisionAt_arm command around arms
  refine ⟨reached, List.fst_mem_of_mem_zipIdx atTurn, enforced, known, ?_⟩
  exact attestations_mem command around ended atTurn (attested ▸ List.mem_singleton.mpr rfl)

theorem takenOf_length (ready : Ready) :
    (takenOf command around ready).length ≤ command.mergeWaveCap := by
  unfold takenOf calledOf waveOfReady
  split
  · cases armedOf command around ready.inventory 0 ready.mergePrs with
    | error raised => exact Nat.zero_le _
    | ok armed =>
      calc (callsOf (waveOf command armed)).length
          ≤ (waveOf command armed).length := (List.takeWhile_sublist _).length_le
        _ ≤ command.mergeWaveCap := List.length_take_le _ _
  · exact Nat.zero_le _

theorem takenPrs_length : (takenPrs command around).length ≤ command.mergeWaveCap := by
  unfold takenPrs
  split
  · exact takenOf_length command around _
  · exact Nat.zero_le _

/-! ## What the flags and the breaker rule out -/

theorem sweep_only {kinds : List EntryKind} (within : [.record, .verification] ⊆ kinds)
    (taken : Only (OfKind kinds) (takeInventory command around))
    (finished : ∀ ready, prepared command around = .ok (some ready) →
      Only (OfKind kinds) (finishSweep command around (some ready))) :
    ∀ entry ∈ (sweep command around).did, entry.kind ∈ kinds := by
  have recorded (toState : EnumOrchestratorState) :
      Only (OfKind kinds) (transitionPhase around toState) :=
    (transitionPhase_only around toState).weaken
      (OfKind.mono (List.cons_subset.mpr ⟨within List.mem_cons_self, List.nil_subset _⟩))
  have phases : Only (OfKind kinds) (sweepPhases command around) := by
    refine Only.bind_of (prepare_only command around taken within)
      (prepare_shows command around).yields fun ready found => ?_
    cases ready with
    | none => exact recorded .complete
    | some ready => exact finished ready found
  have pass : Only (OfKind kinds) (runSweep command around) :=
    Only.bind (Only.attempt phases fun _ => Only.bind (Only.update _) fun _ => recorded .failed)
      fun _ => Only.look _
  exact pass {}

theorem finishSweep_only {kinds : List EntryKind} (records : .record ∈ kinds)
    (merges : Only (OfKind kinds) (mergePhase command around ready))
    (fixes : Only (OfKind kinds) (fixPhase command around ready)) :
    Only (OfKind kinds) (finishSweep command around (some ready)) := by
  have recorded : Only (OfKind kinds) (transitionPhase around .complete) :=
    (transitionPhase_only around .complete).weaken
      (OfKind.mono (List.cons_subset.mpr ⟨records, List.nil_subset _⟩))
  refine Only.bind merges fun ended => ?_
  split
  · exact recorded
  · exact Only.bind fixes fun _ => recorded

theorem mergePhase_only (ready : Ready) :
    Only (OfKind [.record, .attestation, .merge, .conclusion, .prune])
      (mergePhase command around ready) := by
  unfold mergePhase withholdMerge
  split
  · exact Only.pure false
  · split
    · exact Only.bind (Only.update _) fun _ => Only.pure false
    · exact mergeAndConclude_only command around ready

theorem takeInventory_all :
    Only (OfKind [.record, .stallRemediation]) (takeInventory command around) :=
  takeInventory_only command around List.mem_cons_self fun inventory _ outageActive _ =>
    attendStalledQueuePrs_only command around inventory outageActive

theorem sweep_observing (observing : command.dryRun = true ∨ command.inventoryOnly = true) :
    ∀ entry ∈ (sweep command around).did, entry.kind ∈ [EntryKind.record, .verification] := by
  have taken : Only (OfKind [.record]) (takeInventory command around) :=
    takeInventory_only command around List.mem_cons_self fun inventory _ _ _ =>
      attendStalledQueuePrs_withheld command around inventory (.inr observing)
  refine sweep_only command around (List.Subset.refl _)
    (taken.weaken (OfKind.mono (by decide))) fun ready found => ?_
  obtain ⟨classified, got⟩ := prepared_ready command around found
  simp [got.live.1, got.live.2] at observing

theorem outageOpen_of_observed (outage : OutageObserved command around)
    (found : around.inventory (reposFilter command) = .ok inventory) :
    outageOpen around inventory = true := by
  obtain ⟨observed, answered, ⟨pr, inventoried, coded⟩, unproven⟩ := outage
  rw [found] at answered
  cases answered
  have seen : outageCode ∈ collectSweepReasonCodes inventory :=
    List.mem_flatMap.mpr ⟨pr, inventoried, coded⟩
  have unpassed : (around.recoveryProbe.any fun probe => probe.toOption == some true) = false := by
    cases probed : around.recoveryProbe with
    | none => rfl
    | some probe =>
      cases probe with
      | error raised => rfl
      | ok passed =>
        cases passed with
        | false => rfl
        | true => exact absurd probed unproven
  unfold outageOpen
  rw [unpassed]
  simpa using seen

theorem sweep_outage (outage : OutageObserved command around) :
    ∀ entry ∈ (sweep command around).did, entry.kind ∈ [EntryKind.record, .verification] := by
  have taken : Only (OfKind [.record]) (takeInventory command around) := by
    refine takeInventory_only command around List.mem_cons_self
      fun inventory found outageActive opened => ?_
    have active : outageActive = true := by
      have shown := (applyOutageBreaker_shows around inventory).yields {}
      rw [opened {}, outageOpen_of_observed command around outage found] at shown
      exact Except.ok.inj shown
    exact attendStalledQueuePrs_withheld command around inventory (.inl active)
  refine sweep_only command around (List.Subset.refl _)
    (taken.weaken (OfKind.mono (by decide))) fun ready found => ?_
  obtain ⟨classified, got⟩ := prepared_ready command around found
  have active : ready.outageActive = true :=
    got.outage.trans
      (outageOpen_of_observed command around outage (inventoried_ok command around got.taken))
  refine finishSweep_only command around List.mem_cons_self ?_ ?_
  · unfold mergePhase withholdMerge
    rw [active]
    split
    · exact Only.pure false
    · exact Only.bind (Only.update _) fun _ => Only.pure false
  · unfold fixPhase
    rw [active]
    split
    · exact Only.pure ()
    · exact Only.update _

theorem sweep_fixOnly (fixOnly : command.fixOnly = true) : ∀ entry ∈ (sweep command around).did,
      entry.kind ∈ [EntryKind.record, .verification, .stallRemediation, .fixerDispatch, .fix] := by
  refine sweep_only command around (by decide)
    ((takeInventory_all command around).weaken (OfKind.mono (by decide))) fun ready _ => ?_
  refine finishSweep_only command around List.mem_cons_self ?_ ?_
  · unfold mergePhase
    rw [fixOnly, Bool.or_true, if_pos rfl]
    exact Only.pure false
  · exact (fixPhase_only command around ready).weaken (OfKind.mono (by decide))

theorem sweep_mergeOnly (mergeOnly : command.mergeOnly = true) :
    ∀ entry ∈ (sweep command around).did,
      entry.kind ∈ [EntryKind.record, .verification, .stallRemediation, .attestation, .merge,
        .conclusion, .prune] := by
  refine sweep_only command around (by decide)
    ((takeInventory_all command around).weaken (OfKind.mono (by decide))) fun ready _ => ?_
  refine finishSweep_only command around List.mem_cons_self ?_ ?_
  · exact (mergePhase_only command around ready).weaken (OfKind.mono (by decide))
  · unfold fixPhase
    rw [mergeOnly, Bool.or_true, if_pos rfl]
    exact Only.pure ()

/-! ## The log of a pass -/

variable {log : List Entry}

theorem mem_iff_told {α : Type} {sort : Telling → Option α} {item : α} {entry : Entry}
    (told : entry.tells.bind sort = some item)
    (only : ∀ other : Entry, other.tells.bind sort = some item → other = entry) :
    entry ∈ log ↔ item ∈ toldIn sort log := by
  rw [mem_toldIn]
  constructor
  · exact fun logged => ⟨entry, logged, told⟩
  · rintro ⟨other, logged, toldToo⟩
    exact only other toldToo ▸ logged

theorem ledger_tells {α : Type} {sort : Telling → Option α} {event : LedgerEvent}
    (unread : ∀ key, sort (.concluded key) = none) :
    (Entry.ledger event).tells.bind sort = none := by
  simp only [Entry.tells]
  split
  · exact unread event.key
  · rfl

variable {mergeCommand : ModelPrMergeCommand} {answer : Option ModelPrMergeResult}

theorem merge_told :
    .merge mergeCommand answer ∈ log ↔ (mergeCommand, answer) ∈ toldIn Telling.mergeCall log := by
  refine mem_iff_told rfl fun other told => ?_
  cases other with
  | ledger event =>
    rw [ledger_tells fun _ => rfl] at told
    cases told
  | merge _ _ =>
    cases told
    rfl
  | _ => cases told

theorem verified_told :
    .verified verification ∈ log ↔ verification ∈ toldIn Telling.verification log := by
  refine mem_iff_told rfl fun other told => ?_
  cases other with
  | ledger event =>
    rw [ledger_tells fun _ => rfl] at told
    cases told
  | verified _ =>
    cases told
    rfl
  | _ => cases told

theorem armReadBack_told {repo : String} {prNumber : ℤ} {good : Bool} :
    .armReadBack repo prNumber good ∈ log ↔
      ((repo, prNumber), good) ∈ toldIn Telling.attestation log := by
  refine mem_iff_told rfl fun other told => ?_
  cases other with
  | ledger event =>
    rw [ledger_tells fun _ => rfl] at told
    cases told
  | armReadBack _ _ _ =>
    cases told
    rfl
  | _ => cases told

theorem merge_taken (called : .merge mergeCommand answer ∈ (sweep command around).did) :
    ∃ pr ∈ takenPrs command around, mergeCommand = mergeCommandOf command pr := by
  rw [merge_told, sweep_mergeCalls] at called
  obtain ⟨indexed, taken, same⟩ := List.mem_map.mp called
  exact ⟨indexed.1, List.fst_mem_of_mem_zipIdx taken, (congrArg Prod.fst same).symm⟩

theorem taken_merge (taken : pr ∈ takenPrs command around) :
    ∃ answer, .merge (mergeCommandOf command pr) answer ∈ (sweep command around).did := by
  rw [← List.zipIdx_map_fst 0 (takenPrs command around)] at taken
  obtain ⟨indexed, atTurn, rfl⟩ := List.mem_map.mp taken
  refine ⟨answerAt command around indexed.2 indexed.1, ?_⟩
  rw [merge_told, sweep_mergeCalls]
  exact List.mem_map.mpr ⟨indexed, atTurn, rfl⟩

theorem verified_iff :
    .verified verification ∈ (sweep command around).did ↔
      verification ∈ verifications command around := by
  rw [verified_told, sweep_verifications]

theorem takenPrs_called (taken : pr ∈ takenPrs command around) :
    ∃ ready classified, prepared command around = .ok (some ready) ∧
      GotReady command around ready classified ∧ Called command around ready pr := by
  unfold takenPrs at taken
  split at taken
  · rename_i ready found
    obtain ⟨classified, got⟩ := prepared_ready command around found
    exact ⟨ready, classified, found, got, takenOf_called command around taken⟩
  · cases taken

/-- Under `verify` every PR that is called for was verified. -/
theorem takenPrs_verified (verify : command.verify = true) (taken : pr ∈ takenPrs command around) :
    ∃ verification ∈ verifications command around, verification.key = pr.key := by
  obtain ⟨ready, classified, -, got, called⟩ := takenPrs_called command around taken
  have candidate := clearedOf_subset command around got.kept called.candidate
  have some : (candidatesOf command classified).isEmpty = false :=
    List.isEmpty_eq_false_iff_exists_mem.mpr ⟨pr, candidate⟩
  have verifying : verifies command (candidatesOf command classified) = true := by
    simp [verifies, verify, some, called.reached.2.1]
  have published : around.publishPhase .verifying = .ok () := by
    have kept := got.kept
    unfold clearedOf at kept
    rw [if_pos verifying] at kept
    exact (Raising.bind_eq_ok.mp kept).choose_spec.1
  rw [← List.zipIdx_map_fst 0 (candidatesOf command classified)] at candidate
  obtain ⟨indexed, atTurn, rfl⟩ := List.mem_map.mp candidate
  refine ⟨verificationAt command around indexed.2 indexed.1, ?_, verificationOf_key _ _ _ _ _⟩
  unfold verifications verificationsAfter verificationsOf
  simp only [got.taken, got.live.2, Bool.false_eq_true, if_false, got.triaged]
  rw [if_pos ⟨verifying, published⟩]
  exact List.mem_map_of_mem atTurn

/-! ## The envelope and its condition -/

theorem GotReady.triageRecords_eq (got : GotReady command around ready classified) :
    triageRecords command around = classified := by
  unfold triageRecords
  simp only [got.taken, got.triaged]

theorem CallsAreSound.green (sound : CallsAreSound command around)
    (taken : pr ∈ takenPrs command around) : pr.category = .green := by
  obtain ⟨ready, classified, -, got, called⟩ := takenPrs_called command around taken
  have candidate := clearedOf_subset command around got.kept called.candidate
  obtain ⟨other, listed, same, green⟩ := candidatesOf_green command candidate
  exact sound.records pr taken other (got.triageRecords_eq command around ▸ listed) same green

theorem sweep_green (sound : CallsAreSound command around) (taken : pr ∈ takenPrs command around) :
    CalledGreen command around (mergeCommandOf command pr) := by
  obtain ⟨ready, classified, -, got, called⟩ := takenPrs_called command around taken
  have candidate := clearedOf_subset command around got.kept called.candidate
  exact ⟨ready.inventory, classified, pr, inventoried_ok command around got.taken,
    classifiedOf_ok command around got.triaged, recordsWith_subset _ _ _ candidate, rfl,
    sound.green command around taken, rfl⟩

theorem sweep_known (taken : pr ∈ takenPrs command around) :
    ∃ inventory record, around.inventory (reposFilter command) = .ok inventory ∧
      FactsKnown around inventory (sweep command around).did (mergeCommandOf command pr)
        record := by
  obtain ⟨ready, classified, found, got, called⟩ := takenPrs_called command around taken
  obtain ⟨record, recorded, isReady, reviewed, clean, passed⟩ := called.known
  refine ⟨ready.inventory, record, inventoried_ok command around got.taken, recorded, isReady,
    reviewed, clean, passed, ?_⟩
  rw [armReadBack_told, sweep_attestations, attestedPrs, found]
  simp only [if_pos called.reached]
  exact List.mem_filterMap.mpr ⟨_, called.attested, rfl⟩

theorem countP_merge (log : List Entry) :
    (log.countP fun entry => entry.kind == .merge) = (toldIn Telling.mergeCall log).length := by
  unfold toldIn
  rw [List.length_filterMap_eq_countP]
  refine List.countP_congr fun entry _ => ?_
  cases entry with
  | ledger event =>
    by_cases merged : event.conclusion = some .merged
    · simp [Entry.kind, Entry.tells, merged, Telling.mergeCall]
    · simp [Entry.kind, Entry.tells, merged]
  | _ => simp [Entry.kind, Entry.tells, Telling.mergeCall]

theorem not_mutation {kind : EntryKind} (observes : kind ∈ [EntryKind.record, .verification]) :
    kind ∉ mutationKinds := by
  cases kind with
  | record => decide
  | verification => decide
  | _ => simp at observes

theorem CallsAreSound.staysInside (sound : CallsAreSound command around) :
    StaysInside command around (sweep command around).did := by
  constructor
  · intro observing entry done
    exact not_mutation (sweep_observing command around observing entry done)
  · intro fixOnly entry done
    have kind := sweep_fixOnly command around fixOnly entry done
    intro merge
    simp [merge] at kind
  · intro mergeOnly entry done
    have kind := sweep_mergeOnly command around mergeOnly entry done
    intro fix
    simp [fix] at kind
  · intro outage entry done
    exact not_mutation (sweep_outage command around outage entry done)
  · intro mergeCommand answer called
    obtain ⟨pr, taken, rfl⟩ := merge_taken command around called
    obtain ⟨ready, classified, -, -, called⟩ := takenPrs_called command around taken
    exact called.enforced
  · intro mergeCommand answer called
    obtain ⟨pr, taken, rfl⟩ := merge_taken command around called
    exact sweep_green command around sound taken
  · intro mergeCommand answer called
    obtain ⟨pr, taken, rfl⟩ := merge_taken command around called
    exact sweep_known command around taken
  · intro verify mergeCommand answer called
    obtain ⟨pr, taken, rfl⟩ := merge_taken command around called
    constructor
    · obtain ⟨verification, isVerified, key⟩ := takenPrs_verified command around verify taken
      exact ⟨verification, (verified_iff command around).mpr isVerified, key⟩
    · intro verification logged key
      have isVerified := (verified_iff command around).mp logged
      exact shouldBlock_eq_false.mp (sound.clear pr taken verification isVerified key)
  · rw [countP_merge, sweep_mergeCalls, List.length_map, List.length_zipIdx]
    exact takenPrs_length command around

theorem EnumPrCategory.value_green {category : EnumPrCategory}
    (green : category.value = EnumPrCategory.green.value) : category = .green := by
  cases category with
  | green => rfl
  | _ => simp [EnumPrCategory.value] at green

theorem verifications_verify (isVerified : verification ∈ verifications command around) :
    command.verify = true := by
  unfold verifications at isVerified
  split at isVerified
  · cases isVerified
  · split at isVerified
    · cases isVerified
    · unfold verificationsAfter at isVerified
      split at isVerified
      · cases isVerified
      · unfold verificationsOf at isVerified
        split at isVerified
        · rename_i verifying
          have all := verifying.1
          unfold verifies at all
          simp only [Bool.and_eq_true] at all
          exact all.1.1
        · cases isVerified

theorem StaysInside.callsAreSound (inside : StaysInside command around (sweep command around).did) :
    CallsAreSound command around := by
  constructor
  · intro pr taken _ _ _ _
    obtain ⟨answer, called⟩ := taken_merge command around taken
    obtain ⟨inventory, classified, record, -, -, -, -, green, verdict⟩ :=
      inside.green _ _ called
    rw [green] at verdict
    exact EnumPrCategory.value_green verdict
  · intro pr taken verification isVerified key
    obtain ⟨answer, called⟩ := taken_merge command around taken
    have verify := verifications_verify command around isVerified
    refine shouldBlock_eq_false.mpr ?_
    exact (inside.verified verify _ _ called).2 verification
      ((verified_iff command around).mpr isVerified) key

theorem CallsAreSound.of_distinct
    (distinct : ((triageRecords command around).map TriageRecord.key).Nodup) :
    CallsAreSound command around := by
  constructor
  · intro pr taken other listed same green
    obtain ⟨ready, classified, -, got, called⟩ := takenPrs_called command around taken
    have candidate := clearedOf_subset command around got.kept called.candidate
    rw [got.triageRecords_eq command around] at distinct listed
    rwa [← List.inj_on_of_nodup_map distinct listed (recordsWith_subset _ _ _ candidate) same]
  · intro pr taken verification isVerified key
    obtain ⟨ready, classified, -, got, called⟩ := takenPrs_called command around taken
    rw [got.triageRecords_eq command around] at distinct
    unfold verifications verificationsAfter verificationsOf at isVerified
    simp only [got.taken, got.live.2, Bool.false_eq_true, if_false, got.triaged] at isVerified
    split at isVerified
    · next verifying =>
      have kept := got.kept
      unfold clearedOf at kept
      rw [if_pos verifying.1, verifying.2] at kept
      have candidate := called.candidate
      rw [← Except.ok.inj kept] at candidate
      obtain ⟨⟨_, position⟩, passed, rfl⟩ := List.mem_map.mp candidate
      obtain ⟨atTurn, clears⟩ := List.mem_filter.mp passed
      obtain ⟨⟨other, position'⟩, atTurn', rfl⟩ := List.mem_map.mp isVerified
      rw [verificationAt, verificationOf_key] at key
      rw [List.mem_zipIdx_iff_getElem?] at atTurn atTurn'
      have turns : ((candidatesOf command classified).map TriageRecord.key)[position']? =
          ((candidatesOf command classified).map TriageRecord.key)[position]? := by
        rw [List.getElem?_map, List.getElem?_map, atTurn, atTurn']
        exact congrArg some key
      have inside : position' < ((candidatesOf command classified).map TriageRecord.key).length := by
        rw [List.length_map]
        exact (List.getElem?_eq_some_iff.mp atTurn').1
      obtain rfl := (List.getElem?_inj inside (candidatesOf_nodup command distinct)).mp turns
      obtain rfl := Option.some.inj (atTurn'.symm.trans atTurn)
      simpa using clears
    · cases isVerified

/-- A pass stays inside its envelope if and only if no record that it calls the merge handler for
shares its repository and number with a record that is green where it is not, or with a
verification that blocks. -/
theorem staysInside_iff :
    StaysInside command around (sweep command around).did ↔ CallsAreSound command around :=
  ⟨StaysInside.callsAreSound command around, CallsAreSound.staysInside command around⟩

end Envelope

/-! ## A repository named twice -/

/-- A command that names a repository twice and asks for verification. -/
def repeatedCommand : ModelPrLifecycleStartCommand where
  correlationId := "00000000-0000-0000-0000-000000000001"
  runId := "run-1"
  repos := "acme/app,acme/app"
  verify := true
  actionMode := .enforce
  mergeQueueMutationKillSwitch := false

/-- The inventory has the PR twice; its first verification passes, the others fail. -/
def repeatedSurroundings : Surroundings :=
  { calmSurroundings with
    inventory _ := .ok { prs := [greenRecord, greenRecord], totalCollected := 2 }
    listChangedFiles _ _ := some ["migrations/0001.sql"]
    verify turn _ := .ok (if turn = 0 then .merged else .verificationFailed) }

/-- The PR is merged although verifications of it failed. -/
theorem failed_verification_merges : ¬ StaysInside repeatedCommand repeatedSurroundings
      (sweep repeatedCommand repeatedSurroundings).did := by
  intro inside
  have clears := (inside.callsAreSound repeatedCommand repeatedSurroundings).clear
    { prNumber := 7, repo := "acme/app", category := .green, ticketIds := ["OMN-1"] }
    (by decide +kernel) ⟨"acme/app", 7, .dbMigrationCheck, false, .verificationFailed⟩
    (by decide +kernel) rfl
  exact absurd clears (by decide)

end OmniMarket.PrSweep
