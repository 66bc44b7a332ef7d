import OmniMarket.HeadFreeze.Ledger
import OmniMarket.Lib.Trace

/-!
# When the ledger follows the calls

The active freeze of a PR, the records, the superseded keys and the supersessions are determined by
the tuples that were frozen, as long as no two of them have texts that differ only in where the
delimiters of the key stand.
-/

namespace OmniMarket.HeadFreeze

open Trace PyText

variable {unicode : UnicodeTable} {generateFingerprint : String → String → String → String}
  {pr : String × ℕ}

/-! ## What the calls froze -/

def lastFrozen (frozen : List (ModelFrozenTuple unicode)) (pr : String × ℕ) :
    Option (ModelFrozenTuple unicode) :=
  (frozen.filter fun tuple => tuple.pr = pr).getLast?

/-- The move of a PR from one tuple to another that a further freeze makes. -/
def moveOf (earlier : List (ModelFrozenTuple unicode)) (tuple : ModelFrozenTuple unicode) :
    List (ModelFrozenTuple unicode × ModelFrozenTuple unicode) :=
  match lastFrozen earlier tuple.pr with
  | none => []
  | some old => if old = tuple then [] else [(old, tuple)]

def movesAfter (earlier : List (ModelFrozenTuple unicode)) :
    List (ModelFrozenTuple unicode) → List (ModelFrozenTuple unicode × ModelFrozenTuple unicode)
  | [] => []
  | tuple :: rest => moveOf earlier tuple ++ movesAfter (earlier ++ [tuple]) rest

theorem lastFrozen_snoc_own (frozen : List (ModelFrozenTuple unicode))
    (tuple : ModelFrozenTuple unicode) : lastFrozen (frozen ++ [tuple]) tuple.pr = some tuple := by
  simp [lastFrozen, List.filter_append]

variable {tuple : ModelFrozenTuple unicode}

theorem lastFrozen_snoc_other {frozen : List (ModelFrozenTuple unicode)} (other : tuple.pr ≠ pr) :
    lastFrozen (frozen ++ [tuple]) pr = lastFrozen frozen pr := by
  simp [lastFrozen, List.filter_append, other]

theorem lastFrozen_pr {frozen : List (ModelFrozenTuple unicode)}
    (last : lastFrozen frozen pr = some tuple) : tuple.pr = pr :=
  of_decide_eq_true (List.mem_filter.1 (List.mem_of_getLast? last)).2

theorem movesAfter_snoc (earlier frozen : List (ModelFrozenTuple unicode))
    (tuple : ModelFrozenTuple unicode) :
    movesAfter earlier (frozen ++ [tuple]) =
      movesAfter earlier frozen ++ moveOf (earlier ++ frozen) tuple := by
  induction frozen generalizing earlier with
  | nil => simp [movesAfter]
  | cons head rest ih =>
    simp only [List.cons_append, movesAfter, ih, List.append_assoc, List.nil_append]

/-! ## The ledger and what was frozen -/

structure Sound (generateFingerprint : String → String → String → String)
    (frozen : List (ModelFrozenTuple unicode)) (ledger : FreezeLedger unicode) : Prop where
  keyed : ∀ freezeId record, ledger.records.get? freezeId = some record →
    record.frozenTuple.freezeId generateFingerprint = freezeId
  recorded : ∀ tuple, tuple ∈ frozen ↔ ∃ record,
    ledger.records.get? (tuple.freezeId generateFingerprint) = some record ∧
      record.frozenTuple = tuple
  active : ∀ pr, (ledger.active.get? pr).map (·.frozenTuple) = lastFrozen frozen pr
  held : ∀ pr record, ledger.active.get? pr = some record →
    ledger.records.get? (record.frozenTuple.freezeId generateFingerprint) = some record
  superseded : ∀ freezeId, freezeId ∈ ledger.supersededIds ↔ ∃ record,
    ledger.records.get? freezeId = some record ∧
      ledger.active.get? record.frozenTuple.pr ≠ some record
  supersessions : ledger.supersessions.map (fun supersession =>
    (supersession.supersededTuple, supersession.newTuple)) = movesAfter [] frozen

theorem sound_start : Sound generateFingerprint [] ({} : FreezeLedger unicode) where
  keyed _ _ held := by cases held
  recorded _ := by simp
  active _ := rfl
  held _ _ held := by cases held
  superseded _ := by simp
  supersessions := rfl

variable {frozen : List (ModelFrozenTuple unicode)} {ledger after : FreezeLedger unicode}
  {call : FreezeCall unicode}

variable {record : ModelHeadFreezeRecord unicode}

theorem Sound.active_pr (sound : Sound generateFingerprint frozen ledger)
    (held : ledger.active.get? pr = some record) :
    lastFrozen frozen pr = some record.frozenTuple ∧ record.frozenTuple.pr = pr := by
  have last : lastFrozen frozen pr = some record.frozenTuple := by
    rw [← sound.active, held, Option.map_some]
  exact ⟨last, lastFrozen_pr last⟩

theorem Sound.distinct (sound : Sound generateFingerprint frozen ledger)
    {first second : ModelFrozenTuple unicode} (listed : first ∈ frozen) (listed' : second ∈ frozen)
    (same : first.freezeId generateFingerprint = second.freezeId generateFingerprint) :
    first = second := by
  obtain ⟨record, held, own⟩ := (sound.recorded first).1 listed
  obtain ⟨record', held', own'⟩ := (sound.recorded second).1 listed'
  rw [same, held'] at held
  obtain ⟨rfl⟩ := Option.some.inj held
  exact own.symm.trans own'

/-- What a call that is not refused and not a replay leaves, whether its key was known or not. -/
structure Refrozen (generateFingerprint : String → String → String → String)
    (frozen : List (ModelFrozenTuple unicode)) (ledger : FreezeLedger unicode)
    (tuple : ModelFrozenTuple unicode) (record : ModelHeadFreezeRecord unicode)
    (after : FreezeLedger unicode) : Prop where
  pinned : record.frozenTuple = tuple
  known : ∀ other, ledger.records.get? (tuple.freezeId generateFingerprint) = some other →
    other = record
  records : ∀ freezeId, after.records.get? freezeId =
    if freezeId = tuple.freezeId generateFingerprint then some record
    else ledger.records.get? freezeId
  active : after.active = ledger.active.set tuple.pr record
  superseded : ∀ freezeId, freezeId ∈ after.supersededIds ↔
    freezeId ≠ tuple.freezeId generateFingerprint ∧ (freezeId ∈ ledger.supersededIds ∨
      ∃ old, ledger.active.get? tuple.pr = some old ∧
        old.frozenTuple.freezeId generateFingerprint = freezeId)
  supersessions : after.supersessions.map (fun supersession =>
      (supersession.supersededTuple, supersession.newTuple)) =
    ledger.supersessions.map (fun supersession =>
      (supersession.supersededTuple, supersession.newTuple)) ++ moveOf frozen tuple

variable {ready : FreezeLedger unicode}

theorem superseded_of_ready (prepared : ledger.Ready generateFingerprint call ready)
    (freezeId : String) :
    freezeId ∈ ready.supersededIds ↔ freezeId ∈ ledger.supersededIds ∨
      ∃ old, ledger.active.get? call.frozenTuple.pr = some old ∧
        old.frozenTuple.freezeId generateFingerprint = freezeId := by
  cases prepared with
  | first inactive => simp [inactive]
  | moved held differs stamped key tuples =>
    simp only [FreezeLedger.supersede, Finset.mem_insert, held, key, Option.some.injEq,
      exists_eq_left']
    exact or_comm.trans (or_congr Iff.rfl eq_comm)

section

variable (sound : Sound generateFingerprint frozen ledger)
  (prepared : ledger.Ready generateFingerprint call ready)

include sound prepared

theorem supersessions_of_ready :
    ready.supersessions.map (fun supersession =>
        (supersession.supersededTuple, supersession.newTuple)) =
      ledger.supersessions.map (fun supersession =>
        (supersession.supersededTuple, supersession.newTuple)) ++
          moveOf frozen call.frozenTuple := by
  cases prepared with
  | first inactive =>
    have last : lastFrozen frozen call.frozenTuple.pr = none := by
      rw [← sound.active, inactive, Option.map_none]
    simp [moveOf, last]
  | moved held differs stamped key tuples =>
    have last := (sound.active_pr held).1
    simp [moveOf, last, differs, FreezeLedger.supersede, tuples]

theorem refrozen_revived {existing : ModelHeadFreezeRecord unicode}
    (known : ledger.records.get? (call.frozenTuple.freezeId generateFingerprint) = some existing)
    (pinned : existing.frozenTuple = call.frozenTuple) :
    Refrozen generateFingerprint frozen ledger call.frozenTuple existing
      (ready.revive call.frozenTuple.pr (call.frozenTuple.freezeId generateFingerprint) existing) where
  pinned := pinned
  known other held := Option.some.inj (held.symm.trans known)
  records freezeId := by
    show ready.records.get? freezeId = _
    rw [prepared.records]
    split
    · next same => rw [same, known]
    · rfl
  active := by rw [← prepared.active]; rfl
  superseded freezeId := by
    show freezeId ∈ ready.supersededIds.erase _ ↔ _
    rw [Finset.mem_erase, superseded_of_ready prepared]
  supersessions := by rw [← supersessions_of_ready sound prepared]; rfl

theorem refrozen_entered
    (unknown : ledger.records.get? (call.frozenTuple.freezeId generateFingerprint) = none)
    (pinned : record.frozenTuple = call.frozenTuple) :
    Refrozen generateFingerprint frozen ledger call.frozenTuple record
      (ready.enter call.frozenTuple.pr (call.frozenTuple.freezeId generateFingerprint) record) where
  pinned := pinned
  known other held := by
    rw [unknown] at held
    cases held
  records freezeId := by
    show (ready.records.set _ record).get? freezeId = _
    split
    · next same => rw [same, OrderedDict.get?_set_self]
    · next differs => rw [OrderedDict.get?_set_other differs, prepared.records]
  active := by rw [← prepared.active]; rfl
  superseded freezeId := by
    show freezeId ∈ ready.supersededIds ↔ _
    rw [superseded_of_ready prepared]
    refine ⟨fun retired => ⟨?_, retired⟩, And.right⟩
    -- a key that is not known was never superseded
    rintro rfl
    rcases retired with listed | ⟨old, held, same⟩
    · obtain ⟨record, known, -⟩ := (sound.superseded _).1 listed
      rw [unknown] at known
      cases known
    · have known := sound.held _ _ held
      rw [same, unknown] at known
      cases known
  supersessions := by rw [← supersessions_of_ready sound prepared]; rfl

end

section

variable (sound : Sound generateFingerprint frozen ledger)
  (effect : Refrozen generateFingerprint frozen ledger tuple record after)

include sound effect

theorem supersededOthers {freezeId : String}
    (other : freezeId ≠ tuple.freezeId generateFingerprint) :
    (freezeId ∈ ledger.supersededIds ∨ ∃ old, ledger.active.get? tuple.pr = some old ∧
        old.frozenTuple.freezeId generateFingerprint = freezeId) ↔
      ∃ found, ledger.records.get? freezeId = some found ∧
        (ledger.active.set tuple.pr record).get? found.frozenTuple.pr ≠ some found := by
  have replaced {found : ModelHeadFreezeRecord unicode}
      (known : ledger.records.get? freezeId = some found) : record ≠ found := by
    rintro rfl
    exact other (by rw [← sound.keyed _ _ known, effect.pinned])
  constructor
  · rintro (listed | ⟨old, held, rfl⟩)
    · obtain ⟨found, known, inactive⟩ := (sound.superseded _).1 listed
      refine ⟨found, known, ?_⟩
      by_cases own : found.frozenTuple.pr = tuple.pr
      · rw [own, OrderedDict.get?_set_self]
        exact fun same => replaced known (Option.some.inj same)
      · rwa [OrderedDict.get?_set_other own]
    · have known := sound.held _ _ held
      refine ⟨old, known, ?_⟩
      rw [(sound.active_pr held).2, OrderedDict.get?_set_self]
      exact fun same => replaced known (Option.some.inj same)
  · rintro ⟨found, known, inactive⟩
    by_cases current : ledger.active.get? found.frozenTuple.pr = some found
    · by_cases own : found.frozenTuple.pr = tuple.pr
      · exact .inr ⟨found, own ▸ current, sound.keyed _ _ known⟩
      · rw [OrderedDict.get?_set_other own] at inactive
        exact absurd current inactive
    · exact .inl ((sound.superseded _).2 ⟨found, known, current⟩)

theorem Sound.refrozen :
    Sound generateFingerprint (frozen ++ [tuple]) after where
  keyed freezeId found held := by
    rw [effect.records] at held
    split at held
    · next same =>
      obtain ⟨rfl⟩ := Option.some.inj held
      rw [effect.pinned, same]
    · exact sound.keyed _ _ held
  recorded other := by
    rw [List.mem_append, List.mem_singleton, effect.records, sound.recorded]
    split
    · next same =>
      simp only [Option.some.injEq, exists_eq_left', effect.pinned]
      constructor
      · rintro (⟨found, held, rfl⟩ | rfl)
        · rw [same] at held
          obtain ⟨rfl⟩ := effect.known _ held
          exact effect.pinned.symm
        · rfl
      · rintro rfl
        exact .inr rfl
    · next differs =>
      have other_tuple : other ≠ tuple := fun same => differs (same ▸ rfl)
      simp [other_tuple]
  active pr := by
    rw [effect.active]
    by_cases own : pr = tuple.pr
    · rw [own, OrderedDict.get?_set_self, lastFrozen_snoc_own, Option.map_some, effect.pinned]
    · rw [OrderedDict.get?_set_other own, lastFrozen_snoc_other (Ne.symm own), sound.active]
  held pr found active := by
    rw [effect.active] at active
    rw [effect.records]
    by_cases own : pr = tuple.pr
    · rw [own, OrderedDict.get?_set_self] at active
      obtain ⟨rfl⟩ := Option.some.inj active
      rw [if_pos (by rw [effect.pinned])]
    · rw [OrderedDict.get?_set_other own] at active
      have known := sound.held _ _ active
      split
      · next same =>
        rw [same] at known
        rw [effect.known _ known]
      · exact known
  superseded freezeId := by
    rw [effect.superseded, effect.records, effect.active]
    by_cases own : freezeId = tuple.freezeId generateFingerprint
    · simp [own, effect.pinned]
    · rw [if_neg own]
      refine Iff.trans ?_ (supersededOthers sound effect own)
      simp [own]
  supersessions := by
    rw [effect.supersessions, movesAfter_snoc, sound.supersessions, List.nil_append]

end

/-! ## Runs -/

abbrev Freezing (unicode : UnicodeTable) :=
  Transition (FreezeLedger unicode) (FreezeCall unicode)
    (Except FreezeError (ModelHeadFreezeRecord unicode))

/-- The tuple that a transition froze. -/
def frozenBy (freezing : Freezing unicode) : Option (ModelFrozenTuple unicode) :=
  match freezing.output with
  | .ok _ => some freezing.event.frozenTuple
  | .error _ => none

def frozenTuples (past : List (Freezing unicode)) : List (ModelFrozenTuple unicode) :=
  past.filterMap frozenBy

/-- The ledger after a run is what the calls that were not refused make it. -/
structure Exact (generateFingerprint : String → String → String → String)
    (past : List (Freezing unicode)) (ledger : FreezeLedger unicode) : Prop where
  active : ∀ repo prNumber, (ledger.activeFor repo prNumber).map (·.frozenTuple) =
    lastFrozen (frozenTuples past) (repo, prNumber)
  oneRecord : (ledger.records.values.map (·.frozenTuple)).Perm (frozenTuples past).dedup
  distinctIds : ∀ first ∈ frozenTuples past, ∀ second ∈ frozenTuples past,
    first.freezeId generateFingerprint = second.freezeId generateFingerprint → first = second
  superseded : ∀ freezeId, ledger.isSuperseded freezeId = true ↔
    ∃ record ∈ ledger.records.values,
      record.frozenTuple.freezeId generateFingerprint = freezeId ∧
        ledger.activeFor record.frozenTuple.repo record.frozenTuple.prNumber ≠ some record
  supersessions : ledger.supersessions.map (fun supersession =>
    (supersession.supersededTuple, supersession.newTuple)) = movesAfter [] (frozenTuples past)
  refused : ∀ freezing ∈ past, ∀ raised, freezing.output = .error raised →
    freezing.after = freezing.before

def Confuses (ledger : FreezeLedger unicode) (call : FreezeCall unicode) : Prop :=
  productOutcomeIsFreezeEligible call.productOutcome = true ∧
    (call.Stamped ∨ ledger.active.get? call.frozenTuple.pr = none) ∧
      ∃ record ∈ ledger.records.values, record.frozenTuple ≠ call.frozenTuple ∧
        record.frozenTuple.SameTexts call.frozenTuple

theorem Sound.oneRecord (sound : Sound generateFingerprint frozen ledger) :
    (ledger.records.values.map (·.frozenTuple)).Perm frozen.dedup := by
  have keys : ledger.records.keys =
      ledger.records.values.map fun record => record.frozenTuple.freezeId generateFingerprint := by
    rw [OrderedDict.keys, OrderedDict.values, List.map_map]
    refine List.map_congr_left ?_
    intro entry listed
    exact (sound.keyed _ _ (OrderedDict.mem_entries.1 listed)).symm
  have distinct : (ledger.records.values.map (·.frozenTuple)).Nodup := by
    have nodup : ledger.records.keys.Nodup := ledger.records.nodup
    rw [keys] at nodup
    refine List.Nodup.of_map (ModelFrozenTuple.freezeId generateFingerprint) ?_
    rwa [List.map_map]
  refine (List.perm_ext_iff_of_nodup distinct (List.nodup_dedup _)).2 ?_
  intro tuple
  rw [List.mem_dedup, sound.recorded]
  constructor
  · intro listed
    obtain ⟨record, among, rfl⟩ := List.mem_map.1 listed
    obtain ⟨freezeId, held⟩ := OrderedDict.mem_values.1 among
    have key := sound.keyed _ _ held
    exact ⟨record, by rw [key, held], rfl⟩
  · rintro ⟨record, held, rfl⟩
    exact List.mem_map.2 ⟨record, OrderedDict.mem_values.2 ⟨_, held⟩, rfl⟩

variable {past : List (Freezing unicode)}

theorem Sound.exact (sound : Sound generateFingerprint (frozenTuples past) ledger)
    (refused : ∀ freezing ∈ past, ∀ raised, freezing.output = .error raised →
      freezing.after = freezing.before) : Exact generateFingerprint past ledger where
  active repo prNumber := sound.active (repo, prNumber)
  oneRecord := sound.oneRecord
  distinctIds _ listed _ listed' same := sound.distinct listed listed' same
  superseded freezeId := by
    rw [FreezeLedger.isSuperseded, decide_eq_true_eq, sound.superseded]
    constructor
    · rintro ⟨record, held, inactive⟩
      exact ⟨record, OrderedDict.mem_values.2 ⟨_, held⟩, sound.keyed _ _ held, inactive⟩
    · rintro ⟨record, among, key, inactive⟩
      obtain ⟨other, held⟩ := OrderedDict.mem_values.1 among
      have same := sound.keyed _ _ held
      exact ⟨record, by rw [← key, same, held], inactive⟩
  supersessions := sound.supersessions
  refused := refused

theorem refrozen_replayed {active : ModelHeadFreezeRecord unicode}
    (sound : Sound generateFingerprint frozen ledger)
    (held : ledger.active.get? tuple.pr = some active) (same : active.frozenTuple = tuple) :
    Refrozen generateFingerprint frozen ledger tuple active ledger where
  pinned := same
  known other known := by
    have recorded := sound.held _ _ held
    rw [same] at recorded
    exact Option.some.inj (known.symm.trans recorded)
  records freezeId := by
    split
    · next key =>
      rw [key, ← same]
      exact sound.held _ _ held
    · rfl
  active := (OrderedDict.set_get? held).symm
  superseded freezeId := by
    simp only [held, Option.some.injEq, exists_eq_left', same]
    constructor
    · intro listed
      refine ⟨?_, .inl listed⟩
      rintro rfl
      obtain ⟨record, known, inactive⟩ := (sound.superseded _).1 listed
      have recorded := sound.held _ _ held
      rw [same, known] at recorded
      obtain ⟨rfl⟩ := Option.some.inj recorded
      rw [same] at inactive
      exact inactive held
    · rintro ⟨other, listed | key⟩
      · exact listed
      · exact absurd key.symm other
  supersessions := by
    rw [moveOf, (sound.active_pr held).1]
    simp [same]

section

variable (ascii : ∀ c, c.toNat < 128 → unicode.isDecimal c = c.isDigit)
  (injective : ∀ space locus symbol locus' symbol',
    generateFingerprint space locus symbol = generateFingerprint space locus' symbol' →
      locus = locus' ∧ symbol = symbol')

include ascii injective

theorem sound_step (sound : Sound generateFingerprint frozen ledger)
    (clear : ¬ Confuses ledger call) : Sound generateFingerprint
      (frozen ++ (frozenBy ⟨ledger, call, (freeze generateFingerprint ledger call).2,
        (freeze generateFingerprint ledger call).1⟩).toList)
      (freeze generateFingerprint ledger call).1 := by
  have ends := freeze_cases generateFingerprint ledger call
  generalize freeze generateFingerprint ledger call = stepped at ends ⊢
  obtain ⟨after, output⟩ := stepped
  dsimp only at ends ⊢
  cases ends with
  | refused raised =>
    rw [frozenBy, Option.toList_none, List.append_nil]
    exact sound
  | replayed held same => exact sound.refrozen (refrozen_replayed sound held same)
  | @revived ready existing green prepared known =>
    have pinned : existing.frozenTuple = call.frozenTuple := by
      by_contra other
      have texts := (freezeId_eq_iff ascii injective).1 (sound.keyed _ _ known)
      refine clear ⟨green, ?_, existing, OrderedDict.mem_values.2 ⟨_, known⟩, other, texts⟩
      cases prepared with
      | first inactive => exact .inr inactive
      | moved held differs stamped key tuples => exact .inl stamped
    exact sound.refrozen (refrozen_revived sound prepared known pinned)
  | entered prepared unknown pinned =>
    exact sound.refrozen (refrozen_entered sound prepared unknown pinned)

def SoundAfter (generateFingerprint : String → String → String → String)
    (calls : List (FreezeCall unicode)) (ledger : FreezeLedger unicode) : Prop :=
  Sound generateFingerprint (frozenTuples (run (freeze generateFingerprint) {} calls)) ledger

theorem sound_final (calls : List (FreezeCall unicode))
    (clear : ∀ freezing ∈ run (freeze generateFingerprint) {} calls,
      ¬ Confuses freezing.before freezing.event)
    {earlier later : List (FreezeCall unicode)} (split : calls = earlier ++ later) :
    SoundAfter generateFingerprint earlier (final (freeze generateFingerprint) {} earlier) := by
  have start : SoundAfter generateFingerprint [] ({} : FreezeLedger unicode) := sound_start
  refine run_history start ?_ split
  intro before call after here sound
  have next := sound_step ascii injective sound (clear _ (mem_run here))
  rwa [SoundAfter, run_append, frozenTuples, List.filterMap_append, ← frozenTuples]

end

theorem refused_unchanged (calls : List (FreezeCall unicode)) :
    ∀ freezing ∈ run (freeze generateFingerprint) {} calls, ∀ raised,
      freezing.output = .error raised → freezing.after = freezing.before := by
  rintro ⟨before, call, output, after⟩ taken raised rfl
  have stepped := run_steps taken
  have ends := freeze_cases generateFingerprint before call
  rw [stepped] at ends
  dsimp only at ends
  cases ends
  rfl

def Keyed (generateFingerprint : String → String → String → String)
    (_ : List (FreezeCall unicode)) (ledger : FreezeLedger unicode) : Prop :=
  ∀ freezeId record, ledger.records.get? freezeId = some record →
    record.frozenTuple.freezeId generateFingerprint = freezeId

theorem records_keyed (calls : List (FreezeCall unicode)) {freezeId : String}
    (held : (final (freeze generateFingerprint) {} calls).records.get? freezeId = some record) :
    record.frozenTuple.freezeId generateFingerprint = freezeId := by
  suffices keyed : Keyed generateFingerprint calls (final (freeze generateFingerprint) {} calls) from
    keyed _ _ held
  have start : Keyed generateFingerprint [] ({} : FreezeLedger unicode) := by
    intro freezeId record held
    cases held
  refine run_history start ?_ (List.append_nil calls).symm
  · intro earlier call _ _ keyed
    have ends := freeze_cases generateFingerprint
      (final (freeze generateFingerprint) {} earlier) call
    generalize freeze generateFingerprint (final (freeze generateFingerprint) {} earlier) call =
      stepped at ends ⊢
    obtain ⟨after, output⟩ := stepped
    dsimp only at ends ⊢
    cases ends with
    | refused raised => exact keyed
    | replayed held same => exact keyed
    | @revived ready existing green prepared known =>
      intro freezeId record held
      exact keyed _ _ (prepared.records ▸ held)
    | @entered ready entry prepared unknown pinned =>
      intro freezeId record held
      replace held : (ready.records.set _ entry).get? freezeId = some record := held
      by_cases own : freezeId = call.frozenTuple.freezeId generateFingerprint
      · rw [own, OrderedDict.get?_set_self] at held
        obtain ⟨rfl⟩ := Option.some.inj held
        rw [own, pinned]
      · rw [OrderedDict.get?_set_other own, prepared.records] at held
        exact keyed _ _ held

theorem confusing_accepted (ascii : ∀ c, c.toNat < 128 → unicode.isDecimal c = c.isDigit)
    (injective : ∀ space locus symbol locus' symbol',
      generateFingerprint space locus symbol = generateFingerprint space locus' symbol' →
        locus = locus' ∧ symbol = symbol')
    (shown : ∀ space locus symbol, stripString (generateFingerprint space locus symbol) ≠ "")
    (exact : Exact generateFingerprint past ledger)
    (keyed : ∀ freezeId record, ledger.records.get? freezeId = some record →
      record.frozenTuple.freezeId generateFingerprint = freezeId)
    (confuses : Confuses ledger call) :
    ∃ record, (freeze generateFingerprint ledger call).2 = .ok record := by
  obtain ⟨green, stamped, record, among, -, texts⟩ := confuses
  refine freeze_accepts (fun tuple => shown _ _ _) ?_ green (stamped.imp_right fun inactive => ?_)
  · intro active held
    have last := exact.active call.frozenTuple.repo call.frozenTuple.prNumber
    have current : ledger.activeFor call.frozenTuple.repo call.frozenTuple.prNumber =
      some active := held
    rw [current] at last
    exact lastFrozen_pr last.symm
  · refine ⟨inactive, ?_⟩
    obtain ⟨freezeId, held⟩ := OrderedDict.mem_values.1 among
    have key := keyed _ _ held
    rw [← (freezeId_eq_iff ascii injective).2 texts, key, held]
    simp

/-- Throughout a run the ledger is exact, if and only if no call confuses. -/
theorem ledger_exact_iff (ascii : ∀ c, c.toNat < 128 → unicode.isDecimal c = c.isDigit)
    (injective : ∀ space locus symbol locus' symbol',
      generateFingerprint space locus symbol = generateFingerprint space locus' symbol' →
        locus = locus' ∧ symbol = symbol')
    (shown : ∀ space locus symbol, stripString (generateFingerprint space locus symbol) ≠ "")
    (calls : List (FreezeCall unicode)) :
    (∀ earlier later, calls = earlier ++ later →
      Exact generateFingerprint (run (freeze generateFingerprint) {} earlier)
        (final (freeze generateFingerprint) {} earlier)) ↔
      ∀ freezing ∈ run (freeze generateFingerprint) {} calls,
        ¬ Confuses freezing.before freezing.event := by
  constructor
  · intro exact freezing taken confuses
    obtain ⟨past, future, taken⟩ := List.append_of_mem taken
    obtain ⟨before, rfl, here⟩ := run_prefix taken
    have calls_eq := congrArg (List.map Transition.event) taken
    rw [run_events, List.map_append, run_events, List.map_cons] at calls_eq
    have exactBefore := exact before _ calls_eq
    have exactAfter := exact (before ++ [freezing.event]) (future.map Transition.event)
      (by rw [calls_eq, List.append_assoc]; rfl)
    rw [here] at confuses
    obtain ⟨minted, accepted⟩ := confusing_accepted ascii injective shown exactBefore
      (fun _ _ held => records_keyed before held) confuses
    obtain ⟨-, -, record, among, other, texts⟩ := confuses
    -- both tuples are frozen now, with one key
    have recorded : record.frozenTuple ∈ frozenTuples (run (freeze generateFingerprint) {} before) :=
      List.mem_dedup.1 (exactBefore.oneRecord.subset (List.mem_map_of_mem among))
    refine other (exactAfter.distinctIds _ ?_ _ ?_ ((freezeId_eq_iff ascii injective).2 texts))
    · rw [run_append, frozenTuples, List.filterMap_append]
      exact List.mem_append_left _ recorded
    · rw [run_append, frozenTuples, List.filterMap_append]
      refine List.mem_append_right _ ?_
      simp [run, frozenBy, accepted]
  · intro clear earlier later split
    exact (sound_final ascii injective calls clear split).exact (refused_unchanged earlier)

/-! ## Sample runs -/

/-- Every character of the locus follows an `x`, and a `y` follows the last one. -/
def sampleFingerprint (space locus symbol : String) : String :=
  space ++ String.ofList (locus.toList.flatMap (fun c => ['x', c]) ++ 'y' :: symbol.toList)

theorem sampleFingerprint_injective (space locus symbol locus' symbol' : String)
    (same : sampleFingerprint space locus symbol = sampleFingerprint space locus' symbol') :
    locus = locus' ∧ symbol = symbol' := by
  have marked (first second tail tail' : List Char)
      (equal : first.flatMap (fun c => ['x', c]) ++ 'y' :: tail =
        second.flatMap (fun c => ['x', c]) ++ 'y' :: tail') : first = second ∧ tail = tail' := by
    induction first generalizing second with
    | nil => cases second <;> simp_all
    | cons c rest ih =>
      cases second with
      | nil => simp at equal
      | cons d others =>
        simp only [List.flatMap_cons, List.cons_append, List.nil_append, List.cons.injEq,
          true_and] at equal
        obtain ⟨rests, tails⟩ := ih others equal.2
        exact ⟨congrArg₂ _ equal.1 rests, tails⟩
  have lists := congrArg String.toList same
  unfold sampleFingerprint at lists
  rw [String.toList_append, String.toList_append, String.toList_ofList, String.toList_ofList] at lists
  obtain ⟨loci, symbols⟩ := marked _ _ _ _ (List.append_cancel_left lists)
  exact ⟨String.toList_inj.1 loci, String.toList_inj.1 symbols⟩

theorem sampleFingerprint_shown (space locus symbol : String) :
    stripString (sampleFingerprint space locus symbol) ≠ "" := by
  intro blank
  have listed : 'y' ∈ (sampleFingerprint space locus symbol).toList := by
    simp [sampleFingerprint]
  refine strip_ne_nil listed (by decide) ?_
  have lists := congrArg String.toList blank
  rwa [stripString, String.toList_ofList] at lists

theorem asciiTable_decimal (c : Char) (_ : c.toNat < 128) : asciiTable.isDecimal c = c.isDigit := rfl

theorem samplePr_pos : 1 ≤ 7 := by decide

def sampleTuple (headSha contractDigest policyDigest : String)
    (longSha : 7 ≤ headSha.length)
    (nonBlank : ∀ text ∈ ["omnimarket", headSha, "dev", contractDigest, policyDigest],
      stripString text ≠ "") : ModelFrozenTuple asciiTable where
  repo := "omnimarket"
  prNumber := 7
  ticketSet := ["OMN-14644"]
  headSha := headSha
  baseRef := "dev"
  contractDigest := contractDigest
  policyDigest := policyDigest
  positive := samplePr_pos
  tickets := ⟨by decide, by decide, by decide⟩
  longSha := longSha
  nonBlank := nonBlank

def sampleCall (tuple : ModelFrozenTuple asciiTable) : FreezeCall asciiTable where
  frozenTuple := tuple
  productOutcome := .productGreen
  superseder := "ci"
  createdAt := ⟨0, some 0⟩

def firstHead : ModelFrozenTuple asciiTable :=
  sampleTuple "aaaaaaa" "sha256:c" "sha256:p" (by decide) (by decide)

def secondHead : ModelFrozenTuple asciiTable :=
  sampleTuple "bbbbbbb" "sha256:c" "sha256:p" (by decide) (by decide)

/-- The texts of the first head with a piece of the contract digest in the policy digest. -/
def shiftedHead : ModelFrozenTuple asciiTable :=
  sampleTuple "aaaaaaa" "sha256" "c:sha256:p" (by decide) (by decide)

/-- A head is frozen, moves on and comes back. -/
def revertedCalls : List (FreezeCall asciiTable) :=
  [sampleCall firstHead, sampleCall secondHead, sampleCall firstHead]

theorem reverted_head_exact :
    Exact sampleFingerprint (run (freeze sampleFingerprint) {} revertedCalls)
      (final (freeze sampleFingerprint) {} revertedCalls) := by
  have pieces : ∀ freezing ∈ run (freeze sampleFingerprint) {} revertedCalls,
      ∀ record ∈ freezing.before.records.values,
        record.frozenTuple.pieces = freezing.event.frozenTuple.pieces →
          record.frozenTuple = freezing.event.frozenTuple := by decide +kernel
  refine (ledger_exact_iff asciiTable_decimal sampleFingerprint_injective sampleFingerprint_shown
    revertedCalls).2 ?_ revertedCalls [] (List.append_nil _).symm
  rintro freezing taken ⟨-, -, record, among, other, texts⟩
  exact other (pieces freezing taken record among texts.pieces)

/-- The second head is frozen, and the record of the first one stays active. -/
theorem shifted_colon_reuses_record :
    firstHead ≠ shiftedHead ∧
      frozenTuples (run (freeze sampleFingerprint) {} [sampleCall firstHead,
        sampleCall shiftedHead]) = [firstHead, shiftedHead] ∧
      ((final (freeze sampleFingerprint) {} [sampleCall firstHead,
        sampleCall shiftedHead]).activeFor "omnimarket" 7).map (·.frozenTuple) = some firstHead ∧
      ¬ Exact sampleFingerprint (run (freeze sampleFingerprint) {} [sampleCall firstHead,
          sampleCall shiftedHead])
        (final (freeze sampleFingerprint) {} [sampleCall firstHead, sampleCall shiftedHead]) := by
  refine ⟨by decide, by decide +kernel, by decide +kernel, ?_⟩
  intro exact
  exact absurd (exact.active "omnimarket" 7) (by decide +kernel)

end OmniMarket.HeadFreeze
