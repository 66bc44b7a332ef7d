import OmniMarket.PrLedger.Folding

/-!
# Events at one time

The fold of a PR's events depends on their order through the provenance, the correlation id of
the first event and the conclusion of the last final event. Two events of a PR at one time may
come in either order, and `TiesAgree` says that none of the three can tell them apart.
-/

namespace OmniMarket.PrLedger

def ModelPrLedgerSourceEvent.concluded (event : ModelPrLedgerSourceEvent) :
    Option EnumPrLedgerConclusion :=
  if event.kind = .finalConclusion then event.conclusion else none

def Tied (first second : ModelPrLedgerSourceEvent) : Prop :=
  first.key = second.key ∧ first.observedAt = second.observedAt

instance : DecidableRel Tied := fun _ _ => inferInstanceAs (Decidable (_ ∧ _))

structure TiesAgree (events : List ModelPrLedgerSourceEvent) : Prop where
  provenance : ∀ first ∈ events, ∀ second ∈ events, Tied first second →
    provenanceOf first = provenanceOf second
  correlation : ∀ first ∈ events, ∀ second ∈ events, Tied first second →
    first.correlationId = second.correlationId ∨
      ∃ earlier ∈ events, earlier.key = first.key ∧
        earlier.observedAt.value < first.observedAt.value
  conclusion : ∀ first ∈ events, ∀ second ∈ events, Tied first second →
    first.concluded = second.concluded ∨ first.concluded = none ∨ second.concluded = none ∨
      ∃ later ∈ events, later.key = first.key ∧ later.concluded ≠ none ∧
        first.observedAt.value < later.observedAt.value

instance : DecidablePred TiesAgree := fun _ =>
  decidable_of_iff _ ⟨fun agree => ⟨agree.1, agree.2.1, agree.2.2⟩, fun agree =>
    And.intro agree.provenance (And.intro agree.correlation agree.conclusion)⟩

def InTime (events : List ModelPrLedgerSourceEvent) : Prop :=
  events.Pairwise fun first second => first.observedAt.value ≤ second.observedAt.value

instance : DecidablePred InTime := fun _ => inferInstanceAs (Decidable (List.Pairwise _ _))

variable {events : List ModelPrLedgerSourceEvent}

theorem TiesAgree.ofKey (agree : TiesAgree events) (key : PrKey) :
    TiesAgree (ofKey events key) where
  provenance := fun first listed second listed' tied =>
    agree.provenance first (mem_ofKey.1 listed).1 second (mem_ofKey.1 listed').1 tied
  correlation := by
    intro first listed second listed' tied
    obtain ⟨present, own⟩ := mem_ofKey.1 listed
    rcases agree.correlation first present second (mem_ofKey.1 listed').1 tied with
      same | ⟨earlier, among, near, before⟩
    · exact .inl same
    · exact .inr ⟨earlier, mem_ofKey.2 ⟨among, near.trans own⟩, near, before⟩
  conclusion := by
    intro first listed second listed' tied
    obtain ⟨present, own⟩ := mem_ofKey.1 listed
    rcases agree.conclusion first present second (mem_ofKey.1 listed').1 tied with
      same | open' | open' | ⟨later, among, near, decided, after⟩
    · exact .inl same
    · exact .inr (.inl open')
    · exact .inr (.inr (.inl open'))
    · exact .inr (.inr (.inr ⟨later, mem_ofKey.2 ⟨among, near.trans own⟩, near, decided, after⟩))

/-! ## What the fold reads -/

def ModelPrLedgerEntry.outline (entry : ModelPrLedgerEntry) : ModelPrLedgerEntry :=
  { entry with correlationId := "", conclusion := .pending }

theorem ModelPrLedgerEntry.outline_ext {first second : ModelPrLedgerEntry}
    (outline : first.outline = second.outline)
    (correlation : first.correlationId = second.correlationId)
    (conclusion : first.conclusion = second.conclusion) : first = second := by
  cases first
  cases second
  simp_all [ModelPrLedgerEntry.outline]

theorem foldEvent_outline {first second : Option ModelPrLedgerEntry}
    {event event' : ModelPrLedgerSourceEvent}
    (held : first.map ModelPrLedgerEntry.outline = second.map ModelPrLedgerEntry.outline)
    (same : provenanceOf event = provenanceOf event') (key : event.key = event'.key)
    (run : event.runId = event'.runId) :
    (foldEvent first event).outline = (foldEvent second event').outline := by
  simp only [provenanceOf, ModelPrLedgerProvenance.mk.injEq] at same
  obtain ⟨kind, workflowRun, mergeGroup, head, action, phase, time⟩ := same
  obtain ⟨repo, number⟩ : event.repo = event'.repo ∧ event.prNumber = event'.prNumber :=
    Prod.mk.inj key
  have base : (baseEntry first event).outline = (baseEntry second event').outline := by
    cases first with
    | none =>
      cases second with
      | none => simp [baseEntry, ModelPrLedgerEntry.outline, run, repo, number, time]
      | some _ => cases held
    | some _ =>
      cases second with
      | none => cases held
      | some _ => exact Option.some.inj held
  simp only [ModelPrLedgerEntry.outline, ModelPrLedgerEntry.mk.injEq] at base
  simp [foldEvent, ModelPrLedgerEntry.outline, provenanceOf, base, kind, workflowRun, mergeGroup,
    head, action, phase, time]

theorem foldAll_outline {first second : List ModelPrLedgerSourceEvent}
    (same : first.map provenanceOf = second.map provenanceOf) {key : PrKey}
    {runId : NonEmptyString} (own : ∀ event ∈ first, event.key = key ∧ event.runId = runId)
    (own' : ∀ event ∈ second, event.key = key ∧ event.runId = runId) :
    (foldAll none first).map ModelPrLedgerEntry.outline =
      (foldAll none second).map ModelPrLedgerEntry.outline := by
  induction first using List.reverseRecOn generalizing second with
  | nil =>
    cases second with
    | nil => rfl
    | cons _ _ => cases same
  | append_singleton before event ih =>
    cases second using List.reverseRecOn with
    | nil => simp at same
    | append_singleton before' event' =>
      rw [List.map_append, List.map_append] at same
      obtain ⟨earlier, last⟩ := List.append_inj' same rfl
      rw [List.forall_mem_append, List.forall_mem_singleton] at own own'
      rw [foldAll_append, foldAll_append]
      refine congrArg some (foldEvent_outline (ih earlier own.1 own'.1) ?_ ?_ ?_)
      · exact (List.cons.inj last).1
      · exact own.2.1.trans own'.2.1.symm
      · exact own.2.2.trans own'.2.2.symm

variable {entry : ModelPrLedgerEntry}

theorem foldAll_correlation (folded : foldAll none events = some entry) :
    ∃ first, events.head? = some first ∧ entry.correlationId = first.correlationId := by
  refine foldAll_induction ?_ folded
  intro before event kept
  cases held : foldAll none before with
  | none =>
    cases foldAll_eq_none held
    exact ⟨event, rfl, rfl⟩
  | some e =>
    obtain ⟨first, heads, id⟩ := kept e held
    refine ⟨first, ?_, id⟩
    rw [List.head?_append, heads]
    rfl

theorem foldAll_conclusion (folded : foldAll none events = some entry) :
    entry.conclusion =
      (events.filterMap ModelPrLedgerSourceEvent.concluded).getLast?.getD .pending := by
  refine foldAll_induction ?_ folded
  intro before event kept
  have held : (baseEntry (foldAll none before) event).conclusion =
      (before.filterMap ModelPrLedgerSourceEvent.concluded).getLast?.getD .pending := by
    cases earlier : foldAll none before with
    | some e => exact kept e earlier
    | none =>
      cases foldAll_eq_none earlier
      rfl
  show (if event.kind = .finalConclusion then event.conclusion.getD _ else _) = _
  rw [List.filterMap_append, held, List.getLast?_append]
  by_cases final : event.kind = .finalConclusion
  · rw [if_pos final]
    cases decided : event.conclusion <;>
      simp [ModelPrLedgerSourceEvent.concluded, final, decided]
  · simp [ModelPrLedgerSourceEvent.concluded, final]

/-! ## Orders in time -/

theorem getLast?_concluded {conclusion : EnumPrLedgerConclusion}
    (last : (events.filterMap ModelPrLedgerSourceEvent.concluded).getLast? = some conclusion)
    (inTime : InTime events) :
    ∃ event ∈ events, event.concluded = some conclusion ∧
      ∀ other ∈ events, other.concluded ≠ none →
        other.observedAt.value ≤ event.observedAt.value := by
  induction events using List.reverseRecOn with
  | nil => cases last
  | append_singleton before event ih =>
    obtain ⟨earlier, -, bound⟩ := List.pairwise_append.1 inTime
    rw [List.filterMap_append, List.getLast?_append] at last
    cases decided : event.concluded with
    | some own =>
      have isOwn : own = conclusion := by simpa [decided] using last
      subst isOwn
      refine ⟨event, List.mem_append_right _ (List.mem_singleton.2 rfl), decided, ?_⟩
      intro other listed _
      rcases List.mem_append.1 listed with among | single
      · exact bound other among event (List.mem_singleton.2 rfl)
      · rw [List.mem_singleton.1 single]
    | none =>
      have kept : (before.filterMap ModelPrLedgerSourceEvent.concluded).getLast? =
          some conclusion := by
        simpa [decided] using last
      obtain ⟨found, among, brings, latest⟩ := ih kept earlier
      refine ⟨found, List.mem_append_left _ among, brings, ?_⟩
      intro other listed brought
      rcases List.mem_append.1 listed with inBefore | single
      · exact latest other inBefore brought
      · rw [List.mem_singleton.1 single] at brought
        exact absurd decided brought

section Orders

variable {first second : List ModelPrLedgerSourceEvent} {key : PrKey} {runId : NonEmptyString}

section

variable (agree : TiesAgree first) (same : first.Perm second) (inTime : InTime first)
  (inTime' : InTime second)

include agree same inTime inTime'

section

variable (own : ∀ event ∈ first, event.key = key)

include own

theorem provenance_ties : first.map provenanceOf = second.map provenanceOf := by
  have sorted : (first.map provenanceOf).Pairwise fun a b =>
      a.observedAt.value ≤ b.observedAt.value := List.pairwise_map.2 inTime
  have sorted' : (second.map provenanceOf).Pairwise fun a b =>
      a.observedAt.value ≤ b.observedAt.value := List.pairwise_map.2 inTime'
  refine List.Perm.eq_of_pairwise ?_ sorted sorted' (same.map provenanceOf)
  intro a b listed listed' below above
  obtain ⟨event, present, rfl⟩ := List.mem_map.1 listed
  obtain ⟨event', present', rfl⟩ := List.mem_map.1 listed'
  have among : event' ∈ first := same.symm.subset present'
  have atOnce : event.observedAt = event'.observedAt := NonEmptyString.ext (le_antisymm below above)
  exact agree.provenance event present event' among
    ⟨(own event present).trans (own event' among).symm, atOnce⟩

theorem correlation_ties {head head' : ModelPrLedgerSourceEvent} (heads : first.head? = some head)
    (heads' : second.head? = some head') : head.correlationId = head'.correlationId := by
  obtain ⟨rest, rfl⟩ := List.head?_eq_some_iff.1 heads
  obtain ⟨rest', rfl⟩ := List.head?_eq_some_iff.1 heads'
  have least : ∀ event ∈ head :: rest, head.observedAt.value ≤ event.observedAt.value := by
    intro event listed
    rcases List.mem_cons.1 listed with rfl | later
    · exact le_refl _
    · exact (List.pairwise_cons.1 inTime).1 event later
  have among : head' ∈ head :: rest := same.symm.subset List.mem_cons_self
  have above : head'.observedAt.value ≤ head.observedAt.value := by
    rcases List.mem_cons.1 (same.subset List.mem_cons_self : head ∈ head' :: rest') with
      rfl | later
    · exact le_refl _
    · exact (List.pairwise_cons.1 inTime').1 head later
  have tied : Tied head head' :=
    ⟨(own head List.mem_cons_self).trans (own head' among).symm,
      NonEmptyString.ext (le_antisymm (least head' among) above)⟩
  rcases agree.correlation head List.mem_cons_self head' among tied with
    equal | ⟨earlier, listed, -, before⟩
  · exact equal
  · exact absurd (least earlier listed) (not_le.2 before)

theorem conclusion_ties :
    (first.filterMap ModelPrLedgerSourceEvent.concluded).getLast? =
      (second.filterMap ModelPrLedgerSourceEvent.concluded).getLast? := by
  have reordered := same.filterMap ModelPrLedgerSourceEvent.concluded
  cases last : (first.filterMap ModelPrLedgerSourceEvent.concluded).getLast? with
  | none =>
    rw [List.getLast?_eq_none_iff.1 last] at reordered
    rw [List.nil_perm.1 reordered]
    rfl
  | some conclusion =>
    cases last' : (second.filterMap ModelPrLedgerSourceEvent.concluded).getLast? with
    | none =>
      rw [List.getLast?_eq_none_iff.1 last'] at reordered
      rw [List.perm_nil.1 reordered] at last
      cases last
    | some conclusion' =>
      obtain ⟨event, present, brings, latest⟩ := getLast?_concluded last inTime
      obtain ⟨event', present', brings', latest'⟩ := getLast?_concluded last' inTime'
      have among : event' ∈ first := same.symm.subset present'
      have below := latest event' among (by simp [brings'])
      have above := latest' event (same.subset present) (by simp [brings])
      have tied : Tied event event' :=
        ⟨(own event present).trans (own event' among).symm,
          NonEmptyString.ext (le_antisymm above below)⟩
      rcases agree.conclusion event present event' among tied with
        equal | undecided | undecided | ⟨later, listed, -, decided, after⟩
      · rw [← brings, ← brings', equal]
      · rw [brings] at undecided
        cases undecided
      · rw [brings'] at undecided
        cases undecided
      · exact absurd (latest later listed decided) (not_le.2 after)

end

theorem foldAll_ties (own : ∀ event ∈ first, event.key = key ∧ event.runId = runId) :
    foldAll none first = foldAll none second := by
  have own' : ∀ event ∈ second, event.key = key ∧ event.runId = runId := fun event listed =>
    own event (same.symm.subset listed)
  have keys : ∀ event ∈ first, event.key = key := fun event listed => (own event listed).1
  have outlines := foldAll_outline (provenance_ties agree same inTime inTime' keys) own own'
  cases folded : foldAll none first with
  | none =>
    rw [foldAll_eq_none folded] at same
    rw [List.nil_perm.1 same]
    rfl
  | some entry =>
    cases folded' : foldAll none second with
    | none =>
      rw [foldAll_eq_none folded'] at same
      rw [List.perm_nil.1 same] at folded
      cases folded
    | some entry' =>
      rw [folded, folded'] at outlines
      obtain ⟨head, heads, id⟩ := foldAll_correlation folded
      obtain ⟨head', heads', id'⟩ := foldAll_correlation folded'
      refine congrArg some (ModelPrLedgerEntry.outline_ext (Option.some.inj outlines) ?_ ?_)
      · rw [id, id']
        exact correlation_ties agree same inTime inTime' keys heads heads'
      · rw [foldAll_conclusion folded, foldAll_conclusion folded',
          conclusion_ties agree same inTime inTime' keys]

end

end Orders

/-! ## Two events in either order -/

theorem foldAll_provenance (folded : foldAll none events = some entry) :
    entry.provenance = events.map provenanceOf := by
  refine foldAll_induction ?_ folded
  intro before event kept
  show (baseEntry (foldAll none before) event).provenance ++ [provenanceOf event] = _
  rw [List.map_append]
  cases held : foldAll none before with
  | none =>
    cases foldAll_eq_none held
    rfl
  | some e =>
    rw [← kept e held]
    rfl

section Swapped

variable {earlier later : List ModelPrLedgerSourceEvent} {first second : ModelPrLedgerSourceEvent}

theorem provenance_swapped
    (same : foldAll none (earlier ++ first :: second :: later) =
      foldAll none (earlier ++ second :: first :: later)) :
    provenanceOf first = provenanceOf second := by
  obtain ⟨entry, folded⟩ : ∃ entry, foldAll none (earlier ++ first :: second :: later) =
      some entry := foldAll_isSome (by simp)
  have inOrder := foldAll_provenance folded
  have swapped := foldAll_provenance (same ▸ folded)
  rw [inOrder, List.map_append, List.map_append] at swapped
  exact (List.cons.inj (List.append_cancel_left swapped)).1

theorem correlation_swapped
    (same : foldAll none (first :: second :: later) = foldAll none (second :: first :: later)) :
    first.correlationId = second.correlationId := by
  obtain ⟨entry, folded⟩ : ∃ entry, foldAll none (first :: second :: later) = some entry :=
    foldAll_isSome (by simp)
  obtain ⟨head, heads, id⟩ := foldAll_correlation folded
  obtain ⟨head', heads', id'⟩ := foldAll_correlation (same ▸ folded)
  cases heads
  cases heads'
  exact id.symm.trans id'

theorem conclusion_swapped
    (same : foldAll none (earlier ++ first :: second :: later) =
      foldAll none (earlier ++ second :: first :: later))
    (nothing : ∀ event ∈ later, event.concluded = none) :
    first.concluded = second.concluded ∨ first.concluded = none ∨ second.concluded = none := by
  obtain ⟨entry, folded⟩ : ∃ entry, foldAll none (earlier ++ first :: second :: later) =
      some entry := foldAll_isSome (by simp)
  have inOrder := foldAll_conclusion folded
  have swapped := foldAll_conclusion (same ▸ folded)
  have silent : later.filterMap ModelPrLedgerSourceEvent.concluded = [] :=
    List.filterMap_eq_nil_iff.2 nothing
  cases brings : first.concluded with
  | none => exact .inr (.inl rfl)
  | some conclusion =>
    cases brings' : second.concluded with
    | none => exact .inr (.inr rfl)
    | some conclusion' =>
      left
      simp only [List.filterMap_append, List.filterMap_cons, brings, brings', silent,
        List.getLast?_append, List.getLast?_cons_cons, List.getLast?_singleton,
        Option.some_or, Option.getD_some] at inOrder swapped
      rw [← inOrder, swapped]

end Swapped

end OmniMarket.PrLedger
