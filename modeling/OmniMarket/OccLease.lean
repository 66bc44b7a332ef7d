import Mathlib.Logic.Function.Basic
import OmniMarket.Lib.Trace

/-!
# The OCC companion lease

Producers of one PR head share a git ref on the server: it is absent or points at the lease commit
of a producer. `acquire_occ_companion_lease` and `release_occ_companion_lease` are sequences of
REST calls. The server answers a call at one moment; the producer goes on when the answer reaches
it, or when the transport fails, whatever the server did. A producer may crash at any moment, with
a call under way.

Times are microseconds; a commit date has whole seconds. `State.now` is the clock of the server.
Each producer reads the clock of its own host, which may show anything.
-/

namespace OmniMarket.OccLease

section

variable {ι : Type}

/-- A call on the REST surface. -/
inductive Request (ι : Type) where
  | createCommit
  | createRef
  | getRef
  | getCommit (producer : ι)
  /-- The `DELETE` of a steal. -/
  | deleteStale
  /-- The `DELETE` of a release. -/
  | deleteOwn
deriving DecidableEq

inductive Answer (ι : Type) where
  | committed
  /-- `201`, or `422` as the ref exists. -/
  | created (fresh : Bool)
  /-- The lease commit that the ref points at, or `404`. -/
  | target (producer : Option ι)
  /-- `committer.date`. -/
  | date (seconds : Option ℕ)
  /-- `204`, or `404` as there is no ref. -/
  | deleted
deriving DecidableEq

/-- A call that is under way. -/
inductive Inflight (ι : Type) where
  | none
  | issued (request : Request ι)
  | answered (answer : Answer ι)
deriving DecidableEq

/-- The request that the server has not answered. -/
def Inflight.request? : Inflight ι → Option (Request ι)
  | .issued request => some request
  | _ => Option.none

inductive Pc (ι : Type) where
  | idle
  | creatingCommit
  | creatingRef
  | readingRef
  | readingCommit (producer : ι)
  | deletingStale
  | recreatingRef
  /-- `acquire_occ_companion_lease` has returned. -/
  | returned (won : Bool)
  | raised
  | releasing
  | released
deriving DecidableEq

structure Producer (ι : Type) where
  pc : Pc ι := .idle
  inflight : Inflight ι := .none
  crashed : Bool := false

structure State (ι : Type) where
  now : ℕ := 0
  ref : Option ι := none
  /-- `committer.date` of the lease commits, in seconds. -/
  dates : ι → Option ℕ := fun _ => none
  producers : ι → Producer ι := fun _ => {}

inductive Act where
  | acquire
  /-- The server answers the call under way. -/
  | execute
  /-- The answer reaches the producer, whose host shows this time. -/
  | reply (hostNow : ℕ)
  /-- The call fails with an error that the function does not handle. -/
  | fail
  | release
  | crash
deriving DecidableEq

inductive Event (ι : Type) where
  | tick (microseconds : ℕ)
  | act (producer : ι) (act : Act)
deriving DecidableEq

def secondsOf (microseconds : ℕ) : ℕ := microseconds / 1000000

/-- `age_seconds > lease_ttl_seconds`. -/
def isStale (leaseTtlSeconds now date : ℕ) : Bool :=
  date * 1000000 + leaseTtlSeconds * 1000000 < now

variable [DecidableEq ι]

def serve (state : State ι) (p : ι) : Request ι → State ι × Answer ι
  -- GitHub sets `committer.date` to the server time
  | .createCommit =>
    ({ state with dates := Function.update state.dates p (some (secondsOf state.now)) },
      .committed)
  | .createRef =>
    match state.ref with
    | none => ({ state with ref := some p }, .created true)
    | some _ => (state, .created false)
  | .getRef => (state, .target state.ref)
  | .getCommit producer => (state, .date (state.dates producer))
  | .deleteStale => ({ state with ref := none }, .deleted)
  | .deleteOwn => ({ state with ref := none }, .deleted)

def Producer.call (producer : Producer ι) (pc : Pc ι) (request : Request ι) : Producer ι :=
  { producer with pc := pc, inflight := .issued request }

def Producer.stop (producer : Producer ι) (pc : Pc ι) : Producer ι :=
  { producer with pc := pc, inflight := .none }

def advance (leaseTtlSeconds hostNow : ℕ) (producer : Producer ι) (answer : Answer ι) : Producer ι :=
  match producer.pc, answer with
  | .creatingCommit, .committed => producer.call .creatingRef .createRef
  | .creatingRef, .created true => producer.stop (.returned true)
  | .creatingRef, .created false => producer.call .readingRef .getRef
  -- a ref that vanished is stealable
  | .readingRef, .target none => producer.call .deletingStale .deleteStale
  | .readingRef, .target (some other) => producer.call (.readingCommit other) (.getCommit other)
  | .readingCommit _, .date (some date) =>
    if isStale leaseTtlSeconds hostNow date then producer.call .deletingStale .deleteStale
    else producer.stop (.returned false)
  | .readingCommit _, .date none => producer.stop .raised
  | .deletingStale, .deleted => producer.call .recreatingRef .createRef
  | .recreatingRef, .created fresh => producer.stop (.returned fresh)
  | .releasing, .deleted => producer.stop .released
  | _, _ => producer

/-- An error that propagates; a release swallows it. The call may still reach the server. -/
def Producer.fail (producer : Producer ι) : Producer ι :=
  match producer.pc with
  | .creatingCommit | .creatingRef | .readingRef | .readingCommit _ | .deletingStale
  | .recreatingRef => { producer with pc := .raised }
  | .releasing => { producer with pc := .released }
  | _ => producer

def Producer.act (leaseTtlSeconds : ℕ) (producer : Producer ι) : Act → Producer ι
  | .acquire =>
    if producer.pc = .idle then producer.call .creatingCommit .createCommit else producer
  | .reply hostNow =>
    match producer.inflight with
    | .answered answer => advance leaseTtlSeconds hostNow producer answer
    | _ => producer
  | .fail => producer.fail
  | .release =>
    if producer.pc = .returned true then producer.call .releasing .deleteOwn else producer
  | .crash => { producer with crashed := true }
  | .execute => producer

def State.set (state : State ι) (p : ι) (producer : Producer ι) : State ι :=
  { state with producers := Function.update state.producers p producer }

def next (leaseTtlSeconds : ℕ) (state : State ι) : Event ι → State ι
  | .tick microseconds => { state with now := state.now + microseconds }
  | .act p .execute =>
    match (state.producers p).inflight with
    | .issued request =>
      let (state', answer) := serve state p request
      state'.set p { state.producers p with inflight := .answered answer }
    | _ => state
  | .act p act =>
    if (state.producers p).crashed then state
    else state.set p ((state.producers p).act leaseTtlSeconds act)

def step (leaseTtlSeconds : ℕ) (state : State ι) (event : Event ι) : State ι × Unit :=
  (next leaseTtlSeconds state event, ())

end

/-!
# Who holds the lease
-/

section

variable {ι : Type} {leaseTtlSeconds now hostNow : ℕ} {own : Option ℕ} {producer : Producer ι}

/-- The producer has not crashed, acquired the lease and has not called release. -/
def Producer.Holds (producer : Producer ι) : Prop :=
  producer.crashed = false ∧ producer.pc = .returned true

def Producer.Owns (producer : Producer ι) : Prop :=
  producer.crashed = false ∧ (producer.pc = .returned true ∨
    (producer.pc = .creatingRef ∨ producer.pc = .recreatingRef) ∧
      producer.inflight = .answered (.created true))

theorem Producer.Holds.owns (holds : producer.Holds) : producer.Owns :=
  ⟨holds.1, .inl holds.2⟩

/-- A call that removes the ref. -/
def Request.deletes : Request ι → Bool
  | .deleteStale | .deleteOwn => true
  | _ => false

/-! ## What a producer knows -/

/-- A producer whose lease commit has a date has made the commit. -/
structure Informed (own : Option ℕ) (producer : Producer ι) : Prop where
  undated : own = none → (producer.pc = .idle ∨ producer.pc = .creatingCommit ∨
    producer.pc = .raised) ∧ (producer.inflight = .none ∨ producer.inflight = .issued .createCommit)
  committing : producer.inflight = .issued .createCommit → own = none
  idle : producer.pc = .idle → own = none ∧ producer.inflight = .none

theorem Informed.dated_of_returned (informed : Informed own producer) {won : Bool} (returned : producer.pc = .returned won) : ∃ date, own = some date := by
  cases own with
  | some date => exact ⟨date, rfl⟩
  | none =>
    have early := (informed.undated rfl).1
    rw [returned] at early
    simp at early

theorem isStale_mono {later date : ℕ} (after : now ≤ later)
    (stale : isStale leaseTtlSeconds now date = true) :
    isStale leaseTtlSeconds later date = true := by
  simp only [isStale, decide_eq_true_iff] at stale ⊢
  omega

variable {pc : Pc ι} {request : Request ι}

theorem informed_call (dated : own ≠ none) (busy : pc ≠ .idle) (makes : request ≠ .createCommit) :
    Informed own (producer.call pc request) :=
  ⟨fun none' => absurd none' dated, fun issued => absurd (Inflight.issued.inj issued) makes,
    fun idle => absurd idle busy⟩

theorem informed_stop (dated : own ≠ none) (busy : pc ≠ .idle) :
    Informed own (producer.stop pc) :=
  ⟨fun none' => absurd none' dated, nofun, fun idle => absurd idle busy⟩

variable {answer : Answer ι}

theorem Informed.advance (informed : Informed own producer)
    (answered : producer.inflight = .answered answer) :
    Informed own (advance leaseTtlSeconds hostNow producer answer) := by
  have dated : own ≠ none := by
    intro none'
    rcases (informed.undated none').2 with impossible | impossible
    · rw [answered] at impossible
      cases impossible
    · rw [answered] at impossible
      cases impossible
  unfold OccLease.advance
  split
  · exact informed_call dated (by simp) (by simp)
  · exact informed_stop dated (by simp)
  · exact informed_call dated (by simp) (by simp)
  · exact informed_call dated (by simp) (by simp)
  · exact informed_call dated (by simp) (by simp)
  · split
    · exact informed_call dated (by simp) (by simp)
    · exact informed_stop dated (by simp)
  · exact informed_stop dated (by simp)
  · exact informed_call dated (by simp) (by simp)
  · exact informed_stop dated (by simp)
  · exact informed_stop dated (by simp)
  · exact informed

theorem Informed.fail (informed : Informed own producer) : Informed own producer.fail := by
  have gives : ∀ pc : Pc ι, pc = .raised ∨ pc = .released ∧ producer.pc = .releasing →
      Informed own { producer with pc := pc } := by
    intro pc ends
    refine ⟨?_, informed.committing, ?_⟩
    · intro none'
      obtain ⟨early, quiet⟩ := informed.undated none'
      refine ⟨?_, quiet⟩
      rcases ends with raised | ⟨-, releasing⟩
      · exact .inr (.inr raised)
      · rw [releasing] at early
        simp at early
    · rintro rfl
      simp at ends
  unfold Producer.fail
  split
  all_goals first
    | exact gives _ (.inl rfl)
    | exact informed
    | exact gives _ (.inr ⟨rfl, ‹_›⟩)

variable [DecidableEq ι]

theorem Informed.act (informed : Informed own producer) (act : Act) :
    Informed own (producer.act leaseTtlSeconds act) := by
  cases act with
  | acquire =>
    rw [Producer.act]
    split
    · next idle =>
      obtain ⟨none', -⟩ := informed.idle idle
      exact ⟨fun _ => ⟨.inr (.inl rfl), .inr rfl⟩, fun _ => none', nofun⟩
    · exact informed
  | execute => exact informed
  | reply hostNow =>
    rw [Producer.act]
    split
    · next answer answered => exact informed.advance answered
    · exact informed
  | fail => exact informed.fail
  | release =>
    rw [Producer.act]
    split
    · next holding =>
      have dated : own ≠ none :=
        Option.ne_none_iff_exists'.2 (informed.dated_of_returned holding)
      exact informed_call dated (by simp) (by simp)
    · exact informed
  | crash => exact ⟨informed.undated, informed.committing, informed.idle⟩

omit [DecidableEq ι] in
theorem owns_stop : (producer.stop pc).Owns ↔ producer.crashed = false ∧ pc = .returned true := by
  simp [Producer.Owns, Producer.stop]

omit [DecidableEq ι] in
theorem not_owns_call (busy : pc ≠ .returned true) : ¬ (producer.call pc request).Owns := by
  simp [Producer.Owns, Producer.call, busy]

omit [DecidableEq ι] in
theorem owns_of_advance (answered : producer.inflight = .answered answer)
    (owns : (advance leaseTtlSeconds hostNow producer answer).Owns) : producer.Owns := by
  unfold advance at owns
  split at owns
  · exact absurd owns (not_owns_call (by simp))
  · next creating => exact ⟨(owns_stop.1 owns).1, .inr ⟨.inl creating, answered⟩⟩
  · exact absurd owns (not_owns_call (by simp))
  · exact absurd owns (not_owns_call (by simp))
  · exact absurd owns (not_owns_call (by simp))
  · split at owns
    · exact absurd owns (not_owns_call (by simp))
    · simp [owns_stop] at owns
  · simp [owns_stop] at owns
  · exact absurd owns (not_owns_call (by simp))
  · next fresh recreating =>
    obtain ⟨alive, won⟩ := owns_stop.1 owns
    obtain rfl : fresh = true := Pc.returned.inj won
    exact ⟨alive, .inr ⟨.inr recreating, answered⟩⟩
  · simp [owns_stop] at owns
  · exact owns

theorem owns_of_act {act : Act} (owns : (producer.act leaseTtlSeconds act).Owns) :
    producer.Owns := by
  cases act with
  | acquire =>
    rw [Producer.act] at owns
    split at owns
    · exact absurd owns (not_owns_call (by simp))
    · exact owns
  | execute => exact owns
  | reply hostNow =>
    rw [Producer.act] at owns
    split at owns
    · next answer answered => exact owns_of_advance answered owns
    · exact owns
  | fail =>
    rw [Producer.act] at owns
    unfold Producer.fail at owns
    split at owns
    all_goals first
      | exact owns
      | simp [Producer.Owns] at owns
  | release =>
    rw [Producer.act] at owns
    split at owns
    · exact absurd owns (not_owns_call (by simp))
    · exact owns
  | crash => exact absurd owns.1 (by simp [Producer.act])

/-! ## The server -/

variable {state : State ι} {p : ι}

structure Serialized (leaseTtlSeconds : ℕ) (state : State ι) : Prop where
  informed : ∀ p, Informed (state.dates p) (state.producers p)
  owned : ∀ p, (state.producers p).Owns → ∀ date, state.dates p = some date →
    isStale leaseTtlSeconds state.now date = false → state.ref = some p

omit [DecidableEq ι] in
theorem serialized_start : Serialized leaseTtlSeconds ({} : State ι) := by
  refine ⟨fun p => ?_, ?_⟩
  · exact ⟨fun _ => ⟨.inl rfl, .inl rfl⟩, nofun, fun _ => ⟨rfl, rfl⟩⟩
  · intro p owns
    simp [Producer.Owns] at owns

/-- A `DELETE` of the producer spares the owners whose lease has not expired on the server. -/
def Spares (leaseTtlSeconds : ℕ) (state : State ι) (p : ι) : Prop :=
  ∀ request ∈ (state.producers p).inflight.request?, request.deletes = true →
    ∀ q ∈ state.ref, (state.producers q).Owns →
      ∀ date ∈ state.dates q, isStale leaseTtlSeconds state.now date = true

omit [DecidableEq ι] in
theorem Serialized.tick (serialized : Serialized leaseTtlSeconds state) (elapsed : ℕ) :
    Serialized leaseTtlSeconds { state with now := state.now + elapsed } := by
  constructor
  · exact serialized.informed
  · intro p owns date dated fresh
    refine serialized.owned p owns date dated ?_
    by_contra stale
    rw [Bool.not_eq_false] at stale
    rw [isStale_mono (Nat.le_add_right _ _) stale] at fresh
    cases fresh

theorem Serialized.act (serialized : Serialized leaseTtlSeconds state) (p : ι) (act : Act) :
    Serialized leaseTtlSeconds
      (state.set p ((state.producers p).act leaseTtlSeconds act)) := by
  constructor
  · intro q
    by_cases own : q = p
    · subst own
      simp only [State.set, Function.update_self]
      exact (serialized.informed q).act act
    · simp only [State.set, Function.update_of_ne own]
      exact serialized.informed q
  · intro q owns
    refine serialized.owned q ?_
    by_cases own : q = p
    · subst own
      simp only [State.set, Function.update_self] at owns
      exact owns_of_act owns
    · simpa only [State.set, Function.update_of_ne own] using owns

omit [DecidableEq ι] in
theorem informed_answered (dated : own ≠ none) (busy : producer.pc ≠ .idle) :
    Informed own { producer with inflight := .answered answer } :=
  ⟨fun none' => absurd none' dated, nofun, fun idle => absurd idle busy⟩

/-- What the server changes when it answers a call. -/
structure Served (leaseTtlSeconds : ℕ) (state after : State ι) (p : ι) (answer : Answer ι) :
    Prop where
  now : after.now = state.now
  producers : after.producers = state.producers
  dated : after.dates p ≠ none
  kept : ∀ q date, state.dates q = some date → after.dates q = some date
  others : ∀ q ≠ p, after.dates q = state.dates q
  /-- The ref still points at every owner that it pointed at and whose lease is not stale, and it
  points at the producer if it was created. -/
  ref : ∀ q date, (state.producers q).Owns → state.ref = some q → state.dates q = some date →
    isStale leaseTtlSeconds state.now date = false → after.ref = some q
  created : answer = .created true → after.ref = some p

section

variable (serialized : Serialized leaseTtlSeconds state) (spares : Spares leaseTtlSeconds state p)
  (issued : (state.producers p).inflight = .issued request)

include serialized spares issued

theorem serve_served :
    Served leaseTtlSeconds state (serve state p request).1 p (serve state p request).2 := by
  have informed := serialized.informed p
  have dated : request ≠ .createCommit → state.dates p ≠ none := by
    intro other none'
    rcases (informed.undated none').2 with impossible | same
    · rw [issued] at impossible
      cases impossible
    · exact other (Inflight.issued.inj (issued.symm.trans same))
  -- a `DELETE` only removes a lease that has expired
  have removes : request.deletes = true → ∀ q date, (state.producers q).Owns →
      state.ref = some q → state.dates q = some date →
      isStale leaseTtlSeconds state.now date = false → none = some q := by
    intro deletes q date owns points dated fresh
    have stale := spares request (by rw [issued]; rfl) deletes q points owns date dated
    rw [fresh] at stale
    cases stale
  cases request with
  | createCommit =>
    have undated : state.dates p = none := informed.committing issued
    refine ⟨rfl, rfl, by simp [serve], ?_, ?_, fun _ _ _ points _ _ => points, nofun⟩
    · intro q date known
      have other : q ≠ p := by
        rintro rfl
        rw [undated] at known
        cases known
      simpa [serve, Function.update_of_ne other] using known
    · intro q other
      simp [serve, Function.update_of_ne other]
  | createRef =>
    rw [serve]
    cases points : state.ref with
    | none =>
      refine ⟨rfl, rfl, dated (by simp), fun _ _ known => known, fun _ _ => rfl, ?_, fun _ => rfl⟩
      intro q date _ there
      rw [points] at there
      cases there
    | some other =>
      exact ⟨rfl, rfl, dated (by simp), fun _ _ known => known, fun _ _ => rfl,
        fun _ _ _ there _ _ => there, nofun⟩
  | getRef | getCommit _ =>
    exact ⟨rfl, rfl, dated (by simp), fun _ _ known => known, fun _ _ => rfl,
      fun _ _ _ there _ _ => there, nofun⟩
  | deleteStale | deleteOwn =>
    exact ⟨rfl, rfl, dated (by simp), fun _ _ known => known, fun _ _ => rfl, removes rfl, nofun⟩

theorem Serialized.execute : Serialized leaseTtlSeconds ((serve state p request).1.set p
      { state.producers p with inflight := .answered (serve state p request).2 }) := by
  have served := serve_served serialized spares issued
  generalize (serve state p request).1 = after at served ⊢
  generalize (serve state p request).2 = answer at served ⊢
  have informed := serialized.informed p
  constructor
  · intro q
    by_cases own : q = p
    · subst own
      simp only [State.set, Function.update_self]
      refine informed_answered served.dated ?_
      intro idle
      have quiet := (informed.idle idle).2
      rw [issued] at quiet
      cases quiet
    · simp only [State.set, Function.update_of_ne own, served.producers, served.others q own]
      exact serialized.informed q
  · intro q owns date dated fresh
    simp only [State.set, served.now] at owns dated fresh ⊢
    by_cases own : q = p
    · subst own
      rw [Function.update_self] at owns
      rcases owns with ⟨alive, holding | ⟨-, won⟩⟩
      · -- a holder has no call under way
        have before : state.dates q = some date := by
          obtain ⟨date', known⟩ := informed.dated_of_returned holding
          have after' := served.kept q date' known
          rw [dated] at after'
          rw [known, after']
        have holder : (state.producers q).Owns := ⟨alive, .inl holding⟩
        exact served.ref q date holder (serialized.owned q holder date before fresh) before fresh
      · exact served.created (Inflight.answered.inj won)
    · rw [Function.update_of_ne own, served.producers] at owns
      rw [served.others q own] at dated
      exact served.ref q date owns (serialized.owned q owns date dated fresh) dated fresh

end

/-- An event keeps what the producers know, if a `DELETE` spares the owners. -/
theorem Serialized.next (serialized : Serialized leaseTtlSeconds state) {event : Event ι}
    (spares : ∀ p, event = .act p .execute → Spares leaseTtlSeconds state p) :
    Serialized leaseTtlSeconds (next leaseTtlSeconds state event) := by
  unfold OccLease.next
  split
  · exact serialized.tick _
  · next p =>
    split
    · next request issued => exact serialized.execute (spares p rfl) issued
    · exact serialized
  · split
    · exact serialized
    · exact serialized.act _ _

/-! ## Runs -/

abbrev History (ι : Type) := List (Trace.Transition (State ι) (Event ι) Unit)

def history (leaseTtlSeconds : ℕ) (events : List (Event ι)) : History ι :=
  Trace.run (step leaseTtlSeconds) {} events

/-- At no moment two producers hold the lease. -/
def Exclusive (history : History ι) : Prop :=
  ∀ t ∈ history, ∀ p q, (t.after.producers p).Holds → (t.after.producers q).Holds → p = q

def ReleasesInTime (leaseTtlSeconds : ℕ) (history : History ι) : Prop :=
  ∀ t ∈ history, ∀ p, (t.after.producers p).Holds →
    ∀ date ∈ t.after.dates p, isStale leaseTtlSeconds t.after.now date = false

/-- The server runs no `DELETE` while the ref is the unexpired lease of an owner. -/
def SparesOwners (leaseTtlSeconds : ℕ) (history : History ι) : Prop :=
  ∀ t ∈ history, ∀ p, t.event = .act p .execute → Spares leaseTtlSeconds t.before p

/-- The lease is mutually exclusive as long as no `DELETE` removes the unexpired lease of an
owner, whatever the clocks of the hosts show. -/
theorem lease_exclusive {leaseTtlSeconds : ℕ} {events : List (Event ι)}
    (inTime : ReleasesInTime leaseTtlSeconds (history leaseTtlSeconds events))
    (spares : SparesOwners leaseTtlSeconds (history leaseTtlSeconds events)) :
    Exclusive (history leaseTtlSeconds events) := by
  have preserved : ∀ t ∈ history leaseTtlSeconds events,
      Serialized leaseTtlSeconds t.before → Serialized leaseTtlSeconds t.after := by
    intro t taken serialized
    have moved : next leaseTtlSeconds t.before t.event = t.after :=
      congrArg Prod.fst (Trace.run_steps taken)
    exact moved ▸ serialized.next (spares t taken)
  obtain ⟨-, throughout⟩ := Trace.run_invariant serialized_start preserved
  intro t taken p q first second
  have serialized := preserved t taken (throughout t taken)
  have points : ∀ r, (t.after.producers r).Holds → t.after.ref = some r := by
    intro r holds
    obtain ⟨date, dated⟩ := (serialized.informed r).dated_of_returned holds.2
    exact serialized.owned r holds.owns date dated (inTime t taken r holds date dated)
  exact Option.some.inj ((points p first).symm.trans (points q second))

/-! ## Two producers and more -/

instance (producer : Producer ι) : Decidable producer.Holds :=
  inferInstanceAs (Decidable (_ ∧ _))

instance (producer : Producer ι) : Decidable producer.Owns :=
  inferInstanceAs (Decidable (_ ∧ _))

instance (leaseTtlSeconds : ℕ) (state : State ι) (p : ι) :
    Decidable (Spares leaseTtlSeconds state p) :=
  inferInstanceAs (Decidable (∀ request ∈ (state.producers p).inflight.request?, _))

def answered (hostNow : ℕ) (p : ι) : List (Event ι) := [.act p .execute, .act p (.reply hostNow)]

def oneAfterAnother : List (Event Bool) :=
  [.act true .acquire] ++ answered 0 true ++ answered 0 true ++
    [.act false .acquire] ++ answered 0 false ++ answered 0 false ++ answered 0 false ++
    answered 0 false ++ [.act true .release] ++ answered 0 true

theorem lease_exclusive_refused :
    ReleasesInTime 600 (history 600 oneAfterAnother) ∧
      SparesOwners 600 (history 600 oneAfterAnother) ∧
      Exclusive (history 600 oneAfterAnother) := by
  have inTime : ReleasesInTime 600 (history 600 oneAfterAnother) := by
    unfold ReleasesInTime
    decide +kernel
  have spares : SparesOwners 600 (history 600 oneAfterAnother) := by
    unfold SparesOwners
    decide +kernel
  exact ⟨inTime, spares, lease_exclusive inTime spares⟩

/-- An acquire up to the answer to its read of the date, on a host whose clock is right. -/
def readsStale (p : Fin 3) : List (Event (Fin 3)) :=
  .act p .acquire :: (List.replicate 4 (answered 601000000 p)).flatten

/-- A steal after its read. -/
def steals (p : Fin 3) : List (Event (Fin 3)) := answered 601000000 p ++ answered 601000000 p

/-- The first producer crashes with the lease. After its time to live, two others read it as
stale before either steals it. -/
def twoStealers : List (Event (Fin 3)) :=
  [.act 0 .acquire] ++ answered 0 0 ++ answered 0 0 ++ [.act 0 .crash, .tick 601000000] ++
    readsStale 1 ++ readsStale 2 ++ steals 1 ++ steals 2

/-- The second thief deletes the lease of the first one, and both hold the lease. -/
theorem two_stealers_hold :
    ReleasesInTime 600 (history 600 twoStealers) ∧ ¬ Exclusive (history 600 twoStealers) := by
  constructor
  · unfold ReleasesInTime
    decide +kernel
  · unfold Exclusive
    decide +kernel

end

end OmniMarket.OccLease
