import OmniMarket.NavigationHistory.Writer

/-!
# Both stores of the navigation history

The row and the point of a session are placed by the same call: the first one whose insert takes
effect. A call that comes later finds the row and answers `skipped`, whether there is a point or
not.
-/

namespace OmniMarket.NavigationHistory

section

variable (text : NavigationText)

/-! ## What the writer owes -/

abbrev storesAfter (calls : List RecordCall) : NavigationStore :=
  Trace.final (record text) {} calls

structure ReachesBoth (calls : List RecordCall) : Prop where
  answered : ∀ earlier call later, calls = earlier ++ call :: later →
    call.session.isSuccessful = true →
    (record text (storesAfter text earlier) call).2.status ≠ .error →
    (storesAfter text (earlier ++ [call])).HasRow call.session.sessionId ∧
      (storesAfter text (earlier ++ [call])).HasPoint call.session.sessionId
  failed : ∀ earlier later, calls = earlier ++ later → ∀ call ∈ calls,
    call.session.isSuccessful = false →
    ¬ (storesAfter text earlier).HasPoint call.session.sessionId
  unique : ∀ earlier later, calls = earlier ++ later →
    ((storesAfter text earlier).rows.map NavigationRow.sessionId).Nodup ∧
      ((storesAfter text earlier).points.map NavigationPoint.id).Nodup

end

def firstStore (calls : List RecordCall) (sessionId : String) : Option RecordCall :=
  calls.find? fun call => call.session.sessionId = sessionId && call.reachesTable

structure NoPointLost (calls : List RecordCall) : Prop where
  redelivered : ∀ earlier call later, calls = earlier ++ call :: later →
    call.session.isSuccessful = true → call.answered = true →
    ∀ stored ∈ firstStore earlier call.session.sessionId, stored.placesPoint = true
  failed : ∀ call ∈ calls, call.session.isSuccessful = false →
    ∀ stored ∈ firstStore calls call.session.sessionId, stored.placesPoint = false

variable {text : NavigationText} {store : NavigationStore} {calls : List RecordCall}
  {call : RecordCall} {sessionId : String}

/-! ## One call -/

theorem record_unreached (unreached : call.reachesTable = false) :
    (record text store call).1 = store ∧ (record text store call).2.status = .error := by
  unfold record
  cases pool : call.faults.pool with
  | some message => exact ⟨rfl, rfl⟩
  | none =>
    unfold RecordCall.reachesTable at unreached
    rw [pool] at unreached
    cases insert : call.faults.insert with
    | failedBefore message => exact ⟨rfl, rfl⟩
    | done =>
      rw [insert] at unreached
      cases unreached
    | failedAfter message =>
      rw [insert] at unreached
      cases unreached

variable (text) in
theorem record_held (held : store.HasRow call.session.sessionId) :
    (record text store call).1 = store ∧
      ((record text store call).2.status ≠ .error ↔ call.answered = true) := by
  have kept : insertRow store.rows (rowOf text call.session) = (store.rows, false) :=
    insertRow_held held
  unfold record RecordCall.answered
  cases pool : call.faults.pool with
  | some message => exact ⟨rfl, fun other => absurd rfl other, nofun⟩
  | none =>
    cases insert : call.faults.insert with
    | done =>
      simp only [writePostgres, kept]
      exact ⟨trivial, fun _ => rfl, fun _ same => by cases same⟩
    | failedBefore message =>
      exact ⟨rfl, fun other => absurd rfl other, nofun⟩
    | failedAfter message =>
      simp only [writePostgres, kept]
      exact ⟨trivial, fun other => absurd rfl other, nofun⟩

variable (text) in
theorem reachQdrant_cases (points : List NavigationPoint) (call : RecordCall) :
    (∃ goalVector startVector, (reachQdrant text points call.session call.faults).2 =
        upsertPoint (pointOf text call.session goalVector startVector) points ∧
      call.upserts = true) ∨
    ∃ message, reachQdrant text points call.session call.faults = (.error message, points) ∧
      call.upserts = false := by
  unfold reachQdrant RecordCall.upserts
  cases client : call.faults.client with
  | some message => exact Or.inr ⟨message, rfl, rfl⟩
  | none =>
    unfold writeQdrant
    cases goal : call.faults.goalEmbedding with
    | error message => exact Or.inr ⟨message, rfl, rfl⟩
    | ok goalVector =>
      cases start : call.faults.startEmbedding with
      | error message => exact Or.inr ⟨message, rfl, rfl⟩
      | ok startVector =>
        cases upsert : call.faults.upsert with
        | done => exact Or.inl ⟨goalVector, startVector, rfl, rfl⟩
        | failedAfter message => exact Or.inl ⟨goalVector, startVector, rfl, rfl⟩
        | failedBefore message => exact Or.inr ⟨message, rfl, rfl⟩

inductive PointsAfter (text : NavigationText) (store after : NavigationStore)
    (call : RecordCall) : Prop
  | placed (goalVector startVector : List PyFloat) (places : call.placesPoint = true)
      (points : after.points =
        upsertPoint (pointOf text call.session goalVector startVector) store.points)
  | left (lost : call.placesPoint = false) (points : after.points = store.points)

variable (text) in
theorem record_stored (reaches : call.reachesTable = true)
    (new : ¬ store.HasRow call.session.sessionId) :
    (record text store call).1.rows = store.rows ++ [rowOf text call.session] ∧
      PointsAfter text store (record text store call).1 call ∧
      (call.session.isSuccessful = true → (record text store call).2.status ≠ .error →
        call.placesPoint = true) := by
  have added : insertRow store.rows (rowOf text call.session) =
      (store.rows ++ [rowOf text call.session], true) := insertRow_new new
  unfold RecordCall.reachesTable at reaches
  unfold record
  cases pool : call.faults.pool with
  | some message =>
    rw [pool] at reaches
    cases reaches
  | none =>
    have answered : call.answered = decide (call.faults.insert = .done) := by
      unfold RecordCall.answered
      rw [pool]
      rfl
    cases insert : call.faults.insert with
    | failedBefore message =>
      rw [pool, insert] at reaches
      cases reaches
    | failedAfter message =>
      simp only [writePostgres, added]
      refine ⟨trivial, .left ?_ rfl, fun _ other => absurd rfl other⟩
      simp [RecordCall.placesPoint, answered, insert]
    | done =>
      simp only [writePostgres, added, afterInsert]
      cases successful : call.session.isSuccessful with
      | false =>
        refine ⟨rfl, .left ?_ rfl, nofun⟩
        simp [RecordCall.placesPoint, successful]
      | true =>
        have places : call.placesPoint = call.upserts := by
          simp [RecordCall.placesPoint, successful, answered, insert]
        rw [if_pos rfl]
        rcases reachQdrant_cases text store.points call with
          ⟨goalVector, startVector, points, upserts⟩ | ⟨message, failed, lost⟩
        · cases reached : reachQdrant text store.points call.session call.faults with
          | mk answer after =>
            rw [reached] at points
            rw [← places] at upserts
            cases answer <;>
              exact ⟨rfl, .placed goalVector startVector upserts points, fun _ _ => upserts⟩
        · rw [failed]
          exact ⟨rfl, .left (places.trans lost) rfl, fun _ other => absurd rfl other⟩

theorem record_hasRow : (record text store call).1.HasRow sessionId ↔
    store.HasRow sessionId ∨ (call.session.sessionId = sessionId ∧ call.reachesTable = true) := by
  cases reaches : call.reachesTable with
  | false =>
    rw [(record_unreached reaches).1]
    simp
  | true =>
    by_cases held : store.HasRow call.session.sessionId
    · rw [(record_held text held).1]
      refine ⟨Or.inl, fun own => own.elim id ?_⟩
      rintro ⟨rfl, -⟩
      exact held
    · unfold NavigationStore.HasRow
      rw [(record_stored text reaches held).1]
      simp only [List.mem_append, List.mem_singleton, or_and_right, exists_or, exists_eq_left]
      simp [rowOf]

theorem record_hasPoint : (record text store call).1.HasPoint sessionId ↔
    store.HasPoint sessionId ∨ (call.session.sessionId = sessionId ∧
      call.reachesTable = true ∧ call.placesPoint = true ∧ ¬ store.HasRow sessionId) := by
  cases reaches : call.reachesTable with
  | false =>
    rw [(record_unreached reaches).1]
    simp
  | true =>
    by_cases held : store.HasRow call.session.sessionId
    · rw [(record_held text held).1]
      refine ⟨Or.inl, fun own => own.elim id ?_⟩
      rintro ⟨rfl, -, -, new⟩
      exact absurd held new
    · unfold NavigationStore.HasPoint
      obtain ⟨-, points, -⟩ := record_stored text reaches held
      cases points with
      | placed goalVector startVector places points =>
        rw [points, mem_upsertPoint_id]
        refine or_congr_right ⟨fun own => ⟨own, rfl, places, own ▸ held⟩, And.left⟩
      | left lost points =>
        rw [points, lost]
        simp

/-! ## The call that stores -/

theorem firstStore_append {earlier : List RecordCall} :
    firstStore (earlier ++ [call]) sessionId =
      (firstStore earlier sessionId).or
        (if call.session.sessionId = sessionId ∧ call.reachesTable = true then some call
          else none) := by
  unfold firstStore
  rw [List.find?_append, List.find?_cons]
  by_cases own : call.session.sessionId = sessionId ∧ call.reachesTable = true
  · rw [if_pos own, own.1, own.2]
    simp
  · rw [if_neg own]
    have other : (decide (call.session.sessionId = sessionId) && call.reachesTable) = false := by
      simpa using own
    rw [other]
    rfl

theorem storesAfter_append (earlier : List RecordCall) :
    storesAfter text (earlier ++ [call]) = (record text (storesAfter text earlier) call).1 :=
  Trace.final_append earlier [call]

theorem firstStore_row (calls : List RecordCall) :
    (storesAfter text calls).HasRow sessionId ↔ (firstStore calls sessionId).isSome = true := by
  induction calls using List.reverseRecOn with
  | nil => simp [storesAfter, Trace.final, NavigationStore.HasRow, firstStore]
  | append_singleton earlier call ih =>
    rw [storesAfter_append, record_hasRow, ih, firstStore_append, Option.isSome_or]
    split_ifs with own
    · simp [own]
    · simp [own]

theorem firstStore_point (calls : List RecordCall) :
    (storesAfter text calls).HasPoint sessionId ↔
      ∃ stored ∈ firstStore calls sessionId, stored.placesPoint = true := by
  induction calls using List.reverseRecOn with
  | nil => simp [storesAfter, Trace.final, NavigationStore.HasPoint, firstStore]
  | append_singleton earlier call ih =>
    rw [storesAfter_append, record_hasPoint, ih, firstStore_row, firstStore_append]
    cases stored : firstStore earlier sessionId with
    | some first => simp
    | none =>
      split_ifs with own
      · simp [own]
      · have other : ¬ (call.session.sessionId = sessionId ∧ call.reachesTable = true ∧
            call.placesPoint = true) := fun all => own ⟨all.1, all.2.1⟩
        simpa using other

theorem firstStore_of_prefix {earlier later : List RecordCall} {stored : RecordCall}
    (found : firstStore earlier sessionId = some stored) :
    firstStore (earlier ++ later) sessionId = some stored := by
  unfold firstStore at found ⊢
  rw [List.find?_append, found]
  rfl

/-! ## One row and one point -/

def NavigationStore.Unique (store : NavigationStore) : Prop :=
  (store.rows.map NavigationRow.sessionId).Nodup ∧ (store.points.map NavigationPoint.id).Nodup

theorem record_unique (unique : store.Unique) : (record text store call).1.Unique := by
  cases reaches : call.reachesTable with
  | false => rwa [(record_unreached reaches).1]
  | true =>
    by_cases held : store.HasRow call.session.sessionId
    · rwa [(record_held text held).1]
    obtain ⟨rows, points, -⟩ := record_stored text reaches held
    obtain ⟨distinctRows, distinctPoints⟩ := unique
    constructor
    · rw [rows, List.map_append]
      rw [List.map_singleton, ← List.concat_eq_append]
      exact distinctRows.concat fun listed => held (List.mem_map.1 listed)
    · cases points with
      | left lost points => rwa [points]
      | placed goalVector startVector places points =>
        rw [points]
        rcases upsertPoint_ids (pointOf text call.session goalVector startVector)
          store.points with kept | ⟨fresh, added⟩
        · rwa [kept]
        · rw [added, ← List.concat_eq_append]
          exact distinctPoints.concat fresh

theorem ids_nodup (calls : List RecordCall) : (storesAfter text calls).Unique := by
  induction calls using List.reverseRecOn with
  | nil => exact ⟨List.nodup_nil, List.nodup_nil⟩
  | append_singleton earlier call ih =>
    rw [storesAfter_append]
    exact record_unique ih

/-! ## Both stores -/

theorem answered_reaches (store : NavigationStore) (successful : call.session.isSuccessful = true)
    (settled : (record text store call).2.status ≠ .error)
    (placed : call.answered = true → store.HasRow call.session.sessionId →
      store.HasPoint call.session.sessionId) :
    (record text store call).1.HasRow call.session.sessionId ∧
      (record text store call).1.HasPoint call.session.sessionId := by
  cases reaches : call.reachesTable with
  | false => exact absurd (record_unreached reaches).2 settled
  | true =>
    rw [record_hasRow, record_hasPoint]
    by_cases held : store.HasRow call.session.sessionId
    · have answered := (record_held text held).2.1 settled
      exact ⟨Or.inl held, Or.inl (placed answered held)⟩
    · have places := (record_stored text reaches held).2.2 successful settled
      exact ⟨Or.inr ⟨rfl, reaches⟩, Or.inr ⟨rfl, reaches, places, held⟩⟩

/-- For every sequence of calls, both stores are reached just where no point was lost before its
session is answered for. -/
theorem reachesBoth_iff (text : NavigationText) (calls : List RecordCall) :
    ReachesBoth text calls ↔ NoPointLost calls := by
  constructor
  · intro reaches
    constructor
    · intro earlier call later split successful answered stored found
      have held : (storesAfter text earlier).HasRow call.session.sessionId :=
        (firstStore_row earlier).2 (Option.isSome_iff_exists.2 ⟨stored, found⟩)
      obtain ⟨kept, settled⟩ := record_held text held
      have point := (reaches.answered earlier call later split successful (settled.2 answered)).2
      rw [storesAfter_append, kept, firstStore_point] at point
      obtain ⟨first, listed, places⟩ := point
      rwa [← Option.some.inj (listed.symm.trans found)]
    · intro call listed failed stored found
      have missing := reaches.failed calls [] (List.append_nil calls).symm call listed failed
      rw [firstStore_point] at missing
      exact Bool.eq_false_iff.2 fun places => missing ⟨stored, found, places⟩
  · intro kept
    refine ⟨?_, ?_, fun earlier later _ => ids_nodup earlier⟩
    · intro earlier call later split successful settled
      rw [storesAfter_append]
      refine answered_reaches _ successful settled fun answered held => ?_
      obtain ⟨stored, found⟩ := Option.isSome_iff_exists.1 ((firstStore_row earlier).1 held)
      have places := kept.redelivered earlier call later split successful answered stored found
      exact (firstStore_point earlier).2 ⟨stored, found, places⟩
    · rintro earlier later rfl call listed failed point
      obtain ⟨stored, found, places⟩ := (firstStore_point earlier).1 point
      have lost := kept.failed call listed failed stored <| firstStore_of_prefix found
      rw [places] at lost
      cases lost

/-! ## A lost point -/

def sampleText : NavigationText where
  hashText := id
  jsonDumps := fun _ => "[]"
  isoformat := fun _ => "2026-03-01T00:00:00+00:00"

def sampleSession : ModelNavigationSession where
  sessionId := "6f9619ff-8b86-d011-b42d-00c04fc964ff"
  goalCondition := "registered"
  startStateId := "start"
  endStateId := "registered"
  stepCount := 0
  outcome := "success"
  failureReason := none
  isSuccessful := true
  graphFingerprint := "a1"
  executedSteps := []
  createdAt := ⟨0, some 0⟩

/-- The upsert fails at the first delivery, and the session is delivered again. -/
def lostPoint : List RecordCall :=
  [⟨sampleSession, { upsert := .failedBefore "timed out" }⟩, ⟨sampleSession, {}⟩]

theorem skipped_without_point : ¬ ReachesBoth sampleText lostPoint := by
  intro reaches
  have point := (reaches.answered [⟨sampleSession, { upsert := .failedBefore "timed out" }⟩]
    ⟨sampleSession, {}⟩ [] rfl rfl (by decide +kernel)).2
  obtain ⟨held, listed, -⟩ := point
  cases listed

end OmniMarket.NavigationHistory
