import OmniMarket.DelegationProjection.Provenance

/-!
# The answer of a passed delegation

A merge keeps the stored answer when the new one is blank, or when the stored row passed its gate
and the new one did not. The merged row takes the new row's gate, so after one failed event the
stored row has not passed, and the answer of a second one replaces the passed answer.
-/

namespace OmniMarket.DelegationProjection

open Trace

/-! ## Answers -/

/-- What a row says about its answer. -/
structure Answer where
  passed : Bool
  response : PyValue

def Row.answer (row : Row) : Answer where
  passed := (row.get "quality_gate_passed").truthy
  response := row.get "response_text"

def Answer.given (answer : Answer) : Bool := answer.passed && !isBlank answer.response

/-- The merge of a new answer into a stored one; a row without a correlation id is replaced. -/
def Answer.keep (correlationId : String) (stored fresh : Answer) : Answer where
  passed := fresh.passed
  response :=
    if correlationId ≠ "" ∧ isBlank stored.response = false ∧
        (isBlank fresh.response = true ∨ (stored.passed = true ∧ fresh.passed = false)) then
      stored.response
    else fresh.response

def keepAnswer (correlationId : String) (stored : Option Answer) (fresh : Answer) : Answer :=
  match stored with
  | none => fresh
  | some stored => stored.keep correlationId fresh

def lastGiven (answers : List Answer) : Option Answer := answers.reverse.find? Answer.given

def EventDelivery.answer (env : ProjectionEnv) (correlationId : String)
    (delivery : EventDelivery) : Option Answer :=
  match delivery.row env with
  | .error _ => none
  | .ok fresh =>
    if delivery.event.correlationId env = some correlationId then some fresh.answer else none

def answersOf (env : ProjectionEnv) (correlationId : String) (deliveries : List EventDelivery) :
    List Answer :=
  deliveries.filterMap (EventDelivery.answer env correlationId)

/-! ## Merges -/

section Merge

variable {env : ProjectionEnv} {correlationId : String} {stored fresh existing row : Row}

theorem preserveFrom_response (env : ProjectionEnv) (existing row : Row) :
    OrderedDict.get? (preserveFrom env existing row) "response_text" =
      if isBlank (existing.get "response_text") = false ∧
          (isBlank (row.get "response_text") = true ∨
            ((existing.get "quality_gate_passed").truthy = true ∧
              (row.get "quality_gate_passed").truthy = false)) then
        some (existing.get "response_text")
      else OrderedDict.get? row "response_text" := by
  have gate : (textColumns.foldl (keepIf isBlank existing) row).get "quality_gate_passed" =
      row.get "quality_gate_passed" := by
    rw [Row.get, keepAll_get?, if_neg (fun both => absurd both.1 (by decide)), Row.get]
  rw [preserveFrom, keepAttempts_other (by decide), keepBounds_other (by decide),
    keepOverride_other (by decide), keepAll_get?, if_neg (fun both => absurd both.1 (by decide)),
    keepAll_get?, if_neg (fun both => absurd both.1 (by decide)), keepResponse, gate]
  have text : "response_text" ∈ textColumns := by decide
  split
  · next kept =>
    simp only [Bool.and_eq_true, Bool.not_eq_true'] at kept
    rw [OrderedDict.get?_set_self, if_pos ⟨kept.2, .inr kept.1⟩]
  · next unkept =>
    simp only [Bool.and_eq_true, Bool.not_eq_true', not_and] at unkept
    rw [keepAll_get?]
    refine if_congr ?_ rfl rfl
    rw [Bool.and_eq_true, Bool.not_eq_true']
    constructor
    · exact fun both => ⟨both.2.2, .inl both.2.1⟩
    · rintro ⟨filled, blank | ⟨passed, failed⟩⟩
      · exact ⟨text, blank, filled⟩
      · exact absurd filled (unkept ⟨passed, failed⟩)

def Answered (fresh : Row) : Prop :=
  ∀ column ∈ ["quality_gate_passed", "response_text"],
    ∃ value, OrderedDict.get? fresh column = some value

theorem merged_answer (answered : Answered fresh) :
    (merged env correlationId stored fresh).answer =
      stored.answer.keep correlationId fresh.answer := by
  obtain ⟨gate, gateHeld⟩ := answered "quality_gate_passed" (by decide)
  obtain ⟨text, textHeld⟩ := answered "response_text" (by decide)
  have passed : (merged env correlationId stored fresh).get "quality_gate_passed" = gate := by
    rw [Row.get, merged_other (by decide), gateHeld]
    rfl
  have response : (merged env correlationId stored fresh).get "response_text" =
      (stored.answer.keep correlationId fresh.answer).response := by
    rw [Row.get, merged_get?, Answer.keep]
    rcases eq_or_ne correlationId "" with rfl | named
    · rw [if_pos rfl, if_neg (fun both => both.1 rfl), textHeld]
      exact (get_of_get? textHeld).symm
    · rw [if_neg named, preserveFrom_response]
      simp only [named, ne_eq, not_false_eq_true, true_and]
      show ((if _ then _ else _ : Option PyValue).or _).getD _ = _
      split
      · next kept => exact (if_pos kept).symm
      · next replaced =>
        refine Eq.trans ?_ (if_neg replaced).symm
        rw [textHeld]
        exact (get_of_get? textHeld).symm
  rw [Row.answer, passed, response]
  show Answer.mk gate.truthy _ = Answer.mk (fresh.get "quality_gate_passed").truthy _
  rw [get_of_get? gateHeld]
  rfl

theorem answered_row {delivery : EventDelivery} (built : delivery.row env = .ok fresh) :
    Answered fresh := by
  have other : ∀ name ∈ ["quality_gate_passed", "response_text"],
      name ∉ "tenant_id" :: evidenceColumns ∧ name ∈ taskColumns ∧ name ∈ terminalColumns := by
    decide
  intro column listed
  obtain ⟨unnamed, task, terminal⟩ := other column listed
  have ofTask {event : ModelTaskDelegatedEvent} {now : PyDatetime}
      (built : taskEventRow env event now = .ok fresh) :
      ∃ value, OrderedDict.get? fresh column = some value := by
    rw [taskEventRow_get? built unnamed]
    exact OrderedDict.mem_keys.1 task
  obtain ⟨event, now⟩ := delivery
  unfold EventDelivery.row at built
  cases event with
  | taskDelegated event => exact ofTask built
  | canonical payload =>
    dsimp only at built
    split at built
    · cases built
    · exact ofTask built
  | delegateSkillTerminal event =>
    dsimp only at built
    unfold terminalEventRow at built
    dsimp only at built
    obtain ⟨-, -, built⟩ := Raising.bind_eq_ok.1 built
    obtain ⟨rfl⟩ := Except.ok.inj built
    rw [stampTenant_other fun own => unnamed (own ▸ List.mem_cons_self)]
    exact OrderedDict.mem_keys.1 terminal

end Merge

/-! ## Runs -/

section Runs

variable (env : ProjectionEnv) (correlationId : String)

def ProjectionStore.answer (db : ProjectionStore) : Option Answer :=
  (db.delegationEvents.get? correlationId).map Row.answer

theorem handle_answer (db : ProjectionStore) (delivery : EventDelivery) :
    (handle env db delivery).1.answer correlationId =
      match delivery.answer env correlationId with
      | none => db.answer correlationId
      | some fresh => some (keepAnswer correlationId (db.answer correlationId) fresh) := by
  rw [EventDelivery.answer, ProjectionStore.answer]
  rcases handle_rows env db delivery with ⟨raised, failed, rows⟩ | ⟨fresh, own, built, named, rows⟩
  · rw [failed, rows]
    rfl
  rw [built, named, rows, ProjectionStore.upsert]
  rcases eq_or_ne own correlationId with rfl | other
  · simp only [if_true]
    rw [OrderedDict.get?_set_self, ProjectionStore.preserve, ProjectionStore.answer]
    cases present : db.delegationEvents.get? own with
    | none =>
      have first : (if own = "" then fresh else fresh) = fresh := ite_self _
      show some (Row.update .empty (if own = "" then fresh else fresh).entries).answer = _
      rw [first, Row.answer, first_row_get, first_row_get]
      rfl
    | some stored =>
      show some (merged env own stored fresh).answer = _
      rw [merged_answer (answered_row built)]
      rfl
  · have differs : some own ≠ some correlationId := fun same => other (Option.some.inj same)
    rw [OrderedDict.get?_set_other (Ne.symm other)]
    simp only [differs, if_false]
    rfl

def foldAnswers (stored : Option Answer) (answers : List Answer) : Option Answer :=
  answers.foldl (fun stored fresh => some (keepAnswer correlationId stored fresh)) stored

theorem foldAnswers_concat (stored : Option Answer) (answers : List Answer) (fresh : Answer) :
    foldAnswers correlationId stored (answers ++ [fresh]) =
      some (keepAnswer correlationId (foldAnswers correlationId stored answers) fresh) := by
  rw [foldAnswers, List.foldl_append]
  rfl

theorem answersOf_concat (before : List EventDelivery) (delivery : EventDelivery) :
    answersOf env correlationId (before ++ [delivery]) =
      answersOf env correlationId before ++ (delivery.answer env correlationId).toList := by
  rw [answersOf, List.filterMap_append]
  refine congrArg (answersOf env correlationId before ++ ·) ?_
  rw [List.filterMap_cons]
  cases delivery.answer env correlationId <;> rfl

theorem final_answer (db : ProjectionStore) (deliveries : List EventDelivery) :
    (final (handle env) db deliveries).answer correlationId =
      foldAnswers correlationId (db.answer correlationId)
        (answersOf env correlationId deliveries) := by
  induction deliveries using List.reverseRecOn with
  | nil => rfl
  | append_singleton before delivery ih =>
    have last : final (handle env) db (before ++ [delivery]) =
        (handle env (final (handle env) db before) delivery).1 := by
      rw [final_append]
      rfl
    rw [last, handle_answer, ih, answersOf_concat]
    cases delivery.answer env correlationId with
    | none => rw [Option.toList_none, List.append_nil]
    | some fresh => exact (foldAnswers_concat ..).symm

end Runs

/-! ## Passed answers -/

section Passed

variable {correlationId : String} {stored : Option Answer} {answers : List Answer}

theorem lastGiven_concat (answers : List Answer) (fresh : Answer) :
    lastGiven (answers ++ [fresh]) =
      if fresh.given = true then some fresh else lastGiven answers := by
  rw [lastGiven, List.reverse_concat, List.find?_cons]
  cases fresh.given <;> rfl

theorem lastGiven_given {answer : Answer} (last : lastGiven answers = some answer) :
    answer.passed = true ∧ isBlank answer.response = false := by
  have given := List.find?_some last
  rwa [Answer.given, Bool.and_eq_true, Bool.not_eq_true'] at given

def Untouched (correlationId : String) (answers : List Answer) : Prop :=
  ∀ before previous fresh after, answers = before ++ previous :: fresh :: after →
    fresh.given = false → ∀ answer, lastGiven (before ++ [previous]) = some answer →
    fresh.response ≠ answer.response →
    correlationId ≠ "" ∧ (isBlank fresh.response = true ∨ previous.passed = true)

def HoldsAnswer (correlationId : String) (stored : Option Answer) (answers : List Answer) : Prop :=
  ∀ before after, answers = before ++ after → ∀ answer, lastGiven before = some answer →
    ∃ held, foldAnswers correlationId stored before = some held ∧ held.response = answer.response

theorem keepAnswer_passed (stored : Option Answer) (fresh : Answer) :
    (keepAnswer correlationId stored fresh).passed = fresh.passed := by
  cases stored <;> rfl

theorem untouched_of_holds (holds : HoldsAnswer correlationId stored answers) :
    Untouched correlationId answers := by
  intro before previous fresh after split unpassed answer last differs
  obtain ⟨held, folded, same⟩ := holds (before ++ [previous]) (fresh :: after)
    (by rw [split, List.append_assoc]; rfl) answer last
  have passed : held.passed = previous.passed := by
    rw [foldAnswers_concat, Option.some.injEq] at folded
    rw [← folded, keepAnswer_passed]
  obtain ⟨held', folded', same'⟩ := holds (before ++ [previous] ++ [fresh]) after
    (by rw [split]; simp) answer (by rw [lastGiven_concat, unpassed]; exact last)
  rw [foldAnswers_concat, folded, Option.some.injEq] at folded'
  rw [← folded'] at same'
  -- the merge kept the stored response, since the new one differs
  have kept : correlationId ≠ "" ∧ isBlank held.response = false ∧
      (isBlank fresh.response = true ∨ (held.passed = true ∧ fresh.passed = false)) := by
    by_contra replaced
    exact differs ((if_neg replaced).symm.trans same')
  exact ⟨kept.1, kept.2.2.imp id fun both => passed ▸ both.1⟩

theorem holds_of_untouched (untouched : Untouched correlationId answers) :
    HoldsAnswer correlationId stored answers := by
  intro before
  induction before using List.reverseRecOn with
  | nil =>
    intro after split answer last
    cases last
  | append_singleton earlier fresh ih =>
    intro after split answer last
    refine ⟨_, foldAnswers_concat .., ?_⟩
    rw [lastGiven_concat] at last
    split at last
    · next given =>
      -- a passed answer that is not blank is written
      obtain rfl := Option.some.inj last
      rw [Answer.given, Bool.and_eq_true, Bool.not_eq_true'] at given
      cases foldAnswers correlationId stored earlier with
      | none => rfl
      | some held =>
        refine if_neg ?_
        rintro ⟨-, -, blank | ⟨-, failed⟩⟩
        · exact absurd (blank.symm.trans given.2) (by decide)
        · exact absurd (failed.symm.trans given.1) (by decide)
    · next unpassed =>
      rw [List.append_assoc] at split
      obtain ⟨held, folded, same⟩ := ih (fresh :: after) split answer last
      rw [folded]
      show (if _ then _ else _) = answer.response
      split
      · exact same
      · next replaced =>
        by_contra differs
        cases earlier using List.reverseRecOn with
        | nil => cases last
        | append_singleton before previous =>
          have passed : held.passed = previous.passed := by
            rw [foldAnswers_concat, Option.some.injEq] at folded
            rw [← folded, keepAnswer_passed]
          obtain ⟨named, blank⟩ := untouched before previous fresh after
            (by rw [split, List.append_assoc]; rfl) (Bool.not_eq_true _ ▸ unpassed) answer
            last differs
          refine replaced ⟨named, same ▸ (lastGiven_given last).2, ?_⟩
          rw [passed]
          cases shown : isBlank fresh.response with
          | true => exact .inl rfl
          | false =>
            refine .inr ⟨blank.resolve_left (by rw [shown]; decide), ?_⟩
            simpa [Answer.given, shown] using unpassed

end Passed

def KeepsAnswer (env : ProjectionEnv) (db : ProjectionStore) (correlationId : String)
    (deliveries : List EventDelivery) : Prop :=
  ∀ earlier later, deliveries = earlier ++ later →
    ∀ answer, lastGiven (answersOf env correlationId earlier) = some answer →
      ∃ row, (final (handle env) db earlier).delegationEvents.get? correlationId = some row ∧
        row.get "response_text" = answer.response

/-- The passed answers of a row are kept, in any store and through any deliveries, exactly when no
failed answer that is neither blank nor the passed one comes next after another failed answer. -/
theorem keepsAnswer_iff (env : ProjectionEnv) (db : ProjectionStore) (correlationId : String)
    (deliveries : List EventDelivery) :
    KeepsAnswer env db correlationId deliveries ↔
      Untouched correlationId (answersOf env correlationId deliveries) := by
  have row (earlier : List EventDelivery) (answer : Answer) :
      (∃ row, (final (handle env) db earlier).delegationEvents.get? correlationId = some row ∧
          row.get "response_text" = answer.response) ↔
        ∃ held, foldAnswers correlationId (db.answer correlationId)
          (answersOf env correlationId earlier) = some held ∧ held.response = answer.response := by
    rw [← final_answer, ProjectionStore.answer]
    simp only [Option.map_eq_some_iff]
    constructor
    · rintro ⟨row, present, same⟩
      exact ⟨row.answer, ⟨row, present, rfl⟩, same⟩
    · rintro ⟨_, ⟨row, present, rfl⟩, same⟩
      exact ⟨row, present, same⟩
  constructor
  · intro keeps
    have holds : HoldsAnswer correlationId (db.answer correlationId)
        (answersOf env correlationId deliveries) := by
      intro before after split answer last
      obtain ⟨earlier, later, rfl, rfl, rfl⟩ := List.filterMap_eq_append_iff.1 split
      exact (row earlier answer).1 (keeps earlier later rfl answer last)
    exact untouched_of_holds holds
  · intro untouched earlier later split answer last
    refine (row earlier answer).2 (holds_of_untouched untouched _
      (answersOf env correlationId later) ?_ answer last)
    rw [split, answersOf, List.filterMap_append]
    rfl

theorem unmetered_nonneg : (0 : ℚ) ≤ 0 := le_rfl

def terminalOf (passed : Bool) (response errorMessage : String) : EventDelivery where
  event := .delegateSkillTerminal
    { status := if passed then "completed" else "timeout"
      correlationId := ⟨"a", sampleId_nonempty⟩
      taskType := "test"
      response := response
      qualityGatePassed := passed
      metrics := { cost_nonneg := unmetered_nonneg, savings_nonneg := unmetered_nonneg }
      errorMessage := errorMessage
      emittedAt := ⟨0, some 0⟩ }
  now := ⟨0, some 0⟩

/-- The error text of the second failed terminal replaces the answer. -/
theorem second_failure_clobbers : ¬ KeepsAnswer sampleProjectionEnv {} "a"
      [terminalOf true "42" "", terminalOf false "" "timed out", terminalOf false "" "timed out"] := by
  intro keeps
  have replaced : ((final (handle sampleProjectionEnv) {} [terminalOf true "42" "",
      terminalOf false "" "timed out", terminalOf false "" "timed out"]).delegationEvents.get?
        "a").map (Row.get · "response_text") = some (.str "timed out") := by decide +kernel
  have last : ((lastGiven (answersOf sampleProjectionEnv "a" [terminalOf true "42" "",
      terminalOf false "" "timed out", terminalOf false "" "timed out"])).map
        Answer.response) = some (.str "42") := by decide +kernel
  obtain ⟨answer, given, response⟩ := Option.map_eq_some_iff.1 last
  obtain ⟨row, present, same⟩ := keeps _ [] (List.append_nil _).symm answer given
  rw [present, Option.map_some, Option.some.injEq, same, response] at replaced
  exact absurd replaced (by decide)

end OmniMarket.DelegationProjection
