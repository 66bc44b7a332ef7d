import OmniMarket.Lib.Raising
import OmniMarket.PrReview.Orchestrator

/-!
# Failing closed

Every run returns a verdict. It is never CLEAN after a step that raised, a finding or a thread
that failed verification; it is CLEAN although no reviewer answered, or an answer was unreadable.
-/

namespace OmniMarket.PrReview

open Raising

variable (env : ReviewEnv) (behaviour : Behaviour) (command : ReviewRequest)
  {state : ModelPrReviewBotState} {findings : List ReviewFinding} {reviewed : Reviewed}
  {thread : ThreadState}

/-! ## What a verdict says -/

/-- The prompt that the reviewers get. -/
def promptOf : Except String ModelPromptBuilderOutput := do
  let diffContent ← resolveDiff env behaviour command
  behaviour.resolveAdapter none
  behaviour.buildPrompt diffContent

def Answered (prompt : ModelPromptBuilderOutput) (index : ℕ) (modelKey raw : String) : Prop :=
  command.reviewerModels[index]? = some modelKey ∧
    behaviour.reviewer index modelKey prompt = .ok raw

/-- The answer of a reviewer parses to this. -/
def ParsesTo (index : ℕ) (modelKey raw : String) (parsed : ModelParseResult) : Prop :=
  parseModelResponse env (behaviour.newId index) raw modelKey = .ok parsed

/-- A CLEAN verdict ends a completed run in which reviewers answered and found nothing. -/
def CleanIsEarned (event : ModelPrReviewCompletedEvent) : Prop :=
  event.verdict.verdict = .clean →
    event.finalPhase = .done ∧ ∃ prompt, promptOf env behaviour command = .ok prompt ∧
      (∃ index modelKey raw, Answered behaviour command prompt index modelKey raw) ∧
      ∀ index modelKey raw, Answered behaviour command prompt index modelKey raw →
        ∃ parsed, ParsesTo env behaviour index modelKey raw parsed ∧
          parsed.status = .success ∧ parsed.findings = []

def FailureBlocks (event : ModelPrReviewCompletedEvent) : Prop :=
  (∀ raised, runPipeline env behaviour command (startState command) = .error raised →
    event.verdict.verdict = .blockingIssue) ∧
  ∀ reviewed, reviewAndJudge env behaviour command (startState command) = .ok reviewed →
    (∃ entry ∈ reviewed.judged, entry.1.status = .verifiedFail) →
    event.verdict.verdict = .blockingIssue

def PassIsJudged : Prop :=
  ∀ reviewed, reviewAndJudge env behaviour command (startState command) = .ok reviewed →
    ∀ (index : ℕ) (thread : ThreadState) (said : Option ModelJudgeParseResult),
      reviewed.judged[index]? = some (thread, said) → thread.status = .verifiedPass →
      ∃ verdict prompt raw, said = some verdict ∧
        behaviour.judge index command.judgeModel prompt = .ok raw ∧
        parseJudgeResponse env raw = .ok verdict ∧ verdict.passed = true

def FailsClosed : Prop :=
  ∃ event, handle env behaviour command = .ok (some event) ∧
    CleanIsEarned env behaviour command event ∧ FailureBlocks env behaviour command event ∧
    PassIsJudged env behaviour command

/-! ## When it does not fail closed -/

def threadsLeft (findings : List ReviewFinding) : Except String (List ThreadState) := do
  let threadStates ← postThreads behaviour command findings
  watchThreads behaviour command threadStates

def unjudged (thread : ThreadState) : ThreadState :=
  if thread.status = .resolved ∧ thread.verifyAttempts ≥ MAX_VERIFY_ATTEMPTS then
    { thread with
      status := .escalated
      judgeReasoning := some ("Escalated after " ++ toString MAX_VERIFY_ATTEMPTS ++
        " verification attempts. Human review required.") }
  else thread

def reportState (findings : List ReviewFinding) (threadStates : List ThreadState) :
    ModelPrReviewBotState :=
  { startState command with currentPhase := .report, findings, threadStates }

def SilentlyDegraded : Prop :=
  ∃ prompt threads, promptOf env behaviour command = .ok prompt ∧
    (∀ index modelKey raw, Answered behaviour command prompt index modelKey raw →
      ∃ parsed, ParsesTo env behaviour index modelKey raw parsed ∧ parsed.findings = []) ∧
    ((∀ index modelKey raw, ¬ Answered behaviour command prompt index modelKey raw) ∨
      ∃ index modelKey raw parsed, Answered behaviour command prompt index modelKey raw ∧
        ParsesTo env behaviour index modelKey raw parsed ∧ parsed.status ≠ .success) ∧
    threadsLeft behaviour command [] = .ok threads ∧
    (∀ thread ∈ threads, thread.status ≠ .verifiedFail) ∧
    postReport behaviour command [] (threads.map unjudged)
      (makeVerdict (reportState command [] (threads.map unjudged)) command.judgeModel) = .ok ()

def ReturnedVerified : Prop :=
  ∃ prompt findings threads judged, promptOf env behaviour command = .ok prompt ∧
    fanOutReview env behaviour prompt 0 command.reviewerModels = .ok findings ∧
    aggregate behaviour findings = .ok () ∧ threadsLeft behaviour command findings = .ok threads ∧
    judgeVerify env behaviour command findings 0 threads = .ok judged ∧
    ∃ thread ∈ threads, thread.status = .verifiedPass

/-! ## Stages -/

variable {env behaviour command}

theorem fanOutReview_nil {prompt : ModelPromptBuilderOutput} {start : ℕ} {models : List String} :
    fanOutReview env behaviour prompt start models = .ok [] ↔
      ∀ (index : ℕ) (modelKey raw : String), models[index]? = some modelKey →
        behaviour.reviewer (start + index) modelKey prompt = .ok raw →
        ∃ parsed, ParsesTo env behaviour (start + index) modelKey raw parsed ∧
          parsed.findings = [] := by
  induction models generalizing start with
  | nil => simp [fanOutReview]
  | cons modelKey rest ih =>
    rw [fanOutReview, bind_eq_ok]
    constructor
    · rintro ⟨parsed, own, others⟩
      obtain ⟨findings, others, none_found⟩ := bind_eq_ok.1 others
      obtain ⟨noOwn, rfl⟩ := List.append_eq_nil_iff.1 (Except.ok.inj none_found)
      intro index other raw listed answered
      cases index with
      | zero =>
        obtain rfl : modelKey = other := Option.some.inj listed
        rw [reviewOne, ← Nat.add_zero start, answered] at own
        obtain ⟨result, parses, rfl⟩ := map_eq_ok.1 own
        exact ⟨result, parses, List.map_eq_nil_iff.1 noOwn⟩
      | succ index =>
        have shifted : start + (index + 1) = start + 1 + index := by omega
        rw [shifted] at answered ⊢
        exact ih.1 others index other raw listed answered
    · intro readable
      have others : fanOutReview env behaviour prompt (start + 1) rest = .ok [] := by
        refine ih.2 fun index other raw listed answered => ?_
        have shifted : start + 1 + index = start + (index + 1) := by omega
        rw [shifted] at answered ⊢
        exact readable (index + 1) other raw listed answered
      cases answered : behaviour.reviewer start modelKey prompt with
      | error raised =>
        refine ⟨none, by rw [reviewOne, answered], ?_⟩
        rw [others]
        rfl
      | ok raw =>
        obtain ⟨parsed, parses, none_found⟩ := readable 0 modelKey raw rfl answered
        refine ⟨some parsed, ?_, ?_⟩
        · rw [reviewOne, answered]
          exact map_eq_ok.2 ⟨parsed, parses, rfl⟩
        · rw [others, Option.elim_some, none_found]
          rfl

theorem succeed_ok {toPhase : EnumFsmPhase} {findings : Option (List ReviewFinding)}
    {threadStates : Option (List ThreadState)} (next : nextPhase state.currentPhase = .ok toPhase) :
    succeed state findings threadStates =
      .ok { state with
        currentPhase := toPhase
        consecutiveFailures := 0
        errorMessage := none
        findings := findings.getD state.findings
        threadStates := threadStates.getD state.threadStates } := by
  rw [succeed, advance_success next]
  rfl

theorem collectFindings_start :
    collectFindings env behaviour command (startState command) = .ok (state, findings) ↔
      ∃ prompt, promptOf env behaviour command = .ok prompt ∧
        fanOutReview env behaviour prompt 0 command.reviewerModels = .ok findings ∧
        aggregate behaviour findings = .ok () ∧
        state = { startState command with currentPhase := .postThreads, findings } := by
  have fetch : succeed (startState command) none none =
      .ok { startState command with currentPhase := .fetchDiff } := rfl
  have review : succeed { startState command with currentPhase := .fetchDiff } none none =
      .ok { startState command with currentPhase := .review } := rfl
  have post : ∀ found, succeed { startState command with currentPhase := .review } (some found)
      none = .ok { startState command with currentPhase := .postThreads, findings := found } :=
    fun _ => rfl
  simp only [collectFindings, promptOf, fetch, review, post, bind_eq_ok, Except.ok.injEq,
    exists_eq_left', pure, Except.pure, Prod.mk.injEq]
  constructor
  · rintro ⟨diffContent, resolved, adapter, isResolved, prompt, built, found, fanned, done,
      aggregated, rfl, rfl⟩
    exact ⟨prompt, ⟨diffContent, resolved, adapter, isResolved, built⟩, fanned, aggregated, rfl⟩
  · rintro ⟨prompt, ⟨diffContent, resolved, adapter, isResolved, built⟩, fanned, aggregated, rfl⟩
    exact ⟨diffContent, resolved, adapter, isResolved, prompt, built, findings, fanned, (),
      aggregated, rfl, rfl⟩

theorem collectThreads_posted {left : ModelPrReviewBotState} {threads : List ThreadState}
    (phase : state.currentPhase = .postThreads)
    (calm : state.consecutiveFailures = 0 ∧ state.errorMessage = none) :
    collectThreads behaviour command state findings = .ok (left, threads) ↔
      threadsLeft behaviour command findings = .ok threads ∧
        left = { state with currentPhase := .judgeVerify, threadStates := threads } := by
  obtain ⟨failures, message⟩ := calm
  have watch : ∀ posted, succeed state none (some posted) =
      .ok { state with currentPhase := .watch, threadStates := posted } := by
    intro posted
    rw [succeed_ok (phase ▸ rfl : nextPhase state.currentPhase = .ok .watch), ← failures, ← message]
    rfl
  have judge : ∀ posted watched,
      succeed { state with currentPhase := .watch, threadStates := posted } none (some watched) =
        .ok { state with currentPhase := .judgeVerify, threadStates := watched } := by
    intro posted watched
    rw [succeed_ok (rfl : nextPhase .watch = .ok .judgeVerify), ← failures, ← message]
    rfl
  simp only [collectThreads, threadsLeft, watch, judge, bind_eq_ok, Except.ok.injEq,
    exists_eq_left', pure, Except.pure, Prod.mk.injEq]
  constructor
  · rintro ⟨posted, isPosted, watched, isWatched, rfl, rfl⟩
    exact ⟨⟨posted, isPosted, isWatched⟩, rfl⟩
  · rintro ⟨⟨posted, isPosted, isWatched⟩, rfl⟩
    exact ⟨posted, isPosted, threads, isWatched, rfl, rfl⟩

theorem reviewAndJudge_start :
    reviewAndJudge env behaviour command (startState command) = .ok reviewed ↔
      ∃ prompt threads, promptOf env behaviour command = .ok prompt ∧
        fanOutReview env behaviour prompt 0 command.reviewerModels = .ok reviewed.findings ∧
        aggregate behaviour reviewed.findings = .ok () ∧
        threadsLeft behaviour command reviewed.findings = .ok threads ∧
        judgeVerify env behaviour command reviewed.findings 0 threads = .ok reviewed.judged ∧
        reviewed.state = reportState command reviewed.findings (reviewed.judged.map Prod.fst) := by
  have report : ∀ found left reported,
      succeed { startState command with
        currentPhase := .judgeVerify, findings := found, threadStates := left } none
        (some reported) = .ok (reportState command found reported) := fun _ _ _ => rfl
  simp only [reviewAndJudge, bind_eq_ok, Prod.exists, collectFindings_start]
  constructor
  · rintro ⟨state, findings, ⟨prompt, isPrompt, fanned, aggregated, rfl⟩, left, threads, collected,
      judged, isJudged, last, reported, isReviewed⟩
    obtain ⟨isLeft, rfl⟩ := (collectThreads_posted rfl ⟨rfl, rfl⟩).1 collected
    obtain rfl := Except.ok.inj isReviewed
    exact ⟨prompt, threads, isPrompt, fanned, aggregated, isLeft, isJudged,
      (Except.ok.inj ((report _ _ _).symm.trans reported)).symm⟩
  · rintro ⟨prompt, threads, isPrompt, fanned, aggregated, isLeft, isJudged, isReported⟩
    refine ⟨_, reviewed.findings, ⟨prompt, isPrompt, fanned, aggregated, rfl⟩, _, threads,
      (collectThreads_posted rfl ⟨rfl, rfl⟩).2 ⟨isLeft, rfl⟩, reviewed.judged, isJudged, _,
      report _ _ _, ?_⟩
    rw [← isReported]
    rfl

theorem runPipeline_start :
    runPipeline env behaviour command (startState command) = .ok state ↔
      ∃ reviewed, reviewAndJudge env behaviour command (startState command) = .ok reviewed ∧
        postReport behaviour command reviewed.findings (reviewed.judged.map Prod.fst)
          (makeVerdict reviewed.state command.judgeModel) = .ok () ∧
        state = { reviewed.state with currentPhase := .done } := by
  simp only [runPipeline, bind_eq_ok]
  constructor
  · rintro ⟨reviewed, isReviewed, done, posted, succeeded⟩
    obtain ⟨-, -, -, -, -, -, -, reported⟩ := reviewAndJudge_start.1 isReviewed
    refine ⟨reviewed, isReviewed, posted, ?_⟩
    rw [reported] at succeeded ⊢
    exact (Except.ok.inj succeeded).symm
  · rintro ⟨reviewed, isReviewed, posted, rfl⟩
    obtain ⟨-, -, -, -, -, -, -, reported⟩ := reviewAndJudge_start.1 isReviewed
    refine ⟨reviewed, isReviewed, (), posted, ?_⟩
    rw [reported]
    rfl

/-! ## Judging -/

theorem judgeThread_verified {index : ℕ} {entry : ThreadState × Option ModelJudgeParseResult}
    (judged : judgeThread env behaviour command findings index thread = .ok entry)
    (verified : entry.1.status = .verifiedPass) :
    thread.status = .verifiedPass ∨ ∃ verdict prompt raw, entry.2 = some verdict ∧
      behaviour.judge index command.judgeModel prompt = .ok raw ∧
      parseJudgeResponse env raw = .ok verdict ∧ verdict.passed = true := by
  unfold judgeThread at judged
  split at judged
  · obtain rfl := Except.ok.inj judged
    exact .inl verified
  · split at judged
    · obtain rfl := Except.ok.inj judged
      cases verified
    · split at judged
      · obtain rfl := Except.ok.inj judged
        exact .inl verified
      · next finding found =>
        obtain ⟨verdict, called, isEntry⟩ := bind_eq_ok.1 judged
        obtain rfl := Except.ok.inj isEntry
        have passed : verdict.passed = true := by
          by_contra failed
          simp [failed] at verified
        obtain ⟨resolved, -, called⟩ := bind_eq_ok.1 called
        dsimp only at called
        split at called
        · obtain rfl := Except.ok.inj called
          cases passed
        · next raw answered => exact .inr ⟨verdict, _, raw, rfl, answered, called, passed⟩

theorem judgeThread_of_verified {index : ℕ} (verified : thread.status = .verifiedPass) :
    judgeThread env behaviour command findings index thread = .ok (thread, none) := by
  rw [judgeThread, if_pos]
  rw [verified]
  decide

theorem judgeVerify_get {start : ℕ} {threads : List ThreadState}
    {judged : List (ThreadState × Option ModelJudgeParseResult)}
    (verified : judgeVerify env behaviour command findings start threads = .ok judged) :
    judged.length = threads.length ∧ ∀ (index : ℕ) (thread : ThreadState)
      (entry : ThreadState × Option ModelJudgeParseResult), threads[index]? = some thread →
      judged[index]? = some entry →
      judgeThread env behaviour command findings (start + index) thread = .ok entry := by
  induction threads generalizing start judged with
  | nil =>
    obtain rfl := Except.ok.inj verified
    simp
  | cons first rest ih =>
    obtain ⟨own, isOwn, verified⟩ := bind_eq_ok.1 verified
    obtain ⟨others, areOthers, isJudged⟩ := bind_eq_ok.1 verified
    obtain rfl := Except.ok.inj isJudged
    obtain ⟨length, later⟩ := ih areOthers
    refine ⟨by simp [length], ?_⟩
    intro index thread entry isThread isEntry
    cases index with
    | zero =>
      obtain rfl := Option.some.inj isThread
      obtain rfl := Option.some.inj isEntry
      exact isOwn
    | succ index =>
      have shifted : start + (index + 1) = start + 1 + index := by omega
      rw [shifted]
      exact later index thread entry isThread isEntry

theorem judgeVerify_nil (threads : List ThreadState) (start : ℕ) :
    judgeVerify env behaviour command [] start threads =
      .ok (threads.map fun thread => (unjudged thread, none)) := by
  induction threads generalizing start with
  | nil => rfl
  | cons thread rest ih =>
    have own : judgeThread env behaviour command [] start thread =
        .ok (unjudged thread, none) := by
      rw [judgeThread, unjudged]
      by_cases resolved : thread.status = .resolved
      · rw [if_neg (not_not.2 resolved)]
        by_cases often : thread.verifyAttempts ≥ MAX_VERIFY_ATTEMPTS
        · rw [if_pos often, if_pos ⟨resolved, often⟩]
        · rw [if_neg often, if_neg (not_and.2 fun _ => often)]
          rfl
      · rw [if_pos resolved, if_neg (not_and.2 fun isResolved => absurd isResolved resolved)]
    rw [judgeVerify, own, ih]
    rfl

theorem unjudged_failed :
    (unjudged thread).status = .verifiedFail ↔ thread.status = .verifiedFail := by
  rw [unjudged]
  split
  · next often => simp [often.1]
  · exact Iff.rfl

theorem passIsJudged_iff :
    PassIsJudged env behaviour command ↔ ¬ ReturnedVerified env behaviour command := by
  constructor
  · rintro judgedOnly ⟨prompt, findings, threads, judged, isPrompt, fanned, aggregated, isLeft,
      isJudged, thread, listed, verified⟩
    obtain ⟨index, isThread⟩ := List.mem_iff_getElem?.1 listed
    obtain ⟨length, steps⟩ := judgeVerify_get isJudged
    obtain ⟨bound, -⟩ := List.getElem?_eq_some_iff.1 isThread
    have isEntry : judged[index]? = some judged[index] := List.getElem?_eq_getElem (by omega)
    have step := steps index thread _ isThread isEntry
    rw [judgeThread_of_verified verified] at step
    rw [← Except.ok.inj step] at isEntry
    have isReviewed : reviewAndJudge env behaviour command (startState command) =
        .ok { state := reportState command findings (judged.map Prod.fst), findings, judged } :=
      reviewAndJudge_start.2 ⟨prompt, threads, isPrompt, fanned, aggregated, isLeft, isJudged, rfl⟩
    obtain ⟨verdict, -, -, said, -⟩ := judgedOnly _ isReviewed index thread none isEntry verified
    cases said
  · intro notReturned reviewed isReviewed index thread said isEntry verified
    obtain ⟨prompt, threads, isPrompt, fanned, aggregated, isLeft, isJudged, -⟩ :=
      reviewAndJudge_start.1 isReviewed
    obtain ⟨length, steps⟩ := judgeVerify_get isJudged
    obtain ⟨bound, -⟩ := List.getElem?_eq_some_iff.1 isEntry
    have isThread : threads[index]? = some threads[index] := List.getElem?_eq_getElem (by omega)
    have step := steps index _ _ isThread isEntry
    rw [Nat.zero_add] at step
    refine (judgeThread_verified step verified).resolve_left fun already => notReturned ?_
    exact ⟨prompt, reviewed.findings, threads, reviewed.judged, isPrompt, fanned, aggregated, isLeft,
      isJudged, _, List.getElem_mem _, already⟩

/-! ## The verdict of a run -/

theorem handle_error {raised : String}
    (ended : runPipeline env behaviour command (startState command) = .error raised) :
    ∃ event, handle env behaviour command = .ok (some event) ∧
      event.verdict.verdict = .blockingIssue := by
  obtain ⟨failed, forced, phase⟩ : ∃ failed,
      forceFailed (startState command) raised = .ok (some failed) ∧
        failed.currentPhase = .failed := ⟨_, rfl, rfl⟩
  refine ⟨{ finalPhase := failed.currentPhase, verdict := makeVerdict failed command.judgeModel },
    ?_, makeVerdict_failed phase⟩
  rw [handle, ended]
  exact congrArg (Except.map _) forced

theorem handle_ok (ended : runPipeline env behaviour command (startState command) = .ok state) :
    handle env behaviour command = .ok (some
      { finalPhase := state.currentPhase
        verdict := makeVerdict state command.judgeModel }) := by
  rw [handle, ended]
  rfl

section

variable (isReviewed : reviewAndJudge env behaviour command (startState command) = .ok reviewed)

include isReviewed

theorem clean_done : (makeVerdict { reviewed.state with currentPhase := .done } command.judgeModel).verdict =
        .clean ↔
      (∀ entry ∈ reviewed.judged, entry.1.status ≠ .verifiedFail) ∧ reviewed.findings = [] := by
  obtain ⟨-, -, -, -, -, -, -, reported⟩ := reviewAndJudge_start.1 isReviewed
  rw [makeVerdict_clean (by simp), reported]
  simp [reportState]

theorem blocks_done (failed : ∃ entry ∈ reviewed.judged, entry.1.status = .verifiedFail) :
    (makeVerdict { reviewed.state with currentPhase := .done } command.judgeModel).verdict =
      .blockingIssue := by
  obtain ⟨-, -, -, -, -, -, -, reported⟩ := reviewAndJudge_start.1 isReviewed
  refine makeVerdict_blocks ?_
  rw [reported]
  obtain ⟨entry, listed, isFailed⟩ := failed
  exact ⟨entry.1, List.mem_map_of_mem listed, isFailed⟩

end

theorem runs_of_silentlyDegraded (degraded : SilentlyDegraded env behaviour command) :
    ∃ reviewed, reviewAndJudge env behaviour command (startState command) = .ok reviewed ∧
      reviewed.findings = [] ∧ (∀ entry ∈ reviewed.judged, entry.1.status ≠ .verifiedFail) ∧
      runPipeline env behaviour command (startState command) =
        .ok { reviewed.state with currentPhase := .done } := by
  obtain ⟨prompt, threads, isPrompt, readable, -, isLeft, noneFailed, posted⟩ := degraded
  have fanned : fanOutReview env behaviour prompt 0 command.reviewerModels = .ok [] := by
    refine fanOutReview_nil.2 fun index modelKey raw listed answered => ?_
    rw [Nat.zero_add] at answered ⊢
    exact readable index modelKey raw ⟨listed, answered⟩
  let judged := threads.map fun thread => (unjudged thread, (none : Option ModelJudgeParseResult))
  have isReviewed : reviewAndJudge env behaviour command (startState command) =
      .ok { state := reportState command [] (judged.map Prod.fst), findings := [], judged } :=
    reviewAndJudge_start.2 ⟨prompt, threads, isPrompt, fanned,
      (if_pos rfl : aggregate behaviour [] = .ok ()), isLeft, judgeVerify_nil threads 0, rfl⟩
  refine ⟨_, isReviewed, rfl, ?_, runPipeline_start.2 ⟨_, isReviewed, ?_, rfl⟩⟩
  · intro entry listed
    obtain ⟨thread, inThreads, rfl⟩ := List.mem_map.1 listed
    exact fun failed => noneFailed thread inThreads (unjudged_failed.1 failed)
  · simpa only [judged, List.map_map, Function.comp_def] using posted

theorem silentlyDegraded_of_clean
    (isReviewed : reviewAndJudge env behaviour command (startState command) = .ok reviewed)
    (posted : postReport behaviour command reviewed.findings (reviewed.judged.map Prod.fst)
      (makeVerdict reviewed.state command.judgeModel) = .ok ()) (noFinding : reviewed.findings = [])
    (noneFailed : ∀ entry ∈ reviewed.judged, entry.1.status ≠ .verifiedFail) :
    SilentlyDegraded env behaviour command ∨
      ∃ prompt, promptOf env behaviour command = .ok prompt ∧
        (∃ index modelKey raw, Answered behaviour command prompt index modelKey raw) ∧
        ∀ index modelKey raw, Answered behaviour command prompt index modelKey raw →
          ∃ parsed, ParsesTo env behaviour index modelKey raw parsed ∧
            parsed.status = .success ∧ parsed.findings = [] := by
  obtain ⟨prompt, threads, isPrompt, fanned, -, isLeft, isJudged, reported⟩ :=
    reviewAndJudge_start.1 isReviewed
  rw [noFinding] at fanned isLeft isJudged reported posted
  rw [judgeVerify_nil] at isJudged
  rw [reported, ← Except.ok.inj isJudged, List.map_map] at posted
  rw [← Except.ok.inj isJudged] at noneFailed
  have readable : ∀ index modelKey raw, Answered behaviour command prompt index modelKey raw →
      ∃ parsed, ParsesTo env behaviour index modelKey raw parsed ∧ parsed.findings = [] := by
    intro index modelKey raw answered
    have found := fanOutReview_nil.1 fanned index modelKey raw answered.1
    rw [Nat.zero_add] at found
    exact found answered.2
  have noneFailedLeft : ∀ thread ∈ threads, thread.status ≠ .verifiedFail := by
    intro thread listed failed
    exact noneFailed _ (List.mem_map_of_mem listed) (unjudged_failed.2 failed)
  by_cases answers : ∃ index modelKey raw, Answered behaviour command prompt index modelKey raw
  · by_cases allRead : ∀ index modelKey raw,
        Answered behaviour command prompt index modelKey raw →
        ∃ parsed, ParsesTo env behaviour index modelKey raw parsed ∧
          parsed.status = .success ∧ parsed.findings = []
    · exact .inr ⟨prompt, isPrompt, answers, allRead⟩
    · -- an answer that was not read is one of another status
      push Not at allRead
      obtain ⟨index, modelKey, raw, answered, unread⟩ := allRead
      obtain ⟨parsed, parses, none_found⟩ := readable index modelKey raw answered
      refine .inl ⟨prompt, threads, isPrompt, readable, .inr ⟨index, modelKey, raw, parsed,
        answered, parses, ?_⟩, isLeft, noneFailedLeft, posted⟩
      exact fun success => unread parsed parses success none_found
  · push Not at answers
    exact .inl ⟨prompt, threads, isPrompt, readable, .inl answers, isLeft, noneFailedLeft, posted⟩

theorem not_failsClosed_of_degraded (degraded : SilentlyDegraded env behaviour command) :
    ¬ FailsClosed env behaviour command := by
  rintro ⟨event, isEvent, earned, -⟩
  obtain ⟨reviewed, isReviewed, noFinding, noneFailed, runs⟩ := runs_of_silentlyDegraded degraded
  obtain rfl := Option.some.inj (Except.ok.inj ((handle_ok runs).symm.trans isEvent))
  obtain ⟨-, prompt, isPrompt, answers, allRead⟩ :=
    earned ((clean_done isReviewed).2 ⟨noneFailed, noFinding⟩)
  obtain ⟨again, -, isAgain, -, shortfall, -⟩ := degraded
  obtain rfl : prompt = again := Except.ok.inj (isPrompt.symm.trans isAgain)
  rcases shortfall with none_answered | ⟨index, modelKey, raw, parsed, answered, parses, other⟩
  · obtain ⟨index, modelKey, raw, answered⟩ := answers
    exact none_answered index modelKey raw answered
  · obtain ⟨read, parsesToo, success, -⟩ := allRead index modelKey raw answered
    obtain rfl : parsed = read := Except.ok.inj (parses.symm.trans parsesToo)
    exact other success

/-- The review fails closed exactly when it does not degrade silently and no thread comes verified
from the review effect. -/
theorem failsClosed_iff (env : ReviewEnv) (behaviour : Behaviour) (command : ReviewRequest) :
    FailsClosed env behaviour command ↔
      ¬ SilentlyDegraded env behaviour command ∧ ¬ ReturnedVerified env behaviour command := by
  rw [← passIsJudged_iff]
  cases ended : runPipeline env behaviour command (startState command) with
  | error raised =>
    obtain ⟨event, handled, blocks⟩ := handle_error ended
    have notDegraded : ¬ SilentlyDegraded env behaviour command := by
      intro degraded
      obtain ⟨reviewed, -, -, -, runs⟩ := runs_of_silentlyDegraded degraded
      rw [ended] at runs
      cases runs
    constructor
    · rintro ⟨-, -, -, -, judgedOnly⟩
      exact ⟨notDegraded, judgedOnly⟩
    · rintro ⟨-, judgedOnly⟩
      refine ⟨event, handled, ?_, ⟨fun _ _ => blocks, fun _ _ _ => blocks⟩, judgedOnly⟩
      intro clean
      rw [blocks] at clean
      cases clean
  | ok state =>
    obtain ⟨reviewed, isReviewed, posted, rfl⟩ := runPipeline_start.1 ended
    constructor
    · intro closed
      refine ⟨fun degraded => not_failsClosed_of_degraded degraded closed, ?_⟩
      obtain ⟨-, -, -, -, judgedOnly⟩ := closed
      exact judgedOnly
    · rintro ⟨notDegraded, judgedOnly⟩
      refine ⟨_, handle_ok ended, ?_, ⟨?_, ?_⟩, judgedOnly⟩
      · intro clean
        obtain ⟨noneFailed, noFinding⟩ := (clean_done isReviewed).1 clean
        exact ⟨rfl, (silentlyDegraded_of_clean isReviewed posted noFinding
          noneFailed).resolve_left notDegraded⟩
      · intro raised failed
        rw [ended] at failed
        cases failed
      · intro other isOther failed
        obtain rfl : reviewed = other := Except.ok.inj (isReviewed.symm.trans isOther)
        exact blocks_done isReviewed failed

/-! ## A run without reviewers -/

def sampleEnv : ReviewEnv where
  unicode := PyText.asciiTable
  upper := String.toUpper
  str := fun value => (value.asStr?).getD ""
  loads := fun _ => .malformed "Expecting value"
  validationText := fun model _ => "validation error for " ++ model

def unreachableModels : Behaviour where
  diffEffect := fun _ => .ok "diff --git a/a.py b/a.py"
  resolveAdapter := fun _ => .ok ()
  buildPrompt := fun diffContent => .ok ⟨"Review the diff.", diffContent⟩
  reviewer := fun _ _ _ => .error "Connection refused"
  newId := fun reviewer item => toString reviewer ++ "-" ++ toString item
  aggregate := fun _ => .ok ()
  reviewEffect := fun reviewCommand => .ok reviewCommand.threadStates
  judge := fun _ _ _ => .error "Connection refused"

def sampleRequest : ReviewRequest where
  correlationId := "00000000-0000-4000-8000-000000000001"
  prNumber := 7
  repo := "OmniNode-ai/omnimarket"
  reviewerModels := ["local"]
  judgeModel := "local"
  dryRun := false
  maxFindingsPerPr := 20
  prNumberPositive := by decide
  someReviewer := by decide
  reviewersNotBlank := by decide
  judgeNotBlank := by decide
  maxFindingsPositive := by decide

/-- A review that no model answered is CLEAN. -/
theorem no_reviewer_is_clean : ¬ FailsClosed sampleEnv unreachableModels sampleRequest := by
  refine not_failsClosed_of_degraded ⟨⟨"Review the diff.", "diff --git a/a.py b/a.py"⟩, [], rfl, ?_,
    .inl ?_, rfl, by simp, rfl⟩
  · rintro index modelKey raw ⟨-, answered⟩
    cases answered
  · rintro index modelKey raw ⟨-, answered⟩
    cases answered

end OmniMarket.PrReview
