import OmniMarket.GenerationConsumer.Deploy

/-!
# When a corpus accepts a scanner

A fixture is flagged by the length of the first list under the findings keys. An empty list there
hides a finding under a later key.
-/

namespace OmniMarket.GenerationConsumer

/-- A scanner gives an output, or raises an exception of a type with a text. -/
abbrev Scanner := PyDict → Except (String × String) PyValue

/-- The sandbox runs the scanner, whatever the source. -/
def GenerationEnv.scanning (env : GenerationEnv) (scanner : Scanner) : GenerationEnv :=
  { env with
    executeHandlerInSandbox := fun _ input =>
      match scanner input with
      | .ok output => .returned output
      | .error (typeName, text) => .raised typeName text }

/-! ## What the corpus is to decide -/

def listUnder (output : PyDict) (key : String) : Option (List PyValue) :=
  (PyDict.get? output key).bind PyValue.asList?

/-- Some findings key holds a list that is not empty. -/
def flagged (findingsKeys : List String) (output : PyDict) : Bool :=
  findingsKeys.any fun key => (listUnder output key).any fun found => !found.isEmpty

/-- The scanner gives a mapping for the fixture, and the mapping is flagged as asked. -/
def meets (corpus : ModelValidatorCorpus) (scanner : Scanner) (asked : Bool)
    (fixture : ModelCorpusFixture) : Bool :=
  match scanner [(corpus.sourceField, .str fixture.source)] with
  | .ok (.dict output) => flagged corpus.findingsKeys output == asked
  | _ => false

def misses (corpus : ModelValidatorCorpus) (scanner : Scanner) (asked : Bool)
    (fixtures : List ModelCorpusFixture) : ℕ :=
  fixtures.countP fun fixture => !meets corpus scanner asked fixture

def JudgesExactly (env : GenerationEnv) (handlerSource : String) (corpus : ModelValidatorCorpus)
    (scanner : Scanner) : Prop :=
  ∃ result, evaluateCorpusAcceptance (env.scanning scanner) handlerSource (some corpus) =
      .ok result ∧
    (result.passed = true ↔
      (∃ fixture ∈ corpus.violationFixtures ++ corpus.cleanFixtures, fixture.mutationOf ≠ "") ∧
        (∀ fixture ∈ corpus.violationFixtures, meets corpus scanner true fixture = true) ∧
        ∀ fixture ∈ corpus.cleanFixtures, meets corpus scanner false fixture = true) ∧
    (corpus.hasMutationCase = true →
      result.violationFlagged = corpus.violationFixtures.countP (meets corpus scanner true) ∧
        result.cleanPassed = corpus.cleanFixtures.countP (meets corpus scanner false) ∧
        result.errors.length = misses corpus scanner true corpus.violationFixtures +
          misses corpus scanner false corpus.cleanFixtures)

/-- The first list under the keys is empty, and a later one is not. -/
def Hidden (findingsKeys : List String) (output : PyDict) : Prop :=
  ∃ before key after, findingsKeys = before ++ key :: after ∧
    (∀ earlier ∈ before, listUnder output earlier = none) ∧ listUnder output key = some [] ∧
    flagged after output = true

/-- With a mutation case, no output for a fixture hides a finding. -/
def FindingsShown (corpus : ModelValidatorCorpus) (scanner : Scanner) : Prop :=
  corpus.hasMutationCase = true →
    ∀ fixture ∈ corpus.violationFixtures ++ corpus.cleanFixtures, ∀ output,
      scanner [(corpus.sourceField, .str fixture.source)] = .ok (.dict output) →
      ¬ Hidden corpus.findingsKeys output

/-! ## One fixture -/

variable {env : GenerationEnv} {handlerSource : String} {corpus : ModelValidatorCorpus}
  {scanner : Scanner} {fixture : ModelCorpusFixture} {fixtures : List ModelCorpusFixture}
  {output : PyDict} {findingsKeys : List String} {kind : String} {accepts : ℕ → Bool}
  {complaint : ModelCorpusFixture → ℕ → String} {tally : CorpusTally}

def findingsCount (findingsKeys : List String) (output : PyDict) : ℕ :=
  (findingsKeys.findSome? fun key => (listUnder output key).map List.length).getD 0

theorem hidden_cons {key : String} (unlisted : listUnder output key = none) :
    Hidden (key :: findingsKeys) output ↔ Hidden findingsKeys output := by
  constructor
  · rintro ⟨before, own, after, split, earlier, empty, later⟩
    cases before with
    | nil =>
      cases split
      rw [unlisted] at empty
      cases empty
    | cons first before =>
      cases split
      exact ⟨before, own, after, rfl, (List.forall_mem_cons.1 earlier).2, empty, later⟩
  · rintro ⟨before, own, after, rfl, earlier, empty, later⟩
    exact ⟨key :: before, own, after, rfl, List.forall_mem_cons.2 ⟨unlisted, earlier⟩, empty, later⟩

/-- What is flagged is counted or hidden, and never both. -/
theorem flagged_iff : flagged findingsKeys output = true ↔
    1 ≤ findingsCount findingsKeys output ∨ Hidden findingsKeys output := by
  induction findingsKeys with
  | nil =>
    refine iff_of_false Bool.false_ne_true ?_
    rintro (counted | ⟨before, key, after, split, -⟩)
    · cases counted
    · exact absurd split (by simp)
  | cons key rest ih =>
    unfold flagged findingsCount at ih ⊢
    rw [List.any_cons, List.findSome?_cons]
    cases listed : listUnder output key with
    | none =>
      rw [hidden_cons listed]
      simpa using ih
    | some found =>
      cases found with
      | nil =>
        simp only [Option.any_some, List.isEmpty_nil, Bool.not_true, Bool.false_or,
          Option.map_some, List.length_nil, Option.getD_some]
        refine ⟨fun later => .inr ⟨[], key, rest, rfl, by simp, listed, later⟩, ?_⟩
        rintro (counted | ⟨before, own, after, split, earlier, -, later⟩)
        · cases counted
        · cases before with
          | nil =>
            cases split
            exact later
          | cons first before =>
            cases split
            rw [(List.forall_mem_cons.1 earlier).1] at listed
            cases listed
      | cons first found => simp

theorem not_counted_of_hidden (hidden : Hidden findingsKeys output) :
    findingsCount findingsKeys output = 0 := by
  obtain ⟨before, key, after, rfl, earlier, empty, -⟩ := hidden
  have unlisted : (before.findSome? fun key => (listUnder output key).map List.length) = none :=
    List.findSome?_eq_none_iff.2 fun key listed => by rw [earlier key listed]; rfl
  unfold findingsCount
  rw [List.findSome?_append, unlisted, List.findSome?_cons, empty]
  rfl

/-- What a loop makes of a fixture. -/
def accepted (corpus : ModelValidatorCorpus) (scanner : Scanner) (accepts : ℕ → Bool)
    (fixture : ModelCorpusFixture) : Bool :=
  match scanner [(corpus.sourceField, .str fixture.source)] with
  | .ok (.dict output) => accepts (findingsCount corpus.findingsKeys output)
  | _ => false

theorem judgeCorpusFixture_ends : ∃ next,
    judgeCorpusFixture (env.scanning scanner) handlerSource corpus kind accepts complaint tally
      fixture = .ok next ∧
    next.right = tally.right + (if accepted corpus scanner accepts fixture then 1 else 0) ∧
    next.errors.length =
      tally.errors.length + (if accepted corpus scanner accepts fixture then 0 else 1) := by
  unfold judgeCorpusFixture scannerFindingsCount GenerationEnv.scanning accepted
  dsimp only
  cases scanner [(corpus.sourceField, .str fixture.source)] with
  | error raised => exact ⟨_, rfl, rfl, by simp⟩
  | ok output =>
    cases output with
    | dict output =>
      by_cases counted : accepts (findingsCount corpus.findingsKeys output) = true
      · exact ⟨_, if_pos counted, by simp [counted], by simp [counted]⟩
      · exact ⟨_, if_neg counted, by simp [counted], by simp [counted]⟩
    | none | bool _ | int _ | float _ | str _ | list _ => exact ⟨_, rfl, rfl, by simp⟩

theorem judgeCorpusFixtures_end (tally : CorpusTally) : ∃ next,
    fixtures.foldlM (judgeCorpusFixture (env.scanning scanner) handlerSource corpus kind accepts
      complaint) tally = .ok next ∧
    next.right = tally.right + fixtures.countP (accepted corpus scanner accepts) ∧
    next.errors.length =
      tally.errors.length + fixtures.countP (fun fixture => !accepted corpus scanner accepts fixture) := by
  induction fixtures generalizing tally with
  | nil => exact ⟨tally, rfl, rfl, rfl⟩
  | cons fixture rest ih =>
    obtain ⟨middle, judged, right, errors⟩ := @judgeCorpusFixture_ends env handlerSource corpus
      scanner fixture kind accepts complaint tally
    obtain ⟨next, later, right', errors'⟩ := ih middle
    refine ⟨next, by rw [List.foldlM_cons, judged]; exact later, ?_, ?_⟩
    · rw [right', right, List.countP_cons]
      omega
    · rw [errors', errors, List.countP_cons]
      cases accepted corpus scanner accepts fixture with
      | true => simp
      | false =>
        simp only [Bool.false_eq_true, if_false, Bool.not_false, if_true]
        omega

/-! ## Exactness -/

theorem accepted_eq (shown : ∀ output,
    scanner [(corpus.sourceField, .str fixture.source)] = .ok (.dict output) →
    ¬ Hidden corpus.findingsKeys output) :
    accepted corpus scanner (fun count => 1 ≤ count) fixture = meets corpus scanner true fixture ∧
      accepted corpus scanner (fun count => count = 0) fixture =
        meets corpus scanner false fixture := by
  unfold accepted meets
  split
  · next output returned =>
    have same := (@flagged_iff output corpus.findingsKeys).trans (or_iff_left (shown output returned))
    cases marked : flagged corpus.findingsKeys output with
    | true =>
      have counted := same.1 marked
      exact ⟨decide_eq_true counted, decide_eq_false (by omega)⟩
    | false =>
      have uncounted : ¬ 1 ≤ findingsCount corpus.findingsKeys output := by
        rw [← same, marked]
        exact Bool.false_ne_true
      exact ⟨decide_eq_false uncounted, decide_eq_true (by omega)⟩
  · exact ⟨rfl, rfl⟩

/-- A hidden finding is counted as none. -/
theorem accepted_hidden (returned :
    scanner [(corpus.sourceField, .str fixture.source)] = .ok (.dict output))
    (hidden : Hidden corpus.findingsKeys output) :
    accepted corpus scanner (fun count => 1 ≤ count) fixture = false ∧
      accepted corpus scanner (fun count => count = 0) fixture = true ∧
      meets corpus scanner true fixture = true ∧ meets corpus scanner false fixture = false := by
  unfold accepted meets
  rw [returned]
  dsimp only
  rw [not_counted_of_hidden hidden, flagged_iff.2 (.inr hidden)]
  decide

theorem accepted_le (fixture : ModelCorpusFixture) :
    (accepted corpus scanner (fun count => 1 ≤ count) fixture = true →
      meets corpus scanner true fixture = true) ∧
    (meets corpus scanner false fixture = true →
      accepted corpus scanner (fun count => count = 0) fixture = true) := by
  by_cases shown : ∀ output,
      scanner [(corpus.sourceField, .str fixture.source)] = .ok (.dict output) →
      ¬ Hidden corpus.findingsKeys output
  · obtain ⟨same, same'⟩ := accepted_eq shown
    rw [same, same']
    exact ⟨id, id⟩
  · push Not at shown
    obtain ⟨output, returned, hidden⟩ := shown
    obtain ⟨-, clean, flags, -⟩ := accepted_hidden returned hidden
    exact ⟨fun _ => flags, fun _ => clean⟩

/-- What `evaluate_corpus_acceptance` returns for a corpus with a mutation case. -/
theorem evaluateCorpusAcceptance_ends (mutated : corpus.hasMutationCase = true) : ∃ result,
    evaluateCorpusAcceptance (env.scanning scanner) handlerSource (some corpus) = .ok result ∧
    result.violationFlagged =
      corpus.violationFixtures.countP (accepted corpus scanner fun count => 1 ≤ count) ∧
    result.cleanPassed =
      corpus.cleanFixtures.countP (accepted corpus scanner fun count => count = 0) ∧
    result.errors.length =
      corpus.violationFixtures.countP
          (fun fixture => !accepted corpus scanner (fun count => 1 ≤ count) fixture) +
        corpus.cleanFixtures.countP
          (fun fixture => !accepted corpus scanner (fun count => count = 0) fixture) ∧
    (result.passed = true ↔
      (∀ fixture ∈ corpus.violationFixtures,
        accepted corpus scanner (fun count => 1 ≤ count) fixture = true) ∧
      ∀ fixture ∈ corpus.cleanFixtures,
        accepted corpus scanner (fun count => count = 0) fixture = true) := by
  have filled : ¬ corpus.isEmpty = true := by
    intro empty
    rw [ModelValidatorCorpus.isEmpty, Bool.and_eq_true, List.isEmpty_iff, List.isEmpty_iff] at empty
    rw [ModelValidatorCorpus.hasMutationCase, empty.1, empty.2] at mutated
    cases mutated
  obtain ⟨violations, walked, right, errors⟩ := @judgeCorpusFixtures_end env handlerSource corpus
    scanner corpus.violationFixtures "violation_fixture" (fun count => 1 ≤ count)
    (missedViolation (env.scanning scanner)) {}
  obtain ⟨clean, walked', right', errors'⟩ := @judgeCorpusFixtures_end env handlerSource corpus
    scanner corpus.cleanFixtures "clean_fixture" (fun count => count = 0)
    (falseFlag (env.scanning scanner)) { errors := violations.errors }
  simp only [List.length_nil, Nat.zero_add] at right errors right' errors'
  rw [errors] at errors'
  unfold evaluateCorpusAcceptance
  dsimp only
  rw [if_neg filled, if_neg (by simp [mutated]), walked, Raising.bind_ok, walked', Raising.bind_ok]
  refine ⟨_, rfl, right, right', errors', ?_⟩
  show decide (_ ∧ _ ∧ _) = true ↔ _
  rw [decide_eq_true_iff, right, right', List.countP_eq_length, List.countP_eq_length,
    ← List.length_eq_zero_iff, errors', Nat.add_eq_zero_iff, List.countP_eq_zero,
    List.countP_eq_zero]
  refine and_iff_right_of_imp fun judged => ⟨fun fixture listed => ?_, fun fixture listed => ?_⟩
  · rw [judged.1 fixture listed]
    exact Bool.false_ne_true
  · rw [judged.2 fixture listed]
    exact Bool.false_ne_true

theorem hasMutationCase_iff : corpus.hasMutationCase = true ↔
    ∃ fixture ∈ corpus.violationFixtures ++ corpus.cleanFixtures, fixture.mutationOf ≠ "" := by
  rw [ModelValidatorCorpus.hasMutationCase, List.any_eq_true]
  simp only [decide_eq_true_iff]

theorem countP_lt {narrow wide : ModelCorpusFixture → Bool}
    (within : ∀ fixture, narrow fixture = true → wide fixture = true) (listed : fixture ∈ fixtures)
    (out : narrow fixture = false) (met : wide fixture = true) :
    fixtures.countP narrow < fixtures.countP wide := by
  obtain ⟨before, after, rfl⟩ := List.append_of_mem listed
  have earlier := @List.countP_mono_left _ narrow wide before fun other _ => within other
  have later := @List.countP_mono_left _ narrow wide after fun other _ => within other
  simp only [List.countP_append, List.countP_cons, out, met, Bool.false_eq_true, if_false, if_true]
  omega

theorem shown_of_judges (exact : JudgesExactly env handlerSource corpus scanner) :
    FindingsShown corpus scanner := by
  intro mutated fixture listed output returned hidden
  obtain ⟨result, judged, -, counts⟩ := exact
  obtain ⟨result', judged', flags, passes, -⟩ :=
    @evaluateCorpusAcceptance_ends env handlerSource corpus scanner mutated
  obtain ⟨flagged, clean, -⟩ := counts mutated
  cases judged.symm.trans judged'
  obtain ⟨unflagged, cleared, flags', unclean⟩ := accepted_hidden returned hidden
  rcases List.mem_append.1 listed with violation | innocent
  · have fewer := countP_lt (fun other => (accepted_le other).1) violation unflagged flags'
    exact absurd (flags.symm.trans flagged) fewer.ne
  · have more := countP_lt (fun other => (accepted_le other).2) innocent unclean cleared
    exact absurd (clean.symm.trans passes) more.ne

theorem judges_of_shown (shown : FindingsShown corpus scanner) :
    JudgesExactly env handlerSource corpus scanner := by
  by_cases mutated : corpus.hasMutationCase = true
  · obtain ⟨result, judged, flags, passes, errors, passed⟩ :=
      @evaluateCorpusAcceptance_ends env handlerSource corpus scanner mutated
    have violations : ∀ fixture ∈ corpus.violationFixtures,
        accepted corpus scanner (fun count => 1 ≤ count) fixture =
          meets corpus scanner true fixture :=
      fun fixture listed =>
        (accepted_eq (shown mutated fixture (List.mem_append_left _ listed))).1
    have clean : ∀ fixture ∈ corpus.cleanFixtures,
        accepted corpus scanner (fun count => count = 0) fixture =
          meets corpus scanner false fixture :=
      fun fixture listed =>
        (accepted_eq (shown mutated fixture (List.mem_append_right _ listed))).2
    refine ⟨result, judged, ?_, fun _ => ⟨?_, ?_, ?_⟩⟩
    · rw [passed, and_iff_right (hasMutationCase_iff.1 mutated)]
      exact and_congr
        (forall₂_congr fun fixture listed => by rw [violations fixture listed])
        (forall₂_congr fun fixture listed => by rw [clean fixture listed])
    · rw [flags]
      exact List.countP_congr fun fixture listed => by rw [violations fixture listed]
    · rw [passes]
      exact List.countP_congr fun fixture listed => by rw [clean fixture listed]
    · rw [errors, misses, misses]
      exact congrArg₂ (· + ·)
        (List.countP_congr fun fixture listed => by rw [violations fixture listed])
        (List.countP_congr fun fixture listed => by rw [clean fixture listed])
  · -- without a mutation case nothing is tried, and nothing passes
    have rejected : ∃ result,
        evaluateCorpusAcceptance (env.scanning scanner) handlerSource (some corpus) = .ok result ∧
        result.passed = false := by
      unfold evaluateCorpusAcceptance
      dsimp only
      split
      · exact ⟨_, rfl, rfl⟩
      · rw [if_pos (by simp [mutated])]
        exact ⟨_, rfl, rfl⟩
    obtain ⟨result, judged, failed⟩ := rejected
    refine ⟨result, judged, ?_, fun mutated' => absurd mutated' mutated⟩
    rw [failed, ← hasMutationCase_iff]
    exact iff_of_false Bool.false_ne_true fun claimed => mutated claimed.1

/-- The corpora and scanners that are judged exactly: those where, if there is a mutation case, no
output for a fixture has an empty list as the first under the findings keys and one that is not
empty later. -/
theorem judgesExactly_iff (env : GenerationEnv) (handlerSource : String)
    (corpus : ModelValidatorCorpus) (scanner : Scanner) :
    JudgesExactly env handlerSource corpus scanner ↔ FindingsShown corpus scanner :=
  ⟨shown_of_judges, judges_of_shown⟩

/-! ## A scanner that flags under its second key -/

def secondKeyCorpus : ModelValidatorCorpus := { sampleCorpus with cleanFixtures := [] }

def secondKeyScanner : Scanner := fun _ =>
  .ok (.dict [("findings", .list []), ("violations", .list [.int 1])])

/-- The violation is flagged as asked, and the corpus says that it was not. -/
theorem second_key_unseen :
    ¬ JudgesExactly sampleEnv sampleHandler secondKeyCorpus secondKeyScanner := by
  rintro ⟨result, judged, passes, -⟩
  have failed : (evaluateCorpusAcceptance (sampleEnv.scanning secondKeyScanner) sampleHandler
      (some secondKeyCorpus)).toOption.map ModelCorpusAcceptanceResult.passed = some false := by
    decide +kernel
  rw [judged] at failed
  have passed := passes.2 (by decide +kernel)
  rw [show result.passed = false from Option.some.inj failed] at passed
  cases passed

end OmniMarket.GenerationConsumer
