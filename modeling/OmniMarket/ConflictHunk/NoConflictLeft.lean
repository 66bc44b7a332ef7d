import Mathlib.Data.List.Infix
import OmniMarket.Lib.Lines
import OmniMarket.ConflictHunk.Handler

/-!
# When no conflict is left
-/

namespace OmniMarket.ConflictHunk

/-! ## Conflict markers -/

/-- A line that opens, divides or closes a conflict. -/
def IsMarkerLine (line : List Char) : Prop :=
  conflictMarker <+: line ∨ line = "=======".toList ∨ endMarker <+: line

def ConflictRemains (text : String) : Prop := ∃ line ∈ PyText.splitLines text.toList, IsMarkerLine line

instance (line : List Char) : Decidable (IsMarkerLine line) :=
  inferInstanceAs (Decidable (_ ∨ _ ∨ _))

instance (text : String) : Decidable (ConflictRemains text) :=
  inferInstanceAs (Decidable (∃ line ∈ PyText.splitLines text.toList, IsMarkerLine line))

/-- No conflict is left in the files. -/
def Resolved (tree : Worktree) (paths : List String) : Prop :=
  ∀ path ∈ paths, ∀ text, tree.get? path = some text → ¬ ConflictRemains text

structure NoConflictLeft (env : HunkEnv) (tree : Worktree) : Prop where
  applied : ∀ after resolution,
    applyLlmResolutions env tree {} (findConflictFiles env tree) = (after, some resolution) →
      resolution.error = none → Resolved after (findConflictFiles env tree)
  reported : ∀ git request after event, resolve env git tree request = (after, some event) →
    event.success = true → event.error = none → Resolved after (findConflictFiles env tree)

/-! ## The loop -/

/-- The text of the file before its resolution. -/
def originalOf (tree : Worktree) (path : String) : String := (tree.get? path).getD ""

/-- The loop ends at this file with an error or an exception. -/
def Stops (env : HunkEnv) (path original : String) : Prop :=
  match fileOutcome env path original with
  | .raised | .refused _ => True
  | .unchanged | .resolved _ => False

section

variable {env : HunkEnv} {tree after : Worktree} {path original text : String}
  {paths : List String} {soFar resolution : Resolution}

theorem fileOutcome_unchanged (outcome : fileOutcome env path original = .unchanged) :
    (answerFor env path original).1 = original := by
  unfold fileOutcome at outcome
  split at outcome
  · cases outcome
  · dsimp only at outcome
    split at outcome
    · cases outcome
    · split at outcome
      · next same => exact same
      · split at outcome
        · cases outcome
        · split at outcome <;> cases outcome

theorem fileOutcome_resolved (outcome : fileOutcome env path original = .resolved text) :
    (answerFor env path original).1 = text ∧ text ≠ original ∧
      refusalOf env path original text = none := by
  unfold fileOutcome at outcome
  split at outcome
  · cases outcome
  · dsimp only at outcome
    split at outcome
    · cases outcome
    · split at outcome
      · cases outcome
      · next changed =>
        split at outcome
        · cases outcome
        · next accepted =>
          split at outcome
          · cases outcome
          · cases outcome
            exact ⟨rfl, changed, accepted⟩

theorem refusalOf_none (accepted : refusalOf env path original text = none) :
    hasConflictMarker text = false := by
  unfold refusalOf at accepted
  dsimp only at accepted
  split at accepted
  · cases accepted
  · next free => exact Bool.eq_false_iff.2 free

theorem applied_spec (distinct : paths.Nodup) (listed : ∀ path ∈ paths, path ∈ tree.keys)
    (returned : applyLlmResolutions env tree soFar paths = (after, some resolution))
    (sound : resolution.error = none) :
    (∀ path ∈ paths, ¬ Stops env path (originalOf tree path) ∧
        after.get? path = some (answerFor env path (originalOf tree path)).1) ∧
      ∀ path, path ∉ paths → after.get? path = tree.get? path := by
  -- induction on the files still to come, over every worktree that the loop brings them
  induction paths generalizing tree soFar with
  | nil =>
    cases returned
    exact ⟨nofun, fun _ _ => rfl⟩
  | cons path rest ih =>
    obtain ⟨new, distinct⟩ := List.nodup_cons.1 distinct
    obtain ⟨original, found⟩ := OrderedDict.mem_keys.1 (listed path List.mem_cons_self)
    have own : originalOf tree path = original := by
      unfold originalOf
      rw [found]
      rfl
    unfold applyLlmResolutions at returned
    dsimp only at returned
    rw [show (tree.get? path).getD "" = originalOf tree path from rfl] at returned
    cases outcome : fileOutcome env path (originalOf tree path) with
    | raised =>
      rw [outcome] at returned
      cases returned
    | refused message =>
      rw [outcome] at returned
      cases returned
      cases sound
    | unchanged =>
      -- the file keeps its text, and no later file is the same one
      rw [outcome] at returned
      obtain ⟨files, others⟩ := ih distinct
        (fun path later => listed path (List.mem_cons_of_mem _ later)) returned
      constructor
      · intro path' member
        rcases List.mem_cons.1 member with first | later
        · subst first
          refine ⟨?_, ?_⟩
          · unfold Stops
            rw [outcome]
            exact id
          · rw [others _ new, found, fileOutcome_unchanged outcome, own]
        · exact files path' later
      · intro path' absent
        exact others path' fun later => absent (List.mem_cons_of_mem _ later)
    | resolved text =>
      -- the answer is written; the later files still have the text they had
      rw [outcome] at returned
      have elsewhere : ∀ path', path' ≠ path →
          (tree.set path text).get? path' = tree.get? path' :=
        fun path' differs => OrderedDict.get?_set_other differs
      have same : ∀ path' ∈ rest, originalOf (tree.set path text) path' = originalOf tree path' := by
        intro path' later
        unfold originalOf
        rw [elsewhere path' fun equal => new (equal ▸ later)]
      obtain ⟨files, others⟩ := ih distinct (fun path' later => by
        obtain ⟨held, there⟩ := OrderedDict.mem_keys.1 (listed path' (List.mem_cons_of_mem _ later))
        rw [← elsewhere path' fun equal => new (equal ▸ later)] at there
        exact OrderedDict.mem_keys.2 ⟨held, there⟩) returned
      constructor
      · intro path' member
        rcases List.mem_cons.1 member with first | later
        · subst first
          refine ⟨?_, ?_⟩
          · unfold Stops
            rw [outcome]
            exact id
          · rw [others _ new, OrderedDict.get?_set_self, (fileOutcome_resolved outcome).1]
        · have there := files path' later
          rwa [same path' later] at there
      · intro path' absent
        rw [others path' fun later => absent (List.mem_cons_of_mem _ later)]
        refine elsewhere path' ?_
        intro equal
        exact absent (equal ▸ List.mem_cons_self)

theorem applied_of_not_stops (sound : soFar.error = none) (distinct : paths.Nodup)
    (goes : ∀ path ∈ paths, ¬ Stops env path (originalOf tree path)) :
    ∃ after resolution, applyLlmResolutions env tree soFar paths = (after, some resolution) ∧
      resolution.error = none := by
  induction paths generalizing tree soFar with
  | nil => exact ⟨tree, soFar, rfl, sound⟩
  | cons path rest ih =>
    obtain ⟨new, distinct⟩ := List.nodup_cons.1 distinct
    have here := goes path List.mem_cons_self
    unfold Stops at here
    unfold applyLlmResolutions
    dsimp only
    rw [show (tree.get? path).getD "" = originalOf tree path from rfl]
    cases outcome : fileOutcome env path (originalOf tree path) with
    | raised =>
      rw [outcome] at here
      exact absurd True.intro here
    | refused message =>
      rw [outcome] at here
      exact absurd True.intro here
    | unchanged =>
      exact ih sound distinct fun path' later => goes path' (List.mem_cons_of_mem _ later)
    | resolved text =>
      refine ih rfl distinct ?_
      intro path' later
      have differs : path' ≠ path := by
        intro equal
        exact new (equal ▸ later)
      have same : originalOf (tree.set path text) path' = originalOf tree path' := by
        unfold originalOf
        rw [OrderedDict.get?_set_other differs]
      rw [same]
      exact goes path' (List.mem_cons_of_mem _ later)

/-! ## The files that are found -/

theorem mem_findConflictFiles (found : path ∈ findConflictFiles env tree) : path ∈ tree.keys :=
  List.mem_of_mem_filter found

theorem findConflictFiles_nodup (env : HunkEnv) (tree : Worktree) :
    (findConflictFiles env tree).Nodup :=
  List.filter_sublist.nodup tree.nodup

theorem resolve_success {git : GitAnswers} {request : ModelConflictHunkCommand}
    {event : ModelConflictResolvedEvent}
    (returned : resolve env git tree request = (after, some event)) (success : event.success = true) :
    ∃ resolution, applyLlmResolutions env tree {} (findConflictFiles env tree) =
      (after, some resolution) ∧ resolution.error = none := by
  unfold resolve at returned
  split at returned
  · cases returned
    cases success
  · dsimp only at returned
    split at returned
    · cases returned
      cases success
    · split at returned
      · cases returned
        cases success
      · split at returned
        · cases returned
        · next resolved resolution applied =>
          split at returned
          · cases returned
            cases success
          · next sound =>
            cases returned
            exact ⟨resolution, applied, sound⟩

/-! ## When no conflict is left -/

/-- The model does not give the file back with its conflict, and its text has no line that
divides or closes a conflict. -/
structure AnswerClean (env : HunkEnv) (tree : Worktree) (path : String) : Prop where
  changed : (answerFor env path (originalOf tree path)).1 = originalOf tree path →
    ¬ ConflictRemains (originalOf tree path)
  noLine : ∀ line ∈ PyText.splitLines (answerFor env path (originalOf tree path)).1.toList,
    line ≠ "=======".toList ∧ ¬ endMarker <+: line

theorem answerClean_iff (goes : ¬ Stops env path (originalOf tree path)) :
    ¬ ConflictRemains (answerFor env path (originalOf tree path)).1 ↔ AnswerClean env tree path := by
  constructor
  · intro free
    refine ⟨fun same => same ▸ free, ?_⟩
    intro line listed
    exact ⟨fun divides => free ⟨line, listed, .inr (.inl divides)⟩,
      fun closes => free ⟨line, listed, .inr (.inr closes)⟩⟩
  · rintro ⟨changed, noLine⟩ ⟨line, listed, marker⟩
    rcases marker with opens | divides | closes
    · unfold Stops at goes
      cases outcome : fileOutcome env path (originalOf tree path) with
      | raised =>
        rw [outcome] at goes
        exact goes True.intro
      | refused message =>
        rw [outcome] at goes
        exact goes True.intro
      | unchanged =>
        have same := fileOutcome_unchanged outcome
        exact changed same ⟨line, same ▸ listed, .inl opens⟩
      | resolved text =>
        -- the check for the opening marker has passed
        obtain ⟨own, -, accepted⟩ := fileOutcome_resolved outcome
        rw [own] at listed
        have inside := opens.isInfix.trans (PyText.infix_of_mem_splitLines listed)
        have found : hasConflictMarker text = true := PyText.containsText_of_isInfix inside
        rw [refusalOf_none accepted] at found
        cases found
    · exact (noLine line listed).1 divides
    · exact (noLine line listed).2 closes

theorem no_conflict_left_iff (env : HunkEnv) (tree : Worktree) :
    NoConflictLeft env tree ↔
      (∃ path ∈ findConflictFiles env tree, Stops env path (originalOf tree path)) ∨
        ∀ path ∈ findConflictFiles env tree, AnswerClean env tree path := by
  have listed : ∀ path ∈ findConflictFiles env tree, path ∈ tree.keys :=
    fun path found => mem_findConflictFiles found
  constructor
  · intro left
    -- a file that stops the loop leaves nothing to answer for
    by_cases stops : ∃ path ∈ findConflictFiles env tree, Stops env path (originalOf tree path)
    · exact .inl stops
    · right
      have goes : ∀ path ∈ findConflictFiles env tree, ¬ Stops env path (originalOf tree path) :=
        fun path found stopped => stops ⟨path, found, stopped⟩
      have ends : ∃ after resolution,
          applyLlmResolutions env tree {} (findConflictFiles env tree) = (after, some resolution) ∧
            resolution.error = none :=
        applied_of_not_stops rfl (findConflictFiles_nodup env tree) goes
      obtain ⟨after, resolution, returned, sound⟩ := ends
      have resolved := left.applied after resolution returned sound
      obtain ⟨files, -⟩ := applied_spec (findConflictFiles_nodup env tree) listed returned sound
      intro path found
      exact (answerClean_iff (goes path found)).1 (resolved path found _ (files path found).2)
  · intro condition
    have applied : ∀ after resolution,
        applyLlmResolutions env tree {} (findConflictFiles env tree) = (after, some resolution) →
          resolution.error = none → Resolved after (findConflictFiles env tree) := by
      intro after resolution returned sound path found text there
      obtain ⟨files, -⟩ := applied_spec (findConflictFiles_nodup env tree) listed returned sound
      obtain ⟨goes, held⟩ := files path found
      rw [held] at there
      cases there
      rcases condition with ⟨other, stopped, stops⟩ | clean
      · exact absurd stops (files other stopped).1
      · exact (answerClean_iff goes).2 (clean path found)
    refine ⟨applied, ?_⟩
    intro git request after event returned success _
    obtain ⟨resolution, looped, sound⟩ := resolve_success returned success
    exact applied after resolution looped sound

end

/-! ## A conflict that is left -/

def conflictText : String :=
  "<<<<<<< HEAD\nlimit = 10\n=======\nlimit = 20\n>>>>>>> feature\n"

def conflictTree : Worktree := OrderedDict.empty.set "src/limits.cfg" conflictText

/-- A model that gives the same text for every file. -/
def constantEnv (answer : String) : HunkEnv where
  unicode := PyText.asciiTable
  llmCall _ _ := (answer, false)
  syntaxError _ := none

/-- The model gives the file back, or only the opening marker is gone. -/
theorem conflict_left :
    ¬ NoConflictLeft (constantEnv conflictText) conflictTree ∧
      ¬ NoConflictLeft (constantEnv "limit = 10\n=======\nlimit = 20\n>>>>>>> feature\n")
        conflictTree := by
  constructor
  · intro left
    have resolved := left.applied conflictTree {} (by rfl) rfl
    exact resolved "src/limits.cfg" (by decide +kernel) conflictText (by decide +kernel)
      (by decide +kernel)
  · intro left
    have resolved := left.applied
      (conflictTree.set "src/limits.cfg" "limit = 10\n=======\nlimit = 20\n>>>>>>> feature\n")
      { resolvedFiles := ["src/limits.cfg"] } (by rfl) rfl
    exact resolved "src/limits.cfg" (by decide +kernel)
      "limit = 10\n=======\nlimit = 20\n>>>>>>> feature\n" (by decide +kernel) (by decide +kernel)

end OmniMarket.ConflictHunk
