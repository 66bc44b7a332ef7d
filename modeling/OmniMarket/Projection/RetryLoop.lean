import Mathlib.Data.Rat.Defs
import Mathlib.Algebra.Order.Ring.Rat
import Mathlib.Data.List.Induction

/-!
# The runner's retry loop

`run` connects to the database and goes round a loop: a consumer session is started, takes
messages until one is not handled or the consumer stops, and after a failure the loop sleeps.
`shutdown` may come at any time. What the sessions do is a sequence of events; the sessions'
messages themselves are in `handleMessage`.

The guard reads `_running`, which `__init__` sets to `False`, a session to `True` and `shutdown` to
`False`.
-/

namespace OmniMarket.Projection

def retryBaseDelay : ℚ := 2

def retryMaxDelay : ℚ := 30

def maxRetryAttempts : ℕ := 10

/-- `min(RETRY_BASE_DELAY * (2**attempts), RETRY_MAX_DELAY)`. -/
def retryDelay (attempts : ℕ) : ℚ := min (retryBaseDelay * 2 ^ attempts) retryMaxDelay

/-- Where `run` waits. -/
inductive RunPhase where
  | connecting
  | startingConsumer
  | consuming
  | sleeping
  | exited
deriving DecidableEq

/-- What `run` waits for, and a call of `shutdown`. -/
inductive LoopEvent where
  | connected
  | consumerStarted
  /-- A message, and whether `_handle_message` raises. -/
  | message (raises : Bool)
  /-- The consumer raises as it starts or while it waits for a message. -/
  | consumerRaised
  | consumerStopped
  | slept
  | shutdown
deriving DecidableEq

structure LoopState where
  phase : RunPhase := .connecting
  /-- `_running`; `none` before it is set. -/
  running : Option Bool
  attempts : ℕ := 0
  /-- The consumer sessions begun. -/
  sessions : ℕ := 0
  /-- The delays slept, the last one first. -/
  delays : List ℚ := []
  /-- "Consumer failed after 10 retries" was logged. -/
  failureLogged : Bool := false

/-- The runner of `__init__`. -/
def freshRunner : LoopState where
  running := some false

section

variable (state : LoopState)

/-- The guard of the loop, and the end of `run`. -/
def LoopState.nextRound : LoopState :=
  if state.attempts < maxRetryAttempts ∧ state.running ≠ some false then
    { state with phase := .startingConsumer, sessions := state.sessions + 1 }
  else { state with phase := .exited, failureLogged := true }

/-- The `except` block. -/
def LoopState.fail : LoopState :=
  { state with
    phase := .sleeping
    attempts := state.attempts + 1
    delays := retryDelay (state.attempts + 1) :: state.delays }

def LoopState.step : LoopEvent → LoopState
  | .shutdown => { state with running := some false }
  | .connected => if state.phase = .connecting then state.nextRound else state
  | .consumerStarted =>
    if state.phase = .startingConsumer then
      { state with phase := .consuming, running := some true }
    else state
  | .message raises =>
    if state.phase = .consuming then
      -- a message that comes after a shutdown ends the session
      if state.running ≠ some true then state.nextRound
      else if raises then state.fail
      else state
    else state
  | .consumerRaised =>
    if state.phase = .startingConsumer ∨ state.phase = .consuming then state.fail else state
  | .consumerStopped => if state.phase = .consuming then state.nextRound else state
  | .slept => if state.phase = .sleeping then state.nextRound else state

def LoopState.run (events : List LoopEvent) : LoopState :=
  events.foldl LoopState.step state

theorem LoopState.run_concat (events : List LoopEvent) (event : LoopEvent) :
    state.run (events ++ [event]) = (state.run events).step event := by
  rw [run, List.foldl_append]
  rfl

structure RetryLaw (start : LoopState) (events : List LoopEvent) : Prop where
  /-- A consumer session is started. -/
  starts : (start.run events).phase ≠ .connecting →
    0 < (start.run events).sessions ∨ .shutdown ∈ events
  /-- After every failure another one is. -/
  again : (start.run events).phase = .startingConsumer ∨ (start.run events).phase = .consuming →
    (start.run events).attempts < (start.run events).sessions
  /-- The loop is left after a shutdown or the last attempt. -/
  leaves : (start.run events).phase = .exited →
    (start.run events).attempts = maxRetryAttempts ∨ .shutdown ∈ events
  /-- It is not said to have failed before. -/
  failed : (start.run events).failureLogged = true →
    (start.run events).attempts = maxRetryAttempts
  delays : ∀ delay ∈ (start.run events).delays, delay ≤ retryMaxDelay

end

/-! ## A fresh runner -/

/-- A fresh runner that got past its connection. -/
def gaveUp : LoopState := { freshRunner with phase := .exited, failureLogged := true }

theorem gaveUp_step (event : LoopEvent) : gaveUp.step event = gaveUp := by
  cases event <;> rfl

theorem freshRunner_step (event : LoopEvent) :
    freshRunner.step event = if event = .connected then gaveUp else freshRunner := by
  cases event <;> rfl

theorem freshRunner_run (events : List LoopEvent) :
    freshRunner.run events = if .connected ∈ events then gaveUp else freshRunner := by
  induction events using List.reverseRecOn with
  | nil => rfl
  | append_singleton before event ih =>
    rw [LoopState.run_concat, ih]
    split
    · next connected => rw [gaveUp_step, if_pos (List.mem_append_left _ connected)]
    · next waits =>
      rw [freshRunner_step]
      refine if_congr ?_ rfl rfl
      rw [List.mem_append, List.mem_singleton, eq_comm, or_iff_right waits]

/-- Whatever the sessions would do and whenever a shutdown comes, a fresh runner that connects
starts no session, logs that it failed after its retries, and keeps the law in no run. -/
theorem fresh_run_unlawful {events : List LoopEvent} (connected : .connected ∈ events) :
    freshRunner.run events =
        { freshRunner with phase := .exited, failureLogged := true } ∧
      (freshRunner.run events).sessions = 0 ∧ ¬ RetryLaw freshRunner events := by
  have left : freshRunner.run events = gaveUp := (freshRunner_run events).trans (if_pos connected)
  refine ⟨left, congrArg LoopState.sessions left, ?_⟩
  intro law
  have last := law.failed (congrArg LoopState.failureLogged left)
  rw [left] at last
  exact absurd last (by decide)

/-- A run whose first session would take a message. -/
theorem fresh_run_takes_no_message :
    (freshRunner.run [.connected, .consumerStarted, .message false]).sessions = 0 ∧
      ¬ RetryLaw freshRunner [.connected, .consumerStarted, .message false] :=
  (fresh_run_unlawful (List.mem_cons_self : LoopEvent.connected ∈
    [LoopEvent.connected, .consumerStarted, .message false])).2

/-- The loop of a fresh runner that has connected is left at once. -/
theorem retryLaw_fails_at_once : ¬ RetryLaw freshRunner [.connected] := by
  intro law
  exact absurd (law.failed rfl) (by decide)

end OmniMarket.Projection
