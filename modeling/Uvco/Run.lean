import Uvco.Library.Transition
import Uvco.Loop

/-!
# The event loop

This file embeds `Loop::run`, `Loop::runOne` and `Scheduler::runAll` of
`uvco/loop/`, together with the part of `uv_run(UV_RUN_ONCE)` that they rely on:

* it runs no iteration if the loop is not alive or its stop flag is set on entry,
* otherwise it runs one iteration, whose poll has a timeout of 0 if the stop flag
  is set by then, and
* it clears the stop flag on return.

A state is a point of the control flow. Whenever code outside this file runs
(before `run()`, in libuv callbacks, in resumed coroutines) it may enqueue and
cancel coroutines, hand control over by `getNext()`, and start or stop libuv
handles, in any order and as often as it likes.

`run()` is private and `runMain()` calls it once, on a loop it has just created.
-/

namespace Uvco.Run

/-- The points of the control flow. -/
inductive Phase where
  /-- `runMain` before `run()`: the main coroutine runs up to its first suspension. -/
  | setup
  /-- The condition of the loop in `run()`. -/
  | head
  /-- On entry to `uv_run`. -/
  | entry
  /-- In an iteration of `uv_run`, in the callbacks before the poll. -/
  | prePoll
  /-- In the poll, with the timeout it was given, or in a callback called by it. -/
  | polling (timeout : Int)
  /-- In the callbacks after the poll. -/
  | postPoll
  /-- The condition of the loop in `runAll()`. -/
  | runAll
  /-- In a coroutine that `runAll()` resumed. -/
  | resumed
  /-- `run()` has returned. -/
  | returned
deriving DecidableEq, Repr

/-- Code outside this file runs. -/
def Phase.runsCode : Phase → Bool
  | .setup | .prePoll | .polling _ | .postPoll | .resumed => true
  | .head | .entry | .runAll | .returned => false

/-- A `Loop` with what `run()` is doing. -/
structure State where
  loop : Loop := {}
  /-- `uv_loop_alive`. -/
  alive : Bool := false
  phase : Phase := .setup
deriving DecidableEq, Repr

namespace State

variable (state : State) (done : Handle → Bool)

/-- The handles that the scheduler will resume, in this order. -/
def resumable : List (Option Handle) :=
  state.loop.scheduler.resumable

/-- `Loop::enqueue`. -/
def enqueue (handle : Handle) : State :=
  { state with loop := state.loop.enqueue handle }

/-- `Loop::cancel`. -/
def cancel (handle : Handle) : State :=
  { state with loop := state.loop.cancel handle }

/-- `Loop::getNext`. -/
def getNext : Option Handle × State :=
  let (next, loop) := state.loop.getNext done
  (next, { state with loop })

/-- The timeout of the poll: libuv's choice, unless the stop flag is set. -/
def pollTimeout (backend : Int) : Int :=
  if state.loop.stopFlag then 0 else backend

/-- `while (!scheduler_.empty() || uv_loop_alive(&loop_) != 0)`, and `stopped_ = false`. -/
def test : State :=
  if !state.loop.scheduler.empty || state.alive then
    { state with loop := { state.loop with stopped := false }, phase := .entry }
  else
    { state with phase := .returned }

/-- The return from `uv_run`. -/
def leaveUvRun : State :=
  { state with loop := { state.loop with stopFlag := false }, phase := .runAll }

/-- The condition of the loop in `uv_run`. -/
def enterUvRun : State :=
  if state.alive && !state.loop.stopFlag then { state with phase := .prePoll }
  else state.leaveUvRun

/-- One turn of `runAll()`: the coroutine it resumes, if there is one. -/
def runAll : Option Handle × State :=
  if state.loop.scheduler.empty then
    (none, { state with phase := .head })
  else
    match state.getNext done with
    | (some next, after) => (some next, { after with phase := .resumed })
    -- Resuming the no-op coroutine does nothing.
    | (none, after) => (none, after)

end State

/-- What `run()`, libuv and the program can do next. -/
inductive Action where
  | enqueue (handle : Handle)
  | cancel (handle : Handle)
  /-- A coroutine suspends and hands control to the next one. -/
  | getNext (done : Handle → Bool)
  /-- libuv handles are started, stopped or closed. -/
  | setAlive (alive : Bool)
  /-- `run()` is called. -/
  | run
  | test
  | enterUvRun
  | poll (backend : Int)
  | polled
  | leaveUvRun
  | runAll (done : Handle → Bool)
  /-- Control returns to `runAll()`. -/
  | suspended

namespace Action

/-- Coroutines and callbacks run only in certain phases; the other actions lead to the next one. -/
def Enabled (state : State) : Action → Prop
  | .enqueue _ | .cancel _ | .getNext _ | .setAlive _ => state.phase.runsCode = true
  | .run => state.phase = .setup
  | .test => state.phase = .head
  | .enterUvRun => state.phase = .entry
  | .poll _ => state.phase = .prePoll
  | .polled => ∃ timeout, state.phase = .polling timeout
  | .leaveUvRun => state.phase = .postPoll
  | .runAll _ => state.phase = .runAll
  | .suspended => state.phase = .resumed

/-- The state after an action. -/
def perform (state : State) : Action → State
  | .enqueue handle => state.enqueue handle
  | .cancel handle => state.cancel handle
  | .getNext done => (state.getNext done).2
  | .setAlive alive => { state with alive }
  | .run => { state with phase := .head }
  | .test => state.test
  | .enterUvRun => state.enterUvRun
  | .poll backend => { state with phase := .polling (state.pollTimeout backend) }
  | .polled => { state with phase := .postPoll }
  | .leaveUvRun => state.leaveUvRun
  | .runAll done => (state.runAll done).2
  | .suspended => { state with phase := .runAll }

end Action

/-- All runs of `runMain`. -/
def system : TransitionSystem State Action where
  Initial state := state = {}
  Enabled state action := action.Enabled state
  perform state action := action.perform state

/-! ## The invariant -/

/-- The stop flag is up to date: it is set if `stopped_` says so, and if there is something in the
scheduler queue. -/
structure Flagged (loop : Loop) : Prop where
  stopped : loop.stopped = true → loop.stopFlag = true
  nonempty : loop.scheduler.resumable ≠ [] → loop.stopFlag = true

/-- What the control flow has established about the two flags and the queue. In `runAll()` the
flags may be out of date, but the queue is drained before they matter again. -/
def Invariant (state : State) : Prop :=
  match state.phase with
  | .setup | .entry | .prePoll | .polling _ | .postPoll => Flagged state.loop
  | .head => state.resumable ≠ [] → state.loop.stopFlag = true
  | .runAll | .resumed => True
  | .returned => state.resumable = [] ∧ state.alive = false

theorem Flagged.enqueue {loop : Loop} (flagged : Flagged loop) (handle : Handle) :
    Flagged (loop.enqueue handle) := by
  unfold Loop.enqueue
  dsimp only
  split
  · exact ⟨fun _ => rfl, fun _ => rfl⟩
  · rename_i already_stopped
    have flag := flagged.stopped (by simpa using already_stopped)
    exact ⟨fun _ => flag, fun _ => flag⟩

theorem Flagged.cancel {loop : Loop} (flagged : Flagged loop) (handle : Handle) :
    Flagged (loop.cancel handle) := by
  refine ⟨flagged.stopped, fun nonempty => flagged.nonempty ?_⟩
  rintro empty
  simp [Loop.cancel, Scheduler.cancel, empty] at nonempty

theorem Flagged.getNext {loop : Loop} (flagged : Flagged loop) (done : Handle → Bool) :
    Flagged (loop.getNext done).2 := by
  refine ⟨flagged.stopped, fun nonempty => flagged.nonempty ?_⟩
  rintro empty
  simp [Loop.getNext, Scheduler.getNext, Scheduler.getNextInner, empty, Scheduler.popRunnable]
    at nonempty

/-- Code outside this file keeps the flags up to date. -/
theorem Invariant.code {state after : State} (invariant : Invariant state)
    (phase_eq : after.phase = state.phase) (runs_code : state.phase.runsCode = true)
    (flagged : Flagged state.loop → Flagged after.loop) : Invariant after := by
  unfold Invariant at invariant ⊢
  rw [phase_eq]
  cases phase : state.phase <;> simp_all [Phase.runsCode]

theorem Invariant.step {state : State} {action : Action} (invariant : Invariant state)
    (enabled : action.Enabled state) : Invariant (action.perform state) := by
  cases action with
  | enqueue handle => exact invariant.code rfl enabled (fun flagged => flagged.enqueue handle)
  | cancel handle => exact invariant.code rfl enabled (fun flagged => flagged.cancel handle)
  | getNext done => exact invariant.code rfl enabled (fun flagged => flagged.getNext done)
  | setAlive alive => exact invariant.code rfl enabled id
  | run =>
      simp only [Action.Enabled] at enabled
      simp only [Invariant, enabled] at invariant
      exact invariant.nonempty
  | test =>
      simp only [Action.Enabled] at enabled
      simp only [Invariant, enabled] at invariant
      simp only [Action.perform, State.test]
      split
      · exact ⟨by simp, invariant⟩
      · rename_i finished
        simp only [Bool.or_eq_true, Bool.not_eq_true', not_or, Bool.not_eq_false,
          Bool.not_eq_true, Scheduler.empty, List.isEmpty_iff] at finished
        exact finished
  | enterUvRun =>
      simp only [Action.Enabled] at enabled
      simp only [Invariant, enabled] at invariant
      simp only [Action.perform, State.enterUvRun]
      split
      · exact invariant
      · exact trivial
  | poll backend =>
      simp only [Action.Enabled] at enabled
      simpa only [Invariant, enabled, Action.perform] using invariant
  | polled =>
      rcases enabled with ⟨timeout, enabled⟩
      simpa only [Invariant, enabled, Action.perform] using invariant
  | leaveUvRun => exact trivial
  | runAll done =>
      simp only [Action.Enabled] at enabled
      simp only [Action.perform, State.runAll]
      split
      · rename_i empty
        intro nonempty
        simp only [Scheduler.empty, List.isEmpty_iff] at empty
        exact absurd empty nonempty
      · rcases popped : state.getNext done with ⟨_ | next, after⟩
        · obtain rfl : { state with loop := (state.loop.getNext done).2 } = after :=
            congrArg Prod.snd popped
          simp only [Invariant, enabled]
        · exact trivial
  | suspended => exact trivial

/-- `run()` never blocks while a coroutine is runnable, and returns only when nothing is left. -/
structure NeverBlocks (state : State) : Prop where
  poll : ∀ backend, (Action.poll backend).Enabled state → state.pollTimeout backend ≠ 0 →
    state.resumable = []
  returned : state.phase = .returned → state.resumable = [] ∧ state.alive = false

theorem neverBlocks_of_reachable {state : State} (reached : system.Reachable state) :
    NeverBlocks state := by
  have invariant : Invariant state := by
    refine TransitionSystem.Reachable.invariant Invariant ?_ ?_ reached
    · rintro _ rfl
      exact ⟨by simp, by simp⟩
    · exact fun _ _ invariant enabled => invariant.step enabled
  constructor
  · intro backend enabled blocks
    simp only [Action.Enabled] at enabled
    simp only [Invariant, enabled] at invariant
    by_contra nonempty
    simp [State.pollTimeout, invariant.nonempty nonempty] at blocks
  · intro returned
    simpa only [Invariant, returned] using invariant

/-- A coroutine is enqueued before `run()`, and libuv has a handle that keeps the loop alive: the
first `uv_run` does not poll, and the second one finds an empty queue. -/
theorem neverBlocks_enqueued_before_run :
    NeverBlocks (([.setAlive true, .enqueue 0, .run, .test, .enterUvRun, .runAll (fun _ => false),
      .suspended, .runAll (fun _ => false), .test, .enterUvRun] : List Action).foldl
        Action.perform {}) := by
  have start : system.Reachable {} := .start rfl
  have alive := start.step (Action.setAlive true) rfl trivial
  have enqueued := alive.step (Action.enqueue 0) rfl trivial
  have head := (enqueued.step Action.run rfl trivial).step Action.test rfl trivial
  have entered := head.step Action.enterUvRun rfl trivial
  have resumed := entered.step (Action.runAll (fun _ => false)) rfl trivial
  have suspended := resumed.step Action.suspended rfl trivial
  have drained := suspended.step (Action.runAll (fun _ => false)) rfl trivial
  have tested := drained.step Action.test rfl trivial
  exact neverBlocks_of_reachable (tested.step Action.enterUvRun rfl trivial)

end Uvco.Run
