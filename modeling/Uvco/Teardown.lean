import Uvco.Exception
import Uvco.Run

/-!
# Teardown of the loop

This file embeds `runMain` around `Loop::run`, and `Loop::~Loop`: once `run()` has
returned, the root promise is destroyed, and the destructors of its coroutine close the
handles that are left. Their close callbacks are run by the one turn of `uv_run` in
`~Loop`, unless the stop flag is still set then.

The state remembers what was enqueued when, since this decides about the stop flag.
-/

namespace Uvco.Teardown

/-- What libuv has on the loop. -/
structure Resources where
  /-- Handles that do not keep the loop alive. -/
  inactive : ℕ := 0
  active : ℕ := 0
  /-- Handles whose close callback has not been called yet. -/
  closing : ℕ := 0
  requests : ℕ := 0
deriving DecidableEq, Repr

namespace Resources

/-- `uv_loop_alive`. -/
def alive (uv : Resources) : Bool :=
  uv.active != 0 || uv.requests != 0 || uv.closing != 0

/-- `uv_loop_close`. -/
def loopClose (uv : Resources) : Int :=
  if uv.inactive + uv.active + uv.closing + uv.requests = 0 then 0 else UV_EBUSY

end Resources

/-- What the program does to the handles and requests of libuv, or libuv itself. -/
inductive Operation where
  | init
  | start
  | stop
  | close (active : Bool)
  | startRequest
  | finishRequest
  /-- The close callbacks are called. -/
  | runClosing
deriving DecidableEq, Repr

namespace Operation

/-- There is a handle or a request to do it to. -/
def Enabled (uv : Resources) : Operation → Prop
  | .init | .startRequest | .runClosing => True
  | .start => 0 < uv.inactive
  | .stop => 0 < uv.active
  | .close active => 0 < if active then uv.active else uv.inactive
  | .finishRequest => 0 < uv.requests

/-- The handles and requests afterwards. -/
def perform (uv : Resources) : Operation → Resources
  | .init => { uv with inactive := uv.inactive + 1 }
  | .start => { uv with inactive := uv.inactive - 1, active := uv.active + 1 }
  | .stop => { uv with inactive := uv.inactive + 1, active := uv.active - 1 }
  | .close true => { uv with active := uv.active - 1, closing := uv.closing + 1 }
  | .close false => { uv with inactive := uv.inactive - 1, closing := uv.closing + 1 }
  | .startRequest => { uv with requests := uv.requests + 1 }
  | .finishRequest => { uv with requests := uv.requests - 1 }
  | .runClosing => { uv with closing := 0 }

/-- What only libuv does. -/
def isOfUvRun : Operation → Bool
  | .finishRequest | .runClosing => true
  | .init | .start | .stop | .close _ | .startRequest => false

end Operation

/-- How far `runMain()` has got. -/
inductive Stage where
  /-- Up to the return of `run()`. -/
  | running
  /-- `promise.unwrap()`, and the destructor of the root promise. -/
  | unwinding
  /-- `~Loop` calls `uv_run`. -/
  | entry
  /-- In the iteration of `uv_run`. -/
  | iteration
  /-- `scheduler_.runAll()`. -/
  | runAll
  /-- `uv_loop_close` has returned. -/
  | closed (status : Int)
  /-- The assertion of `Scheduler::close()` has failed. -/
  | aborted
deriving DecidableEq, Repr

/-- `runMain()` with its loop, and with the handles and requests in it. -/
structure State where
  run : Run.State := {}
  uv : Resources := {}
  stage : Stage := .running
  /-- The turns of the loop in `run()`. -/
  turns : ℕ := 0
  /-- A coroutine was enqueued before `run()`. -/
  early : Bool := false
  /-- A coroutine that `runAll()` resumed in the last turn has enqueued one. -/
  again : Bool := false
  /-- A coroutine was enqueued after `run()`, and none since the last turn began. -/
  late : Bool := false
  /-- The handles whose close callbacks were pending when `~Loop` began. -/
  pending : ℕ := 0
deriving DecidableEq, Repr

namespace State

variable (state : State)

/-- A step of `run()`, or of the code that runs until it returns. -/
def runStep (action : Run.Action) : State :=
  let after := { state with run := action.perform state.run }
  match action with
  | .enqueue _ =>
      { after with
        early := state.early || state.run.phase == .setup
        again := state.again || state.run.phase == .resumed }
  | .test =>
      if after.run.phase = .entry then { after with turns := state.turns + 1, again := false }
      else after
  | .cancel _ | .getNext _ | .setAlive _ | .run | .enterUvRun | .poll _ | .polled | .leaveUvRun
  | .runAll _ | .suspended => after

/-- libuv's idea of whether the loop is alive follows its handles. -/
def uvStep (operation : Operation) : State :=
  let uv := operation.perform state.uv
  { state with uv, run := { state.run with alive := uv.alive } }

/-- A destructor enqueues a coroutine. -/
def enqueue (handle : Handle) : State :=
  { state with
    run := state.run.enqueue handle
    late := state.late || !state.run.loop.stopped }

/-- `~Loop` begins with `Scheduler::close()`. -/
def destroy : State :=
  { state with
    stage := if state.run.loop.scheduler.empty then .entry else .aborted
    pending := state.uv.closing }

/-- `uv_run(&loop_, UV_RUN_ONCE)` returns. -/
def leaveUvRun : State :=
  { state with
    run := { state.run with loop := { state.run.loop with stopFlag := false } }
    stage := .runAll }

/-- `uv_run(&loop_, UV_RUN_ONCE)`. -/
def enterUvRun : State :=
  if state.run.alive && !state.run.loop.stopFlag then { state with stage := .iteration }
  else state.leaveUvRun

/-- An iteration calls all pending close callbacks. -/
def iterated : State :=
  (state.uvStep .runClosing).leaveUvRun

end State

/-- What `runMain()`, the program and libuv can do next. -/
inductive Action where
  | run (action : Run.Action)
  | uv (operation : Operation)
  | unwind
  | enqueue (handle : Handle)
  | cancel (handle : Handle)
  | getNext (done : Handle → Bool)
  | destroy
  | enterUvRun
  | iterated
  | uvLoopClose

namespace Action

/-- Handles are used by all code, and requests finish in `uv_run`, as do closing handles. When
`~Loop` begins, all handles have been closed. In its own turn only close callbacks and requests of
destructors are left, which enqueue nothing. -/
def Enabled (state : State) : Action → Prop
  | .run action => state.stage = .running ∧ action.Enabled state.run ∧
      ∀ alive, action ≠ .setAlive alive
  | .uv operation => operation.Enabled state.uv ∧
      if operation.isOfUvRun then
        state.stage = .running ∧
            (state.run.phase = .postPoll ∨ ∃ timeout, state.run.phase = .polling timeout) ∨
          state.stage = .iteration ∧ operation = .finishRequest
      else state.stage = .running ∧ state.run.phase.runsCode = true ∨ state.stage = .unwinding
  | .unwind => state.stage = .running ∧ state.run.phase = .returned
  | .enqueue _ | .cancel _ | .getNext _ => state.stage = .unwinding
  | .destroy => state.stage = .unwinding ∧ state.uv.inactive = 0 ∧ state.uv.active = 0
  | .enterUvRun => state.stage = .entry
  | .iterated => state.stage = .iteration
  | .uvLoopClose => state.stage = .runAll ∧ state.run.loop.scheduler.empty = true

/-- The state after an action. -/
def perform (state : State) : Action → State
  | .run action => state.runStep action
  | .uv operation => state.uvStep operation
  | .unwind => { state with stage := .unwinding }
  | .enqueue handle => state.enqueue handle
  | .cancel handle => { state with run := state.run.cancel handle }
  | .getNext done => { state with run := (state.run.getNext done).2 }
  | .destroy => state.destroy
  | .enterUvRun => state.enterUvRun
  | .iterated => state.iterated
  | .uvLoopClose => { state with stage := .closed state.uv.loopClose }

end Action

/-- Every run of `runMain()`, with any main coroutine. -/
def system : TransitionSystem State Action where
  Initial state := state = {}
  Enabled state action := action.Enabled state
  perform state action := action.perform state

/-! ## The stop flag -/

namespace State

/-- The first turn, after a coroutine was enqueued before `run()`. -/
def First (state : State) : Prop :=
  state.turns = 1 ∧ state.early = true

/-- The stop flag is left set. -/
def StopLeft (state : State) : Prop :=
  state.turns = 0 ∧ state.early = true ∨ state.First ∧ state.again = true ∨ state.late = true

/-- In `runAll()` the stop flag is set again if this is the first turn and nothing has been enqueued
since `run()` began. -/
structure Draining (state : State) (busy : Prop) : Prop where
  started : 0 < state.turns
  first : state.First → state.run.loop.stopped = state.again ∧
    state.run.loop.stopFlag = state.again
  later : ¬state.First → state.run.loop.stopFlag = false ∧
    (busy → state.run.loop.stopped = true)

/-- When the stop flag is set, in each phase of `run()`. -/
def RunInvariant (state : State) : Prop :=
  match state.run.phase with
  | .setup => state.turns = 0 ∧ state.run.loop.stopFlag = state.early ∧
      state.run.loop.stopped = state.early ∧ (state.run.resumable ≠ [] → state.early = true)
  | .head => state.turns = 0 ∧ state.run.loop.stopFlag = state.early ∧
        (state.run.resumable ≠ [] → state.early = true) ∨
      0 < state.turns ∧ state.run.resumable = [] ∧
        (state.run.loop.stopFlag = true ↔ state.First ∧ state.again = true)
  | .entry => 0 < state.turns ∧ state.run.loop.stopped = false ∧ state.again = false ∧
      (state.turns = 1 → state.run.loop.stopFlag = state.early) ∧
      (state.run.resumable ≠ [] → state.First)
  | .prePoll | .polling _ | .postPoll => 0 < state.turns ∧ state.again = false ∧ ¬state.First ∧
      (state.run.resumable ≠ [] → state.run.loop.stopped = true)
  | .runAll => state.Draining (state.run.resumable ≠ [])
  | .resumed => state.Draining True
  | .returned => state.run.resumable = [] ∧ (state.run.loop.stopFlag = true ↔
      state.turns = 0 ∧ state.early = true ∨ state.First ∧ state.again = true)

namespace RunInvariant

variable {state : State}

theorem code {after : State} (invariant : state.RunInvariant)
    (runs_code : state.run.phase.runsCode = true) (phase_eq : after.run.phase = state.run.phase)
    (turns_eq : after.turns = state.turns) (early_eq : after.early = state.early)
    (again_eq : after.again = state.again)
    (stopFlag_eq : after.run.loop.stopFlag = state.run.loop.stopFlag)
    (stopped_eq : after.run.loop.stopped = state.run.loop.stopped)
    (nonempty : after.run.resumable ≠ [] → state.run.resumable ≠ []) : after.RunInvariant := by
  have first_iff : after.First ↔ state.First := by
    unfold First
    rw [turns_eq, early_eq]
  unfold RunInvariant at invariant ⊢
  rw [phase_eq]
  cases phase : state.run.phase with
  | head | entry | runAll | returned => simp [phase, Run.Phase.runsCode] at runs_code
  | setup =>
      rw [phase] at invariant
      dsimp only at invariant ⊢
      rw [turns_eq, early_eq, stopFlag_eq, stopped_eq]
      exact ⟨invariant.1, invariant.2.1, invariant.2.2.1,
        fun filled => invariant.2.2.2 (nonempty filled)⟩
  | prePoll | polling timeout | postPoll =>
      rw [phase] at invariant
      dsimp only at invariant ⊢
      rw [turns_eq, again_eq, stopped_eq, first_iff]
      exact ⟨invariant.1, invariant.2.1, invariant.2.2.1,
        fun filled => invariant.2.2.2 (nonempty filled)⟩
  | resumed =>
      rw [phase] at invariant
      dsimp only at invariant ⊢
      rcases invariant with ⟨started, first, later⟩
      refine ⟨turns_eq ▸ started, ?_, ?_⟩
      · rw [first_iff, stopped_eq, stopFlag_eq, again_eq]
        exact first
      · rw [first_iff, stopped_eq, stopFlag_eq]
        exact later

theorem enqueue (invariant : state.RunInvariant) (runs_code : state.run.phase.runsCode = true)
    (handle : Handle) : (state.runStep (.enqueue handle)).RunInvariant := by
  have phase_eq : (state.runStep (.enqueue handle)).run.phase = state.run.phase := rfl
  unfold RunInvariant at invariant ⊢
  rw [phase_eq]
  cases phase : state.run.phase with
  | head | entry | runAll | returned => simp [phase, Run.Phase.runsCode] at runs_code
  | setup =>
      rw [phase] at invariant
      dsimp only at invariant
      rcases invariant with ⟨turns_eq, flag_eq, stopped_eq, -⟩
      simp [State.runStep, Run.Action.perform, Run.State.enqueue, phase, turns_eq, flag_eq,
        stopped_eq]
  | prePoll | polling timeout | postPoll =>
      rw [phase] at invariant
      dsimp only at invariant
      rcases invariant with ⟨started, again_eq, not_first, -⟩
      refine ⟨started, ?_, ?_, fun _ => Loop.enqueue_stopped ..⟩
      · simp [State.runStep, phase, again_eq]
      · simpa [State.runStep, phase, First] using not_first
  | resumed =>
      rw [phase] at invariant
      dsimp only at invariant
      rcases invariant with ⟨started, first, later⟩
      have first_iff : (state.runStep (.enqueue handle)).First ↔ state.First := by
        simp [State.runStep, phase, First]
      have again_eq : (state.runStep (.enqueue handle)).again = true := by
        simp [State.runStep, phase]
      refine ⟨started, ?_, ?_⟩
      · rw [first_iff, again_eq]
        intro is_first
        rcases first is_first with ⟨stopped_eq, flag_eq⟩
        refine ⟨Loop.enqueue_stopped .., ?_⟩
        change (state.run.loop.enqueue handle).stopFlag = true
        rw [Loop.enqueue_stopFlag, flag_eq, stopped_eq]
        cases state.again <;> rfl
      · rw [first_iff]
        intro not_first
        rcases later not_first with ⟨flag_eq, stopped⟩
        refine ⟨?_, fun _ => Loop.enqueue_stopped ..⟩
        change (state.run.loop.enqueue handle).stopFlag = false
        rw [Loop.enqueue_stopFlag, flag_eq, stopped trivial]
        rfl

theorem test (invariant : state.RunInvariant) (phase : state.run.phase = .head) :
    (state.runStep .test).RunInvariant := by
  unfold RunInvariant at invariant
  rw [phase] at invariant
  dsimp only at invariant
  have entered_or_returned : (state.run.test = { state.run with
        loop := { state.run.loop with stopped := false }, phase := .entry }) ∨
      state.run.resumable = [] ∧ state.run.test = { state.run with phase := .returned } := by
    unfold Run.State.test
    split
    · exact .inl rfl
    · rename_i finished
      rw [Bool.not_eq_true, Bool.or_eq_false_iff] at finished
      exact .inr ⟨by simpa [Run.State.resumable, Scheduler.empty] using finished.1, rfl⟩
  rcases entered_or_returned with test_eq | ⟨empty, test_eq⟩
  · have after_eq : state.runStep .test = { state with
        run := { state.run with
          loop := { state.run.loop with stopped := false }, phase := .entry }
        turns := state.turns + 1
        again := false } := by
      simp only [State.runStep, Run.Action.perform, test_eq, if_true]
    rw [after_eq]
    rcases invariant with ⟨turns_eq, flag_eq, filled⟩ | ⟨started, empty, -⟩
    · exact ⟨Nat.succ_pos _, rfl, rfl, fun _ => flag_eq,
        fun nonempty => ⟨by simp [turns_eq], filled nonempty⟩⟩
    · refine ⟨Nat.succ_pos _, rfl, rfl, fun turns_eq => ?_, fun nonempty => absurd empty nonempty⟩
      dsimp only at turns_eq
      omega
  · have after_eq : state.runStep .test =
        { state with run := { state.run with phase := .returned } } := by
      simp only [State.runStep, Run.Action.perform, test_eq]
      rfl
    rw [after_eq]
    refine ⟨empty, ?_⟩
    dsimp only
    rcases invariant with ⟨turns_eq, flag_eq, -⟩ | ⟨started, -, flag_iff⟩
    · rw [flag_eq]
      simp [First, turns_eq]
    · rw [flag_iff]
      have not_zero : state.turns ≠ 0 := by omega
      simp [First, not_zero]

/-- `uv_run` runs no iteration if the stop flag is set. -/
theorem enterUvRun (invariant : state.RunInvariant) (phase : state.run.phase = .entry) :
    (state.runStep .enterUvRun).RunInvariant := by
  unfold RunInvariant at invariant
  rw [phase] at invariant
  dsimp only at invariant
  rcases invariant with ⟨started, stopped_eq, again_eq, first_flag, filled⟩
  have after_eq : state.runStep .enterUvRun = { state with run := state.run.enterUvRun } := rfl
  rw [after_eq]
  unfold Run.State.enterUvRun
  split
  · rename_i runs
    rw [Bool.and_eq_true, Bool.not_eq_true'] at runs
    have not_first : ¬state.First := by
      rintro ⟨turns_eq, early⟩
      rw [first_flag turns_eq, early] at runs
      simp at runs
    exact ⟨started, again_eq, not_first, fun nonempty => absurd (filled nonempty) not_first⟩
  · refine ⟨started, fun _ => ⟨stopped_eq.trans again_eq.symm, again_eq.symm⟩, fun not_first => ?_⟩
    exact ⟨rfl, fun nonempty => absurd (filled nonempty) not_first⟩

theorem runAll (invariant : state.RunInvariant) (phase : state.run.phase = .runAll)
    (done : Handle → Bool) : (state.runStep (.runAll done)).RunInvariant := by
  unfold RunInvariant at invariant
  rw [phase] at invariant
  rcases invariant with ⟨started, first, later⟩
  have after_eq : state.runStep (.runAll done) = { state with run := (state.run.runAll done).2 } :=
    rfl
  rw [after_eq]
  unfold Run.State.runAll
  split
  · rename_i empty
    have drained : state.run.resumable = [] := by
      simpa [Run.State.resumable, Scheduler.empty] using empty
    refine .inr ⟨started, drained, ?_⟩
    change state.run.loop.stopFlag = true ↔ state.First ∧ state.again = true
    by_cases is_first : state.First
    · rw [(first is_first).2]
      exact ⟨fun again => ⟨is_first, again⟩, And.right⟩
    · rw [(later is_first).1]
      exact ⟨fun set => by simp at set, fun both => absurd both.1 is_first⟩
  · rename_i nonempty
    have filled : state.run.resumable ≠ [] := by
      simpa [Run.State.resumable, Scheduler.empty] using nonempty
    have popped_eq : ∀ next after, state.run.getNext done = (next, after) →
        after = { state.run with loop := (state.run.loop.getNext done).2 } := by
      rintro next after popped
      exact (congrArg Prod.snd popped).symm
    split
    · rename_i next after popped
      obtain rfl := popped_eq _ _ popped
      exact ⟨started, first, fun not_first =>
        ⟨(later not_first).1, fun _ => (later not_first).2 filled⟩⟩
    · rename_i after popped
      obtain rfl := popped_eq _ _ popped
      unfold RunInvariant
      rw [phase]
      exact ⟨started, first, fun not_first =>
        ⟨(later not_first).1, fun _ => (later not_first).2 filled⟩⟩

theorem runStep (invariant : state.RunInvariant) {action : Run.Action}
    (enabled : action.Enabled state.run) (not_setAlive : ∀ alive, action ≠ .setAlive alive) :
    (state.runStep action).RunInvariant := by
  cases action with
  | enqueue handle => exact invariant.enqueue enabled handle
  | cancel handle =>
      refine invariant.code enabled rfl rfl rfl rfl rfl rfl fun filled empty => filled ?_
      change (state.run.resumable.map _) = []
      rw [empty, List.map_nil]
  | getNext done =>
      refine invariant.code enabled rfl rfl rfl rfl rfl rfl fun filled empty => filled ?_
      change (Scheduler.popRunnable done state.run.resumable).2 = []
      rw [empty]
      rfl
  | setAlive alive => exact absurd rfl (not_setAlive alive)
  | run =>
      unfold RunInvariant at invariant
      rw [show state.run.phase = .setup from enabled] at invariant
      exact .inl ⟨invariant.1, invariant.2.1, invariant.2.2.2⟩
  | test => exact invariant.test enabled
  | enterUvRun => exact invariant.enterUvRun enabled
  | poll backend =>
      unfold RunInvariant at invariant
      rw [show state.run.phase = .prePoll from enabled] at invariant
      exact invariant
  | polled =>
      rcases enabled with ⟨timeout, phase⟩
      unfold RunInvariant at invariant
      rw [phase] at invariant
      exact invariant
  | leaveUvRun =>
      unfold RunInvariant at invariant
      rw [show state.run.phase = .postPoll from enabled] at invariant
      rcases invariant with ⟨started, again_eq, not_first, stopped⟩
      exact ⟨started, fun is_first => absurd is_first not_first, fun _ => ⟨rfl, stopped⟩⟩
  | runAll done => exact invariant.runAll enabled done
  | suspended =>
      unfold RunInvariant at invariant
      rw [show state.run.phase = .resumed from enabled] at invariant
      rcases invariant with ⟨started, first, later⟩
      exact ⟨started, first, fun not_first =>
        ⟨(later not_first).1, fun _ => (later not_first).2 trivial⟩⟩

end RunInvariant

/-! ## The turn of the destructor -/

/-- When the stop flag is set, at each stage of `runMain()`. -/
def Invariant (state : State) : Prop :=
  match state.stage with
  | .running => state.RunInvariant ∧ state.late = false
  | .unwinding => state.run.loop.stopFlag = true ↔ state.StopLeft
  | .entry => state.run.resumable = [] ∧ state.uv.inactive = 0 ∧ state.uv.active = 0 ∧
      state.uv.closing = state.pending ∧ (state.run.loop.stopFlag = true ↔ state.StopLeft)
  | .iteration => state.run.resumable = [] ∧ state.uv.inactive = 0 ∧ state.uv.active = 0 ∧
      ¬state.StopLeft
  | .runAll => state.run.resumable = [] ∧ state.uv.inactive = 0 ∧ state.uv.active = 0 ∧
      (state.uv.closing = 0 ↔ state.pending = 0 ∨ ¬state.StopLeft)
  | .closed status => state.run.resumable = [] ∧ status = state.uv.loopClose ∧
      state.uv.inactive = 0 ∧ state.uv.active = 0 ∧
      (state.uv.closing = 0 ↔ state.pending = 0 ∨ ¬state.StopLeft)
  | .aborted => state.run.resumable ≠ []

/-- `uv_loop_alive` is up to date. -/
def Counted (state : State) : Prop :=
  state.run.alive = state.uv.alive

/-- The destructor of the loop has called all close callbacks, and `uv_loop_close` has succeeded. -/
structure TornDown (state : State) : Prop where
  closed : state.stage = .closed 0
  called : state.uv.closing = 0

/-- `~Loop` has returned or has failed. -/
def Finished (state : State) : Prop :=
  state.stage = .aborted ∨ ∃ status, state.stage = .closed status

theorem Counted.step {state : State} (counted : state.Counted) {action : Action}
    (enabled : action.Enabled state) : (action.perform state).Counted := by
  cases action with
  | run action =>
      rcases enabled with ⟨-, -, not_setAlive⟩
      have alive_eq : (action.perform state.run).alive = state.run.alive := by
        cases action with
        | setAlive alive => exact absurd rfl (not_setAlive alive)
        | test =>
            change state.run.test.alive = _
            unfold Run.State.test
            split <;> rfl
        | enterUvRun =>
            change state.run.enterUvRun.alive = _
            unfold Run.State.enterUvRun
            split <;> rfl
        | runAll done =>
            change (state.run.runAll done).2.alive = _
            unfold Run.State.runAll
            split
            · rfl
            · split
              · rename_i popped
                exact congrArg (fun pair => pair.2.alive) popped.symm
              · rename_i popped
                exact congrArg (fun pair => pair.2.alive) popped.symm
        | enqueue | cancel | getNext | run | poll | polled | leaveUvRun | suspended => rfl
      have kept : (state.runStep action).run.alive = (action.perform state.run).alive ∧
          (state.runStep action).uv = state.uv := by
        unfold runStep
        cases action with
        | test => dsimp only; split <;> exact ⟨rfl, rfl⟩
        | enqueue | cancel | getNext | setAlive | run | enterUvRun | poll | polled | leaveUvRun
        | runAll | suspended => exact ⟨rfl, rfl⟩
      change (state.runStep action).run.alive = (state.runStep action).uv.alive
      rw [kept.1, kept.2, alive_eq]
      exact counted
  | uv operation => rfl
  | iterated => rfl
  | enterUvRun =>
      change state.enterUvRun.Counted
      unfold enterUvRun
      split <;> exact counted
  | unwind | enqueue | cancel | getNext | destroy | uvLoopClose => exact counted

namespace Invariant

variable {state : State}

theorem uvStep (invariant : state.Invariant) {operation : Operation}
    (enabled : (Action.uv operation).Enabled state) : (state.uvStep operation).Invariant := by
  rcases enabled with ⟨-, allowed⟩
  have running : ∀ {phase}, state.stage = .running → state.run.phase = phase →
      phase.runsCode = true → (state.uvStep operation).Invariant := by
    rintro phase stage_eq rfl runs_code
    unfold Invariant at invariant ⊢
    rw [show (state.uvStep operation).stage = .running from stage_eq]
    rw [stage_eq] at invariant
    exact ⟨invariant.1.code runs_code rfl rfl rfl rfl rfl rfl id, invariant.2⟩
  split at allowed
  · rcases allowed with ⟨stage_eq, phase_eq | ⟨timeout, phase_eq⟩⟩ | ⟨stage_eq, rfl⟩
    · exact running stage_eq phase_eq rfl
    · exact running stage_eq phase_eq rfl
    · unfold Invariant at invariant ⊢
      rw [show (state.uvStep .finishRequest).stage = .iteration from stage_eq]
      rw [stage_eq] at invariant
      exact invariant
  · rcases allowed with ⟨stage_eq, runs_code⟩ | stage_eq
    · exact running stage_eq rfl runs_code
    · unfold Invariant at invariant ⊢
      rw [show (state.uvStep operation).stage = .unwinding from stage_eq]
      rw [stage_eq] at invariant
      exact invariant

theorem enqueue (invariant : state.Invariant) (stage_eq : state.stage = .unwinding)
    (handle : Handle) : (state.enqueue handle).Invariant := by
  unfold Invariant at invariant ⊢
  rw [stage_eq] at invariant
  rw [show (state.enqueue handle).stage = .unwinding from stage_eq]
  dsimp only at invariant ⊢
  have flag_eq : (state.enqueue handle).run.loop.stopFlag =
      (state.run.loop.stopFlag || !state.run.loop.stopped) := Loop.enqueue_stopFlag ..
  have left_iff : (state.enqueue handle).StopLeft ↔
      state.StopLeft ∨ state.run.loop.stopped = false := by
    simp only [StopLeft, First, State.enqueue, Bool.or_eq_true, Bool.not_eq_true', or_assoc]
  rw [flag_eq, left_iff, ← invariant]
  simp

theorem enterUvRun (invariant : state.Invariant) (counted : state.Counted)
    (stage_eq : state.stage = .entry) : state.enterUvRun.Invariant := by
  unfold Invariant at invariant
  rw [stage_eq] at invariant
  rcases invariant with ⟨empty, no_inactive, no_active, pending_eq, flag_iff⟩
  unfold State.enterUvRun
  split
  · rename_i runs
    rw [Bool.and_eq_true, Bool.not_eq_true'] at runs
    refine ⟨empty, no_inactive, no_active, fun left => ?_⟩
    rw [flag_iff.mpr left] at runs
    simp at runs
  · rename_i idle
    refine ⟨empty, no_inactive, no_active, ?_⟩
    change state.uv.closing = 0 ↔ state.pending = 0 ∨ ¬state.StopLeft
    rw [← pending_eq]
    refine ⟨.inl, fun condition => ?_⟩
    rcases condition with nothing | not_left
    · exact nothing
    · -- The stop flag is clear, so the loop is not alive.
      have not_alive : state.uv.alive = false := by
        rw [← counted]
        by_contra alive
        refine idle ?_
        rw [Bool.and_eq_true, Bool.not_eq_true']
        exact ⟨by simpa using alive, Bool.eq_false_iff.mpr (mt flag_iff.mp not_left)⟩
      simp only [Resources.alive, Bool.or_eq_false_iff, bne_eq_false_iff_eq] at not_alive
      exact not_alive.2

theorem step (invariant : state.Invariant) (counted : state.Counted) {action : Action}
    (enabled : action.Enabled state) : (action.perform state).Invariant := by
  cases action with
  | run action =>
      rcases enabled with ⟨stage_eq, enabled, not_setAlive⟩
      have stage_after : (state.runStep action).stage = .running ∧
          (state.runStep action).late = state.late := by
        unfold State.runStep
        cases action with
        | test => dsimp only; split <;> exact ⟨stage_eq, rfl⟩
        | enqueue | cancel | getNext | setAlive | run | enterUvRun | poll | polled | leaveUvRun
        | runAll | suspended => exact ⟨stage_eq, rfl⟩
      change (state.runStep action).Invariant
      unfold Invariant at invariant ⊢
      rw [stage_eq] at invariant
      rw [stage_after.1]
      exact ⟨invariant.1.runStep enabled not_setAlive, stage_after.2.trans invariant.2⟩
  | uv operation => exact invariant.uvStep enabled
  | unwind =>
      rcases enabled with ⟨stage_eq, phase_eq⟩
      unfold Invariant at invariant
      rw [stage_eq] at invariant
      rcases invariant with ⟨run_invariant, not_late⟩
      unfold RunInvariant at run_invariant
      rw [phase_eq] at run_invariant
      refine run_invariant.2.trans ?_
      change _ ↔ state.turns = 0 ∧ state.early = true ∨ state.First ∧ state.again = true ∨
        state.late = true
      simp [not_late]
  | enqueue handle => exact invariant.enqueue enabled handle
  | cancel handle | getNext done =>
      have stage_eq : state.stage = .unwinding := enabled
      unfold Invariant at invariant ⊢
      rw [stage_eq] at invariant
      dsimp only [Action.perform]
      rw [stage_eq]
      exact invariant
  | destroy =>
      rcases enabled with ⟨stage_eq, no_inactive, no_active⟩
      unfold Invariant at invariant
      rw [stage_eq] at invariant
      change state.destroy.Invariant
      unfold State.destroy
      split
      · rename_i empty
        exact ⟨by simpa [Run.State.resumable, Scheduler.empty] using empty, no_inactive, no_active,
          rfl, invariant⟩
      · rename_i nonempty
        exact fun empty => nonempty (by
          simpa [Run.State.resumable, Scheduler.empty] using empty)
  | enterUvRun => exact invariant.enterUvRun counted enabled
  | iterated =>
      unfold Invariant at invariant
      rw [show state.stage = .iteration from enabled] at invariant
      rcases invariant with ⟨empty, no_inactive, no_active, not_left⟩
      exact ⟨empty, no_inactive, no_active, ⟨fun _ => .inr not_left, fun _ => rfl⟩⟩
  | uvLoopClose =>
      rcases enabled with ⟨stage_eq, -⟩
      unfold Invariant at invariant
      rw [stage_eq] at invariant
      exact ⟨invariant.1, rfl, invariant.2⟩

end Invariant

theorem invariant_of_reachable {state : State} (reached : system.Reachable state) :
    state.Invariant ∧ state.Counted := by
  refine TransitionSystem.Reachable.invariant (fun state => state.Invariant ∧ state.Counted)
    ?_ ?_ reached
  · rintro _ rfl
    exact ⟨⟨⟨rfl, rfl, rfl, fun nonempty => absurd rfl nonempty⟩, rfl⟩, rfl⟩
  · rintro before action ⟨invariant, counted⟩ enabled
    exact ⟨invariant.step counted enabled, counted.step enabled⟩

/-- The turn of `uv_run` in the destructor closes what is left if and only if the stop flag was not
left set, or nothing was left; provided that destructors have left nothing in the scheduler queue,
and no request. -/
theorem tornDown_iff {state : State} (reached : system.Reachable state)
    (finished : state.Finished) :
    state.TornDown ↔ state.run.resumable = [] ∧ state.uv.requests = 0 ∧
      (state.pending = 0 ∨ ¬state.StopLeft) := by
  have invariant := (invariant_of_reachable reached).1
  unfold Invariant at invariant
  rcases finished with stage_eq | ⟨status, stage_eq⟩
  · rw [stage_eq] at invariant
    constructor
    · rintro ⟨closed, -⟩
      simp [stage_eq] at closed
    · exact fun condition => absurd condition.1 invariant
  · rw [stage_eq] at invariant
    rcases invariant with ⟨empty, status_eq, no_inactive, no_active, closing_iff⟩
    have status_iff : status = 0 ↔ state.uv.closing = 0 ∧ state.uv.requests = 0 := by
      rw [status_eq, Resources.loopClose, no_inactive, no_active]
      split
      · rename_i nothing
        exact ⟨fun _ => by omega, fun _ => rfl⟩
      · rename_i something
        refine ⟨fun busy => absurd busy (by decide), fun ⟨none_closing, no_requests⟩ => ?_⟩
        omega
    constructor
    · rintro ⟨closed, called⟩
      obtain rfl : status = 0 := by
        rw [stage_eq] at closed
        exact Stage.closed.inj closed
      exact ⟨empty, (status_iff.mp rfl).2, closing_iff.mp called⟩
    · rintro ⟨-, no_requests, condition⟩
      have called := closing_iff.mpr condition
      refine ⟨?_, called⟩
      rw [stage_eq, status_iff.mpr ⟨called, no_requests⟩]

/-- The root coroutine has an idle handle, yields, and is resumed in the first turn. -/
def firstTurn : List Action :=
  [.uv .init, .run (.enqueue 0), .run .run, .run .test, .run .enterUvRun,
    .run (.runAll fun _ => false)]

theorem reachable_firstTurn : system.Reachable (firstTurn.foldl Action.perform {}) := by
  have start : system.Reachable {} := .start rfl
  have init := start.step (Action.uv .init) ⟨trivial, .inl ⟨rfl, rfl⟩⟩ trivial
  have early := init.step (Action.run (.enqueue 0)) ⟨rfl, rfl, nofun⟩ trivial
  have running := early.step (Action.run .run) ⟨rfl, rfl, nofun⟩ trivial
  have entry := running.step (Action.run .test) ⟨rfl, rfl, nofun⟩ trivial
  have entered := entry.step (Action.run .enterUvRun) ⟨rfl, rfl, nofun⟩ trivial
  have resumed := entered.step (Action.run (.runAll fun _ => false)) ⟨rfl, rfl, nofun⟩ trivial
  exact resumed

/-- The root coroutine has an idle handle, yields once, and is suspended for ever. -/
def yieldedOnce : List Action :=
  [.uv .init, .run (.enqueue 0), .run .run, .run .test, .run .enterUvRun,
    .run (.runAll fun _ => false), .run .suspended, .run (.runAll fun _ => false), .run .test,
    .unwind, .uv (.close false), .destroy, .enterUvRun, .iterated, .uvLoopClose]

theorem tornDown_yielded_once : (yieldedOnce.foldl Action.perform {}).TornDown := by
  have resumed := reachable_firstTurn
  have suspended := resumed.step (Action.run .suspended) ⟨rfl, rfl, nofun⟩ trivial
  have drained := suspended.step (Action.run (.runAll fun _ => false)) ⟨rfl, rfl, nofun⟩ trivial
  have returned := drained.step (Action.run .test) ⟨rfl, rfl, nofun⟩ trivial
  have unwinding := returned.step Action.unwind ⟨rfl, rfl⟩ trivial
  have closing := unwinding.step (Action.uv (.close false)) ⟨Nat.zero_lt_one, .inr rfl⟩ trivial
  have destroyed := closing.step Action.destroy ⟨rfl, rfl, rfl⟩ trivial
  have iteration := destroyed.step Action.enterUvRun rfl trivial
  have iterated := iteration.step Action.iterated rfl trivial
  have reached := iterated.step Action.uvLoopClose ⟨rfl, rfl⟩ trivial
  exact (tornDown_iff reached (.inr ⟨0, rfl⟩)).mpr ⟨rfl, rfl, .inr (by
    rintro (⟨turns_eq, -⟩ | ⟨-, again⟩ | late)
    · exact nomatch turns_eq
    · exact nomatch again
    · exact nomatch late)⟩

/-- The root coroutine yields twice, and `run()` makes one turn. -/
theorem stopFlag_left_by_two_yields : ∃ state : State, system.Reachable state ∧
    state.stage = .closed UV_EBUSY ∧ state.uv.closing = 1 ∧ ¬state.TornDown := by
  have resumed := reachable_firstTurn
  have again := resumed.step (Action.run (.enqueue 0)) ⟨rfl, rfl, nofun⟩ trivial
  have suspended := again.step (Action.run .suspended) ⟨rfl, rfl, nofun⟩ trivial
  have second := suspended.step (Action.run (.runAll fun _ => false)) ⟨rfl, rfl, nofun⟩ trivial
  have suspended := second.step (Action.run .suspended) ⟨rfl, rfl, nofun⟩ trivial
  have drained := suspended.step (Action.run (.runAll fun _ => false)) ⟨rfl, rfl, nofun⟩ trivial
  have returned := drained.step (Action.run .test) ⟨rfl, rfl, nofun⟩ trivial
  have unwinding := returned.step Action.unwind ⟨rfl, rfl⟩ trivial
  have closing := unwinding.step (Action.uv (.close false)) ⟨Nat.zero_lt_one, .inr rfl⟩ trivial
  have destroyed := closing.step Action.destroy ⟨rfl, rfl, rfl⟩ trivial
  have skipped := destroyed.step Action.enterUvRun rfl trivial
  refine ⟨_, skipped.step Action.uvLoopClose ⟨rfl, rfl⟩ trivial, rfl, rfl, ?_⟩
  rintro ⟨-, called⟩
  exact nomatch called

end State

end Uvco.Teardown
