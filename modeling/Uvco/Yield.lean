import Uvco.Promise.Core
import Uvco.Run
import Uvco.Runtime

/-!
# `yield()`

`co_await yield()` of `uvco/combinators.cc` in a running event loop. `yield()` is
a coroutine of its own: called, it enqueues itself and suspends; the caller then
awaits its promise and hands control on.

Coroutines run before `run()` and under `runAll()`. The libuv callbacks of uvco
do not resume coroutines, they only enqueue them.

The documentation of `yield()` promises that the caller is suspended until the
next iteration of the event loop, and the README that pending coroutines are
resumed once per turn. The code does not do this: `runAll()` goes on until the
queue is empty, so it also resumes the coroutines that were enqueued since it
started.
-/

namespace Uvco.Yield

/-- What a coroutine waits for. -/
inductive Wait where
  /-- The coroutine of `yield()`, in its `YieldAwaiter_`. -/
  | yielding
  /-- A coroutine in `co_await yield()`: the coroutine it waits for, and the number of polls when
  it suspended. -/
  | inYield (yielder : Handle) (polls : ℕ)
deriving DecidableEq, Repr

/-- A loop with coroutines that call `yield()`. -/
structure State where
  control : Run.State := {}
  status : Handle → Status Wait := fun _ => .running
  /-- The cores of the promises that calls of `yield()` returned. -/
  core : Handle → VoidCore Unit := fun _ => {}
  /-- The number of polls so far, that is of iterations of `uv_run`. -/
  polls : ℕ := 0
  /-- For each return from `co_await yield()` the numbers of polls at suspension and return. -/
  returns : List (ℕ × ℕ) := []

namespace State

variable (state : State) (handle : Handle)

/-- The coroutines, without the phases of the loop. -/
def runtime : Runtime Wait where
  loop := state.control.loop
  status := state.status

/-- The coroutines go on, and the loop stays in its phase. -/
def withRuntime (runtime : Runtime Wait) : State :=
  { state with
    control := { state.control with loop := runtime.loop }
    status := runtime.status }

/-- A coroutine goes on where it was suspended. -/
def resume : State :=
  match state.status handle with
  -- `yield()` returns.
  | .waiting .yielding =>
      let (core, loop) := VoidCoroutine.returnVoid (state.core handle) state.control.loop
      { state with
        control := { state.control with loop }
        status := Function.update state.status handle .done
        core := Function.update state.core handle core }
  -- `co_await yield()` returns.
  | .waiting (.inYield yielder polls) =>
      let (_, core) := VoidAwaiter.awaitResume (state.core yielder)
      { state with
        status := Function.update state.status handle .running
        core := Function.update state.core yielder core
        returns := state.returns ++ [(polls, state.polls)] }
  | .elsewhere => { state with status := Function.update state.status handle .running }
  | .running | .done => state

/-- `Loop::getNext()` in a coroutine that suspends, and the coroutine it returns. -/
def handOff : State :=
  let (next, runtime) := state.runtime.getNext
  match next with
  | some handle => (state.withRuntime runtime).resume handle
  | none => state.withRuntime runtime

/-- The call of `yield()`, in a new frame, up to `YieldAwaiter_::await_suspend`. -/
def callYield (yielder : Handle) : State :=
  { state.withRuntime
      ((state.runtime.enqueue yielder).setStatus yielder (.waiting .yielding)) with
    core := Function.update state.core yielder (({} : VoidCore Unit).setRunning yielder) }

/-- `co_await` on the promise that `yield()` returned. -/
def awaitYield (yielder : Handle) : State :=
  if VoidAwaiter.awaitReady (state.core yielder) then
    let (_, core) := VoidAwaiter.awaitResume (state.core yielder)
    { state with
      core := Function.update state.core yielder core
      returns := state.returns ++ [(state.polls, state.polls)] }
  else
    match VoidAwaiter.awaitSuspend (state.core yielder) handle with
    | .ok core =>
        ({ state with
            status := Function.update state.status handle (.waiting (.inYield yielder state.polls))
            core := Function.update state.core yielder core } : State).handOff
    | .error _ => state

/-- `co_await yield()` in a running coroutine. -/
def coAwaitYield (yielder : Handle) : State :=
  (state.callYield yielder).awaitYield handle yielder

/-- A turn of `runAll()`. -/
def runAll : State :=
  let (next, control) := state.control.runAll state.runtime.done
  match next with
  | some handle => ({ state with control } : State).resume handle
  | none => { state with control }

end State

/-- What coroutines, the scheduler and libuv can do next. -/
inductive Action where
  /-- A running coroutine executes `co_await yield()`; the call of `yield()` gets a new frame. -/
  | coAwaitYield (handle yielder : Handle)
  /-- A coroutine suspends and hands control to the next one. -/
  | handOff
  /-- A coroutine does something else, or is woken. -/
  | other (action : Runtime.Action)
  | runAll
  /-- A step of the event loop that does not resume coroutines. -/
  | control (step : Run.Action)

/-- The steps of the event loop apart from `runAll()` and from what coroutines do. -/
def isControl : Run.Action → Bool
  | .setAlive _ | .run | .test | .enterUvRun | .poll _ | .polled | .leaveUvRun | .suspended => true
  | .enqueue _ | .cancel _ | .getNext _ | .runAll _ => false

/-- The step is the poll of an iteration of `uv_run`. -/
def isPoll : Run.Action → Bool
  | .poll _ => true
  | _ => false

/-- Coroutines run before `run()` and under `runAll()`. -/
def runsCoroutines : Run.Phase → Bool
  | .setup | .resumed => true
  | _ => false

namespace Action

/-- Coroutines run only while `run()` or a callback lets them. -/
def Enabled (state : State) : Action → Prop
  | .coAwaitYield handle yielder => runsCoroutines state.control.phase = true ∧
      handle ≠ yielder ∧ state.status handle = .running ∧ state.status yielder = .running
  | .handOff => runsCoroutines state.control.phase = true
  | .other action => action.Enabled state.runtime ∧
      match action with
      | .wake _ => state.control.phase.runsCode = true
      | .suspend _ | .resume _ | .finish _ => runsCoroutines state.control.phase = true
  | .runAll => state.control.phase = .runAll
  | .control step => step.Enabled state.control ∧ isControl step = true

/-- The state after an action. -/
def perform (state : State) : Action → State
  | .coAwaitYield handle yielder => state.coAwaitYield handle yielder
  | .handOff => state.handOff
  | .other action => state.withRuntime (action.perform state.runtime)
  | .runAll => state.runAll
  | .control step =>
      { state with
        control := step.perform state.control
        polls := if isPoll step then state.polls + 1 else state.polls }

end Action

/-- All programs whose coroutines call `yield()`. -/
def system : TransitionSystem State Action where
  Initial state := state = {}
  Enabled state action := action.Enabled state
  perform state action := action.perform state

/-- What `yield()` is documented to do: whenever it returns, the event loop has turned. -/
def LetsLoopTurn (state : State) : Prop :=
  ∀ entry ∈ state.returns, entry.1 < entry.2

/-! ## The invariant -/

/-- The phases in which `uv_run` executes an iteration. -/
def inIteration : Run.Phase → Bool
  | .prePoll | .polling _ | .postPoll => true
  | _ => false

/-- What holds of a program that calls `yield()` in every reachable state. -/
structure Invariant (state : State) : Prop where
  control : Run.Invariant state.control
  consistent : state.runtime.Consistent
  /-- A coroutine of `yield()` is enqueued, and its caller waits for it. -/
  yielding : ∀ yielder, state.status yielder = .waiting .yielding →
    state.runtime.pending yielder = 1 ∧ ∃ handle polls,
      (state.core yielder).waitingHandle = some handle ∧
      state.status handle = .waiting (.inYield yielder polls)
  /-- A caller waits for a coroutine of `yield()`, or that one has ended and the caller is
  enqueued; either way no poll took place since. -/
  inYield : ∀ handle yielder polls, state.status handle = .waiting (.inYield yielder polls) →
    polls = state.polls ∧
      (state.status yielder = .waiting .yielding ∧
          (state.core yielder).waitingHandle = some handle ∧ state.runtime.pending handle = 0 ∨
        state.status yielder = .done ∧ state.runtime.pending handle = 1)
  /-- Nobody waits here while `uv_run` executes an iteration. -/
  quiet : inIteration state.control.phase = true →
    ∀ handle point, state.status handle ≠ .waiting point
  returns : ∀ entry ∈ state.returns, entry.1 = entry.2

/-- As long as somebody waits here, the scheduler queue is not empty. -/
theorem Invariant.queued {state : State} (invariant : Invariant state) {handle : Handle}
    {point : Wait} (waiting : state.status handle = .waiting point) :
    ∃ other, 0 < state.runtime.pending other := by
  cases point with
  | yielding => exact ⟨handle, by rw [(invariant.yielding handle waiting).1]; exact Nat.one_pos⟩
  | inYield yielder polls =>
      rcases (invariant.inYield handle yielder polls waiting).2 with ⟨yielding, -⟩ | ⟨-, queued⟩
      · exact ⟨yielder, by rw [(invariant.yielding yielder yielding).1]; exact Nat.one_pos⟩
      · exact ⟨handle, by rw [queued]; exact Nat.one_pos⟩

theorem Invariant.resumable_ne_nil {state : State} (invariant : Invariant state) {handle : Handle}
    {point : Wait} (waiting : state.status handle = .waiting point) :
    state.control.resumable ≠ [] := by
  rcases invariant.queued waiting with ⟨other, queued⟩
  exact List.ne_nil_of_mem (Scheduler.pending_pos.mp queued)

theorem Invariant.congr {state : State} (invariant : Invariant state) (control : Run.State)
    {runtime : Runtime Wait} (consistent : runtime.Consistent)
    (waiting_iff : ∀ handle point, runtime.status handle = .waiting point ↔
      state.runtime.status handle = .waiting point)
    (pending_eq : ∀ handle point, state.runtime.status handle = .waiting point →
      runtime.pending handle = state.runtime.pending handle)
    (still_done : ∀ handle, state.status handle = .done → runtime.status handle = .done)
    (loop_eq : control.loop = runtime.loop) (control_invariant : Run.Invariant control)
    (same_phase : inIteration control.phase = true → inIteration state.control.phase = true) :
    Invariant { state with control, status := runtime.status } := by
  have runtime_eq : ({ state with control, status := runtime.status } : State).runtime =
      runtime := by
    simp [State.runtime, loop_eq]
  constructor
  · exact control_invariant
  · rw [runtime_eq]
    exact consistent
  · intro yielder yielding
    have before := (waiting_iff yielder _).mp yielding
    rcases invariant.yielding yielder before with ⟨queued, handle, polls, registered, waits⟩
    rw [runtime_eq]
    exact ⟨(pending_eq yielder _ before).trans queued, handle, polls, registered,
      (waiting_iff handle _).mpr waits⟩
  · intro handle yielder polls waiting
    have before := (waiting_iff handle _).mp waiting
    rw [runtime_eq, pending_eq handle _ before]
    rcases invariant.inYield handle yielder polls before with
      ⟨polls_eq, ⟨yielding, registered, not_queued⟩ | ⟨ended, queued⟩⟩
    · exact ⟨polls_eq, .inl ⟨(waiting_iff yielder _).mpr yielding, registered, not_queued⟩⟩
    · exact ⟨polls_eq, .inr ⟨still_done yielder ended, queued⟩⟩
  · intro iteration handle point waiting
    exact invariant.quiet (same_phase iteration) handle point
      ((waiting_iff handle point).mp waiting)
  · exact invariant.returns

theorem Invariant.unrelated {state : State} (invariant : Invariant state) {control : Run.State}
    {runtime : Runtime Wait} {subject : Handle}
    (unrelated : Runtime.Unrelated state.runtime runtime subject)
    (not_done : state.status subject ≠ .done) (loop_eq : control.loop = runtime.loop)
    (control_invariant : Run.Invariant control)
    (same_phase : inIteration control.phase = true → inIteration state.control.phase = true) :
    Invariant { state with control, status := runtime.status } := by
  refine invariant.congr control unrelated.consistent unrelated.waiting_iff
    (fun handle point waiting => unrelated.pending_eq waiting) ?_ loop_eq control_invariant
    same_phase
  exact fun handle is_done => unrelated.done not_done is_done

theorem control_enqueue {control : Run.State} (invariant : Run.Invariant control)
    (runs : control.phase.runsCode = true) (handle : Handle) :
    Run.Invariant { control with loop := control.loop.enqueue handle } :=
  invariant.code rfl runs (fun flagged => flagged.enqueue handle)

theorem runsCode_of_runsCoroutines {phase : Run.Phase} (runs : runsCoroutines phase = true) :
    phase.runsCode = true := by
  cases phase <;> simp_all [runsCoroutines, Run.Phase.runsCode]

theorem not_inIteration_of_runsCoroutines {phase : Run.Phase}
    (runs : runsCoroutines phase = true) : inIteration phase = false := by
  cases phase <;> simp_all [runsCoroutines, inIteration]

/-- What a step leaves of the coroutines that it does not touch. It touches a coroutine that is in
`co_await yield()` if it touches the coroutine of that `yield()`, and the other way round as long as
this one has not ended. -/
structure Untouched (before after : State) (touched : Handle → Prop) : Prop where
  polls : after.polls = before.polls
  status : ∀ handle, ¬touched handle → after.status handle = before.status handle
  pending : ∀ handle, ¬touched handle →
    after.runtime.pending handle = before.runtime.pending handle
  core : ∀ yielder, ¬touched yielder → before.status yielder = .waiting .yielding →
    after.core yielder = before.core yielder
  caller : ∀ handle yielder polls, before.status handle = .waiting (.inYield yielder polls) →
    touched yielder → touched handle
  yielder : ∀ handle yielder polls, before.status handle = .waiting (.inYield yielder polls) →
    before.status yielder = .waiting .yielding → touched handle → touched yielder

namespace Untouched

variable {before after : State} {touched : Handle → Prop}

theorem yielding (untouched : Untouched before after touched) (invariant : Invariant before)
    {yielder : Handle} (not_touched : ¬touched yielder)
    (yields : after.status yielder = .waiting .yielding) :
    after.runtime.pending yielder = 1 ∧ ∃ handle polls,
      (after.core yielder).waitingHandle = some handle ∧
      after.status handle = .waiting (.inYield yielder polls) := by
  rw [untouched.status yielder not_touched] at yields
  rcases invariant.yielding yielder yields with ⟨queued, handle, polls, registered, waits⟩
  have caller_not_touched : ¬touched handle :=
    fun hit => not_touched (untouched.yielder handle yielder polls waits yields hit)
  rw [untouched.pending yielder not_touched, untouched.core yielder not_touched yields]
  exact ⟨queued, handle, polls, registered,
    (untouched.status handle caller_not_touched).trans waits⟩

theorem inYield (untouched : Untouched before after touched) (invariant : Invariant before)
    {handle yielder : Handle} {polls : ℕ} (not_touched : ¬touched handle)
    (waits : after.status handle = .waiting (.inYield yielder polls)) :
    polls = after.polls ∧
      (after.status yielder = .waiting .yielding ∧
          (after.core yielder).waitingHandle = some handle ∧ after.runtime.pending handle = 0 ∨
        after.status yielder = .done ∧ after.runtime.pending handle = 1) := by
  rw [untouched.status handle not_touched] at waits
  have yielder_not_touched : ¬touched yielder :=
    fun hit => not_touched (untouched.caller handle yielder polls waits hit)
  rcases invariant.inYield handle yielder polls waits with ⟨polls_eq, waits_for⟩
  rw [untouched.polls, untouched.status yielder yielder_not_touched,
    untouched.pending handle not_touched]
  refine ⟨polls_eq, waits_for.imp_left fun still => ?_⟩
  rwa [untouched.core yielder yielder_not_touched still.1]

end Untouched

/-- `yield()` returns, and its caller is enqueued. -/
def State.returned (state : State) (yielder caller : Handle) : State :=
  { state with
    control := { state.control with loop := state.control.loop.enqueue caller }
    status := Function.update state.status yielder .done
    core := Function.update state.core yielder
      { state.core yielder with isReady := true, waitingHandle := none, state := .finished } }

theorem returned_runtime {state : State} {control : Run.State} {runtime : Runtime Wait}
    (status_eq : runtime.status = state.runtime.status) (loop_eq : control.loop = runtime.loop)
    (yielder caller : Handle) :
    (({ state with control } : State).returned yielder caller).runtime =
      (runtime.enqueue caller).setStatus yielder .done := by
  simp only [State.returned, State.runtime, Runtime.setStatus, Runtime.enqueue, loop_eq, status_eq]

theorem Invariant.untouched_of_returned {state : State} (invariant : Invariant state)
    {control : Run.State} {runtime : Runtime Wait} {yielder caller : Handle} {polls : ℕ}
    (popped : state.runtime.getNext = (some yielder, runtime))
    (loop_eq : control.loop = runtime.loop)
    (yielding : state.status yielder = .waiting .yielding)
    (registered : (state.core yielder).waitingHandle = some caller)
    (waits : state.status caller = .waiting (.inYield yielder polls)) :
    Untouched state (({ state with control } : State).returned yielder caller)
      (fun handle => handle = caller ∨ handle = yielder) := by
  constructor
  · rfl
  · exact fun handle not_touched => Function.update_of_ne (not_or.mp not_touched).2 _ _
  · intro handle not_touched
    rcases invariant.consistent.getNext_some popped with ⟨status_eq, -, -, other_pending⟩
    rw [returned_runtime status_eq loop_eq, Runtime.pending_setStatus,
      Runtime.pending_enqueue_of_ne (not_or.mp not_touched).1,
      other_pending handle (not_or.mp not_touched).2]
  · exact fun handle not_touched _ => Function.update_of_ne (not_or.mp not_touched).2 _ _
  · rintro handle target handle_polls handle_waits (rfl | rfl)
    · have waits_for := (invariant.inYield handle target handle_polls handle_waits).2
      simp [waits] at waits_for
    · have waits_for := (invariant.inYield handle target handle_polls handle_waits).2
      simp only [yielding, registered, Option.some.injEq, reduceCtorEq, false_and, or_false,
        true_and] at waits_for
      exact .inl waits_for.1.symm
  · rintro handle target handle_polls handle_waits - (rfl | rfl)
    · obtain ⟨same, -⟩ : target = yielder ∧ handle_polls = polls := by
        simpa using handle_waits.symm.trans waits
      exact .inr same
    · simp [yielding] at handle_waits

theorem Invariant.resume_yielding {state : State} (invariant : Invariant state)
    {control : Run.State} {runtime : Runtime Wait} {yielder : Handle}
    (popped : state.runtime.getNext = (some yielder, runtime))
    (loop_eq : control.loop = runtime.loop) (control_invariant : Run.Invariant control)
    (runs : runsCoroutines control.phase = true)
    (yielding : state.status yielder = .waiting .yielding) :
    Invariant (({ state with control } : State).resume yielder) := by
  rcases invariant.consistent.getNext_some popped with
    ⟨status_eq, -, next_pending, other_pending⟩
  have runtime_consistent := invariant.consistent.getNext
  rw [popped] at runtime_consistent
  rcases invariant.yielding yielder yielding with ⟨queued, caller, polls, registered, waits⟩
  have caller_ne : caller ≠ yielder := by
    rintro rfl
    simp [waits] at yielding
  have caller_not_queued : runtime.pending caller = 0 := by
    rw [other_pending caller caller_ne]
    rcases (invariant.inYield caller yielder polls waits).2 with ⟨-, -, not_queued⟩ | ⟨ended, -⟩
    · exact not_queued
    · simp [yielding] at ended
  have resumed : ({ state with control } : State).resume yielder =
      ({ state with control } : State).returned yielder caller := by
    simp [State.resume, State.returned, yielding, VoidCoroutine.returnVoid, VoidCore.resume,
      registered]
  have runtime_eq := returned_runtime status_eq loop_eq yielder caller
  have yielder_status : (({ state with control } : State).returned yielder caller).status yielder =
      .done := Function.update_self _ _ _
  have caller_status : (({ state with control } : State).returned yielder caller).status caller =
      .waiting (.inYield yielder polls) := (Function.update_of_ne caller_ne _ _).trans waits
  have untouched := invariant.untouched_of_returned popped loop_eq yielding registered waits
  rw [resumed]
  constructor
  · exact control_enqueue control_invariant (runsCode_of_runsCoroutines runs) caller
  · rw [runtime_eq]
    have caller_waits : runtime.status caller = .waiting (.inYield yielder polls) := by
      rw [status_eq]
      exact waits
    refine (runtime_consistent.enqueue_waiting caller_waits).setStatus _ ?_
    rw [Runtime.pending_enqueue_of_ne (Ne.symm caller_ne)]
    dsimp only
    omega
  · intro other other_yielding
    refine untouched.yielding invariant ?_ other_yielding
    rintro (rfl | rfl)
    · simp [caller_status] at other_yielding
    · simp [yielder_status] at other_yielding
  · intro handle target handle_polls handle_waits
    by_cases is_caller : handle = caller
    · subst is_caller
      rw [caller_status] at handle_waits
      obtain ⟨rfl, rfl⟩ : yielder = target ∧ polls = handle_polls := by simpa using handle_waits
      refine ⟨(invariant.inYield handle yielder polls waits).1, .inr ⟨yielder_status, ?_⟩⟩
      rw [runtime_eq, Runtime.pending_setStatus, Runtime.pending_enqueue_self, caller_not_queued]
    · refine untouched.inYield invariant ?_ handle_waits
      rintro (rfl | rfl)
      · exact is_caller rfl
      · simp [yielder_status] at handle_waits
  · intro iteration
    have not_iteration : inIteration (({ state with control } : State).returned yielder
        caller).control.phase = false := not_inIteration_of_runsCoroutines runs
    simp [not_iteration] at iteration
  · exact invariant.returns

/-- `co_await yield()` returns. -/
def State.awaited (state : State) (caller yielder : Handle) (polls : ℕ) : State :=
  { state with
    status := Function.update state.status caller .running
    core := Function.update state.core yielder (VoidAwaiter.awaitResume (state.core yielder)).2
    returns := state.returns ++ [(polls, state.polls)] }

theorem Invariant.resume_inYield {state : State} (invariant : Invariant state)
    {control : Run.State} {runtime : Runtime Wait} {caller yielder : Handle} {polls : ℕ}
    (popped : state.runtime.getNext = (some caller, runtime))
    (loop_eq : control.loop = runtime.loop) (control_invariant : Run.Invariant control)
    (runs : runsCoroutines control.phase = true)
    (waits : state.status caller = .waiting (.inYield yielder polls)) :
    Invariant (({ state with control } : State).resume caller) := by
  rcases invariant.consistent.getNext_some popped with
    ⟨status_eq, -, next_pending, other_pending⟩
  have runtime_consistent := invariant.consistent.getNext
  rw [popped] at runtime_consistent
  rcases invariant.inYield caller yielder polls waits with ⟨polls_eq, waiting_for⟩
  obtain ⟨ended, queued⟩ : state.status yielder = .done ∧ state.runtime.pending caller = 1 := by
    rcases waiting_for with ⟨-, -, not_queued⟩ | ended
    · omega
    · exact ended
  have resumed : ({ state with control } : State).resume caller =
      ({ state with control } : State).awaited caller yielder polls := by
    simp [State.resume, State.awaited, waits]
  have runtime_eq : (({ state with control } : State).awaited caller yielder polls).runtime =
      runtime.setStatus caller .running := by
    simp only [State.awaited, State.runtime, Runtime.setStatus, loop_eq, status_eq]
  have caller_status : (({ state with control } : State).awaited caller yielder polls).status
      caller = .running := Function.update_self _ _ _
  have untouched : Untouched state (({ state with control } : State).awaited caller yielder polls)
      (fun handle => handle = caller) := by
    constructor
    · rfl
    · exact fun handle not_touched => Function.update_of_ne not_touched _ _
    · intro handle not_touched
      rw [runtime_eq, Runtime.pending_setStatus, other_pending handle not_touched]
    · intro other _ other_yielding
      refine Function.update_of_ne ?_ _ _
      rintro rfl
      simp [ended] at other_yielding
    · rintro handle target handle_polls handle_waits rfl
      have waits_for := (invariant.inYield handle target handle_polls handle_waits).2
      simp [waits] at waits_for
    · rintro handle target handle_polls handle_waits target_yielding rfl
      obtain ⟨rfl, -⟩ : target = yielder ∧ handle_polls = polls := by
        simpa using handle_waits.symm.trans waits
      simp [ended] at target_yielding
  rw [resumed]
  constructor
  · exact control_invariant
  · rw [runtime_eq]
    exact runtime_consistent.setStatus _ (by dsimp only; omega)
  · intro other other_yielding
    refine untouched.yielding invariant ?_ other_yielding
    rintro rfl
    simp [caller_status] at other_yielding
  · intro handle target handle_polls handle_waits
    refine untouched.inYield invariant ?_ handle_waits
    rintro rfl
    simp [caller_status] at handle_waits
  · intro iteration
    have not_iteration : inIteration (({ state with control } : State).awaited caller yielder
        polls).control.phase = false := not_inIteration_of_runsCoroutines runs
    simp [not_iteration] at iteration
  · intro entry entry_mem
    rcases List.mem_append.mp entry_mem with older | newest
    · exact invariant.returns entry older
    · rw [List.mem_singleton.mp newest]
      exact polls_eq

theorem Invariant.resume {state : State} (invariant : Invariant state) {control : Run.State}
    {runtime : Runtime Wait} {handle : Handle}
    (popped : state.runtime.getNext = (some handle, runtime))
    (loop_eq : control.loop = runtime.loop) (control_invariant : Run.Invariant control)
    (runs : runsCoroutines control.phase = true) :
    Invariant (({ state with control } : State).resume handle) := by
  rcases invariant.consistent.getNext_some popped with ⟨status_eq, suspended, -, -⟩
  cases handle_status : state.status handle with
  | running | done =>
      simp [State.runtime, handle_status, Status.isSuspended] at suspended
  | elsewhere =>
      have unrelated := invariant.consistent.resume_elsewhere popped handle_status
      have kept := invariant.unrelated unrelated (by simp [handle_status]) loop_eq
        control_invariant (by simp [not_inIteration_of_runsCoroutines runs])
      have resumed : ({ state with control } : State).resume handle = { state with
          control, status := (runtime.setStatus handle .running).status } := by
        simp [State.resume, handle_status, Runtime.setStatus, status_eq, State.runtime]
      rw [resumed]
      exact kept
  | waiting point =>
      cases point with
      | yielding =>
          exact invariant.resume_yielding popped loop_eq control_invariant runs handle_status
      | inYield yielder polls =>
          exact invariant.resume_inYield popped loop_eq control_invariant runs handle_status

theorem Invariant.handOff {state : State} (invariant : Invariant state)
    (runs : runsCoroutines state.control.phase = true) : Invariant state.handOff := by
  have control_invariant : Run.Invariant { state.control with
      loop := state.runtime.getNext.2.loop } :=
    invariant.control.code rfl (runsCode_of_runsCoroutines runs)
      (fun flagged => flagged.getNext state.runtime.done)
  unfold State.handOff
  rcases popped : state.runtime.getNext with ⟨_ | handle, runtime⟩
  · rw [popped] at control_invariant
    rcases invariant.consistent.resume_nothing popped with ⟨consistent, unchanged⟩
    refine invariant.congr { state.control with loop := runtime.loop } consistent
      (fun handle point => by rw [(unchanged handle).1]) (fun handle _ _ => (unchanged handle).2)
      (fun handle is_done => (unchanged handle).1.trans is_done) rfl control_invariant id
  · rw [popped] at control_invariant
    have status_eq := (invariant.consistent.getNext_some popped).1
    have unfolded : (state.withRuntime runtime).resume handle = ({ state with
        control := { state.control with loop := runtime.loop } } : State).resume handle := by
      simp only [State.withRuntime, status_eq]
      rfl
    dsimp only
    rw [unfolded]
    exact invariant.resume popped rfl control_invariant runs

/-- The state in which a coroutine has called `yield()` and suspended on its promise. -/
def State.entered (state : State) (handle yielder : Handle) : State :=
  { state with
    control := { state.control with loop := state.control.loop.enqueue yielder }
    status := Function.update (Function.update state.status yielder (.waiting .yielding)) handle
      (.waiting (.inYield yielder state.polls))
    core := Function.update state.core yielder
      { coroutine := some yielder, waitingHandle := some handle, state := .waitedOn } }

theorem coAwaitYield_eq (state : State) (handle yielder : Handle) :
    state.coAwaitYield handle yielder = (state.entered handle yielder).handOff := by
  simp [State.coAwaitYield, State.callYield, State.awaitYield, State.entered, State.withRuntime,
    State.runtime, Runtime.enqueue, Runtime.setStatus, VoidAwaiter.awaitReady,
    VoidAwaiter.awaitSuspend, VoidCore.setRunning, VoidCore.setHandle]

theorem Invariant.entered {state : State} (invariant : Invariant state) {handle yielder : Handle}
    (enabled : (Action.coAwaitYield handle yielder).Enabled state) :
    Invariant (state.entered handle yielder) := by
  rcases enabled with ⟨runs, differs, handle_running, yielder_running⟩
  have handle_not_queued : state.runtime.pending handle = 0 :=
    invariant.consistent.pending_of_running handle_running
  have yielder_not_queued : state.runtime.pending yielder = 0 :=
    invariant.consistent.pending_of_running yielder_running
  have runtime_eq : (state.entered handle yielder).runtime =
      ((state.runtime.setStatus yielder (.waiting .yielding)).enqueue yielder).setStatus handle
        (.waiting (.inYield yielder state.polls)) := rfl
  have yielder_status : (state.entered handle yielder).status yielder = .waiting .yielding := by
    simp [State.entered, Ne.symm differs]
  have handle_status : (state.entered handle yielder).status handle =
      .waiting (.inYield yielder state.polls) := by
    simp [State.entered]
  have untouched : Untouched state (state.entered handle yielder)
      (fun other => other = handle ∨ other = yielder) := by
    constructor
    · rfl
    · intro other not_touched
      simp [State.entered, not_or.mp not_touched]
    · intro other not_touched
      rw [runtime_eq, Runtime.pending_setStatus,
        Runtime.pending_enqueue_of_ne (not_or.mp not_touched).2, Runtime.pending_setStatus]
    · exact fun other not_touched _ => Function.update_of_ne (not_or.mp not_touched).2 _ _
    · rintro caller target polls waits (rfl | rfl)
      · have waits_for := (invariant.inYield caller target polls waits).2
        simp [handle_running] at waits_for
      · have waits_for := (invariant.inYield caller target polls waits).2
        simp [yielder_running] at waits_for
    · rintro caller target polls waits - (rfl | rfl)
      · simp [handle_running] at waits
      · simp [yielder_running] at waits
  constructor
  · exact control_enqueue invariant.control (runsCode_of_runsCoroutines runs) yielder
  · have called := invariant.consistent.setStatus (.waiting .yielding) yielder_not_queued
    refine (called.enqueue_waiting (Runtime.setStatus_status_self _)).setStatus _ ?_
    rw [Runtime.pending_enqueue_of_ne differs, Runtime.pending_setStatus]
    exact handle_not_queued
  · intro other other_yielding
    by_cases is_yielder : other = yielder
    · subst is_yielder
      refine ⟨?_, handle, state.polls, by simp [State.entered], handle_status⟩
      rw [runtime_eq, Runtime.pending_setStatus, Runtime.pending_enqueue_self,
        Runtime.pending_setStatus, yielder_not_queued]
    · refine untouched.yielding invariant ?_ other_yielding
      rintro (rfl | rfl)
      · simp [handle_status] at other_yielding
      · exact is_yielder rfl
  · intro caller target polls waits
    by_cases is_handle : caller = handle
    · subst is_handle
      rw [handle_status] at waits
      obtain ⟨rfl, rfl⟩ : yielder = target ∧ state.polls = polls := by simpa using waits
      refine ⟨rfl, .inl ⟨yielder_status, by simp [State.entered], ?_⟩⟩
      rw [runtime_eq, Runtime.pending_setStatus, Runtime.pending_enqueue_of_ne differs,
        Runtime.pending_setStatus, handle_not_queued]
    · refine untouched.inYield invariant ?_ waits
      rintro (rfl | rfl)
      · exact is_handle rfl
      · simp [yielder_status] at waits
  · intro iteration
    have not_iteration : inIteration (state.entered handle yielder).control.phase = false :=
      not_inIteration_of_runsCoroutines runs
    simp [not_iteration] at iteration
  · exact invariant.returns

/-- The event loop and the coroutines share one scheduler queue. -/
theorem control_getNext {state : State} {next : Option Handle} {runtime : Runtime Wait}
    (popped : state.runtime.getNext = (next, runtime)) :
    state.control.getNext state.runtime.done =
      (next, { state.control with loop := runtime.loop }) := by
  simp only [Runtime.getNext, Prod.mk.injEq] at popped
  simp only [Run.State.getNext, Prod.mk.injEq]
  exact ⟨popped.1, by rw [← popped.2]; rfl⟩

theorem Invariant.runAll {state : State} (invariant : Invariant state)
    (enabled : state.control.phase = .runAll) : Invariant state.runAll := by
  have control_invariant := invariant.control.step
    (show (Run.Action.runAll state.runtime.done).Enabled state.control from enabled)
  simp only [Run.Action.perform, Run.State.runAll] at control_invariant
  unfold State.runAll Run.State.runAll
  by_cases empty : state.control.loop.scheduler.empty = true
  · simp only [empty, if_true] at control_invariant ⊢
    exact invariant.congr { state.control with phase := .head } invariant.consistent
      (fun _ _ => Iff.rfl) (fun _ _ _ => rfl) (fun _ is_done => is_done) rfl control_invariant
      (by simp [inIteration])
  · simp only [empty, if_false, Bool.false_eq_true] at control_invariant ⊢
    rcases popped : state.runtime.getNext with ⟨_ | handle, runtime⟩
    · simp only [control_getNext popped] at control_invariant ⊢
      rcases invariant.consistent.resume_nothing popped with ⟨consistent, unchanged⟩
      have status_eq : runtime.status = state.status := funext fun handle => (unchanged handle).1
      have kept := invariant.congr { state.control with loop := runtime.loop } consistent
        (fun handle point => by rw [(unchanged handle).1]) (fun handle _ _ => (unchanged handle).2)
        (fun handle is_done => (unchanged handle).1.trans is_done) rfl control_invariant id
      rw [status_eq] at kept
      exact kept
    · simp only [control_getNext popped] at control_invariant ⊢
      exact invariant.resume popped rfl control_invariant rfl

theorem control_scheduler {control : Run.State} {step : Run.Action} (is_control : isControl step) :
    (step.perform control).loop.scheduler = control.loop.scheduler := by
  cases step with
  | enqueue | cancel | getNext | runAll => simp [isControl] at is_control
  | setAlive | run | poll | polled | suspended | leaveUvRun => rfl
  | test =>
      simp only [Run.Action.perform, Run.State.test]
      split <;> rfl
  | enterUvRun =>
      simp only [Run.Action.perform, Run.State.enterUvRun]
      split <;> rfl

/-- The event loop enters an iteration of `uv_run` only with an empty scheduler queue. -/
theorem inIteration_of_control {control : Run.State} {step : Run.Action}
    (invariant : Run.Invariant control) (enabled : step.Enabled control)
    (is_control : isControl step = true)
    (iteration : inIteration (step.perform control).phase = true) :
    inIteration control.phase = true ∨ control.resumable = [] := by
  cases step with
  | enqueue | cancel | getNext | runAll => simp [isControl] at is_control
  | setAlive alive => exact .inl iteration
  | run | suspended | leaveUvRun =>
      simp [Run.Action.perform, Run.State.leaveUvRun, inIteration] at iteration
  | test =>
      simp only [Run.Action.perform, Run.State.test] at iteration
      split at iteration <;> simp [inIteration] at iteration
  | enterUvRun =>
      simp only [Run.Action.perform, Run.State.enterUvRun] at iteration
      split at iteration
      · rename_i enters
        right
        simp only [Run.Action.Enabled] at enabled
        simp only [Run.Invariant, enabled] at invariant
        by_contra nonempty
        simp [invariant.nonempty nonempty] at enters
      · simp [Run.State.leaveUvRun, inIteration] at iteration
  | poll backend =>
      simp only [Run.Action.Enabled] at enabled
      simp [enabled, inIteration]
  | polled =>
      rcases enabled with ⟨timeout, enabled⟩
      simp [enabled, inIteration]

theorem Invariant.controlStep {state : State} (invariant : Invariant state) {step : Run.Action}
    (enabled : (Action.control step).Enabled state) :
    Invariant (Action.perform state (.control step)) := by
  rcases enabled with ⟨step_enabled, is_control⟩
  let runtime : Runtime Wait :=
    { loop := (step.perform state.control).loop, status := state.status }
  have pending_eq : ∀ handle, runtime.pending handle = state.runtime.pending handle := by
    intro handle
    simp only [runtime, Runtime.pending, control_scheduler is_control]
    rfl
  have consistent : runtime.Consistent :=
    invariant.consistent.dequeue rfl (fun handle => Nat.le_of_eq (pending_eq handle))
  have nobody : inIteration (step.perform state.control).phase = true →
      ∀ handle point, state.status handle ≠ .waiting point := by
    intro iteration handle point waiting
    rcases inIteration_of_control invariant.control step_enabled is_control iteration with
      before | empty
    · exact invariant.quiet before handle point waiting
    · exact invariant.resumable_ne_nil waiting empty
  constructor
  · exact invariant.control.step step_enabled
  · exact consistent
  · intro yielder yielding
    rcases invariant.yielding yielder yielding with ⟨queued, rest⟩
    exact ⟨(pending_eq yielder).trans queued, rest⟩
  · intro handle yielder polls waiting
    rcases invariant.inYield handle yielder polls waiting with ⟨polls_eq, waits_for⟩
    have not_poll : isPoll step = false := by
      cases step with
      | poll backend => exact absurd waiting (nobody rfl handle _)
      | _ => rfl
    refine ⟨by simpa [Action.perform, not_poll] using polls_eq, ?_⟩
    change _ ∧ _ ∧ runtime.pending handle = 0 ∨ _ ∧ runtime.pending handle = 1
    rw [pending_eq]
    exact waits_for
  · exact nobody
  · exact invariant.returns

theorem Invariant.step {state : State} (invariant : Invariant state) {action : Action}
    (enabled : action.Enabled state) : Invariant (action.perform state) := by
  cases action with
  | coAwaitYield handle yielder =>
      rw [Action.perform, coAwaitYield_eq]
      exact (invariant.entered enabled).handOff enabled.1
  | handOff => exact invariant.handOff enabled
  | other action =>
      rcases enabled with ⟨enabled, where_⟩
      have runs : state.control.phase.runsCode = true := by
        cases action with
        | wake handle => exact where_
        | suspend handle | resume handle | finish handle => exact runsCode_of_runsCoroutines where_
      refine invariant.unrelated (invariant.consistent.other enabled) ?_ rfl ?_ id
      · cases action <;> simp_all [Runtime.Action.Enabled, Runtime.Action.subject, State.runtime]
      · cases action with
        | wake handle => exact control_enqueue invariant.control runs handle
        | suspend handle | resume handle | finish handle => exact invariant.control
  | runAll => exact invariant.runAll enabled
  | control step => exact invariant.controlStep enabled

theorem invariant_of_reachable {state : State} (reached : system.Reachable state) :
    Invariant state := by
  refine TransitionSystem.Reachable.invariant Invariant ?_ ?_ reached
  · rintro _ rfl
    constructor
    · exact ⟨by simp, by simp⟩
    · exact .empty _
    · simp
    · simp
    · simp
    · simp
  · exact fun _ _ invariant enabled => invariant.step enabled

/-! ## `yield()` does not let the event loop turn -/

/-- The steps that a coroutine leaves possible which only computes and calls `co_await yield()`:
it does not suspend elsewhere or end, and it does not return to `runAll()` without having
suspended in `co_await yield()`. -/
def OnlyYields (spinner : Handle) (state : State) : Action → Prop
  | .other action => action.subject ≠ spinner
  | .coAwaitYield _ yielder => yielder ≠ spinner
  | .control .suspended => state.status spinner ≠ .running
  | .handOff | .runAll | .control _ => True

/-- `runAll()` has not returned. -/
def InRunAll (state : State) : Prop :=
  state.control.phase = .runAll ∨ state.control.phase = .resumed

/-- A coroutine runs under `runAll()`, or has suspended there in `co_await yield()`. -/
def Spins (spinner : Handle) (state : State) : Prop :=
  (state.control.phase = .resumed ∧ state.status spinner = .running) ∨
    InRunAll state ∧ ∃ yielder polls, state.status spinner = .waiting (.inYield yielder polls)

theorem Spins.congr {before after : State} {spinner : Handle} (spins : Spins spinner before)
    (phase_eq : after.control.phase = before.control.phase)
    (status_eq : after.status spinner = before.status spinner) : Spins spinner after := by
  unfold Spins InRunAll
  rw [phase_eq, status_eq]
  exact spins

theorem resume_frame (state : State) (handle : Handle) :
    (state.resume handle).control.phase = state.control.phase ∧
      (state.resume handle).polls = state.polls ∧
      ∀ other, other ≠ handle → (state.resume handle).status other = state.status other := by
  unfold State.resume
  split <;> refine ⟨rfl, rfl, fun other differs => ?_⟩ <;> simp [differs]

theorem resume_inYield_status {state : State} {handle yielder : Handle} {polls : ℕ}
    (waits : state.status handle = .waiting (.inYield yielder polls)) :
    (state.resume handle).status handle = .running := by
  simp [State.resume, waits]

/-- A spinning coroutine goes on spinning when another coroutine, or itself, is handed out. -/
theorem Spins.resume {state after : State} {spinner handle : Handle}
    (spins : Spins spinner state) (status_eq : after.status = state.status)
    (resumed : after.control.phase = .resumed)
    (suspended : (state.status handle).isSuspended = true) :
    Spins spinner (after.resume handle) := by
  rcases resume_frame after handle with ⟨phase_eq, -, others⟩
  by_cases same : spinner = handle
  · subst same
    rcases spins with ⟨-, running⟩ | ⟨-, yielder, polls, waits⟩
    · simp [running, Status.isSuspended] at suspended
    · exact .inl ⟨phase_eq.trans resumed, resume_inYield_status (status_eq ▸ waits)⟩
  · have kept : (after.resume handle).status spinner = state.status spinner := by
      rw [others spinner same, status_eq]
    rcases spins with ⟨-, running⟩ | ⟨-, waits⟩
    · exact .inl ⟨phase_eq.trans resumed, kept.trans running⟩
    · exact .inr ⟨.inr (phase_eq.trans resumed), by rw [kept]; exact waits⟩

theorem Spins.handOff {state : State} {spinner : Handle} (invariant : Invariant state)
    (spins : Spins spinner state) (resumed : state.control.phase = .resumed) :
    Spins spinner state.handOff ∧ state.handOff.polls = state.polls := by
  unfold State.handOff
  rcases popped : state.runtime.getNext with ⟨_ | handle, runtime⟩
  · have status_eq := (invariant.consistent.getNext_none popped).1
    exact ⟨spins.congr rfl (congrFun status_eq spinner), rfl⟩
  · rcases invariant.consistent.getNext_some popped with ⟨status_eq, suspended, -, -⟩
    exact ⟨spins.resume status_eq resumed suspended,
      (resume_frame (state.withRuntime runtime) handle).2.1⟩

theorem Spins.runAll {state : State} {spinner : Handle} (invariant : Invariant state)
    (spins : Spins spinner state) (enabled : state.control.phase = .runAll) :
    Spins spinner state.runAll ∧ state.runAll.polls = state.polls := by
  obtain ⟨yielder, polls, waits⟩ : ∃ yielder polls,
      state.status spinner = .waiting (.inYield yielder polls) := by
    rcases spins with ⟨resumed, -⟩ | ⟨-, waits⟩
    · simp [enabled] at resumed
    · exact waits
  have nonempty : state.control.loop.scheduler.empty = false := by
    simpa [Scheduler.empty, Run.State.resumable] using invariant.resumable_ne_nil waits
  unfold State.runAll Run.State.runAll
  simp only [nonempty, Bool.false_eq_true, if_false]
  rcases popped : state.runtime.getNext with ⟨_ | handle, runtime⟩
  · -- The queue holds the spinning coroutine, or the coroutine of its `yield()`.
    rcases invariant.queued waits with ⟨other, queued⟩
    have nothing := ((invariant.consistent.getNext_none popped).2 other).1
    omega
  · rcases invariant.consistent.getNext_some popped with ⟨-, suspended, -, -⟩
    simp only [control_getNext popped]
    exact ⟨spins.resume rfl rfl suspended, (resume_frame _ handle).2.1⟩

/-- As long as a coroutine does nothing but yield, `runAll()` goes on and no poll takes place. -/
theorem Spins.step {state : State} {spinner : Handle} {action : Action}
    (invariant : Invariant state) (spins : Spins spinner state) (enabled : action.Enabled state)
    (only_yields : OnlyYields spinner state action) :
    Spins spinner (action.perform state) ∧ (action.perform state).polls = state.polls := by
  have in_runAll : InRunAll state := by
    rcases spins with ⟨resumed, -⟩ | ⟨in_runAll, -⟩
    · exact .inr resumed
    · exact in_runAll
  have resumed_of_runs : runsCoroutines state.control.phase = true →
      state.control.phase = .resumed := by
    intro runs
    rcases in_runAll with phase_eq | phase_eq
    · simp [phase_eq, runsCoroutines] at runs
    · exact phase_eq
  cases action with
  | coAwaitYield handle yielder =>
      have resumed := resumed_of_runs enabled.1
      have entered : Spins spinner (state.entered handle yielder) := by
        by_cases same : spinner = handle
        · exact .inr ⟨.inr resumed, yielder, state.polls, by simp [State.entered, same]⟩
        · exact spins.congr rfl (by simp [State.entered, same, Ne.symm only_yields])
      rw [Action.perform, coAwaitYield_eq]
      exact entered.handOff (invariant.entered enabled) resumed
  | handOff => exact spins.handOff invariant (resumed_of_runs enabled)
  | other action =>
      have unrelated := invariant.consistent.other enabled.1
      exact ⟨spins.congr rfl (unrelated.unchanged spinner (Ne.symm only_yields)).1, rfl⟩
  | runAll => exact spins.runAll invariant enabled
  | control step =>
      rcases enabled with ⟨step_enabled, is_control⟩
      cases step with
      | enqueue | cancel | getNext | runAll => simp [isControl] at is_control
      | setAlive alive => exact ⟨spins, rfl⟩
      | suspended =>
          refine ⟨?_, rfl⟩
          rcases spins with ⟨-, running⟩ | ⟨-, waits⟩
          · exact absurd running only_yields
          · exact .inr ⟨.inl rfl, waits⟩
      | run | test | enterUvRun | poll | leaveUvRun | polled =>
          rcases in_runAll with phase_eq | phase_eq <;>
            simp [Run.Action.Enabled, phase_eq] at step_enabled

/-- No `co_await yield()` ever lets the event loop turn, and a coroutine that does nothing but
yield keeps `runAll()` from returning for as long as it goes on. -/
theorem not_letsLoopTurn_of_reachable {state : State} (reached : system.Reachable state) :
    (∀ entry ∈ state.returns, ¬entry.1 < entry.2) ∧
      ∀ spinner after, Spins spinner state →
        system.StepsVia (OnlyYields spinner) state after →
        InRunAll after ∧ after.polls = state.polls := by
  have invariant := invariant_of_reachable reached
  constructor
  · intro entry entry_mem
    rw [invariant.returns entry entry_mem]
    exact Nat.lt_irrefl _
  · intro spinner after spins steps
    have kept : Invariant after ∧ Spins spinner after ∧ after.polls = state.polls := by
      refine TransitionSystem.StepsVia.preserve
        (fun later => Invariant later ∧ Spins spinner later ∧ later.polls = state.polls) ?_ steps
        ⟨invariant, spins, rfl⟩
      rintro later action ⟨later_invariant, later_spins, polls_eq⟩ enabled only_yields
      rcases later_spins.step later_invariant enabled only_yields with ⟨still, same_polls⟩
      exact ⟨later_invariant.step enabled, still, same_polls.trans polls_eq⟩
    rcases kept with ⟨-, still, polls_eq⟩
    refine ⟨?_, polls_eq⟩
    rcases still with ⟨resumed, -⟩ | ⟨in_runAll, -⟩
    · exact .inr resumed
    · exact in_runAll

/-- The main coroutine calls `co_await yield()` before `run()`. -/
def mainYields : List Action :=
  [.coAwaitYield 0 1, .control .run, .control .test, .control .enterUvRun, .runAll]

theorem mainYields_reachable : system.Reachable (mainYields.foldl Action.perform {}) := by
  have start : system.Reachable {} := .start rfl
  have called := start.step (Action.coAwaitYield 0 1) ⟨rfl, by decide, rfl, rfl⟩ trivial
  have head := called.step (Action.control .run) ⟨rfl, rfl⟩ trivial
  have entry := head.step (Action.control .test) ⟨rfl, rfl⟩ trivial
  have skipped := entry.step (Action.control .enterUvRun) ⟨rfl, rfl⟩ trivial
  exact skipped.step Action.runAll rfl trivial

/-- It has returned from its `yield()`, but no poll has taken place. -/
theorem not_letsLoopTurn_mainYields :
    (∀ entry ∈ (mainYields.foldl Action.perform {}).returns, ¬entry.1 < entry.2) ∧
      ∀ spinner after, Spins spinner (mainYields.foldl Action.perform {}) →
        system.StepsVia (OnlyYields spinner) (mainYields.foldl Action.perform {}) after →
        InRunAll after ∧ after.polls = 0 :=
  not_letsLoopTurn_of_reachable mainYields_reachable

theorem yield_returns_without_turn :
    ¬∀ state, system.Reachable state → LetsLoopTurn state := by
  intro always
  have returned : (0, 0) ∈ (mainYields.foldl Action.perform {}).returns := by decide
  exact absurd (always _ mainYields_reachable (0, 0) returned) (by decide)

end Uvco.Yield
