import Mathlib.Data.List.ReduceOption
import Uvco.Library.CancellableFifo
import Uvco.Library.Transition
import Uvco.Loop

/-!
# The scheduler as a queue with cancellation

This file embeds `uvco/loop/scheduler.cc` with the control flow around it: the loop of
`runAll()` resumes coroutines, and each of them enqueues and cancels coroutines, resumes
others, calls `runAll()` itself, finishes, or hands control to the next coroutine from
its `await_suspend`. The stack of activations records who resumed whom.

A ledger of all entries runs along. It says what the scheduler is for: the entries are
resumed in the order in which they were enqueued, each of them once, except for those
that were cancelled before their turn or belong to a finished coroutine by then.
-/

namespace Uvco

/-- A `std::coroutine_handle<>`. -/
inductive CoroutineHandle where
  | null
  /-- `std::noop_coroutine()`. -/
  | noop
  | frame (handle : Handle)
deriving DecidableEq, Repr

/-- An element of `resumable_`. -/
def CoroutineHandle.ofEntry : Option Handle → CoroutineHandle
  | none => .null
  | some handle => .frame handle

namespace Scheduler

/-- `next == nullptr || next.done()`; the no-op coroutine is never done. -/
def passesOver (done : Handle → Bool) : CoroutineHandle → Bool
  | .null => true
  | .noop => false
  | .frame handle => done handle

/-- The loop of `getNextInner()`. -/
def dequeue (done : Handle → Bool) (next : CoroutineHandle) :
    List (Option Handle) → CoroutineHandle × List (Option Handle)
  | [] => (next, [])
  | front :: rest =>
      if passesOver done next then dequeue done (.ofEntry front) rest else (next, front :: rest)

/-- `getNextInner()`, with the handle it returns. -/
def getNextHandle (scheduler : Scheduler) (done : Handle → Bool) :
    CoroutineHandle × Scheduler :=
  let (next, resumable) := dequeue done .null scheduler.resumable
  (if passesOver done next then .noop else next, { resumable })

/-- The entries that were not cancelled. -/
def handles (scheduler : Scheduler) : List Handle :=
  scheduler.resumable.reduceOption

@[simp]
theorem handles_enqueue (scheduler : Scheduler) (handle : Handle) :
    (scheduler.enqueue handle).handles = scheduler.handles ++ [handle] := by
  simp [handles, enqueue, List.reduceOption_append]

/-- Cancelling removes the entries of the coroutine and leaves the others in order. -/
@[simp]
theorem handles_cancel (scheduler : Scheduler) (handle : Handle) :
    (scheduler.cancel handle).handles = scheduler.handles.filter fun other => other ≠ handle := by
  unfold handles cancel
  induction scheduler.resumable with
  | nil => rfl
  | cons entry rest ih =>
      cases entry with
      | none => simpa using ih
      | some other => by_cases same : other = handle <;> simp_all

theorem dequeue_of_runnable {done : Handle → Bool} {next : CoroutineHandle}
    (runnable : passesOver done next = false) (entries : List (Option Handle)) :
    dequeue done next entries = (next, entries) := by
  cases entries with
  | nil => rfl
  | cons front rest => simp [dequeue, runnable]

/-- The loop stops at the first entry that is neither null nor done. -/
theorem dequeue_eq_popRunnable {done : Handle → Bool} {next : CoroutineHandle}
    (passed : passesOver done next = true) (entries : List (Option Handle)) :
    (dequeue done next entries).2 = (popRunnable done entries).2 ∧
      match (popRunnable done entries).1 with
      | some handle => (dequeue done next entries).1 = .frame handle ∧ done handle = false
      | none => passesOver done (dequeue done next entries).1 = true := by
  induction entries generalizing next with
  | nil => exact ⟨rfl, passed⟩
  | cons front rest ih =>
      simp only [dequeue, passed, if_true]
      cases front with
      | none => exact ih rfl
      | some handle =>
          by_cases is_done : done handle = true
          · have passed : passesOver done (.frame handle) = true := is_done
            simpa [popRunnable, is_done, CoroutineHandle.ofEntry] using ih passed
          · have runnable : passesOver done (.frame handle) = false := by
              simpa [passesOver] using is_done
            have stops := dequeue_of_runnable runnable rest
            simp [popRunnable, CoroutineHandle.ofEntry, is_done, stops]

/-- The handle that `getNextInner()` returns is the next runnable coroutine, if there is one. -/
theorem getNextHandle_eq (scheduler : Scheduler) (done : Handle → Bool) :
    scheduler.getNextHandle done =
      (((scheduler.getNextInner done).1.map CoroutineHandle.frame).getD .noop,
        (scheduler.getNextInner done).2) := by
  have passed : passesOver done .null = true := rfl
  rcases dequeue_eq_popRunnable passed scheduler.resumable with ⟨rest_eq, next_eq⟩
  unfold getNextHandle getNextInner
  dsimp only
  rw [rest_eq]
  cases popped : (popRunnable done scheduler.resumable).1 with
  | none =>
      simp only [popped] at next_eq
      simp [next_eq]
  | some handle =>
      simp only [popped] at next_eq
      simp [next_eq.1, passesOver, next_eq.2]

/-- `getNextInner()` returns a handle that is neither null nor done. -/
theorem getNextHandle_runnable (scheduler : Scheduler) (done : Handle → Bool) :
    passesOver done (scheduler.getNextHandle done).1 = false := by
  unfold getNextHandle
  dsimp only
  split
  · rfl
  · rename_i runnable
    simpa using runnable

/-- Tombstones apart, `getNextInner()` drops the done entries in front and takes the next one. -/
theorem popRunnable_handles (done : Handle → Bool) (entries : List (Option Handle)) :
    (popRunnable done entries).1 = (entries.reduceOption.dropWhile done).head? ∧
      (popRunnable done entries).2.reduceOption =
        (entries.reduceOption.dropWhile done).tail := by
  induction entries with
  | nil => exact ⟨rfl, rfl⟩
  | cons entry rest ih =>
      cases entry with
      | none => simpa [popRunnable] using ih
      | some handle => by_cases is_done : done handle = true <;> simp [popRunnable, is_done, ih]

end Scheduler

namespace Dispatch

/-- How far a coroutine has got. -/
inductive Frame where
  | absent
  /-- Running, or suspended before its end. -/
  | live
  /-- At its final suspension point. -/
  | done
deriving DecidableEq, Repr

/-- What is on the call stack. -/
inductive Activation where
  | runAll
  | coroutine (handle : Handle)
deriving DecidableEq, Repr

/-- The scheduler with the call stack, and with the ledger of what was enqueued. -/
structure State where
  scheduler : Scheduler := {}
  frame : Handle → Frame := fun _ => .absent
  /-- The innermost activation comes first. Outside of all of them, libuv's callbacks run. -/
  stack : List Activation := []
  /-- `BOOST_ASSERT(next != nullptr && !next.done())` held in every turn of `runAll()`. -/
  asserted : Bool := true
  /-- The coroutines resumed through the scheduler, in order. -/
  resumed : List Handle := []
  /-- The entries made so far, as they ought to fare. -/
  ledger : Ledger Handle := {}

namespace State

variable (state : State)

/-- `handle.done()`. -/
def done (handle : Handle) : Bool :=
  state.frame handle = .done

/-- The coroutine that runs, if control is in one. -/
def running : Option Handle :=
  match state.stack with
  | .coroutine handle :: _ => some handle
  | _ => none

/-- Code other than that of `runAll()` is in control. -/
def runsCode : Bool :=
  state.stack.head? ≠ some .runAll

/-- A coroutine begins or ends. -/
def setFrame (handle : Handle) (frame : Frame) : State :=
  { state with frame := fun other => if other = handle then frame else state.frame other }

/-- A call, or a resumption. -/
def push (activation : Activation) : State :=
  { state with stack := activation :: state.stack }

/-- A return, or a suspension. -/
def pop : State :=
  { state with stack := state.stack.tail }

/-- `Loop::enqueue`. -/
def enqueue (handle : Handle) : State :=
  { state with
    scheduler := state.scheduler.enqueue handle
    ledger := state.ledger.enqueue handle }

/-- `Loop::cancel`. -/
def cancel (handle : Handle) : State :=
  { state with
    scheduler := state.scheduler.cancel handle
    ledger := state.ledger.cancel handle }

/-- `getNextInner`, with the ledger's idea of who is next. -/
def getNextInner : CoroutineHandle × State :=
  let (next, scheduler) := state.scheduler.getNextHandle state.done
  (next, { state with scheduler, ledger := (state.ledger.serve state.done).2 })

/-- `next.resume()`, of a handle that the scheduler returned. -/
def resume : CoroutineHandle → State
  -- There is no coroutine to resume; the no-op coroutine returns at once.
  | .null | .noop => state
  | .frame handle => { state.push (.coroutine handle) with resumed := state.resumed ++ [handle] }

/-- `await_suspend` of the running coroutine returns `getNext()`. -/
def getNext : State :=
  let (next, after) := state.getNextInner
  after.pop.resume next

/-- One turn of the loop of `runAll()`. -/
def turn : State :=
  if state.scheduler.empty then
    state.pop
  else
    let (next, after) := state.getNextInner
    let holds := !Scheduler.passesOver state.done next
    { after with asserted := after.asserted && holds }.resume next

end State

/-- What coroutines, callbacks and the loop can do next. -/
inductive Action where
  /-- A coroutine is called and runs up to its first suspension. -/
  | start (handle : Handle)
  | enqueue (handle : Handle)
  | cancel (handle : Handle)
  /-- `runAll()` is called. -/
  | runAll
  | turn
  /-- `handle.resume()`, not through the scheduler. -/
  | resume (handle : Handle)
  /-- The running coroutine returns control to whoever resumed it. -/
  | suspend
  /-- The running coroutine suspends and hands control to the next one. -/
  | getNext
  /-- The running coroutine reaches its final suspension point. -/
  | finish
  | destroy (handle : Handle)
deriving DecidableEq, Repr

namespace Action

/-- Code runs in callbacks and in coroutines; a frame is destroyed only after it was cancelled. -/
def Enabled (state : State) : Action → Prop
  | .start handle => state.runsCode = true ∧ state.frame handle = .absent
  | .enqueue handle => state.runsCode = true ∧ state.frame handle ≠ .absent
  | .cancel _ | .runAll => state.runsCode = true
  | .turn => state.stack.head? = some .runAll
  | .resume handle => state.runsCode = true ∧ state.frame handle = .live
  | .suspend | .getNext => state.running.isSome = true
  | .finish => state.running.any (fun handle => state.frame handle = .live) = true
  -- No coroutine is destroyed that was not cancelled.
  | .destroy handle => state.runsCode = true ∧ handle ∉ state.scheduler.handles

instance (state : State) (action : Action) : Decidable (action.Enabled state) := by
  cases action <;> unfold Enabled <;> infer_instance

/-- The state after an action. -/
def perform (state : State) : Action → State
  | .start handle => (state.setFrame handle .live).push (.coroutine handle)
  | .enqueue handle => state.enqueue handle
  | .cancel handle => state.cancel handle
  | .runAll => state.push .runAll
  | .turn => state.turn
  | .resume handle => state.push (.coroutine handle)
  | .suspend => state.pop
  | .getNext => state.getNext
  | .finish =>
      match state.running with
      | some handle => state.setFrame handle .done
      | none => state
  | .destroy handle => state.setFrame handle .absent

/-- Which coroutines a step enqueues. -/
def enqueues : Action → List Handle
  | .enqueue handle => [handle]
  | .start _ | .cancel _ | .runAll | .turn | .resume _ | .suspend | .getNext | .finish
  | .destroy _ => []

end Action

/-- Any program, with any nesting of `getNext()` and `runAll()`. -/
def system : TransitionSystem State Action where
  Initial state := state = {}
  Enabled state action := action.Enabled state
  perform := Action.perform

instance (state : State) (action : Action) : Decidable (system.Enabled state action) :=
  inferInstanceAs (Decidable (action.Enabled state))

namespace State

variable (state : State)

@[simp]
theorem resume_scheduler (next : CoroutineHandle) :
    (state.resume next).scheduler = state.scheduler := by
  cases next <;> rfl

@[simp]
theorem resume_frame (next : CoroutineHandle) : (state.resume next).frame = state.frame := by
  cases next <;> rfl

@[simp]
theorem resume_ledger (next : CoroutineHandle) : (state.resume next).ledger = state.ledger := by
  cases next <;> rfl

@[simp]
theorem resume_asserted (next : CoroutineHandle) :
    (state.resume next).asserted = state.asserted := by
  cases next <;> rfl

/-- With an entry in the queue, a turn of `runAll()` leaves it on the call stack. -/
theorem suffix_turn_stack (left : state.scheduler.resumable ≠ []) :
    state.stack <:+ state.turn.stack := by
  have not_empty : state.scheduler.empty = false := by
    rw [Scheduler.empty, List.isEmpty_eq_false_iff]
    exact left
  simp only [turn, not_empty, Bool.false_eq_true, if_false]
  cases state.getNextInner.1 with
  | null | noop => exact List.suffix_refl _
  | frame handle => exact List.suffix_cons _ _

theorem drained_of_returned (called : state.stack.head? = some .runAll)
    (returned : state.turn.stack = state.stack.tail) : state.scheduler.resumable = [] := by
  by_contra left
  have shorter := (state.suffix_turn_stack left).length_le
  rw [returned, List.length_tail] at shorter
  have nonempty : 0 < state.stack.length := by
    rw [List.length_pos_iff]
    rintro empty
    rw [empty] at called
    cases called
  omega

/-- `getNextInner()` takes the first coroutine that is not done, and drops those before it. -/
theorem getNextInner_spec :
    state.getNextInner.1 =
        ((state.scheduler.handles.dropWhile state.done).head?.map CoroutineHandle.frame).getD
          .noop ∧
      state.getNextInner.2.scheduler.handles =
        (state.scheduler.handles.dropWhile state.done).tail := by
  rcases Scheduler.popRunnable_handles state.done state.scheduler.resumable with
    ⟨next_eq, rest_eq⟩
  unfold getNextInner
  simp only [Scheduler.getNextHandle_eq, Scheduler.getNextInner]
  exact ⟨by rw [next_eq]; rfl, rest_eq⟩

end State

/-- The scheduler and the ledger agree. -/
structure Consistent (state : State) : Prop where
  resumed_eq : state.resumed = state.ledger.served
  inOrder : state.ledger.InOrder
  waiting : state.scheduler.handles = state.ledger.pending
  exist : ∀ handle ∈ state.scheduler.handles, state.frame handle ≠ .absent
  asserted : state.asserted = true

namespace Consistent

variable {state : State}

/-- Steps that leave the scheduler alone keep it consistent if they destroy no coroutine in it. -/
theorem of_same {after : State} (consistent : Consistent state)
    (scheduler_eq : after.scheduler = state.scheduler) (ledger_eq : after.ledger = state.ledger)
    (resumed_eq : after.resumed = state.resumed) (asserted_eq : after.asserted = state.asserted)
    (exist : ∀ handle ∈ state.scheduler.handles, after.frame handle ≠ .absent) :
    Consistent after where
  resumed_eq := by rw [resumed_eq, ledger_eq, consistent.resumed_eq]
  inOrder := ledger_eq ▸ consistent.inOrder
  waiting := by rw [scheduler_eq, ledger_eq, consistent.waiting]
  exist := by rwa [scheduler_eq]
  asserted := by rw [asserted_eq, consistent.asserted]

theorem enqueue (consistent : Consistent state) {handle : Handle}
    (exists_ : state.frame handle ≠ .absent) : Consistent (state.enqueue handle) where
  resumed_eq := by simpa [State.enqueue] using consistent.resumed_eq
  inOrder := consistent.inOrder.enqueue handle
  waiting := by simp [State.enqueue, consistent.waiting]
  exist := by
    intro other other_mem
    simp only [State.enqueue, Scheduler.handles_enqueue, List.mem_append,
      List.mem_singleton] at other_mem
    rcases other_mem with older | rfl
    · exact consistent.exist other older
    · exact exists_
  asserted := consistent.asserted

theorem cancel (consistent : Consistent state) (handle : Handle) :
    Consistent (state.cancel handle) where
  resumed_eq := by simpa [State.cancel] using consistent.resumed_eq
  inOrder := consistent.inOrder.cancel handle
  waiting := by simp [State.cancel, consistent.waiting]
  exist := by
    intro other other_mem
    simp only [State.cancel, Scheduler.handles_cancel, List.mem_filter] at other_mem
    exact consistent.exist other other_mem.1
  asserted := consistent.asserted

/-- The coroutine taken out of the scheduler is the one whose turn it is. -/
theorem next_eq (consistent : Consistent state) :
    state.getNextInner.1 =
      ((state.ledger.serve state.done).1.map CoroutineHandle.frame).getD .noop := by
  rw [state.getNextInner_spec.1, Ledger.serve_fst, consistent.waiting]

/-- Taking the next coroutine out of the scheduler and resuming it, on whatever stack. -/
theorem dispatch (consistent : Consistent state) {after : State}
    (scheduler_eq : after.scheduler = state.getNextInner.2.scheduler)
    (ledger_eq : after.ledger = (state.ledger.serve state.done).2)
    (resumed_eq : after.resumed = state.resumed) (asserted_eq : after.asserted = state.asserted)
    (frame_eq : after.frame = state.frame) :
    Consistent (after.resume state.getNextInner.1) where
  resumed_eq := by
    rw [State.resume_ledger, ledger_eq, (consistent.inOrder.serve state.done).2,
      consistent.next_eq, ← consistent.resumed_eq]
    cases (state.ledger.serve state.done).1 with
    | none => simpa [State.resume] using resumed_eq
    | some handle => simp [State.resume, resumed_eq]
  inOrder := by
    rw [State.resume_ledger, ledger_eq]
    exact (consistent.inOrder.serve state.done).1
  waiting := by
    rw [State.resume_ledger, State.resume_scheduler, ledger_eq, scheduler_eq,
      state.getNextInner_spec.2, Ledger.pending_serve, consistent.waiting]
  exist := by
    intro handle handle_mem
    rw [State.resume_scheduler, scheduler_eq, state.getNextInner_spec.2] at handle_mem
    rw [State.resume_frame, frame_eq]
    apply consistent.exist
    exact (List.dropWhile_sublist _).subset (List.mem_of_mem_tail handle_mem)
  asserted := by rw [State.resume_asserted, asserted_eq, consistent.asserted]

theorem turn (consistent : Consistent state) : Consistent state.turn := by
  unfold State.turn
  split
  · exact consistent.of_same rfl rfl rfl rfl consistent.exist
  · have runnable : Scheduler.passesOver state.done state.getNextInner.1 = false :=
      state.scheduler.getNextHandle_runnable state.done
    have kept : state.getNextInner.2.asserted = state.asserted := rfl
    refine consistent.dispatch rfl rfl rfl ?_ rfl
    change (state.getNextInner.2.asserted && !Scheduler.passesOver state.done
      state.getNextInner.1) = state.asserted
    rw [runnable, kept]
    exact Bool.and_true _

theorem getNext (consistent : Consistent state) : Consistent state.getNext :=
  consistent.dispatch rfl rfl rfl rfl rfl

theorem perform (consistent : Consistent state) {action : Action}
    (enabled : action.Enabled state) : Consistent (action.perform state) := by
  cases action with
  | start handle =>
      refine consistent.of_same rfl rfl rfl rfl ?_
      intro other other_mem
      by_cases same : other = handle
      · simp [Action.perform, State.push, State.setFrame, same]
      · simpa [Action.perform, State.push, State.setFrame, same] using
          consistent.exist other other_mem
  | enqueue handle => exact consistent.enqueue enabled.2
  | cancel handle => exact consistent.cancel handle
  | runAll => exact consistent.of_same rfl rfl rfl rfl consistent.exist
  | turn => exact consistent.turn
  | resume handle => exact consistent.of_same rfl rfl rfl rfl consistent.exist
  | suspend => exact consistent.of_same rfl rfl rfl rfl consistent.exist
  | getNext => exact consistent.getNext
  | finish =>
      unfold Action.perform
      dsimp only
      split
      · rename_i handle running
        refine consistent.of_same rfl rfl rfl rfl ?_
        intro other other_mem
        by_cases same : other = handle
        · simp [State.setFrame, same]
        · simpa [State.setFrame, same] using consistent.exist other other_mem
      · exact consistent
  | destroy handle =>
      refine consistent.of_same rfl rfl rfl rfl ?_
      intro other other_mem
      have differs : other ≠ handle := by
        rintro rfl
        exact enabled.2 other_mem
      simpa [Action.perform, State.setFrame, differs] using consistent.exist other other_mem

end Consistent

theorem consistent {state : State} (reached : system.Reachable state) : Consistent state := by
  refine TransitionSystem.Reachable.invariant Consistent ?_ ?_ reached
  · rintro start rfl
    exact ⟨rfl, ⟨[], [], rfl, by simp, by simp⟩, rfl, by simp [Scheduler.handles], rfl⟩
  · intro before action invariant enabled
    exact invariant.perform enabled

/-- The entries of the ledger are the calls of `enqueue`. -/
theorem enqueued_perform (state : State) (action : Action) :
    (action.perform state).ledger.enqueued = state.ledger.enqueued ++ action.enqueues := by
  have served : state.getNextInner.2.ledger.enqueued = state.ledger.enqueued :=
    state.ledger.enqueued_serve state.done
  cases action with
  | enqueue handle => exact state.ledger.enqueued_enqueue handle
  | cancel handle =>
      rw [Action.enqueues, List.append_nil]
      exact state.ledger.enqueued_cancel handle
  | turn =>
      rw [Action.enqueues, List.append_nil]
      change state.turn.ledger.enqueued = _
      unfold State.turn
      split
      · rfl
      · rw [State.resume_ledger]
        exact served
  | getNext =>
      rw [Action.enqueues, List.append_nil]
      change state.getNext.ledger.enqueued = _
      unfold State.getNext
      rw [State.resume_ledger]
      exact served
  | finish =>
      rw [Action.enqueues, List.append_nil]
      unfold Action.perform
      dsimp only
      split <;> rfl
  | start _ | runAll | resume _ | suspend | destroy _ => exact (List.append_nil _).symm

/-- A coroutine is not cancelled, and is not done as long as it has an entry. -/
def KeepsWaiting (handle : Handle) (state : State) (action : Action) : Prop :=
  action ≠ .cancel handle ∧ (handle ∈ state.scheduler.handles → state.done handle = false)

theorem kept_perform {handle : Handle} {before : ℕ} {state : State} {action : Action}
    (consistent : Consistent state) (kept : Ledger.Kept handle before state.ledger)
    (keeps : KeepsWaiting handle state action) :
    Ledger.Kept handle before (action.perform state).ledger := by
  have live : handle ∈ state.ledger.pending → state.done handle = false := by
    rw [← consistent.waiting]
    exact keeps.2
  cases action with
  | enqueue other => exact kept.enqueue other
  | cancel other =>
      apply kept.cancel
      rintro rfl
      exact keeps.1 rfl
  | turn =>
      change Ledger.Kept handle before state.turn.ledger
      unfold State.turn
      split
      · exact kept
      · rw [State.resume_ledger]
        exact kept.serve live
  | getNext =>
      change Ledger.Kept handle before state.getNext.ledger
      unfold State.getNext
      rw [State.resume_ledger]
      exact kept.serve live
  | finish =>
      change Ledger.Kept handle before (Action.finish.perform state).ledger
      unfold Action.perform
      dsimp only
      split
      · exact kept
      · exact kept
  | start _ | runAll | resume _ | suspend | destroy _ => exact kept

/-- A coroutine that was enqueued, and is not cancelled or done while it waits, is resumed. -/
theorem resumed_of_kept {state later : State} {handle : Handle}
    (reached : system.Reachable state) (enabled : system.Enabled state (.enqueue handle))
    (steps : system.StepsVia (KeepsWaiting handle) (state.enqueue handle) later)
    (settled : later.scheduler.handles = []) :
    state.resumed.count handle < later.resumed.count handle := by
  have invariant : Consistent later ∧
      Ledger.Kept handle (state.ledger.served.count handle) later.ledger := by
    refine TransitionSystem.StepsVia.preserve (fun state => Consistent state ∧
      Ledger.Kept handle _ state.ledger) ?_ steps ⟨?_, ?_⟩
    · rintro before action ⟨consistent, kept⟩ enabled keeps
      exact ⟨consistent.perform enabled, kept_perform consistent kept keeps⟩
    · exact (consistent reached).enqueue enabled.2
    · exact state.ledger.kept_enqueue handle
  rcases invariant with ⟨after, kept⟩
  rw [(consistent reached).resumed_eq, after.resumed_eq]
  apply kept.count_lt
  rw [← after.waiting, settled]

/-- What the scheduler guarantees in a state. -/
structure ExactlyOnce (state : State) : Prop where
  /-- Every call of `enqueue` makes an entry, and nothing else does. -/
  entries : ∀ action : Action,
    (action.perform state).ledger.enqueued = state.ledger.enqueued ++ action.enqueues
  /-- Exactly the entries that were neither cancelled nor done in time were resumed, in order. -/
  resumed_eq : state.resumed = state.ledger.served
  once : state.resumed.Sublist state.ledger.enqueued
  /-- The entries before those that wait are settled, and those behind were at most cancelled. -/
  inOrder : state.ledger.InOrder
  waiting : state.scheduler.handles = state.ledger.pending
  /-- `done()` is asked only of coroutines that exist. -/
  exist : ∀ handle ∈ state.scheduler.handles, state.frame handle ≠ .absent
  cancels : ∀ handle, (state.cancel handle).scheduler.handles =
    state.scheduler.handles.filter fun other => other ≠ handle
  /-- `getNextInner()` returns a handle that is neither null nor done. -/
  runnable : Scheduler.passesOver state.done state.getNextInner.1 = false
  asserted : state.asserted = true
  /-- `runAll()` returns only when nothing is left in the queue. -/
  drained : state.stack.head? = some .runAll → state.turn.stack = state.stack.tail →
    state.scheduler.resumable = []
  resumed_again : ∀ handle later, system.Enabled state (.enqueue handle) →
    system.StepsVia (KeepsWaiting handle) (state.enqueue handle) later →
    later.scheduler.handles = [] → state.resumed.count handle < later.resumed.count handle

/-- In every run, however `getNext()` and `runAll()` are nested. -/
theorem exactlyOnce {state : State} (reached : system.Reachable state) : ExactlyOnce state where
  entries := enqueued_perform state
  resumed_eq := (consistent reached).resumed_eq
  once := (consistent reached).resumed_eq ▸ state.ledger.served_sublist
  inOrder := (consistent reached).inOrder
  waiting := (consistent reached).waiting
  exist := (consistent reached).exist
  cancels := state.scheduler.handles_cancel
  runnable := state.scheduler.getNextHandle_runnable state.done
  asserted := (consistent reached).asserted
  drained := state.drained_of_returned
  resumed_again := fun _ _ enabled steps settled => resumed_of_kept reached enabled steps settled

/-- Coroutine 3 is enqueued twice and finishes when it is resumed; 2 is cancelled and enqueued
again. Coroutine 1 hands control to 3, that to 4, and 4 calls `runAll()` itself. -/
theorem exactlyOnce_nested : ∃ state, (system.Reachable state ∧
    state.resumed = [1, 3, 4, 2] ∧ state.scheduler.empty = true) ∧ ExactlyOnce state := by
  have reached := TransitionSystem.exists_reachableVia_of_replay system (fun _ _ => True)
    ([.start 1, .suspend, .start 2, .suspend, .start 3, .suspend, .start 4, .suspend,
      .enqueue 1, .enqueue 2, .enqueue 3, .enqueue 4, .enqueue 3, .cancel 2, .enqueue 2,
      .runAll, .turn, .getNext, .finish, .getNext, .runAll, .turn, .suspend, .turn] :
      List Action)
    (fun state => state.resumed = [1, 3, 4, 2] ∧ state.scheduler.empty = true)
    (.start rfl) (by decide)
  rcases reached with ⟨state, reached, visited⟩
  exact ⟨state, ⟨reached, visited⟩, exactlyOnce reached⟩

end Dispatch

end Uvco
