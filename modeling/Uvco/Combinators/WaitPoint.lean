import Uvco.Library.Transition
import Uvco.Loop

/-!
# Wait points

This file embeds `WaitPoint` of `uvco/combinators.{h,cc}`: a deque of raw handles
in which `wait()` registers its coroutine, and the two functions that pass the
registered handles on to the loop.

The awaiter of `wait()` has no destructor, unlike `ChannelAwaiter_`: if the promise
of a registered `wait()` is dropped, its handle stays in the deque although the
frame is gone. As long as that does not happen, the deque holds exactly the
coroutines that wait.
-/

namespace Uvco

/-- `class WaitPoint`, with `waiters_`. -/
structure WaitPoint where
  waiters : List Handle := []

namespace WaitPoint

/-- `waiting()`: the number of waiters. -/
def waiting (waitPoint : WaitPoint) : ℕ :=
  waitPoint.waiters.length

/-- `enqueue()`, called by the awaiter. -/
def enqueue (waitPoint : WaitPoint) (handle : Handle) : WaitPoint :=
  { waiters := waitPoint.waiters ++ [handle] }

/-- `releaseOne()`: the first waiter leaves the queue and is enqueued in the loop. -/
def releaseOne (waitPoint : WaitPoint) (loop : Loop) : WaitPoint × Loop :=
  match waitPoint.waiters with
  | [] => (waitPoint, loop)
  | front :: rest => ({ waiters := rest }, loop.enqueue front)

/-- Where a coroutine that uses the wait point is. -/
inductive Point where
  /-- In `wait()`, at `co_await WaitPointAwaiter_{*this}`. -/
  | waiting
  /-- In `wait()`, at `final_suspend`. -/
  | finished
  /-- A coroutine that does not wait here. -/
  | other
deriving DecidableEq

/-- A wait point together with the loop and the coroutine frames around it. -/
structure State where
  waitPoint : WaitPoint := {}
  loop : Loop := {}
  /-- The suspension points of the frames that exist. -/
  frame : Handle → Option Point := fun _ => none
  /-- The address of the next frame. -/
  next : Handle := 0
  /-- The `wait()` coroutines, in the order in which they started waiting. -/
  started : List Handle := []
  /-- The handles that were passed to `Loop::enqueue`, in order. -/
  released : List Handle := []

namespace State

variable (state : State) (handle : Handle)

/-- `coroutine_handle::done()`. -/
def done (handle : Handle) : Bool :=
  state.frame handle = some .finished

/-- A coroutine moves to another point. -/
def setFrame (point : Point) : State :=
  { state with frame := Function.update state.frame handle (some point) }

/-- Resume a coroutine: `wait()` returns. -/
def resume : State :=
  match state.frame handle with
  | some .waiting => state.setFrame handle .finished
  | some .finished | some .other | none => state

/-- The scheduler resumes the next coroutine, if there is one. -/
def resumeNext : State :=
  let (next, loop) := state.loop.getNext state.done
  match next with
  | some handle => ({ state with loop } : State).resume handle
  | none => { state with loop }

/-- `WaitPointAwaiter_::await_suspend`, up to the symmetric hand-off. -/
def register : State :=
  ({ state with
      waitPoint := state.waitPoint.enqueue handle
      started := state.started ++ [handle] } : State).setFrame handle .waiting

/-- `wait()` starts at once, in a new frame, and hands control to the next coroutine. -/
def wait : State :=
  (({ state with next := state.next + 1 } : State).register state.next).resumeNext

/-- `releaseOne()`, with the record of who was released. -/
def releaseOne : State :=
  let (waitPoint, loop) := state.waitPoint.releaseOne state.loop
  { state with
    waitPoint, loop, released := state.released ++ state.waitPoint.waiters.head?.toList }

/-- The loop of `releaseAll`; every turn releases one waiter. -/
def releaseFrom : ℕ → State → State
  | 0, state => state
  | turns + 1, state =>
      if state.waitPoint.waiters.isEmpty then state else releaseFrom turns state.releaseOne

/-- `releaseAll()`, for as many waiters as there are when it is called. -/
def releaseAll : State :=
  releaseFrom state.waitPoint.waiters.length state

/-- Drop the promise of a coroutine: `destroyCoroutine`. -/
def drop : State :=
  let loop := if state.done handle then state.loop else state.loop.cancel handle
  { state with loop, frame := Function.update state.frame handle none }

end State

/-- What the users of the wait point and the scheduler can do next. -/
inductive Action where
  | wait
  | releaseOne
  | releaseAll
  | drop (handle : Handle)
  /-- The scheduler resumes the next runnable coroutine. -/
  | resumeNext
  /-- A coroutine that does not wait here is created. -/
  | spawnOther
  /-- Something outside the wait point enqueues such a coroutine. -/
  | enqueueOther (handle : Handle)
deriving DecidableEq

namespace Action

/-- Only coroutines that exist are dropped or enqueued. -/
def Enabled (state : State) : Action → Prop
  | .drop handle => state.frame handle ≠ none
  | .enqueueOther handle => state.frame handle = some .other
  | .wait | .releaseOne | .releaseAll | .resumeNext | .spawnOther => True

/-- The state after an action. -/
def perform (state : State) : Action → State
  | .wait => state.wait
  | .releaseOne => state.releaseOne
  | .releaseAll => state.releaseAll
  | .drop handle => state.drop handle
  | .resumeNext => state.resumeNext
  | .spawnOther => ({ state with next := state.next + 1 } : State).setFrame state.next .other
  | .enqueueOther handle => { state with loop := state.loop.enqueue handle }

instance (state : State) (action : Action) : Decidable (action.Enabled state) :=
  match action with
  | .drop handle => inferInstanceAs (Decidable (state.frame handle ≠ none))
  | .enqueueOther handle => inferInstanceAs (Decidable (state.frame handle = some .other))
  | .wait | .releaseOne | .releaseAll | .resumeNext | .spawnOther => .isTrue trivial

end Action

/-- All programs around one wait point. -/
def system : TransitionSystem State Action where
  Initial state := state = {}
  Enabled state action := action.Enabled state
  perform state action := action.perform state

instance (state : State) (action : Action) : Decidable (system.Enabled state action) :=
  inferInstanceAs (Decidable (action.Enabled state))

namespace State

/-- The handles that the scheduler will resume, in this order. -/
abbrev resumable (state : State) : List (Option Handle) :=
  state.loop.scheduler.resumable

/-- The coroutine exists, is suspended in the awaiter, and was not released yet. -/
def Live (state : State) (handle : Handle) : Prop :=
  state.frame handle = some .waiting ∧ some handle ∉ state.resumable

instance (state : State) (handle : Handle) : Decidable (state.Live handle) :=
  inferInstanceAs (Decidable (_ ∧ _))

/-- The coroutines that wait, the oldest first. -/
def live (state : State) : List Handle :=
  state.started.filter fun handle => state.Live handle

/-- The handles that an action passes to `Loop::enqueue`. -/
def passes (state : State) (action : Action) : List Handle :=
  (action.perform state).released.drop state.released.length

/-- The wait point releases exactly its live waiters. -/
structure ReleasesLive (state : State) : Prop where
  passes_live : ∀ action handle, handle ∈ state.passes action → state.Live handle
  in_order : state.released <+: state.started
  releaseOne : ∀ oldest, state.live.head? = some oldest →
    state.passes .releaseOne = [oldest] ∧
      (Action.perform state .releaseOne).loop = state.loop.enqueue oldest
  releaseAll : state.passes .releaseAll = state.live
  waiting : state.waitPoint.waiting = state.live.length

/-- The action does not drop a coroutine that is registered in the wait point. -/
def DropsNoWaiter (state : State) (action : Action) : Prop :=
  ∀ handle, action = .drop handle → handle ∉ state.waitPoint.waiters

/-- The deque holds the coroutines that wait, in the order in which they started. -/
structure Consistent (state : State) : Prop where
  fresh : ∀ handle, state.next ≤ handle → state.frame handle = none
  started_lt : ∀ handle ∈ state.started, handle < state.next
  started_once : state.started.Nodup
  order : state.started = state.released ++ state.waitPoint.waiters
  queued_lt : ∀ handle, some handle ∈ state.resumable → handle < state.next
  registered : ∀ handle ∈ state.waitPoint.waiters, state.Live handle
  waiting : ∀ handle, state.frame handle = some .waiting →
    handle ∈ state.waitPoint.waiters ∨ some handle ∈ state.resumable

namespace Consistent

variable {state : State}

theorem live_eq (consistent : state.Consistent) : state.live = state.waitPoint.waiters := by
  have once := consistent.started_once
  rw [consistent.order, List.nodup_append] at once
  have none_released : state.released.filter (fun handle => state.Live handle) = [] := by
    rw [List.filter_eq_nil_iff]
    intro handle handle_released
    simp only [decide_eq_true_eq]
    rintro ⟨waits, not_queued⟩
    rcases consistent.waiting handle waits with registered | queued
    · exact once.2.2 handle handle_released handle registered rfl
    · exact not_queued queued
  have all_registered : state.waitPoint.waiters.filter (fun handle => state.Live handle) =
      state.waitPoint.waiters := by
    rw [List.filter_eq_self]
    intro handle registered
    simpa using consistent.registered handle registered
  rw [live, consistent.order, List.filter_append, none_released, all_registered, List.nil_append]

theorem initially : ({} : State).Consistent := by
  constructor <;> simp [resumable]

theorem dequeue (consistent : state.Consistent) {loop : Loop}
    (remaining : ∀ handle, some handle ∈ loop.scheduler.resumable →
      some handle ∈ state.resumable) (kept : ∀ handle, state.frame handle = some .waiting →
      some handle ∈ state.resumable → some handle ∈ loop.scheduler.resumable) :
    ({ state with loop } : State).Consistent := by
  constructor
  · exact consistent.fresh
  · exact consistent.started_lt
  · exact consistent.started_once
  · exact consistent.order
  · exact fun handle queued => consistent.queued_lt handle (remaining handle queued)
  · intro handle registered
    rcases consistent.registered handle registered with ⟨waits, not_queued⟩
    exact ⟨waits, fun queued => not_queued (remaining handle queued)⟩
  · intro handle waits
    exact (consistent.waiting handle waits).imp id (kept handle waits)

theorem setFrame_finished (consistent : state.Consistent) {handle : Handle}
    (existing : handle < state.next) (unregistered : handle ∉ state.waitPoint.waiters) :
    (state.setFrame handle .finished).Consistent := by
  constructor
  · intro other other_ge
    have differs : other ≠ handle := Nat.ne_of_gt (Nat.lt_of_lt_of_le existing other_ge)
    simpa [setFrame, differs] using consistent.fresh other other_ge
  · exact consistent.started_lt
  · exact consistent.started_once
  · exact consistent.order
  · exact consistent.queued_lt
  · intro other registered
    have differs : other ≠ handle := fun same => unregistered (same ▸ registered)
    rcases consistent.registered other registered with ⟨waits, not_queued⟩
    exact ⟨by simpa [setFrame, differs] using waits, not_queued⟩
  · intro other waits
    have differs : other ≠ handle := by
      rintro rfl
      simp [setFrame] at waits
    exact consistent.waiting other (by simpa [setFrame, differs] using waits)

theorem resumeNext (consistent : state.Consistent) : state.resumeNext.Consistent := by
  have waiting_not_done : ∀ handle, state.frame handle = some .waiting →
      state.done handle = false := by
    intro handle waits
    simp [State.done, waits]
  rcases popped : state.loop.getNext state.done with ⟨_ | handle, loop⟩
  · have unfolded : state.resumeNext = { state with loop } := by
      simp [State.resumeNext, popped]
    rcases Loop.getNext_none popped with ⟨emptied, all_done⟩
    rw [unfolded]
    apply consistent.dequeue
    · simp [emptied]
    · intro waiting waits queued
      have done := all_done waiting queued
      simp [waiting_not_done waiting waits] at done
  · have unfolded : state.resumeNext = ({ state with loop } : State).resume handle := by
      simp [State.resumeNext, popped]
    rcases Loop.getNext_some popped with ⟨skipped, resumable_eq, -, skipped_done⟩
    have was_queued : some handle ∈ state.resumable := by simp [resumable, resumable_eq]
    have remaining : ∀ other, some other ∈ loop.scheduler.resumable →
        some other ∈ state.resumable := by
      intro other queued
      simp [resumable, resumable_eq, queued]
    -- What is skipped has finished, so of the waiting coroutines only `handle` is popped.
    have kept : ∀ other, other ≠ handle → state.frame other = some .waiting →
        some other ∈ state.resumable → some other ∈ loop.scheduler.resumable := by
      intro other differs waits queued
      rw [resumable, resumable_eq, List.mem_append, List.mem_cons] at queued
      rcases queued with skipped | same | later
      · have done := skipped_done other skipped
        simp [waiting_not_done other waits] at done
      · exact absurd (Option.some.inj same) differs
      · exact later
    rw [unfolded]
    by_cases waits : state.frame handle = some .waiting
    · have resumed : ({ state with loop } : State).resume handle =
          { state.setFrame handle .finished with loop } := by
        simp only [resume, waits]
        rfl
      have unregistered : handle ∉ state.waitPoint.waiters :=
        fun registered => (consistent.registered handle registered).2 was_queued
      rw [resumed]
      refine (consistent.setFrame_finished (consistent.queued_lt handle was_queued)
        unregistered).dequeue remaining ?_
      intro other other_waits queued
      have differs : other ≠ handle := by
        rintro rfl
        simp [setFrame] at other_waits
      exact kept other differs (by simpa [setFrame, differs] using other_waits) queued
    · have resumed : ({ state with loop } : State).resume handle = { state with loop } := by
        unfold resume
        split <;> simp_all
      rw [resumed]
      refine consistent.dequeue remaining ?_
      intro other other_waits queued
      exact kept other (fun same => waits (same ▸ other_waits)) other_waits queued

theorem setFrame_next (consistent : state.Consistent) {point : Point}
    (not_waiting : point ≠ .waiting) :
    (({ state with next := state.next + 1 } : State).setFrame state.next point).Consistent := by
  have started_ne : ∀ handle ∈ state.waitPoint.waiters, handle ≠ state.next := by
    intro handle registered
    exact Nat.ne_of_lt (consistent.started_lt handle (by simp [consistent.order, registered]))
  constructor
  · intro other other_ge
    have differs : other ≠ state.next := Nat.ne_of_gt other_ge
    simpa [setFrame, differs] using consistent.fresh other (Nat.le_of_succ_le other_ge)
  · intro handle started
    exact Nat.lt_succ_of_lt (consistent.started_lt handle started)
  · exact consistent.started_once
  · exact consistent.order
  · intro handle queued
    exact Nat.lt_succ_of_lt (consistent.queued_lt handle queued)
  · intro handle registered
    rcases consistent.registered handle registered with ⟨waits, not_queued⟩
    exact ⟨by simpa [setFrame, started_ne handle registered] using waits, not_queued⟩
  · intro handle waits
    have differs : handle ≠ state.next := by
      rintro rfl
      simp [setFrame] at waits
      exact not_waiting waits
    exact consistent.waiting handle (by simpa [setFrame, differs] using waits)

theorem register (consistent : state.Consistent) :
    (({ state with next := state.next + 1 } : State).register state.next).Consistent := by
  have unused : state.next ∉ state.started :=
    fun started => Nat.lt_irrefl _ (consistent.started_lt _ started)
  have registered_started : ∀ handle ∈ state.waitPoint.waiters, handle ∈ state.started := by
    intro handle registered
    simp [consistent.order, registered]
  constructor
  · intro other other_ge
    have differs : other ≠ state.next := Nat.ne_of_gt other_ge
    simpa [State.register, setFrame, differs] using
      consistent.fresh other (Nat.le_of_succ_le other_ge)
  · intro handle started
    change handle ∈ state.started ++ [state.next] at started
    rw [List.mem_append, List.mem_singleton] at started
    rcases started with older | rfl
    · exact Nat.lt_succ_of_lt (consistent.started_lt handle older)
    · exact Nat.lt_succ_self _
  · change (state.started ++ [state.next]).Nodup
    rw [List.nodup_append]
    refine ⟨consistent.started_once, by simp, ?_⟩
    rintro handle older other newest rfl
    exact unused (List.mem_singleton.mp newest ▸ older)
  · change state.started ++ [state.next] =
      state.released ++ (state.waitPoint.waiters ++ [state.next])
    rw [consistent.order, List.append_assoc]
  · intro handle queued
    exact Nat.lt_succ_of_lt (consistent.queued_lt handle queued)
  · intro handle registered
    change handle ∈ state.waitPoint.waiters ++ [state.next] at registered
    rw [List.mem_append, List.mem_singleton] at registered
    rcases registered with older | rfl
    · rcases consistent.registered handle older with ⟨waits, not_queued⟩
      have differs : handle ≠ state.next :=
        fun same => unused (same ▸ registered_started handle older)
      exact ⟨by simpa [State.register, setFrame, differs] using waits, not_queued⟩
    · refine ⟨by simp [State.register, setFrame], ?_⟩
      intro queued
      exact Nat.lt_irrefl _ (consistent.queued_lt _ queued)
  · intro handle waits
    change handle ∈ state.waitPoint.waiters ++ [state.next] ∨ some handle ∈ state.resumable
    by_cases same : handle = state.next
    · simp [same]
    · rw [List.mem_append]
      exact (consistent.waiting handle
        (by simpa [State.register, setFrame, same] using waits)).imp .inl id

theorem releaseOne (consistent : state.Consistent) : state.releaseOne.Consistent := by
  cases waiters_eq : state.waitPoint.waiters with
  | nil =>
      have unfolded : state.releaseOne = state := by
        simp [State.releaseOne, WaitPoint.releaseOne, waiters_eq]
      rw [unfolded]
      exact consistent
  | cons front rest =>
      have unfolded : state.releaseOne = { state with
          waitPoint := { waiters := rest }
          loop := state.loop.enqueue front
          released := state.released ++ [front] } := by
        simp [State.releaseOne, WaitPoint.releaseOne, waiters_eq]
      have once := consistent.started_once
      rw [consistent.order, waiters_eq, List.nodup_append, List.nodup_cons] at once
      rw [unfolded]
      constructor
      · exact consistent.fresh
      · exact consistent.started_lt
      · exact consistent.started_once
      · change state.started = state.released ++ [front] ++ rest
        rw [consistent.order, waiters_eq, List.append_assoc]
        rfl
      · intro handle queued
        rw [resumable, Loop.enqueue_scheduler, Scheduler.mem_enqueue] at queued
        rcases queued with older | rfl
        · exact consistent.queued_lt handle older
        · exact consistent.started_lt handle (by simp [consistent.order, waiters_eq])
      · intro handle registered
        rcases consistent.registered handle
          (by simp [waiters_eq, show handle ∈ rest from registered])
          with ⟨waits, not_queued⟩
        refine ⟨waits, ?_⟩
        rw [resumable, Loop.enqueue_scheduler, Scheduler.mem_enqueue]
        rintro (older | rfl)
        · exact not_queued older
        · exact once.2.1.1 registered
      · intro handle waits
        rw [resumable, Loop.enqueue_scheduler, Scheduler.mem_enqueue]
        rcases consistent.waiting handle waits with registered | queued
        · rw [waiters_eq, List.mem_cons] at registered
          rcases registered with first | later
          · exact .inr (.inr first)
          · exact .inl later
        · exact .inr (.inl queued)

theorem releaseFrom (consistent : state.Consistent) (turns : ℕ) :
    (State.releaseFrom turns state).Consistent := by
  induction turns generalizing state with
  | zero => exact consistent
  | succ turns ih =>
      unfold State.releaseFrom
      split
      · exact consistent
      · exact ih consistent.releaseOne

theorem drop (consistent : state.Consistent) {handle : Handle}
    (unregistered : handle ∉ state.waitPoint.waiters) : (state.drop handle).Consistent := by
  have remaining : ∀ other, some other ∈ (state.drop handle).resumable →
      some other ∈ state.resumable := by
    intro other queued
    unfold State.drop resumable at queued
    dsimp only at queued
    split at queued
    · exact queued
    · rw [Loop.cancel_scheduler, Scheduler.mem_cancel] at queued
      exact queued.1
  have kept : ∀ other, other ≠ handle → some other ∈ state.resumable →
      some other ∈ (state.drop handle).resumable := by
    intro other differs queued
    unfold State.drop resumable
    dsimp only
    split
    · exact queued
    · rw [Loop.cancel_scheduler, Scheduler.mem_cancel]
      exact ⟨queued, differs⟩
  constructor
  · intro other other_ge
    by_cases same : other = handle
    · simp [State.drop, same]
    · simpa [State.drop, same] using consistent.fresh other other_ge
  · exact consistent.started_lt
  · exact consistent.started_once
  · exact consistent.order
  · exact fun other queued => consistent.queued_lt other (remaining other queued)
  · intro other registered
    have differs : other ≠ handle := fun same => unregistered (same ▸ registered)
    rcases consistent.registered other registered with ⟨waits, not_queued⟩
    exact ⟨by simpa [State.drop, differs] using waits,
      fun queued => not_queued (remaining other queued)⟩
  · intro other waits
    have differs : other ≠ handle := by
      rintro rfl
      simp [State.drop] at waits
    have waited : state.frame other = some .waiting := by simpa [State.drop, differs] using waits
    exact (consistent.waiting other waited).imp id (kept other differs)

theorem enqueueOther (consistent : state.Consistent) {handle : Handle}
    (other : state.frame handle = some .other) :
    ({ state with loop := state.loop.enqueue handle } : State).Consistent := by
  constructor
  · exact consistent.fresh
  · exact consistent.started_lt
  · exact consistent.started_once
  · exact consistent.order
  · intro queued_handle queued
    rw [resumable, Loop.enqueue_scheduler, Scheduler.mem_enqueue] at queued
    rcases queued with older | rfl
    · exact consistent.queued_lt queued_handle older
    · by_contra beyond
      have := consistent.fresh queued_handle (Nat.not_lt.mp beyond)
      simp [this] at other
  · intro registered_handle registered
    rcases consistent.registered registered_handle registered with ⟨waits, not_queued⟩
    refine ⟨waits, ?_⟩
    rw [resumable, Loop.enqueue_scheduler, Scheduler.mem_enqueue]
    rintro (older | rfl)
    · exact not_queued older
    · simp [waits] at other
  · intro waiting_handle waits
    rw [resumable, Loop.enqueue_scheduler, Scheduler.mem_enqueue]
    exact (consistent.waiting waiting_handle waits).imp id .inl

/-- Every step but the drop of a registered waiter keeps the deque consistent. -/
theorem step (consistent : state.Consistent) {action : Action} (enabled : action.Enabled state)
    (allowed : state.DropsNoWaiter action) : (action.perform state).Consistent := by
  cases action with
  | wait => exact consistent.register.resumeNext
  | releaseOne => exact consistent.releaseOne
  | releaseAll => exact consistent.releaseFrom _
  | drop handle => exact consistent.drop (allowed handle rfl)
  | resumeNext => exact consistent.resumeNext
  | spawnOther => exact consistent.setFrame_next (by simp)
  | enqueueOther handle => exact consistent.enqueueOther enabled

end Consistent

theorem resumeNext_frame (state : State) :
    state.resumeNext.released = state.released ∧
      state.resumeNext.waitPoint = state.waitPoint := by
  unfold resumeNext
  dsimp only
  split
  · unfold resume
    split <;> exact ⟨rfl, rfl⟩
  · exact ⟨rfl, rfl⟩

@[simp]
theorem resumeNext_released (state : State) : state.resumeNext.released = state.released :=
  state.resumeNext_frame.1

@[simp]
theorem resumeNext_waitPoint (state : State) : state.resumeNext.waitPoint = state.waitPoint :=
  state.resumeNext_frame.2

theorem releaseFrom_succ {state : State} {front : Handle} {rest : List Handle} (turns : ℕ)
    (waiters_eq : state.waitPoint.waiters = front :: rest) :
    releaseFrom (turns + 1) state = releaseFrom turns state.releaseOne ∧
      state.releaseOne.waitPoint.waiters = rest ∧
      state.releaseOne.released = state.released ++ [front] := by
  simp [releaseFrom, releaseOne, WaitPoint.releaseOne, waiters_eq]

theorem releaseFrom_spec (turns : ℕ) (state : State)
    (enough : state.waitPoint.waiters.length ≤ turns) :
    (releaseFrom turns state).released = state.released ++ state.waitPoint.waiters ∧
      (releaseFrom turns state).waitPoint.waiters = [] := by
  induction turns generalizing state with
  | zero =>
      have nobody := List.length_eq_zero_iff.mp (Nat.le_zero.mp enough)
      simp [releaseFrom, nobody]
  | succ turns ih =>
      cases waiters_eq : state.waitPoint.waiters with
      | nil => simp [releaseFrom, waiters_eq]
      | cons front rest =>
          rcases releaseFrom_succ turns waiters_eq with ⟨unfolded, after_waiters, after_released⟩
          rw [waiters_eq, List.length_cons] at enough
          have released := ih state.releaseOne (by rw [after_waiters]; omega)
          rw [after_waiters, after_released, List.append_assoc] at released
          rw [unfolded]
          exact released

@[simp]
theorem releaseAll_waiters (state : State) : state.releaseAll.waitPoint.waiters = [] :=
  (releaseFrom_spec _ state (Nat.le_refl _)).2

theorem passes_releaseOne (state : State) :
    state.passes .releaseOne = state.waitPoint.waiters.head?.toList := by
  simp [passes, Action.perform, releaseOne]

theorem passes_releaseAll (state : State) :
    state.passes .releaseAll = state.waitPoint.waiters := by
  have released : (Action.perform state .releaseAll).released =
      state.released ++ state.waitPoint.waiters :=
    (releaseFrom_spec _ state (Nat.le_refl _)).1
  rw [passes, released, List.drop_left]

/-- Only the two release functions pass handles on, and they pass on registered ones. -/
theorem mem_waiters_of_passes {state : State} {action : Action} {handle : Handle}
    (passed : handle ∈ state.passes action) : handle ∈ state.waitPoint.waiters := by
  cases action with
  | releaseOne =>
      rw [passes_releaseOne, Option.mem_toList] at passed
      exact List.mem_of_mem_head? passed
  | releaseAll =>
      rw [passes_releaseAll] at passed
      exact passed
  | wait | resumeNext => simp [passes, Action.perform, wait, register, setFrame] at passed
  | drop _ | spawnOther | enqueueOther _ =>
      simp [passes, Action.perform, State.drop, setFrame] at passed

theorem Consistent.releasesLive {state : State} (consistent : state.Consistent) :
    state.ReleasesLive := by
  constructor
  · intro action handle passed
    exact consistent.registered handle (mem_waiters_of_passes passed)
  · exact ⟨_, consistent.order.symm⟩
  · intro oldest first
    rw [consistent.live_eq] at first
    refine ⟨by rw [passes_releaseOne, first, Option.toList_some], ?_⟩
    rcases List.head?_eq_some_iff.mp first with ⟨rest, waiters_eq⟩
    simp [Action.perform, State.releaseOne, WaitPoint.releaseOne, waiters_eq]
  · rw [passes_releaseAll, consistent.live_eq]
  · rw [consistent.live_eq]
    rfl

/-- A dropped waiter is still in the deque and will be passed to the loop. -/
theorem not_releasesLive_drop {state : State} {handle : Handle}
    (registered : handle ∈ state.waitPoint.waiters) :
    ¬(Action.perform state (.drop handle)).ReleasesLive := by
  intro releasesLive
  have passed : handle ∈ (Action.perform state (.drop handle)).passes .releaseAll := by
    rw [passes_releaseAll]
    exact registered
  have live := releasesLive.passes_live .releaseAll handle passed
  simp [Live, Action.perform, State.drop] at live

theorem consistent_of_reachableVia {state : State}
    (reached : system.ReachableVia DropsNoWaiter state) : state.Consistent := by
  refine TransitionSystem.ReachableVia.invariant Consistent ?_ ?_ reached
  · rintro _ rfl
    exact .initially
  · exact fun _ _ consistent enabled allowed => consistent.step enabled allowed

/-- As long as no registered waiter is dropped, a wait point releases exactly its live waiters;
the step that drops one is the step that breaks this. -/
theorem releasesLive_of_reachableVia {state : State}
    (reached : system.ReachableVia DropsNoWaiter state) :
    state.ReleasesLive ∧ ∀ action : Action, action.Enabled state →
      ((action.perform state).ReleasesLive ↔ state.DropsNoWaiter action) := by
  have consistent := consistent_of_reachableVia reached
  refine ⟨consistent.releasesLive, ?_⟩
  intro action enabled
  constructor
  · rintro releasesLive handle rfl registered
    exact not_releasesLive_drop registered releasesLive
  · intro allowed
    exact (consistent.step enabled allowed).releasesLive

/-- Two coroutines wait; the first is released, and dropped before it runs. -/
theorem releasesLive_two_waiters :
    (([.wait, .wait, .releaseOne, .drop 0] : List Action).foldl
      Action.perform {}).ReleasesLive := by
  have start : system.ReachableVia DropsNoWaiter {} := .start rfl
  have first := start.step Action.wait trivial (by rintro handle ⟨⟩)
  have second := first.step Action.wait trivial (by rintro handle ⟨⟩)
  have released := second.step Action.releaseOne trivial (by rintro handle ⟨⟩)
  have dropped := released.step (Action.drop 0) (by decide) (by rintro handle ⟨⟩; decide)
  exact (releasesLive_of_reachableVia dropped).1

/-- A waiter is dropped while it is registered: its handle is passed to the loop later on, and
`waiting()` still counts it. -/
theorem releases_dropped_waiter : ¬∀ state, system.Reachable state → state.ReleasesLive := by
  intro always
  have start : system.Reachable {} := .start rfl
  have waiting := start.step Action.wait trivial trivial
  have dropped := waiting.step (Action.drop 0) (by decide) trivial
  have count := (always _ dropped).waiting
  revert count
  decide

end State

end WaitPoint

end Uvco
