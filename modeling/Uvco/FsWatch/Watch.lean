import Uvco.BoundedQueue
import Uvco.MultiPromise.Body

/-!
# `FsWatch`

This file embeds `FsWatch` of `uvco/fs.cc` and its `FsWatchAwaiter_`, from the first
call of `watch()` on: the callback of libuv, the generator, its consumers, and
`stopWatch()`, in every interleaving. The awaiter is a local variable of the generator,
and the data pointer of the handle leads to it; when `stopWatch()` is ready, `watch()`
can be called again.

An exception that the callback throws would leave it into libuv; the state remembers it
and is the same otherwise.
-/

namespace Uvco.FsWatch

/-- `struct FileEvent`. -/
structure FileEvent where
  path : String := ""
  events : ℕ := 0
  status : Int := 0
deriving DecidableEq, Repr

/-- The entry for what libuv reports. -/
def FileEvent.arrived (path : String) (events : ℕ) (status : Int) : FileEvent :=
  if status = 0 then { path, events } else { status }

/-- `struct FsWatchAwaiter_`. -/
structure FsWatchAwaiter where
  handle : Option Handle := none
  events : BoundedQueue FileEvent
  stopped : Bool := false

namespace FsWatchAwaiter

variable (awaiter : FsWatchAwaiter)

/-- `defaultCapacity` of the queue of events. -/
def defaultCapacity : ℕ := 128

/-- The awaiter of a new call of `watch()`. -/
def create : FsWatchAwaiter where
  events := .create defaultCapacity (by decide)

/-- There are events, or the watch is stopped. -/
def awaitReady : Bool :=
  awaiter.stopped || !awaiter.events.empty

/-- `addError`, which throws if there is no space. -/
def addError (status : Int) : Except QueueFault FsWatchAwaiter := do
  -- A message is printed if there is no space.
  let events ← awaiter.events.put { status }
  return { awaiter with events }

/-- `addEvent`, which leaves an event out if there is no space. -/
def addEvent (event : FileEvent) : Except QueueFault FsWatchAwaiter := do
  if !awaiter.events.hasSpace then
    return awaiter
  let events ← awaiter.events.put event
  return { awaiter with events }

/-- The part of the callback that may throw. -/
def add (path : String) (events : ℕ) (status : Int) : Except QueueFault FsWatchAwaiter :=
  if status = 0 then awaiter.addEvent { path, events } else awaiter.addError status

variable {awaiter}

/-- Only an error that finds no space throws. -/
theorem add_cases (awaiter : FsWatchAwaiter) (path : String) (events : ℕ) (status : Int) :
    awaiter.events.hasSpace = true ∧ (∃ queue,
        awaiter.add path events status = .ok { awaiter with events := queue } ∧
        queue.toList = awaiter.events.toList ++ [.arrived path events status] ∧
        queue.capacity = awaiter.events.capacity) ∨
      awaiter.events.hasSpace = false ∧ status = 0 ∧
        awaiter.add path events status = .ok awaiter ∨
      awaiter.events.hasSpace = false ∧ status ≠ 0 ∧
        awaiter.add path events status = .error (.thrown (.ofStatus UV_EBUSY "queue is full")) := by
  unfold add addEvent addError FileEvent.arrived
  cases space : awaiter.events.hasSpace with
  | true =>
      left
      split
      all_goals
        rcases BoundedQueue.put_spec space (FileEvent.arrived path events status) with
          ⟨queue, put_eq, contents, capacity_eq⟩
        rename_i status_eq
        rw [FileEvent.arrived] at put_eq contents
        simp only [status_eq, if_true, if_false] at put_eq contents
        exact ⟨rfl, queue, by simp [put_eq], contents, capacity_eq⟩
  | false =>
      right
      split
      · rename_i no_error
        exact .inl ⟨rfl, no_error, rfl⟩
      · rename_i error
        right
        rw [BoundedQueue.put_full space]
        exact ⟨rfl, error, rfl⟩

end FsWatchAwaiter

/-- A `FsWatch` with its generator and with the coroutine that stops it. -/
structure State where
  /-- The generator of the last call of `watch()`, and its `MultiPromise`. -/
  promise : MultiPromise.State FileEvent QueueFault
  /-- The awaiter that `uv_handle_->data` points to. -/
  data : Option FsWatchAwaiter := none
  /-- The generator is suspended at `co_yield`, and otherwise in its awaiter. -/
  atYield : Bool := false
  /-- The coroutine of `stopWatch()`. -/
  stopping : Option Handle := none
  /-- The promise of `stopWatch()` is ready. -/
  stopReady : Bool := false
  /-- There was a value in the slot when `stopWatch()` was called. -/
  unread : Bool := false
  /-- What has left the callback. -/
  escaped : Option QueueFault := none
  /-- What has arrived while fewer than 128 entries were pending. -/
  accepted : List FileEvent := []

namespace State

variable (state : State)

/-- `FsWatchAwaiter_::schedule()`. -/
def schedule (awaiter : FsWatchAwaiter) : State :=
  match awaiter.handle with
  | some handle =>
      { state with
        promise := (MultiPromise.Action.other (.wake handle)).perform state.promise
        data := some { awaiter with handle := none } }
  | none => { state with data := some awaiter }

/-- The generator ends, and `ZeroAtExit` resets the data pointer. -/
def leave (ending : MultiPromise.Ending QueueFault) : State :=
  { state with promise := state.promise.finish ending, data := none }

/-- The generator after `co_await awaiter`. -/
def resumed (awaiter : FsWatchAwaiter) : State :=
  if awaiter.stopped then state.leave .returned
  else
    match awaiter.events.get with
    | .ok (event, events) =>
        { state with
          promise := state.promise.yield event
          data := some { awaiter with handle := none, events }
          atYield := true }
    | .error fault => state.leave (.threw fault)

/-- `co_await awaiter`. -/
def await (awaiter : FsWatchAwaiter) : State :=
  if awaiter.awaitReady then state.resumed awaiter
  else
    { state with
      promise := (MultiPromise.Action.other (.suspend state.promise.generator)).perform
        state.promise
      data := some { awaiter with handle := some state.promise.generator }
      atYield := false }

/-- The generator goes on where it was suspended. -/
def proceed : State :=
  match state.data with
  | some awaiter => if state.atYield then state.await awaiter else state.resumed awaiter
  | none => state

/-- A step of the `MultiPromise`, and of the generator if it is resumed. -/
def advance (action : MultiPromise.Action FileEvent QueueFault) : State :=
  let after := { state with promise := action.perform state.promise }
  if state.promise.Resumed after.promise then after.proceed else after

/-- `stopWatch()` ends when its coroutine is resumed. -/
def settle : State :=
  match state.stopping with
  | some coroutine =>
      if state.promise.runtime.status coroutine = .running then
        { state with
          promise := (MultiPromise.Action.other (.finish coroutine)).perform state.promise
          stopReady := true }
      else state
  | none => state

/-- A step of the `MultiPromise`; a generator that was resumed goes on. -/
def follow (action : MultiPromise.Action FileEvent QueueFault) : State :=
  (state.advance action).settle

/-- What `watch()` throws. -/
def watchError : Option UvcoException :=
  if state.data.isSome then some (.ofStatus UV_EBUSY "FsWatch::watch() is already active!")
  else none

/-- The assertion of `~FsWatch`. -/
def dropAsserts : Bool :=
  state.data.isNone

/-- `watch()`, if it does not throw. -/
def watch (generator : Handle) : State :=
  ({ promise := .started state.promise.runtime generator
     escaped := state.escaped } : State).await .create

/-- `onFsWatcherEvent`. -/
def onFsWatcherEvent (path : String) (events : ℕ) (status : Int) : State :=
  match state.data with
  | none => state
  | some awaiter =>
      let accepted :=
        if awaiter.events.size < FsWatchAwaiter.defaultCapacity then
          state.accepted ++ [.arrived path events status]
        else state.accepted
      match awaiter.add path events status with
      | .ok awaiter => { state with accepted }.schedule awaiter
      | .error fault => { state with accepted, escaped := some fault }

/-- `stopWatch()`, whose coroutine awaits the generator. -/
def stopWatch (coroutine : Handle) : State :=
  match state.data with
  | none => state
  | some awaiter =>
      let stopped := state.schedule { awaiter with stopped := true }
      ({ stopped with
          stopping := some coroutine
          unread := state.promise.core.slot.isSome } : State).follow (.coAwait coroutine)

end State

/-- What the program, libuv and the scheduler can do next. -/
inductive Action where
  | watch (generator : Handle)
  | onFsWatcherEvent (path : String) (events : ℕ) (status : Int)
  | stopWatch (coroutine : Handle)
  /-- A step of consumers, of the scheduler or of other coroutines. -/
  | follow (action : MultiPromise.Action FileEvent QueueFault)

namespace Action

/-- `watch()` is called again when nobody awaits its last generator any more. `stopWatch()` is
called for an active watch by a coroutine that owns its `MultiPromise`, so nobody else awaits the
generator afterwards. -/
def Enabled (state : State) : Action → Prop
  | .watch generator => state.watchError = none ∧ state.promise.ended.isSome = true ∧
      state.promise.runtime.status generator = .running ∧
      ∀ handle, ¬state.promise.Awaits handle
  | .onFsWatcherEvent .. => True
  | .stopWatch coroutine => state.data.isSome = true ∧ state.stopping = none ∧
      (MultiPromise.Action.coAwait coroutine :
        MultiPromise.Action FileEvent QueueFault).Enabled state.promise
  | .follow action => action.Enabled state.promise ∧ action.IsForeign state.promise.generator ∧
      ∀ handle, action = .coAwait handle → state.stopping = none

/-- The state after an action. -/
def perform (state : State) : Action → State
  | .watch generator => state.watch generator
  | .onFsWatcherEvent path events status => state.onFsWatcherEvent path events status
  | .stopWatch coroutine => state.stopWatch coroutine
  | .follow action => state.follow action

end Action

/-- All programs around one `FsWatch`, from the first call of `watch()` on. -/
def system : TransitionSystem State Action where
  Initial state := ∃ generator, state = ({ promise := .initial generator } : State).watch generator
  Enabled state action := action.Enabled state
  perform state action := action.perform state

end Uvco.FsWatch
