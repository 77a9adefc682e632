import Uvco.BoundedQueue
import Uvco.Library.Transition
import Uvco.Loop

/-!
# Channels

This file embeds `uvco/channel.h`: the channel with its item queue and its two
waiter queues, the awaiter that registers a coroutine in a waiter queue, and
the coroutines `put()`, `get()` and `getAll()`, cut at their suspension points.

`State` adds what a channel lives in: the loop with its scheduler queue and the
frames of the coroutines. The actions are those a program can take between two
suspension points: calling one of the three coroutine functions, asking a
`getAll()` generator for its next item, resuming the coroutine the scheduler
hands out next, dropping the promise of a coroutine at any moment, and letting
unrelated coroutines come and go in the same scheduler queue. Any order of
actions is a run, so the runs cover every interleaving.

Assertions are compiled out in this model, but `verified` remembers whether
every `BOOST_VERIFY` passed so far; where one fails, execution goes on with the
statement after it, as in a release build.
-/

namespace Uvco

variable {T : Type}

/-- The two kinds of channel users that can wait. -/
inductive Side where
  /-- `get()` and `getAll()`, registered in `read_waiting_`. -/
  | reader
  /-- `put()`, registered in `write_waiting_`. -/
  | writer
deriving DecidableEq, Repr

/-- The side that is woken by what this side does. -/
def Side.opposite : Side → Side
  | .reader => .writer
  | .writer => .reader

theorem Side.eq_opposite {side other : Side} (differs : other ≠ side) :
    other = side.opposite := by
  cases side <;> cases other <;> simp_all [Side.opposite]

/-- `class Channel`: its elements and the two queues of waiters. -/
structure Channel (T : Type) where
  queue : BoundedQueue T
  readWaiting : BoundedQueue (Option Handle)
  writeWaiting : BoundedQueue (Option Handle)

namespace Channel

/-- The constructor, with the capacities the queues report after `reserve`. -/
def create (capacity maxWaiters : ℕ) (capacity_lt : capacity < 2 ^ 32)
    (maxWaiters_lt : maxWaiters < 2 ^ 32) : Channel T where
  queue := .create capacity capacity_lt
  readWaiting := .create maxWaiters maxWaiters_lt
  writeWaiting := .create maxWaiters maxWaiters_lt

/-- The waiters of a side. -/
def waiting (channel : Channel T) : Side → BoundedQueue (Option Handle)
  | .reader => channel.readWaiting
  | .writer => channel.writeWaiting

/-- Replaces the waiters of a side. -/
def setWaiting (channel : Channel T) : Side → BoundedQueue (Option Handle) → Channel T
  | .reader, waiting => { channel with readWaiting := waiting }
  | .writer, waiting => { channel with writeWaiting := waiting }

/-- The loop of `awake_reader` and `awake_writer`; every turn pops one entry. -/
def awakeFrom : ℕ → BoundedQueue (Option Handle) → Loop → BoundedQueue (Option Handle) × Loop
  | 0, waiting, loop => (waiting, loop)
  | turns + 1, waiting, loop =>
      if waiting.empty then (waiting, loop)
      else
        match waiting.get with
        -- Skip cancelled coroutines.
        | .ok (none, rest) => awakeFrom turns rest loop
        | .ok (some handle, rest) => (rest, loop.enqueue handle)
        | .error _ => (waiting, loop)

/-- Wakes the first waiter of a side that is still there. -/
def awake (channel : Channel T) (side : Side) (loop : Loop) : Channel T × Loop :=
  let (waiting, loop) :=
    awakeFrom (channel.waiting side).size (channel.waiting side) loop
  (channel.setWaiting side waiting, loop)

/-- Called by `put`. -/
def awakeReader (channel : Channel T) (loop : Loop) : Channel T × Loop :=
  channel.awake .reader loop

/-- Called by `get`. -/
def awakeWriter (channel : Channel T) (loop : Loop) : Channel T × Loop :=
  channel.awake .writer loop

end Channel

namespace ChannelAwaiter

/-- `ChannelAwaiter_::await_suspend`. -/
def awaitSuspend (waiters : BoundedQueue (Option Handle)) (handle : Handle) :
    Except QueueFault (BoundedQueue (Option Handle)) :=
  if !waiters.hasSpace then
    .error (.thrown (.ofStatus UV_EBUSY
      "too many coroutines waiting for reading/writing a channel"))
  else
    waiters.put (some handle)

/-- `ChannelAwaiter_::await_resume`. -/
def awaitResume (queue : BoundedQueue T) : Bool :=
  !queue.empty

/-- `~ChannelAwaiter_`: remove the pending coroutine from the waiter queue. -/
def destroy (waiters : BoundedQueue (Option Handle)) (thisCoro : Handle) :
    BoundedQueue (Option Handle) :=
  waiters.forEach fun handle => if handle = some thisCoro then none else handle

end ChannelAwaiter

namespace Channel

/-- Where a coroutine that uses the channel is. -/
inductive Point (T : Type) where
  /-- In `put(value)`, at `co_await awaiter`. -/
  | putWaiting (value : T)
  /-- In `get()`, at `co_await awaiter`. -/
  | getWaiting
  /-- In `getAll()`, at `co_await awaiter`. -/
  | getAllWaiting
  /-- In `getAll()`, at `co_yield item`; the flag is `suspended_` of its core. -/
  | yielded (item : T) (suspended : Bool)
  /-- At `final_suspend`, with what the coroutine returned or threw. -/
  | finished (outcome : Except QueueFault (Option T))
  /-- A coroutine that does not use this channel. -/
  | other
deriving DecidableEq

/-- The side on which a coroutine waits for the channel. -/
def Point.waitsAt : Point T → Option Side
  | .putWaiting _ => some .writer
  | .getWaiting | .getAllWaiting => some .reader
  | .yielded .. | .finished _ | .other => none

/-- `handle.done()`, which the scheduler asks before it resumes a handle. -/
def Point.isFinished : Point T → Bool
  | .finished _ => true
  | _ => false

/-- A channel together with the loop and the coroutine frames around it. -/
structure State (T : Type) where
  channel : Channel T
  loop : Loop := {}
  /-- The suspension points of the frames that exist. -/
  frame : Handle → Option (Point T) := fun _ => none
  /-- The address of the next frame. -/
  next : Handle := 0
  /-- Every `BOOST_VERIFY` passed so far. -/
  verified : Bool := true
  /-- The values inserted by `put()`, in order. -/
  committed : List T := []
  /-- The values removed by `get()` and `getAll()`, in order. -/
  taken : List T := []

namespace State

variable (state : State T) (handle : Handle)

/-- `coroutine_handle::done()`. -/
def done (handle : Handle) : Bool :=
  (state.frame handle).any Point.isFinished

/-- A coroutine moves to another point. -/
def setFrame (point : Point T) : State T :=
  { state with frame := Function.update state.frame handle (some point) }

/-- `co_return`, or an exception that leaves the coroutine. -/
def finish (outcome : Except QueueFault (Option T)) : State T :=
  state.setFrame handle (.finished outcome)

/-- The waiters of one side change. -/
def setWaiting (side : Side) (waiting : BoundedQueue (Option Handle)) : State T :=
  { state with channel := state.channel.setWaiting side waiting }

/-- `awake_reader`, which enqueues in the loop. -/
def awakeReader : State T :=
  let (channel, loop) := state.channel.awakeReader state.loop
  { state with channel, loop }

/-- `awake_writer`, which enqueues in the loop. -/
def awakeWriter : State T :=
  let (channel, loop) := state.channel.awakeWriter state.loop
  { state with channel, loop }

/-- `co_await awaiter` on a fresh awaiter. If `await_suspend` throws, the exception leaves
the coroutine, and the awaiter, which holds a null handle, removes nothing. -/
def suspend (side : Side) (point : Point T) : State T :=
  match ChannelAwaiter.awaitSuspend (state.channel.waiting side) handle with
  | .ok waiting => (state.setWaiting side waiting).setFrame handle point
  | .error fault => state.finish handle (.error fault)

/-- `~ChannelAwaiter_`: the entry of the coroutine is blanked, not removed. -/
def destroyAwaiter (side : Side) : State T :=
  state.setWaiting side (ChannelAwaiter.destroy (state.channel.waiting side) handle)

/-- `put()` from `queue_.put(...)` on. -/
def insert (value : T) : State T :=
  match state.channel.queue.put value with
  | .ok queue =>
      ({ state with
          channel := { state.channel with queue }
          committed := state.committed ++ [value] } : State T).awakeReader.finish handle (.ok none)
  | .error fault => state.finish handle (.error fault)

/-- `get()` and `getAll()` from `queue_.get()` on: what follows is `point`. -/
def remove (point : T → Point T) : State T :=
  match state.channel.queue.get with
  | .ok (item, queue) =>
      ({ state with
          channel := { state.channel with queue }
          taken := state.taken ++ [item] } : State T).awakeWriter.setFrame handle (point item)
  | .error fault => state.finish handle (.error fault)

/-- `co_return item` of `get()`. -/
def returned (item : T) : Point T :=
  .finished (.ok (some item))

/-- `co_yield item` of `getAll()`; the item waits in the slot, so the generator suspends. -/
def yielding (item : T) : Point T :=
  .yielded item true

/-- `put(value)`, up to its first suspension or its end. -/
def put (value : T) : State T :=
  if !state.channel.queue.hasSpace then
    state.suspend handle .writer (.putWaiting value)
  else
    state.insert handle value

/-- `get()`, up to its first suspension or its end. -/
def get : State T :=
  if state.channel.queue.empty then
    state.suspend handle .reader .getWaiting
  else
    state.remove handle returned

/-- One turn of the loop of `getAll()`. -/
def getAll : State T :=
  if state.channel.queue.empty then
    state.suspend handle .reader .getAllWaiting
  else
    state.remove handle yielding

/-- A `BOOST_VERIFY` or an assertion with this condition. -/
def verify (check : Bool) : State T :=
  { state with verified := state.verified && check }

/-- `put()` after `co_await awaiter`. -/
def putResumed (value : T) : State T :=
  ((state.verify state.channel.queue.hasSpace).destroyAwaiter handle .writer).insert handle value

/-- `get()` and `getAll()` after `co_await awaiter`. -/
def getResumed (point : T → Point T) : State T :=
  ((state.verify (ChannelAwaiter.awaitResume state.channel.queue)).destroyAwaiter handle
    .reader).remove handle point

/-- A coroutine goes on where it was suspended. -/
def resume : State T :=
  match state.frame handle with
  | some (.putWaiting value) => state.putResumed handle value
  | some .getWaiting => state.getResumed handle returned
  | some .getAllWaiting => state.getResumed handle yielding
  | some (.yielded ..) => state.getAll handle
  | some (.finished _) | some .other | none => state

/-- The scheduler resumes the next coroutine, if there is one. -/
def resumeNext : State T :=
  let (next, loop) := state.loop.getNext state.done
  match next with
  | some handle => ({ state with loop } : State T).resume handle
  | none => { state with loop }

/-- Destroy a frame; the awaiter of a suspended coroutine is destroyed with it. -/
def destroy : State T :=
  let state :=
    match (state.frame handle).bind Point.waitsAt with
    | some side => state.destroyAwaiter handle side
    | none => state
  { state with frame := Function.update state.frame handle none }

/-- Drop the promise: `destroyCoroutine`, or `cancelGenerator` for `getAll()`. -/
def drop : State T :=
  if state.done handle then state.destroy handle
  else ({ state with loop := state.loop.cancel handle } : State T).destroy handle

/-- Call a coroutine function: it starts at once, in a new frame. -/
def call (body : State T → Handle → State T) : State T :=
  body { state with next := state.next + 1 } state.next

/-- The initial state around a new channel. -/
def initial (capacity maxWaiters : ℕ) (capacity_lt : capacity < 2 ^ 32)
    (maxWaiters_lt : maxWaiters < 2 ^ 32) : State T where
  channel := .create capacity maxWaiters capacity_lt maxWaiters_lt

end State

/-- What the users of one channel can do next. -/
inductive Action (T : Type) where
  | put (value : T)
  | get
  | getAll
  /-- The consumer of a parked `getAll()` asks for the next item: `resumeGenerator`. -/
  | next (handle : Handle)
  /-- The scheduler resumes the next runnable coroutine. -/
  | resumeNext
  | drop (handle : Handle)
  /-- A coroutine that does not use the channel is created. -/
  | spawnOther
  /-- Something outside the channel enqueues such a coroutine. -/
  | enqueueOther (handle : Handle)
deriving DecidableEq

namespace Action

/-- A generator is asked for the next item while parked; only frames that exist are dropped. -/
def Enabled (state : State T) : Action T → Prop
  | .next handle => ∃ item, state.frame handle = some (.yielded item true)
  | .drop handle => (state.frame handle).isSome
  | .enqueueOther handle => (state.frame handle).any (fun point => point matches .other)
  | .put _ | .get | .getAll | .resumeNext | .spawnOther => True

/-- The state after an action. -/
def perform (state : State T) : Action T → State T
  | .put value => state.call fun state handle => state.put handle value
  | .get => state.call State.get
  | .getAll => state.call State.getAll
  | .next handle =>
      match state.frame handle with
      | some (.yielded item _) =>
          ({ state with loop := state.loop.enqueue handle } : State T).setFrame handle
            (.yielded item false)
      | _ => state
  | .resumeNext => state.resumeNext
  | .drop handle => state.drop handle
  | .spawnOther => state.call fun state handle => state.setFrame handle .other
  | .enqueueOther handle => { state with loop := state.loop.enqueue handle }

instance (state : State T) (action : Action T) : Decidable (action.Enabled state) :=
  match action with
  | .next handle =>
      match shape : state.frame handle with
      | some (.yielded item true) => .isTrue ⟨item, shape⟩
      | some (.yielded _ false) | some (.putWaiting _) | some .getWaiting
      | some .getAllWaiting | some (.finished _) | some .other | none =>
          .isFalse (by rintro ⟨item, same⟩; simp [shape] at same)
  | .drop _ | .enqueueOther _ => inferInstanceAs (Decidable (_ = true))
  | .put _ | .get | .getAll | .resumeNext | .spawnOther => .isTrue trivial

end Action

/-- All programs around one channel. -/
def system (T : Type) : TransitionSystem (State T) (Action T) where
  Initial state := ∃ capacity maxWaiters capacity_lt maxWaiters_lt,
    state = .initial capacity maxWaiters capacity_lt maxWaiters_lt
  Enabled state action := action.Enabled state
  perform state action := action.perform state

instance (state : State T) (action : Action T) :
    Decidable ((system T).Enabled state action) :=
  inferInstanceAs (Decidable (action.Enabled state))

end Channel

end Uvco
