import Uvco.Channel.Basic
import Uvco.Library.Transition
import Uvco.Promise.Member
import Uvco.Runtime
import Uvco.Timer

/-!
# Coroutines that own coroutines

A `Promise` is a local variable, a temporary or a parameter of the frame of another
coroutine, or it is held by an object outside all frames. It can be moved but not
copied, and its destructor destroys the coroutine, whose frame then runs the
destructors of the promises and awaiters in it: dropping a promise cancels a tree
of coroutines.

`World` holds everything such a tree touches: the frames with the cores of their
promises, who holds which promise, the scheduler queue, channels, armed timers and
the call stack. The coroutine on top of the stack takes the next step, whatever its
code is: it may call a coroutine, suspend in `yield()`, in a channel, in `sleep()` or
in `co_await` on a promise that its frame holds, operate on a channel, move and drop
promises, or end. A coroutine can also suspend in an awaiter that is not described
here, for example on a promise that another frame holds; it must not be destroyed
then. Between coroutines, the scheduler resumes the next one and libuv calls back
timers. The body of `sleep()` is split at the creation
of the timer and at its `co_await`, those of the coroutines of a channel at theirs.

Addresses of frames are not reused: a new frame is a new coroutine even when the
allocator places it where an old one was.
-/

namespace Uvco.Cancel

variable {T E : Type}

/-- What a coroutine is suspended in. -/
inductive Awaiter where
  /-- `YieldAwaiter_` in `yield()`. -/
  | yield
  /-- `ChannelAwaiter_` of the waiter queue of a channel. -/
  | channel (channel : ℕ) (side : Side)
  /-- `TimerAwaiter` in `sleep()`. -/
  | sleep
  /-- `PromiseAwaiter_` on the promise of a coroutine. -/
  | promise (producer : Handle)
deriving DecidableEq, Repr

/-- Where a `Promise` object is. -/
inductive Place where
  /-- In an object that is not part of a coroutine frame. -/
  | outside
  /-- In a local variable or a temporary of a coroutine. -/
  | locals (frame : Handle)
  /-- In a parameter of a coroutine, which lives as long as the frame. -/
  | parameters (frame : Handle)
deriving DecidableEq, Repr

/-- The frame that a place belongs to. -/
def Place.frame : Place → Option Handle
  | .outside => none
  | .locals frame | .parameters frame => some frame

/-- A coroutine frame: the core of its promise, and the `TimerAwaiter` that is a local variable of
`sleep()`. The other awaiters are given by where the coroutine is suspended. -/
structure Frame (T E : Type) where
  core : Member T E
  timer : Option TimerAwaiter := none

/-- The coroutines of a program with everything they can wait for. -/
structure World (T E : Type) where
  runtime : Runtime Awaiter := {}
  /-- The coroutines on the call stack, the one that runs first. -/
  stack : List Handle := []
  /-- The frames that exist. -/
  frame : Handle → Option (Frame T E) := fun _ => none
  /-- The promises in each place, in the order of their destruction, named by their coroutines. -/
  held : Place → List Handle := fun _ => []
  channels : ℕ → Channel T
  /-- The frames whose timers are armed in libuv. -/
  armed : List Handle := []
  /-- The address of the next frame. -/
  next : Handle := 0
  /-- The coroutines destroyed so far, in order. -/
  destroyed : List Handle := []

namespace World

variable (world : World T E) (handle : Handle)

/-- The coroutines whose promises the frame of a coroutine holds. -/
def children (parent : Handle) : List Handle :=
  world.held (.locals parent) ++ world.held (.parameters parent)

/-- Does nothing for a frame that is destroyed. -/
def modifyFrame (update : Frame T E → Frame T E) : World T E :=
  { world with frame := Function.update world.frame handle ((world.frame handle).map update) }

/-- The promise of a coroutine changes. -/
def setCore (core : Member T E) : World T E :=
  world.modifyFrame handle fun frame => { frame with core }

/-- The timer awaiter in a frame is made or replaced. -/
def setTimer (timer : TimerAwaiter) : World T E :=
  world.modifyFrame handle fun frame => { frame with timer := some timer }

/-- One waiting queue of a channel changes. -/
def setWaiting (channel : ℕ) (side : Side) (waiting : BoundedQueue (Option Handle)) : World T E :=
  { world with
    channels := Function.update world.channels channel
      ((world.channels channel).setWaiting side waiting) }

/-- `~ChannelAwaiter_`. -/
def destroyChannelAwaiter (channel : ℕ) (side : Side) : World T E :=
  world.setWaiting channel side
    (ChannelAwaiter.destroy ((world.channels channel).waiting side) handle)

/-- The running coroutine leaves the call stack. -/
def leave (status : Status Awaiter) : World T E :=
  { world with
    runtime := world.runtime.setStatus handle status
    stack := world.stack.tail }

/-- A coroutine is resumed, on top of the call stack. -/
def enter : World T E :=
  { world with
    runtime := world.runtime.setStatus handle .running
    stack := handle :: world.stack }

/-- `await_resume` in a coroutine that is resumed, with the destructors of awaiters that are gone
before the coroutine goes on. -/
def awaitResume : Awaiter → World T E
  | .yield => world
  | .channel channel side => world.destroyChannelAwaiter handle channel side
  | .sleep =>
      world.modifyFrame handle fun frame =>
        { frame with timer := frame.timer.map fun timer => timer.awaitResume.2 }
  | .promise producer =>
      world.modifyFrame producer fun frame => { frame with core := frame.core.awaitResume }

/-- The scheduler resumes a coroutine at whatever it waits for. -/
def resume : World T E :=
  match world.runtime.status handle with
  | .waiting awaiter => (world.awaitResume handle awaiter).enter handle
  | .elsewhere => world.enter handle
  | .running | .done => world

/-- Resume the coroutine that the scheduler hands out, if there is one. -/
def resumeNext : World T E :=
  let (next, runtime) := world.runtime.getNext
  match next with
  | some handle => ({ world with runtime } : World T E).resume handle
  | none => { world with runtime }

/-- Where the promise of a called coroutine goes: into a temporary of the caller. -/
def caller : Place :=
  match world.stack with
  | [] => .outside
  | running :: _ => .locals running

/-- A promise is moved out of a place. -/
def take (place : Place) (promise : Handle) : World T E :=
  { world with held := Function.update world.held place ((world.held place).erase promise) }

/-- A promise is moved into a place; what came last is destroyed first. -/
def store (place : Place) (promise : Handle) : World T E :=
  { world with held := Function.update world.held place (promise :: world.held place) }

/-- The core of the promise of a new coroutine. -/
def newCore (void : Bool) : Member T E :=
  if void then .void (({} : VoidCore E).setRunning handle)
  else .typed (({} : PromiseCore T E).setRunning handle)

/-- A new frame, before anything happens in it. -/
def allocate (void : Bool) : World T E :=
  { world with
    frame := Function.update world.frame world.next (some { core := newCore world.next void })
    next := world.next + 1 }

/-- A coroutine function is called: the new coroutine runs at once. -/
def call (void : Bool) : World T E :=
  ((world.allocate void).store world.caller world.next).enter world.next

/-- `YieldAwaiter_::await_suspend`. -/
def yield : World T E :=
  ({ world with runtime := world.runtime.enqueue handle } : World T E).leave handle
    (.waiting .yield)

/-- `co_await` on a new `ChannelAwaiter_`. If `await_suspend` throws, the coroutine goes on with the
exception. -/
def awaitChannel (channel : ℕ) (side : Side) : World T E :=
  match ChannelAwaiter.awaitSuspend ((world.channels channel).waiting side) handle with
  | .ok waiting =>
      (world.setWaiting channel side waiting).leave handle (.waiting (.channel channel side))
  | .error _ => world

/-- `awake_reader` or `awake_writer`, on a channel whose item queue has changed. -/
def awake (channel : ℕ) (changed : Channel T) (side : Side) : World T E :=
  let (changed, loop) := changed.awake side world.runtime.loop
  { world with
    channels := Function.update world.channels channel changed
    runtime := { world.runtime with loop } }

/-- `queue_.put(...)` and `awake_reader()` in `put()`. -/
def put (channel : ℕ) (value : T) : World T E :=
  match (world.channels channel).queue.put value with
  | .ok queue => world.awake channel { world.channels channel with queue } .reader
  | .error _ => world

/-- `queue_.get()` and `awake_writer()` in `get()` and `getAll()`. -/
def get (channel : ℕ) : World T E :=
  match (world.channels channel).queue.get with
  | .ok (_, queue) => world.awake channel { world.channels channel with queue } .writer
  | .error _ => world

/-- `TimerAwaiter awaiter{loop, millis}` in `sleep()`. -/
def startTimer : World T E :=
  let (timer, armed) := TimerAwaiter.create handle world.armed
  ({ world with armed } : World T E).setTimer handle timer

/-- `co_await awaiter` in `sleep()`, unless the timer is due at once. -/
def awaitTimer : World T E :=
  match (world.frame handle).bind Frame.timer with
  | some timer =>
      ((world.setTimer handle (timer.awaitSuspend handle)).leave handle
        (.waiting .sleep)).resumeNext
  | none => world

/-- `co_await promise`. If `await_suspend` throws, the coroutine goes on with the exception. -/
def awaitPromise (producer : Handle) : World T E :=
  match world.frame producer with
  | some frame =>
      if frame.core.awaitReady then world.setCore producer frame.core.awaitResume
      else
        match frame.core.awaitSuspend handle with
        | .ok core =>
            ((world.setCore producer core).leave handle (.waiting (.promise producer))).resumeNext
        | .error _ => world
  | none => world

/-- `onSingleTimerDone`, called by libuv, which has stopped the timer before. -/
def timerDone : World T E :=
  match (world.frame handle).bind Frame.timer with
  | some timer =>
      let (timer, armed, loop) := timer.onSingleTimerDone handle
        (uvTimerStop world.armed handle) world.runtime.loop
      ({ world with
          armed
          runtime := { world.runtime with loop } } : World T E).setTimer handle timer
  | none => world

/-- The destructor of the awaiter that a coroutine is suspended in; most are trivial. -/
def destroyAwaiter : World T E :=
  match world.runtime.status handle with
  | .waiting (.channel channel side) => world.destroyChannelAwaiter handle channel side
  | .waiting .yield | .waiting .sleep | .waiting (.promise _) | .elsewhere | .running | .done =>
      world

/-- The destructor of the `TimerAwaiter` in a frame. -/
def destroyTimer (frame : Frame T E) : World T E :=
  match frame.timer with
  | some timer => { world with armed := timer.destroy handle world.armed }
  | none => world

/-- `coroutine_.destroy()`, apart from the promises in the frame. -/
def destroyFrame (frame : Frame T E) : World T E :=
  let world := (world.destroyAwaiter handle).destroyTimer handle frame
  { world with
    frame := Function.update world.frame handle none
    runtime := world.runtime.setStatus handle .done
    held := fun place => if place.frame = some handle then [] else world.held place
    destroyed := world.destroyed ++ [handle] }

/-- `PromiseCore::destroyCoroutine()`, with the destructors of the promises in the frame. Destroying
a frame that does not exist, that is on the call stack, or that is suspended in an awaiter outside
the model has no result here. The number bounds the depth of the tree. -/
def destroyCoroutine : ℕ → World T E → Handle → Option (World T E)
  | 0, _, _ => none
  | depth + 1, world, handle =>
      match world.frame handle with
      | none => none
      | some frame =>
          if handle ∈ world.stack ∨ world.runtime.status handle = .elsewhere then none
          else
            let promises := world.children handle
            let world :=
              if frame.core.state ≠ .finished then
                { world with runtime := world.runtime.cancel handle }
              else world
            promises.foldlM (destroyCoroutine depth) (world.destroyFrame handle frame)

/-- Promises are destroyed one after the other, each with what its frame holds. -/
def destroyPromises (promises : List Handle) : Option (World T E) :=
  promises.foldlM (destroyCoroutine world.next) world

/-- `~Promise` for a promise in some place. -/
def drop (place : Place) (promise : Handle) : Option (World T E) :=
  (world.take place promise).destroyPromises [promise]

/-- `return_value`, `return_void` or `unhandled_exception`. -/
def resolve (outcome : Outcome T E) : World T E :=
  match world.frame handle with
  | some frame =>
      let (core, loop) := frame.core.resolve world.runtime.loop outcome
      ({ world with runtime := { world.runtime with loop } } : World T E).setCore handle core
  | none => world

/-- The destructors of the local variables of a coroutine, apart from the promises among them. -/
def leaveScope : World T E :=
  match world.frame handle with
  | some frame =>
      ({ world.destroyTimer handle frame with
          held := Function.update world.held (.locals handle) [] } : World T E).modifyFrame handle
        fun frame => { frame with timer := none }
  | none => world

/-- A coroutine ends and stays at `final_suspend`. `co_return` resolves the core before the local
variables are destroyed, an exception first unwinds the stack. -/
def finish (outcome : Outcome T E) : Option (World T E) :=
  let promises := world.held (.locals handle)
  match outcome with
  | .value _ =>
      (((world.resolve handle outcome).leaveScope handle).destroyPromises promises).map
        fun world => world.leave handle .done
  | .exception _ =>
      ((world.leaveScope handle).destroyPromises promises).map
        fun world => (world.resolve handle outcome).leave handle .done

/-- The place belongs to code that runs: to a frame on the call stack, or to no frame. -/
def Accessible (place : Place) : Prop :=
  ∀ frame, place.frame = some frame → frame ∈ world.stack

instance (place : Place) : Decidable (world.Accessible place) :=
  match place with
  | .outside => .isTrue (by simp [Accessible, Place.frame])
  | .locals frame => decidable_of_iff (frame ∈ world.stack) (by simp [Accessible, Place.frame])
  | .parameters frame => decidable_of_iff (frame ∈ world.stack) (by simp [Accessible, Place.frame])

end World

/-- What a running coroutine or the event loop can do next. -/
inductive Action (T E : Type) where
  /-- A coroutine function is called. -/
  | call (void : Bool)
  | yield (handle : Handle)
  | awaitChannel (handle : Handle) (channel : ℕ) (side : Side)
  | put (handle : Handle) (channel : ℕ) (value : T)
  | get (handle : Handle) (channel : ℕ)
  | startTimer (handle : Handle)
  | awaitTimer (handle : Handle)
  | awaitPromise (handle producer : Handle)
  | finish (handle : Handle) (outcome : Outcome T E)
  /-- The running coroutine suspends in an awaiter outside the model. -/
  | suspendElsewhere (handle : Handle)
  /-- A coroutine suspended there is enqueued. -/
  | wakeElsewhere (handle : Handle)
  | move (promise : Handle) (source target : Place)
  | drop (place : Place) (promise : Handle)
  /-- A turn of `Scheduler::runAll`. -/
  | resumeNext
  /-- libuv calls back an armed timer. -/
  | timerDone (handle : Handle)

namespace Action

/-- Only the coroutine on top of the call stack acts. -/
def Enabled (world : World T E) : Action T E → Prop
  | .call _ => True
  | .yield handle | .awaitChannel handle _ _ | .put handle _ _ | .get handle _
  | .suspendElsewhere handle => world.stack.head? = some handle
  | .startTimer handle =>
      world.stack.head? = some handle ∧ (world.frame handle).bind Frame.timer = none
  | .awaitTimer handle =>
      world.stack.head? = some handle ∧ ((world.frame handle).bind Frame.timer).isSome
  | .awaitPromise handle producer =>
      world.stack.head? = some handle ∧ producer ∈ world.children handle
  | .finish handle outcome =>
      world.stack.head? = some handle ∧ (world.finish handle outcome).isSome
  | .wakeElsewhere handle =>
      world.runtime.status handle = .elsewhere ∧ world.runtime.pending handle = 0
  | .move promise source target =>
      promise ∈ world.held source ∧ world.Accessible source ∧ world.Accessible target
  | .drop place promise =>
      promise ∈ world.held place ∧ world.Accessible place ∧ (world.drop place promise).isSome
  | .resumeNext => world.stack = []
  | .timerDone handle => world.stack = [] ∧ handle ∈ world.armed

/-- The world after an action. -/
def perform (world : World T E) : Action T E → World T E
  | .call void => world.call void
  | .yield handle => world.yield handle
  | .awaitChannel handle channel side => world.awaitChannel handle channel side
  | .put _ channel value => world.put channel value
  | .get _ channel => world.get channel
  | .startTimer handle => world.startTimer handle
  | .awaitTimer handle => world.awaitTimer handle
  | .awaitPromise handle producer => world.awaitPromise handle producer
  | .finish handle outcome => (world.finish handle outcome).getD world
  | .suspendElsewhere handle => world.leave handle .elsewhere
  | .wakeElsewhere handle => { world with runtime := world.runtime.enqueue handle }
  | .move promise source target => (world.take source promise).store target promise
  | .drop place promise => (world.drop place promise).getD world
  | .resumeNext => world.resumeNext
  | .timerDone handle => world.timerDone handle

instance (world : World T E) (action : Action T E) : Decidable (action.Enabled world) :=
  match action with
  | .call _ => .isTrue trivial
  | .yield _ | .awaitChannel .. | .put .. | .get .. | .suspendElsewhere _ | .resumeNext =>
      inferInstanceAs (Decidable (_ = _))
  | .startTimer handle =>
      match shape : (world.frame handle).bind Frame.timer with
      | none => decidable_of_iff (world.stack.head? = some handle) (by simp [Enabled, shape])
      | some timer => .isFalse (by simp [Enabled, shape])
  | .awaitTimer _ | .awaitPromise .. | .finish .. | .wakeElsewhere _ | .move .. | .drop ..
  | .timerDone _ => inferInstanceAs (Decidable (_ ∧ _))

end Action

/-- All programs of coroutines around a family of channels. -/
def system (T E : Type) : TransitionSystem (World T E) (Action T E) where
  Initial world := ∃ channels : ℕ → Channel T,
    (∀ channel side, ((channels channel).waiting side).toList = []) ∧ world = { channels }
  Enabled world action := action.Enabled world
  perform world action := action.perform world

instance (world : World T E) (action : Action T E) :
    Decidable ((system T E).Enabled world action) :=
  inferInstanceAs (Decidable (action.Enabled world))

end Uvco.Cancel
