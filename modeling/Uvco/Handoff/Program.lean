import Uvco.Channel.Basic
import Uvco.Combinators.WaitPoint
import Uvco.Library.SymmetricTransfer
import Uvco.MultiPromise.Core
import Uvco.Promise.Member

/-!
# Programs of coroutines

Coroutines that await promises and generators, operate on channels and wait points, and
call `yield()`. A coroutine starts at once when it is called, on the stack of its caller,
and runs until it suspends; how `await_suspend` ends decides who runs then.

The functions of `uvco/combinators.cc` and `uvco/channel.h` are cut into instructions here.
The functions of the program itself are arbitrary: a `Program` chooses the next instruction
of a coroutine from everything that there is in memory. What it cannot see is the scheduler.

The instruction `drop` destroys a single frame; the promises in that frame are dropped by
instructions of their own, which nobody can interrupt. Addresses of frames are not reused.
-/

namespace Uvco.Handoff

variable {T E D : Type}

/-- What a coroutine is suspended in. -/
inductive Awaiter where
  /-- `Promise<T>::PromiseAwaiter_`, for the promise of a coroutine. -/
  | promise (producer : Handle)
  /-- `MultiPromise<T>::MultiPromiseAwaiter_`, for a generator. -/
  | multiPromise (generator : Handle)
  /-- `Channel<T>::ChannelAwaiter_`. -/
  | channel (channel : ℕ) (side : Side)
  /-- `WaitPoint::WaitPointAwaiter_`. -/
  | waitPoint (waitPoint : ℕ)
  /-- The `YieldAwaiter_` of `yield()`. -/
  | yield
  /-- `Generator<T>::YieldAwaiter_`. -/
  | coYield
deriving DecidableEq, Repr

/-- `await_suspend` returns `Loop::getNext()`. That of the other awaiters returns true. -/
def Awaiter.callsGetNext : Awaiter → Bool
  | .promise _ | .multiPromise _ | .waitPoint _ => true
  | .channel .. | .yield | .coYield => false

/-- The return type of a coroutine function. -/
inductive Kind where
  /-- `Promise<T>`. -/
  | promise
  /-- `Promise<void>`. -/
  | voidPromise
  /-- `MultiPromise<T>`. -/
  | multiPromise
deriving DecidableEq, Repr

/-- The coroutine functions that can be called. -/
inductive Routine (T : Type) where
  | yield
  /-- `WaitPoint::wait()`. -/
  | wait (waitPoint : ℕ)
  /-- `Channel<T>::put()`. -/
  | put (channel : ℕ) (value : T)
  /-- `Channel<T>::get()`. -/
  | get (channel : ℕ)
  /-- `Channel<T>::getAll()`. -/
  | getAll (channel : ℕ)
  /-- A function of the program. -/
  | user (function : ℕ) (kind : Kind)
deriving DecidableEq, Repr

/-- What the function returns. -/
def Routine.kind : Routine T → Kind
  | .yield | .wait _ | .put .. => .voidPromise
  | .get _ => .promise
  | .getAll _ => .multiPromise
  | .user _ kind => kind

/-- The core in the frame of a coroutine. -/
inductive Core (T E : Type) where
  | promise (core : Member T E)
  | multiPromise (core : MultiPromiseCore T E)

namespace Core

/-- `initial_suspend`. -/
def create (handle : Handle) : Kind → Core T E
  | .promise => .promise (.typed (({} : PromiseCore T E).setRunning handle))
  | .voidPromise => .promise (.void (({} : VoidCore E).setRunning handle))
  | .multiPromise =>
      .multiPromise { toPromiseCore := ({} : PromiseCore T E).setRunning handle }

/-- `return_value` or `return_void`. Nothing is defined for a `Promise<T>` without a value. -/
def coReturn (loop : Loop) (value : Option T) : Core T E → Core T E × Loop
  | .promise (.typed core) =>
      match value with
      | some value =>
          let (core, loop) := Coroutine.returnValue core loop value
          (.promise (.typed core), loop)
      | none => (.promise (.typed core), loop)
  | .promise (.void core) =>
      let (core, loop) := VoidCoroutine.returnVoid core loop
      (.promise (.void core), loop)
  | .multiPromise core =>
      let (core, loop) := Generator.returnVoid core loop
      (.multiPromise core, loop)

/-- `unhandledException` of the core, whichever kind it is. -/
def unhandledException (loop : Loop) (exception : E) : Core T E → Core T E × Loop
  | .promise (.typed core) =>
      let (core, loop) := Coroutine.unhandledException core loop exception
      (.promise (.typed core), loop)
  | .promise (.void core) =>
      let (core, loop) := VoidCoroutine.unhandledException core loop exception
      (.promise (.void core), loop)
  | .multiPromise core =>
      let (core, loop) := Generator.unhandledException core loop exception
      (.multiPromise core, loop)

/-- `destroyCoroutine` and `cancelGenerator` call `Loop::cancel`. -/
def cancels : Core T E → Bool
  | .promise core => core.state ≠ .finished
  | .multiPromise core => core.coroutine.isSome

end Core

/-- What the last instruction has given to the coroutine that executed it. -/
inductive Result (T E : Type) where
  /-- The coroutine has just started. -/
  | started
  | done
  /-- The promise that a coroutine function has returned. -/
  | promise (coroutine : Handle)
  /-- What `co_await` or `unwrap()` evaluates to. -/
  | obtained (obtained : Obtained (Option T) E)
  /-- What `ChannelAwaiter_::await_resume` returns. -/
  | notEmpty (notEmpty : Bool)
  /-- The value that `queue_.get()` returns. -/
  | item (value : T)
  /-- An exception that a channel throws. -/
  | fault (fault : QueueFault)
deriving DecidableEq, Repr

/-- The frame of a coroutine, with what its last operation has told it. -/
structure Frame (T E : Type) where
  routine : Routine T
  core : Core T E
  awaiter : Option Awaiter := none
  result : Result T E := .started

/-- Everything but the scheduler and the call stack. -/
structure Memory (T E D : Type) where
  /-- The frames that exist. -/
  frame : Handle → Option (Frame T E) := fun _ => none
  /-- The coroutines that have reached `final_suspend`. -/
  finished : Handle → Bool := fun _ => false
  /-- The address of the next frame. -/
  next : Handle := 0
  channels : ℕ → Channel T
  waitPoints : ℕ → WaitPoint := fun _ => {}
  /-- The variables of the program. -/
  data : D

/-- What a coroutine does at a time. -/
inductive Instruction (T E D : Type) where
  /-- Anything that involves variables of the program only. -/
  | compute (update : D → D)
  | call (routine : Routine T)
  /-- `co_await promise`. -/
  | awaitPromise (producer : Handle)
  /-- `co_await multiPromise`; there is no generator after `cancel()`. -/
  | awaitMultiPromise (generator : Option Handle)
  /-- `co_await` on a `ChannelAwaiter_`. -/
  | awaitChannel (channel : ℕ) (side : Side)
  /-- `co_await WaitPointAwaiter_{*this}`. -/
  | awaitWaitPoint (waitPoint : ℕ)
  /-- `co_await YieldAwaiter_{}`. -/
  | awaitYield
  /-- `queue_.put(...)` and `awake_reader()`. -/
  | put (channel : ℕ) (value : T)
  /-- `queue_.get()` and `awake_writer()`. -/
  | get (channel : ℕ)
  | releaseOne (waitPoint : ℕ)
  | releaseAll (waitPoint : ℕ)
  | unwrap (producer : Handle)
  | coYield (value : T)
  /-- A `Promise` or `MultiPromise` is destroyed. -/
  | drop (coroutine : Handle)
  | coReturn (value : Option T)
  /-- An exception leaves the coroutine. -/
  | throw (exception : E)

/-- The functions of a program, and how they see the exceptions of channels. -/
structure Program (T E D : Type) where
  /-- The next instruction of a coroutine that runs a function of the program. -/
  code : ℕ → Memory T E D → Handle → Instruction T E D
  /-- `std::current_exception()` while an exception of a channel is handled. -/
  currentException : QueueFault → E

/-- `co_await YieldAwaiter_{}` or `co_await WaitPointAwaiter_{*this}`, and the end. -/
def awaitOnce (result : Result T E) (await : Instruction T E D) : Instruction T E D :=
  match result with
  | .started => await
  | _ => .coReturn none

/-- The next instruction of a coroutine. An assertion that fails is not noticed. -/
def Program.instruction (program : Program T E D) (memory : Memory T E D) (handle : Handle)
    (frame : Frame T E) : Instruction T E D :=
  match frame.routine with
  | .user function _ => program.code function memory handle
  | .yield => awaitOnce frame.result .awaitYield
  | .wait waitPoint => awaitOnce frame.result (.awaitWaitPoint waitPoint)
  | .put channel value =>
      match frame.result with
      | .started =>
          if !(memory.channels channel).queue.hasSpace then .awaitChannel channel .writer
          else .put channel value
      | .notEmpty _ => .put channel value
      | .fault fault => .throw (program.currentException fault)
      | .done | .promise _ | .obtained _ | .item _ => .coReturn none
  | .get channel =>
      match frame.result with
      | .started =>
          if (memory.channels channel).queue.empty then .awaitChannel channel .reader
          else .get channel
      | .notEmpty _ => .get channel
      | .item value => .coReturn (some value)
      | .fault fault => .throw (program.currentException fault)
      | .done | .promise _ | .obtained _ => .coReturn none
  | .getAll channel =>
      match frame.result with
      -- A turn of the loop starts, for the first time or after `co_yield`.
      | .started | .done =>
          if (memory.channels channel).queue.empty then .awaitChannel channel .reader
          else .get channel
      | .notEmpty _ => .get channel
      | .item value => .coYield value
      | .fault fault => .throw (program.currentException fault)
      | .promise _ | .obtained _ => .coReturn none

/-- The loop of `WaitPoint::releaseAll`; every turn releases one waiter. -/
def releaseFrom : ℕ → WaitPoint → Loop → WaitPoint × Loop
  | 0, waitPoint, loop => (waitPoint, loop)
  | turns + 1, waitPoint, loop =>
      if waitPoint.waiters.isEmpty then (waitPoint, loop)
      else
        let (waitPoint, loop) := waitPoint.releaseOne loop
        releaseFrom turns waitPoint loop

/-- `WaitPoint::releaseAll`. -/
def releaseAll (waitPoint : WaitPoint) (loop : Loop) : WaitPoint × Loop :=
  releaseFrom waitPoint.waiters.length waitPoint loop

/-- Changes a value that was obtained, and no exception. -/
def mapObtained {A B : Type} (f : A → B) : Obtained A E → Obtained B E
  | .returned value => .returned (f value)
  | .rethrown exception => .rethrown exception
  | .thrown exception => .thrown exception

/-- What `PromiseAwaiter_::await_resume` returns or throws; a `Promise<void>` has no value. -/
def obtainedFrom : Member T E → Obtained (Option T) E
  | .typed core => mapObtained some (PromiseAwaiter.awaitResume core).1
  | .void core => mapObtained (fun _ => none) (VoidAwaiter.awaitResume core).1

namespace Memory

variable (memory : Memory T E D) (handle : Handle)

/-- The core of a coroutine whose frame exists. -/
def core : Option (Core T E) :=
  (memory.frame handle).map Frame.core

/-- Does nothing for a frame that is destroyed. -/
def modifyFrame (update : Frame T E → Frame T E) : Memory T E D :=
  { memory with frame := Function.update memory.frame handle ((memory.frame handle).map update) }

/-- The promise of a coroutine changes. -/
def setCore (core : Core T E) : Memory T E D :=
  memory.modifyFrame handle fun frame => { frame with core }

/-- What the coroutine finds when it goes on. -/
def setResult (result : Result T E) : Memory T E D :=
  memory.modifyFrame handle fun frame => { frame with result }

/-- One channel changes. -/
def setChannel (channel : ℕ) (changed : Channel T) : Memory T E D :=
  { memory with channels := Function.update memory.channels channel changed }

/-- One wait point changes. -/
def setWaitPoint (waitPoint : ℕ) (changed : WaitPoint) : Memory T E D :=
  { memory with waitPoints := Function.update memory.waitPoints waitPoint changed }

/-- The coroutine goes on. -/
def proceed (result : Result T E) : Memory T E D × Control Handle :=
  (memory.setResult handle result, .proceed)

/-- `await_suspend` has succeeded. -/
def suspendIn (awaiter : Awaiter) : Memory T E D × Control Handle :=
  (memory.modifyFrame handle fun frame => { frame with awaiter := some awaiter },
    .suspend awaiter.callsGetNext)

/-- The coroutine has left its awaiter. -/
def resumed (result : Result T E) : Memory T E D :=
  memory.modifyFrame handle fun frame => { frame with awaiter := none, result }

/-- `~ChannelAwaiter_`. -/
def destroyChannelAwaiter (channel : ℕ) (side : Side) : Memory T E D :=
  let found := memory.channels channel
  memory.setChannel channel
    (found.setWaiting side (ChannelAwaiter.destroy (found.waiting side) handle))

/-- `await_resume`, and the destructor of the awaiter. A promise must exist as long as it is
awaited. -/
def awaitResume : Awaiter → Memory T E D
  | .promise producer =>
      match memory.core producer with
      | some (.promise core) =>
          (memory.setCore producer (.promise core.awaitResume)).resumed handle
            (.obtained (obtainedFrom core))
      | some (.multiPromise _) | none => memory.resumed handle .done
  | .multiPromise generator =>
      match memory.core generator with
      | some (.multiPromise core) =>
          let (obtained, rest) := MultiPromiseAwaiter.awaitResume (some core)
          (memory.setCore generator (.multiPromise (rest.getD core))).resumed handle
            (.obtained obtained)
      | some (.promise _) | none => memory.resumed handle .done
  | .channel channel side =>
      (memory.destroyChannelAwaiter handle channel side).resumed handle
        (.notEmpty (ChannelAwaiter.awaitResume (memory.channels channel).queue))
  | .waitPoint _ | .yield | .coYield => memory.resumed handle .done

/-- A coroutine function is called: a new frame, and its promise for the caller. -/
def call (routine : Routine T) : Memory T E D × Control Handle :=
  let callee := memory.next
  let frame : Frame T E := { routine, core := .create callee routine.kind }
  (({ memory with
      frame := Function.update memory.frame callee (some frame)
      next := callee + 1 } : Memory T E D).setResult handle (.promise callee), .call callee)

/-- `co_await promise`; a promise that is awaited already throws. -/
def awaitPromise (producer : Handle) : Memory T E D × Control Handle :=
  match memory.core producer with
  | some (.promise core) =>
      if core.awaitReady then (memory.awaitResume handle (.promise producer), .proceed)
      else
        match core.awaitSuspend handle with
        | .ok core =>
            (memory.setCore producer (.promise core)).suspendIn handle (.promise producer)
        | .error exception => memory.proceed handle (.obtained (.thrown exception))
  | some (.multiPromise _) | none => memory.proceed handle .done

/-- `co_await multiPromise`, of a `MultiPromise` with or without a core. -/
def awaitMultiPromise (loop : Loop) :
    Option Handle → (Memory T E D × Control Handle) × Loop
  | none => (memory.proceed handle (.obtained (MultiPromiseAwaiter.awaitResume (T := T) none).1),
      loop)
  | some generator =>
      match memory.core generator with
      | some (.multiPromise core) =>
          if MultiPromiseAwaiter.awaitReady (some core) then
            ((memory.awaitResume handle (.multiPromise generator), .proceed), loop)
          else
            let (core, loop) := MultiPromiseAwaiter.awaitSuspend core handle loop
            ((memory.setCore generator (.multiPromise core)).suspendIn handle
              (.multiPromise generator), loop)
      | some (.promise _) | none => (memory.proceed handle .done, loop)

/-- `co_await` on the awaiter of one side of a channel; too many waiters throw. -/
def awaitChannel (channel : ℕ) (side : Side) : Memory T E D × Control Handle :=
  let found := memory.channels channel
  match ChannelAwaiter.awaitSuspend (found.waiting side) handle with
  | .ok waiting =>
      (memory.setChannel channel (found.setWaiting side waiting)).suspendIn handle
        (.channel channel side)
  | .error fault => memory.proceed handle (.fault fault)

/-- The element is stored and a reader is woken, or `put` throws. -/
def put (loop : Loop) (channel : ℕ) (value : T) : (Memory T E D × Control Handle) × Loop :=
  let found := memory.channels channel
  match found.queue.put value with
  | .ok queue =>
      let (changed, loop) := Channel.awakeReader { found with queue } loop
      ((memory.setChannel channel changed).proceed handle .done, loop)
  | .error fault => (memory.proceed handle (.fault fault), loop)

/-- The element is taken and a writer is woken, or `get` throws. -/
def get (loop : Loop) (channel : ℕ) : (Memory T E D × Control Handle) × Loop :=
  let found := memory.channels channel
  match found.queue.get with
  | .ok (value, queue) =>
      let (changed, loop) := Channel.awakeWriter { found with queue } loop
      ((memory.setChannel channel changed).proceed handle (.item value), loop)
  | .error fault => (memory.proceed handle (.fault fault), loop)

/-- `releaseOne()` or `releaseAll()` of a wait point. -/
def release (loop : Loop) (waitPoint : ℕ) (operation : WaitPoint → Loop → WaitPoint × Loop) :
    (Memory T E D × Control Handle) × Loop :=
  let (changed, loop) := operation (memory.waitPoints waitPoint) loop
  ((memory.setWaitPoint waitPoint changed).proceed handle .done, loop)

/-- `unwrap()`, without waiting. -/
def unwrap (producer : Handle) : Memory T E D × Control Handle :=
  match memory.core producer with
  | some (.promise core) =>
      let (obtained, core) := core.unwrap
      (memory.setCore producer (.promise core)).proceed handle (.obtained obtained)
  | some (.multiPromise _) | none => memory.proceed handle .done

/-- `co_await yield_value(value)`. -/
def coYield (loop : Loop) (value : T) : (Memory T E D × Control Handle) × Loop :=
  match memory.core handle with
  | some (.multiPromise core) =>
      let (core, loop) := Generator.yieldValue core loop value
      if Generator.yieldReady core then
        ((memory.setCore handle (.multiPromise core)).proceed handle .done, loop)
      else
        ((memory.setCore handle (.multiPromise core.suspendGenerator)).suspendIn handle .coYield,
          loop)
  | some (.promise _) | none => (memory.proceed handle .done, loop)

/-- `coroutine.destroy()`. Of the awaiters, only `ChannelAwaiter_` has a destructor. -/
def destroyFrame (frame : Frame T E) : Memory T E D :=
  let memory :=
    match frame.awaiter with
    | some (.channel channel side) => memory.destroyChannelAwaiter handle channel side
    | some (.promise _) | some (.multiPromise _) | some (.waitPoint _) | some .yield
    | some .coYield | none => memory
  { memory with frame := Function.update memory.frame handle none }

/-- A promise is dropped: its coroutine is cancelled in the loop and its frame destroyed. -/
def drop (loop : Loop) (coroutine : Handle) : (Memory T E D × Control Handle) × Loop :=
  match memory.frame coroutine with
  | some frame =>
      let loop := if frame.core.cancels then loop.cancel coroutine else loop
      ((memory.destroyFrame coroutine frame).proceed handle .done, loop)
  | none => (memory.proceed handle .done, loop)

/-- A coroutine resolves its core and stays at `final_suspend`. -/
def finish (loop : Loop) (resolve : Loop → Core T E → Core T E × Loop) :
    (Memory T E D × Control Handle) × Loop :=
  let ended : Memory T E D :=
    { memory with finished := Function.update memory.finished handle true }
  match memory.core handle with
  | some core =>
      let (core, loop) := resolve loop core
      ((ended.setCore handle core, .finish), loop)
  | none => ((ended, .finish), loop)

/-- What an instruction does to the memory and the loop, and who runs next. -/
def perform (loop : Loop) : Instruction T E D → (Memory T E D × Control Handle) × Loop
  | .compute update =>
      (({ memory with data := update memory.data } : Memory T E D).proceed handle .done, loop)
  | .call routine => (memory.call handle routine, loop)
  | .awaitPromise producer => (memory.awaitPromise handle producer, loop)
  | .awaitMultiPromise generator => memory.awaitMultiPromise handle loop generator
  | .awaitChannel channel side => (memory.awaitChannel handle channel side, loop)
  | .awaitWaitPoint waitPoint =>
      ((memory.setWaitPoint waitPoint ((memory.waitPoints waitPoint).enqueue handle)).suspendIn
        handle (.waitPoint waitPoint), loop)
  | .awaitYield => (memory.suspendIn handle .yield, loop.enqueue handle)
  | .put channel value => memory.put handle loop channel value
  | .get channel => memory.get handle loop channel
  | .releaseOne waitPoint => memory.release handle loop waitPoint WaitPoint.releaseOne
  | .releaseAll waitPoint => memory.release handle loop waitPoint releaseAll
  | .unwrap producer => (memory.unwrap handle producer, loop)
  | .coYield value => memory.coYield handle loop value
  | .drop coroutine => memory.drop handle loop coroutine
  | .coReturn value => memory.finish handle loop fun loop core => core.coReturn loop value
  | .throw exception =>
      memory.finish handle loop fun loop core => core.unhandledException loop exception

/-- The next step of a coroutine: it leaves the awaiter that it was suspended in, or executes an
instruction. A frame that is gone must not be resumed; here, nothing happens then. -/
def execute (program : Program T E D) (loop : Loop) : (Memory T E D × Control Handle) × Loop :=
  match memory.frame handle with
  | none => ((memory, .finish), loop)
  | some frame =>
      match frame.awaiter with
      | some awaiter => ((memory.awaitResume handle awaiter, .proceed), loop)
      | none => memory.perform handle loop (program.instruction memory handle frame)

end Memory

end Uvco.Handoff
