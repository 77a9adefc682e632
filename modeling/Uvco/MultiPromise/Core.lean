import Uvco.Promise.Core

/-!
# Generators and their cores

This file embeds `uvco/promise/multipromise.h`: the core that a generator shares
with its `MultiPromise`, the awaiter that `co_await multiPromise` creates, and
what a generator does when it yields, returns or throws.

`MultiPromiseCore` inherits slot, handles and state from `PromiseCore`, with its
`resume()`, and overrides `setHandle`, which accepts a finished core. The
operations that assert something have a companion `…Asserts` with the condition;
in a release build they go on without it.
-/

namespace Uvco

variable {T E : Type}

/-- `template <typename T> class MultiPromiseCore : public PromiseCore<T>`. -/
structure MultiPromiseCore (T E : Type) extends PromiseCore T E where
  /-- The generator is suspended at a `co_yield` point. -/
  suspended : Bool := false
  /-- The generator has returned, thrown or been cancelled. -/
  terminated : Bool := false
deriving DecidableEq, Repr

namespace MultiPromiseCore

variable (core : MultiPromiseCore T E)

/-- The assertions of `setHandle`. -/
def setHandleAsserts : Bool :=
  core.state != .waitedOn && core.waitingHandle.isNone

/-- `setHandle`, which the awaiter calls. -/
def setHandle (handle : Handle) : MultiPromiseCore T E :=
  { core with waitingHandle := some handle, state := .waitedOn }

/-- The assertions of `resumeGenerator`. -/
def resumeGeneratorAsserts : Bool :=
  core.state != .finished && (!core.suspended || core.coroutine.isSome)

/-- `resumeGenerator`: a generator that is parked at `co_yield` is enqueued. -/
def resumeGenerator (loop : Loop) : MultiPromiseCore T E × Loop :=
  match core.suspended, core.coroutine with
  | true, some coroutine => ({ core with suspended := false }, loop.enqueue coroutine)
  | true, none => ({ core with suspended := false }, loop)
  | false, _ => (core, loop)

/-- The assertion of `suspendGenerator`. -/
def suspendGeneratorAsserts : Bool :=
  !core.suspended

/-- `suspendGenerator`: the generator parks at `co_yield`. -/
def suspendGenerator : MultiPromiseCore T E :=
  { core with suspended := true }

/-- `setTerminated`: the generator has ended. -/
def setTerminated : MultiPromiseCore T E :=
  { core with terminated := true }

/-- `isTerminated`. -/
def isTerminated : Bool :=
  core.terminated

/-- The assertion of `PromiseCore::resume`. -/
def resumeAsserts : Bool :=
  core.waitingHandle.isNone || core.state == .waitedOn

/-- `PromiseCore::resume`. -/
def resume (loop : Loop) : MultiPromiseCore T E × Loop :=
  let (base, loop) := core.toPromiseCore.resume loop
  ({ core with toPromiseCore := base }, loop)

end MultiPromiseCore

/-! `MultiPromise<T>::MultiPromiseAwaiter_`, whose destructor is trivial. The pointer to the core
is null after `cancel()`. -/

namespace MultiPromiseAwaiter

/-- `await_ready`: there is a value, or none will follow. -/
def awaitReady : Option (MultiPromiseCore T E) → Bool
  | none => true
  | some core => core.isTerminated || core.slot.isSome

/-- The assertions of `await_suspend`, and of what it calls. -/
def awaitSuspendAsserts (core : MultiPromiseCore T E) (handle : Handle) : Bool :=
  !core.isAwaited && core.setHandleAsserts && (core.setHandle handle).resumeGeneratorAsserts

/-- `await_suspend` up to `Loop::getNext()`; it is not called on a null core, which is ready. -/
def awaitSuspend (core : MultiPromiseCore T E) (handle : Handle) (loop : Loop) :
    MultiPromiseCore T E × Loop :=
  (core.setHandle handle).resumeGenerator loop

/-- The assertion of `await_resume`: only the end comes with an exception. -/
def awaitResumeAsserts : Option (MultiPromiseCore T E) → Bool
  | none => true
  | some core =>
      match core.slot with
      | some (.exception _) => core.isTerminated
      | some (.value _) | none => true

/-- `await_resume`; an exception stays in the slot. -/
def awaitResume : Option (MultiPromiseCore T E) →
    Obtained (Option T) E × Option (MultiPromiseCore T E)
  | none => (.returned none, none)
  | some core =>
      match core.slot with
      | none => (.returned none, some core)
      | some (.value value) => (.returned (some value), some { core with slot := none })
      | some (.exception exception) => (.rethrown exception, some core)

/-- `~MultiPromiseAwaiter_() = default`. -/
def destroyAwaiter (core : MultiPromiseCore T E) : MultiPromiseCore T E :=
  core

end MultiPromiseAwaiter

/-! `Generator<T>`: what a generator coroutine does with its core. -/

namespace Generator

variable (core : MultiPromiseCore T E) (loop : Loop)

/-- `return_void`: the generator ends, and its consumer is told. -/
def returnVoid : MultiPromiseCore T E × Loop :=
  core.setTerminated.resume loop

/-- `unhandled_exception`: the generator ends with an exception for its consumer. -/
def unhandledException (exception : E) : MultiPromiseCore T E × Loop :=
  ({ core with slot := some (.exception exception) } : MultiPromiseCore T E).setTerminated.resume
    loop

/-- The assertion of `yield_value`: the last value was taken. -/
def yieldValueAsserts : Bool :=
  core.slot.isNone

/-- `yield_value`, up to the `YieldAwaiter_` it returns. -/
def yieldValue (value : T) : MultiPromiseCore T E × Loop :=
  ({ core with slot := some (.value value) } : MultiPromiseCore T E).resume loop

/-- `YieldAwaiter_::await_ready`. -/
def yieldReady : Bool :=
  core.slot.isNone

end Generator

end Uvco
