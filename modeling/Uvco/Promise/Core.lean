import Uvco.Exception
import Uvco.Loop

/-!
# Promises and their cores

This file embeds `uvco/promise/promise_core.{h,cc}` and `uvco/promise/promise.{h,cc}`:
the core that a coroutine shares with its `Promise`, the awaiter that
`co_await promise` creates, and the end of a coroutine.

`Promise<void>` is a specialization with a core of its own, and its operations
differ in detail: it keeps an exception after rethrowing it, and its
`resetHandle` clears the waiting handle in every state.

The type `E` stands for `std::exception_ptr`. Assertions are compiled out, so an
operation goes on after a failed `BOOST_ASSERT`; the preconditions that matter
are proved where the operations are used.
-/

namespace Uvco

variable {T E : Type}

/-- `enum class PromiseState`. -/
inductive PromiseState where
  /-- Nobody has started to await the promise. -/
  | init
  /-- A coroutine is suspended until the promise is ready. -/
  | waitedOn
  /-- The coroutine has returned or thrown. -/
  | finished
deriving DecidableEq, Repr

/-- `std::variant<T, std::exception_ptr>`: how a coroutine ended. -/
inductive Outcome (T E : Type) where
  | value (value : T)
  | exception (exception : E)
deriving DecidableEq, Repr

/-- What a `co_await` expression evaluates to. -/
inductive Obtained (T E : Type) where
  | returned (value : T)
  /-- The exception that the producer ended with. -/
  | rethrown (exception : E)
  /-- An exception of the promise machinery. -/
  | thrown (exception : UvcoException)
deriving DecidableEq, Repr

/-- What a waiter gets that takes this result. -/
def Outcome.obtained : Outcome T E → Obtained T E
  | .value result => .returned result
  | .exception thrown => .rethrown thrown

/-- The exception of `PromiseCore::setHandle`. -/
def alreadyAwaited : UvcoException :=
  .ofMessage "PromiseCore is already awaited or has finished"

/-- `template <typename T> class PromiseCore`. -/
structure PromiseCore (T E : Type) where
  slot : Option (Outcome T E) := none
  coroutine : Option Handle := none
  waitingHandle : Option Handle := none
  state : PromiseState := .init
deriving DecidableEq, Repr

namespace PromiseCore

variable (core : PromiseCore T E)

/-- `setHandle`, which throws unless nobody has awaited the promise yet. -/
def setHandle (handle : Handle) : Except UvcoException (PromiseCore T E) :=
  if core.state ≠ .init then .error alreadyAwaited
  else .ok { core with waitingHandle := some handle, state := .waitedOn }

/-- `setRunning`: the core learns of its coroutine. -/
def setRunning (handle : Handle) : PromiseCore T E :=
  { core with coroutine := some handle }

/-- `resetHandle`, with which a waiter withdraws. -/
def resetHandle : PromiseCore T E :=
  if core.state = .waitedOn then { core with waitingHandle := none, state := .init } else core

/-- `isAwaited`. -/
def isAwaited : Bool :=
  core.waitingHandle.isSome

/-- `ready`: there is a result to be taken. -/
def ready : Bool :=
  core.slot.isSome

/-- `stale`: the result was taken. -/
def stale : Bool :=
  core.state == .finished && !core.ready

/-- `resume`: the coroutine has ended, and a waiter is enqueued. -/
def resume (loop : Loop) : PromiseCore T E × Loop :=
  match core.waitingHandle with
  | some waiting =>
      ({ core with waitingHandle := none, state := .finished }, loop.enqueue waiting)
  | none => ({ core with state := .finished }, loop)

/-- `except`. -/
def except (exception : E) : PromiseCore T E :=
  { core with slot := some (.exception exception) }

end PromiseCore

/-! `Promise<T>::PromiseAwaiter_`, whose destructor is trivial. -/

namespace PromiseAwaiter

variable (core : PromiseCore T E)

/-- `await_ready`. -/
def awaitReady : Bool :=
  core.ready && !core.stale

/-- `await_suspend` up to `Loop::getNext()`. -/
def awaitSuspend (handle : Handle) : Except UvcoException (PromiseCore T E) :=
  core.setHandle handle

/-- `await_resume`, which takes the result or throws. -/
def awaitResume : Obtained T E × PromiseCore T E :=
  if core.stale then
    (.thrown (.ofMessage "co_await called on previously finished promise (T)"), core)
  else
    match core.slot with
    | some (.value value) => (.returned value, { core with slot := none })
    | some (.exception exception) => (.rethrown exception, { core with slot := none })
    | none => (.thrown (.ofMessage "await_resume called on unfulfilled promise (bug?)"), core)

end PromiseAwaiter

/-- `Promise<T>::unwrap`. A value is moved out of the slot, an exception stays there. -/
def PromiseCore.unwrap (core : PromiseCore T E) : Obtained T E × PromiseCore T E :=
  match core.slot with
  | some (.value value) => (.returned value, { core with slot := none })
  | some (.exception exception) => (.rethrown exception, core)
  | none => (.thrown (.ofMessage "unwrap called on unfulfilled promise"), core)

/-! `Coroutine<T>`: how a coroutine ends. -/

namespace Coroutine

variable (core : PromiseCore T E) (loop : Loop)

/-- `return_value`; an exception that is there already stays. -/
def returnValue (value : T) : PromiseCore T E × Loop :=
  match core.slot with
  -- Probably cancelled.
  | some (.exception _) => (core, loop)
  | some (.value _) | none =>
      ({ core with slot := some (.value value) } : PromiseCore T E).resume loop

/-- `unhandled_exception`. -/
def unhandledException (exception : E) : PromiseCore T E × Loop :=
  (core.except exception).resume loop

/-- `co_return`, or an exception that escapes. -/
def complete : Outcome T E → PromiseCore T E × Loop
  | .value value => returnValue core loop value
  | .exception exception => unhandledException core loop exception

end Coroutine

/-! ## Promises without a value -/

/-- `template <> class PromiseCore<void>`. -/
structure VoidCore (E : Type) where
  /-- `ready_`. -/
  isReady : Bool := false
  exception : Option E := none
  coroutine : Option Handle := none
  waitingHandle : Option Handle := none
  state : PromiseState := .init
deriving DecidableEq, Repr

namespace VoidCore

variable (core : VoidCore E)

/-- `setHandle`, which throws unless nobody has awaited the promise yet. -/
def setHandle (handle : Handle) : Except UvcoException (VoidCore E) :=
  if core.state ≠ .init then .error alreadyAwaited
  else .ok { core with waitingHandle := some handle, state := .waitedOn }

/-- `setRunning`: the core learns of its coroutine. -/
def setRunning (handle : Handle) : VoidCore E :=
  { core with coroutine := some handle }

/-- `resetHandle`; unlike that of `PromiseCore<T>`, it always forgets the waiter. -/
def resetHandle : VoidCore E :=
  let core := { core with waitingHandle := none }
  if core.state = .waitedOn then { core with state := .init } else core

/-- `isAwaited`. -/
def isAwaited : Bool :=
  core.waitingHandle.isSome

/-- `ready`: the coroutine has ended, and this was not taken, or by an exception. -/
def ready : Bool :=
  core.exception.isSome || core.isReady

/-- `stale`: the end was taken. -/
def stale : Bool :=
  core.state == .finished && !core.ready

/-- `resume`: the coroutine has ended, and a waiter is enqueued. -/
def resume (loop : Loop) : VoidCore E × Loop :=
  match core.waitingHandle with
  | some waiting =>
      ({ core with waitingHandle := none, state := .finished }, loop.enqueue waiting)
  | none => ({ core with state := .finished }, loop)

/-- `except`. -/
def except (exception : E) : VoidCore E :=
  { core with exception := some exception, isReady := true }

end VoidCore

/-! `Promise<void>::PromiseAwaiter_`, whose destructor is trivial. -/

namespace VoidAwaiter

variable (core : VoidCore E)

/-- `await_ready`. -/
def awaitReady : Bool :=
  core.isReady || core.exception.isSome

/-- `await_suspend` up to `Loop::getNext()`. -/
def awaitSuspend (handle : Handle) : Except UvcoException (VoidCore E) :=
  core.setHandle handle

/-- `await_resume`; an exception stays, and is thrown again. -/
def awaitResume : Obtained Unit E × VoidCore E :=
  if core.stale then
    (.thrown (.ofMessage "co_await called on previously finished promise (void)"), core)
  else
    match core.exception with
    | some exception => (.rethrown exception, core)
    | none => (.returned (), { core with isReady := false })

end VoidAwaiter

/-- `Promise<void>::unwrap`, which leaves the core as it is. -/
def VoidCore.unwrap (core : VoidCore E) : Obtained Unit E :=
  if core.isReady then
    match core.exception with
    | some exception => .rethrown exception
    | none => .returned ()
  else
    .thrown (.ofStatus UV_EAGAIN "unwrap called on unfulfilled promise")

/-! `Coroutine<void>`: how a coroutine ends. -/

namespace VoidCoroutine

variable (core : VoidCore E) (loop : Loop)

/-- `return_void`. -/
def returnVoid : VoidCore E × Loop :=
  ({ core with isReady := true } : VoidCore E).resume loop

/-- `unhandled_exception`. -/
def unhandledException (exception : E) : VoidCore E × Loop :=
  (core.except exception).resume loop

end VoidCoroutine

end Uvco
