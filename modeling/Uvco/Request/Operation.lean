import Uvco.Exception
import Uvco.Library.Transition
import Uvco.Runtime

/-!
# Operations that hand a request to libuv

A coroutine of such an operation prepares a request object, starts the request,
and suspends in an awaiter. The data pointer of the request leads the callback
back to the awaiter, and a handle in the awaiter leads it to the coroutine. This
file embeds what these operations have in common, for any number of operations
of one kind at a time; a `Protocol` says how the kind differs from the others.

An operation is a coroutine of its own, which identifies it. The request may
outlive the awaiter, and the awaiter the request: who frees the request is
decided by the data pointer, by the handle, or by both.
-/

namespace Uvco.Request

/-- What libuv does with a request. -/
inductive Phase where
  /-- It was not started, or the call that starts it has failed. -/
  | idle
  | queued
  /-- A thread of the pool works on it. -/
  | running
  /-- `uv_cancel` has succeeded. -/
  | cancelled
  /-- The callback was called with this status. -/
  | done (status : Int)
deriving DecidableEq, Repr

/-- libuv owns the request, and will call the callback. -/
def Phase.InFlight : Phase → Prop
  | .queued | .running | .cancelled => True
  | .idle | .done _ => False

/-- libuv has called the callback. -/
def Phase.isDone : Phase → Bool
  | .done _ => true
  | .idle | .queued | .running | .cancelled => false

instance : DecidablePred Phase.InFlight := fun phase =>
  match phase with
  | .queued | .running | .cancelled => isTrue trivial
  | .idle | .done _ => isFalse not_false

theorem Phase.inFlight_of_owned {phase : Phase} (owned : phase = .queued ∨ phase = .running) :
    phase.InFlight := by
  rcases owned with rfl | rfl
  · trivial
  · trivial

/-- A request object. -/
structure Object where
  phase : Phase := .idle
  /-- The data pointer leads to the awaiter; otherwise it is null. -/
  data : Bool := false
  freed : ℕ := 0
  /-- How often `uv_fs_req_cleanup` was called. -/
  cleaned : ℕ := 0
  /-- The object was used after it had been freed. -/
  misused : Bool := false
deriving DecidableEq, Repr

namespace Object

variable (object : Object)

/-- The object is used, which it must not be once it is freed. -/
def access : Object :=
  { object with misused := object.misused || decide (0 < object.freed) }

/-- `setRequestData`. -/
def setRequestData : Object :=
  { object.access with data := true }

/-- `resetRequestData`. -/
def resetRequestData : Object :=
  { object.access with data := false }

/-- `delete`, or the end of the scope of a local variable. -/
def free : Object :=
  { object.access with freed := object.freed + 1 }

/-- `uv_fs_req_cleanup`. -/
def cleanup : Object :=
  { object.access with cleaned := object.cleaned + 1 }

/-- `uv_cancel`. It fails if a thread works on the request, or has done so. -/
def cancel : Object :=
  match object.phase with
  | .queued => { object.access with phase := .cancelled }
  | .idle | .running | .cancelled | .done _ => object.access

/-- libuv uses the request, and goes on to another phase. -/
def proceed (phase : Phase) : Object :=
  { object.access with phase }

end Object

/-- The local variables of a coroutine that the callback uses. -/
structure Awaiter where
  handle : Option Handle := none
  status : Option Int := none
deriving DecidableEq, Repr

/-- How an operation ends for its coroutine. -/
inductive Outcome where
  | returned
  | threw (exception : UvcoException)
deriving DecidableEq, Repr

/-- A call of the function, with its request and its local variables. -/
structure Operation where
  /-- What the call that starts the request has returned. -/
  start : Int
  request : Object
  /-- The local variables, as long as they exist. -/
  awaiter : Option Awaiter
  /-- What the coroutine has got from the operation. -/
  outcome : Option Outcome := none
  /-- An assertion of the callback failed, or the callback wrote to an awaiter that nobody was
  suspended in. -/
  fault : Bool := false
deriving DecidableEq, Repr

namespace Operation

variable (operation : Operation)

/-- `handle_` of the awaiter. -/
def handle : Option Handle :=
  operation.awaiter.bind Awaiter.handle

/-- The callback sets `status_` of the awaiter. -/
def store (status : Int) : Operation :=
  match operation.awaiter, operation.outcome with
  | some awaiter, none =>
      { operation with awaiter := some { awaiter with status := some status } }
  | some _, some _ | none, _ => { operation with fault := true }

/-- `BOOST_ASSERT(awaiter->handle_)`. -/
def assertHandle : Operation :=
  { operation with fault := operation.fault || operation.handle.isNone }

/-- `handle_ = nullptr`. -/
def resetHandle : Operation :=
  { operation with awaiter := operation.awaiter.map fun awaiter => { awaiter with handle := none } }

/-- Enqueues the handle, if there is one, and resets it. -/
def schedule : Operation × Option Handle :=
  (operation.resetHandle, operation.handle)

/-- The request after a change. -/
def onRequest (change : Object → Object) : Operation :=
  { operation with request := change operation.request }

end Operation

/-- What distinguishes a kind of operation. -/
structure Protocol where
  /-- The request belongs to a stream, which may be closed. -/
  onStream : Bool := false
  /-- The coroutine is stored in `writer_` of the stream. -/
  registers : Bool := false
  /-- The request is worked on by a thread. -/
  threadPool : Bool := false
  /-- The coroutine keeps its local variables when the operation has succeeded. -/
  generator : Bool := false
  /-- What happens to the request before it is started. -/
  prepare : Object → Object := id
  /-- What is thrown because of the result of the call that starts the request. -/
  checkStart : Int → Option UvcoException := fun _ => none
  /-- What `await_suspend` does to the request; `none` if an assertion fails. -/
  awaitSuspend : Object → Option Object := some
  /-- The callback of libuv, and the coroutine that it enqueues. -/
  callback : Int → Operation → Operation × Option Handle
  /-- What the coroutine does with what it finds in the awaiter when it is resumed, depending on
  whether the stream is open and on the result of the call that started the request; `none` if an
  assertion fails. -/
  outcome : Bool → Int → Awaiter → Option Outcome
  /-- What `await_resume` does to the request; `none` if an assertion fails. -/
  awaitResume : Object → Option Object := some
  /-- The local variables are destroyed. -/
  leave : Awaiter → Object → Object

/-- The operations of a program. -/
structure State where
  runtime : Runtime Unit := {}
  /-- The operations, by their coroutines. -/
  operation : Handle → Option Operation := fun _ => none
  /-- `stream_` is not null. -/
  isOpen : Bool := true
  /-- `writer_`. -/
  writer : Option Handle := none
  /-- An assertion failed, or a coroutine was resumed that is not suspended. -/
  fault : Bool := false

namespace State

variable (protocol : Protocol) (state : State)

/-- An operation begins or goes on. -/
def setOperation (coroutine : Handle) (operation : Operation) : State :=
  { state with operation := Function.update state.operation coroutine (some operation) }

/-- An operation whose coroutine has local variables. -/
def frame (coroutine : Handle) : Option (Operation × Awaiter) :=
  (state.operation coroutine).bind fun operation =>
    operation.awaiter.map fun awaiter => (operation, awaiter)

/-- The local variables of a coroutine are destroyed, and it does not run again. -/
def leave (coroutine : Handle) (operation : Operation) (awaiter : Awaiter) : State :=
  let left : Operation :=
    { operation with request := protocol.leave awaiter operation.request, awaiter := none }
  { state.setOperation coroutine left with
    runtime := state.runtime.setStatus coroutine .done
    writer := if protocol.registers then none else state.writer }

/-- A coroutine calls the operation; `start` is the result of the call that starts the request. -/
def call (coroutine : Handle) (start : Int) : State :=
  let prepared := protocol.prepare {}
  let request := if start < 0 then prepared else { prepared with phase := .queued }
  match protocol.checkStart start with
  | some exception =>
      state.leave protocol coroutine
        { start, request, awaiter := some {}, outcome := some (.threw exception) } {}
  | none =>
      match protocol.awaitSuspend request with
      | some request =>
          { state.setOperation coroutine
              { start, request, awaiter := some { handle := some coroutine } } with
            runtime := state.runtime.setStatus coroutine (.waiting ())
            writer := if protocol.registers then some coroutine else state.writer }
      | none => { state with fault := true }

/-- A thread begins to work on the request of an operation. -/
def run (coroutine : Handle) : State :=
  match state.operation coroutine with
  | some operation =>
      state.setOperation coroutine (operation.onRequest (·.proceed .running))
  | none => state

/-- libuv has completed the request of an operation. -/
def callback (coroutine : Handle) (status : Int) : State :=
  match state.operation coroutine with
  | some operation =>
      let called := protocol.callback status (operation.onRequest (·.proceed (.done status)))
      { state.setOperation coroutine called.1 with
        runtime := called.2.elim state.runtime state.runtime.enqueue }
  | none => state

/-- A coroutine that was suspended in its awaiter goes on. -/
def awaitResume (coroutine : Handle) (operation : Operation) (awaiter : Awaiter) : State :=
  match protocol.outcome state.isOpen operation.start awaiter,
      protocol.awaitResume operation.request with
  | some outcome, some request =>
      let resumed := { operation with request, outcome := some outcome }
      if protocol.generator = true ∧ outcome = .returned then
        { state.setOperation coroutine resumed with
          runtime := state.runtime.setStatus coroutine .running }
      else state.leave protocol coroutine resumed awaiter
  | some _, none | none, _ => { state with fault := true }

/-- `coroutine_handle::resume()`. -/
def resume (handle : Handle) : State :=
  match state.runtime.status handle with
  | .waiting () =>
      match state.frame handle with
      | some (operation, awaiter) => state.awaitResume protocol handle operation awaiter
      | none => { state with fault := true }
  | .elsewhere => { state with runtime := state.runtime.setStatus handle .running }
  | .running | .done => { state with fault := true }

/-- The scheduler resumes the next coroutine, if there is one. -/
def resumeNext : State :=
  match state.runtime.getNext with
  | (some handle, runtime) => ({ state with runtime } : State).resume protocol handle
  | (none, runtime) => { state with runtime }

/-- `StreamBase::close()`, as far as it concerns the operations. -/
def close : State :=
  let closed := { state with isOpen := false }
  match state.writer with
  | some writer => ({ closed with writer := none } : State).resume protocol writer
  | none => closed

/-- A coroutine that has kept its local variables runs to its end. -/
def finish (coroutine : Handle) : State :=
  match state.frame coroutine with
  | some (operation, awaiter) => state.leave protocol coroutine operation awaiter
  | none => state

/-- `PromiseCore::destroyCoroutine`, if the promise is dropped. A coroutine that has finished has
no local variables any more. -/
def drop (coroutine : Handle) : State :=
  match state.frame coroutine with
  | some (operation, awaiter) =>
      let cancelled := { state with runtime := state.runtime.cancel coroutine }
      cancelled.leave protocol coroutine operation awaiter
  | none => state

end State

/-- What the program, libuv and the scheduler can do next. -/
inductive Action where
  | call (coroutine : Handle) (start : Int)
  /-- A thread begins to work on the request. -/
  | run (coroutine : Handle)
  | callback (coroutine : Handle) (status : Int)
  | close
  /-- A coroutine that has kept its local variables runs to its end. -/
  | finish (coroutine : Handle)
  /-- The promise of an operation is dropped. -/
  | drop (coroutine : Handle)
  | resumeNext
  /-- A coroutine does something that does not involve the operations. -/
  | other (action : Runtime.Action)

namespace Action

/-- A call that starts a request returns zero or an error. libuv calls back once for a request that
it has accepted, later, and reports `UV_ECANCELED` for work that was cancelled. -/
def Enabled (protocol : Protocol) (state : State) : Action → Prop
  | .call coroutine start => state.isOpen = true ∧ start ≤ 0 ∧
      state.operation coroutine = none ∧ state.runtime.status coroutine = .running
  | .run coroutine => protocol.threadPool = true ∧
      (state.operation coroutine).any (fun operation => operation.request.phase = .queued) = true
  | .callback coroutine status => (state.operation coroutine).any (fun operation =>
      operation.request.phase.InFlight ∧ (protocol.threadPool = true → status = UV_ECANCELED →
        operation.request.phase = .cancelled)) = true
  | .close => protocol.onStream = true
  | .finish coroutine => state.runtime.status coroutine = .running ∧
      (state.frame coroutine).isSome = true
  | .drop coroutine => state.runtime.status coroutine ≠ .running
  | .resumeNext => True
  | .other action => action.Enabled state.runtime ∧
      (action = .finish action.subject → state.frame action.subject = none)

instance (protocol : Protocol) (state : State) (action : Action) :
    Decidable (action.Enabled protocol state) :=
  match action with
  | .call _ _ | .other _ => inferInstanceAs (Decidable (_ ∧ _))
  | .run _ | .finish _ => inferInstanceAs (Decidable (_ ∧ _ = true))
  | .callback _ _ | .close => inferInstanceAs (Decidable (_ = true))
  | .drop _ => inferInstanceAs (Decidable (_ ≠ _))
  | .resumeNext => isTrue trivial

/-- The state after an action. -/
def perform (protocol : Protocol) (state : State) : Action → State
  | .call coroutine start => state.call protocol coroutine start
  | .run coroutine => state.run coroutine
  | .callback coroutine status => state.callback protocol coroutine status
  | .close => state.close protocol
  | .finish coroutine => state.finish protocol coroutine
  | .drop coroutine => state.drop protocol coroutine
  | .resumeNext => state.resumeNext protocol
  | .other action => { state with runtime := action.perform state.runtime }

end Action

/-- All programs around the operations of one kind. -/
def system (protocol : Protocol) : TransitionSystem State Action where
  Initial state := state = {}
  Enabled state action := action.Enabled protocol state
  perform state action := action.perform protocol state

instance (protocol : Protocol) (state : State) (action : Action) :
    Decidable ((system protocol).Enabled state action) :=
  inferInstanceAs (Decidable (action.Enabled protocol state))

end Uvco.Request
