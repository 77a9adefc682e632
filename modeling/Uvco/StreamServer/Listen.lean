import Uvco.Exception
import Uvco.Library.StdVector
import Uvco.MultiPromise.Body

/-!
# `StreamServerBase::listen`

This file embeds `uvco/stream_server_base_impl.cc` for a server that stays open:
`ConnectionAwaiter_`, the callback `onNewConnection`, and the generator
`listen()`, in every interleaving of callbacks, consumers and the scheduler. When
a call of `listen()` has ended, `listen()` can be called again.

`listen()` holds an iterator into `accepted_` while it is suspended at `co_yield`,
and the callback appends to `accepted_` meanwhile. The behaviour is undefined once
an invalid iterator is used; the state remembers that, and the generator does
nothing more.
-/

namespace Uvco.StreamServer

variable {Stream : Type}

/-- `ConnectionAwaiter_::Accepted`. -/
inductive Accepted (Stream : Type) where
  | error (status : Int)
  | stream (stream : Stream)
deriving DecidableEq, Repr

/-- The streams among accepted connections and errors. -/
def streams (entries : List (Accepted Stream)) : List Stream :=
  entries.filterMap fun entry =>
    match entry with
    | .error _ => none
    | .stream stream => some stream

/-- `struct ConnectionAwaiter_`; only `close()` sets `stopped_`. -/
structure ConnectionAwaiter (Stream : Type) where
  handle : Option Handle := none
  accepted : StdVector (Accepted Stream)

namespace ConnectionAwaiter

variable (awaiter : ConnectionAwaiter Stream)

/-- `await_suspend`; with nothing in `accepted_`, `await_ready()` was false. -/
def awaitSuspend (handle : Handle) : ConnectionAwaiter Stream :=
  { awaiter with handle := some handle }

end ConnectionAwaiter

/-- Where the generator is suspended. -/
inductive Position where
  /-- In `co_await awaiter`. -/
  | awaiting
  /-- At `co_yield`, in the loop over `accepted_`. -/
  | atYield (iterator : StdVector.Iterator)
deriving DecidableEq, Repr

/-- A listening socket with its generator. -/
structure State (Stream : Type) where
  /-- The generator and the `MultiPromise` of the last call of `listen()`. -/
  promise : MultiPromise.State Stream UvcoException
  /-- The awaiter that `socket_->data` points to. -/
  data : Option (ConnectionAwaiter Stream) := none
  position : Position := .awaiting
  /-- An invalid iterator was used. -/
  invalidUse : Bool := false
  /-- What the callbacks have collected since the last call of `listen()`. -/
  collected : List (Accepted Stream) := []
  /-- What they had collected for earlier calls. -/
  earlierCollected : List (Accepted Stream) := []
  /-- What earlier calls had yielded. -/
  earlierYielded : List Stream := []

/-- The exception for a failed `uv_listen`. -/
def listenError (status : Int) : UvcoException :=
  .ofStatus status "StreamServerBase::listen(): failed to listen"

/-- The exception for a connection that could not be accepted. -/
def acceptError (status : Int) : UvcoException :=
  .ofStatus status "UnixStreamServer failed to accept a connection!"

namespace State

variable (state : State Stream)

/-- `co_await awaiter` with nothing in `accepted_`: the generator suspends. -/
def suspend (awaiter : ConnectionAwaiter Stream) : State Stream :=
  { state with
    promise := (MultiPromise.Action.other (.suspend state.promise.generator)).perform state.promise
    data := some (awaiter.awaitSuspend state.promise.generator)
    position := .awaiting }

/-- The loop over `accepted_`, from an iterator on up to the next suspension. -/
def visit (iterator : StdVector.Iterator) : State Stream :=
  match state.data with
  | none => state
  | some awaiter =>
      if iterator.Valid awaiter.accepted then
        match awaiter.accepted.entries[iterator.index]? with
        | none =>
            -- After `clear()`, `await_ready()` is false.
            state.suspend { awaiter with accepted := awaiter.accepted.clear }
        | some (.error status) =>
            -- The entries up to the error are erased, but the awaiter is destroyed anyway.
            { state with
              promise := state.promise.finish (.threw (acceptError status))
              data := none }
        | some (.stream stream) =>
            { state with
              promise := state.promise.yield stream
              position := .atYield iterator }
      else
        { state with invalidUse := true }

/-- The generator goes on where it was suspended. -/
def proceed : State Stream :=
  match state.position with
  | .awaiting =>
      match state.data with
      | some awaiter => state.visit awaiter.accepted.begin
      | none => state
  | .atYield iterator => state.visit iterator.next

/-- A step of the `MultiPromise`, and of the generator if it is resumed. -/
def follow (action : MultiPromise.Action Stream UvcoException) : State Stream :=
  let after := { state with promise := action.perform state.promise }
  if state.promise.Resumed after.promise then after.proceed else after

/-- Call `listen()`; `status` is the result of `uv_listen`, and `capacity` what is reserved beyond
the required 4 entries. -/
def listen (generator : Handle) (capacity : ℕ) (status : Int) : State Stream :=
  let called : State Stream :=
    { promise := .started state.promise.runtime generator
      earlierCollected := state.earlierCollected ++ state.collected
      earlierYielded := state.earlierYielded ++ state.promise.yielded }
  if status = 0 then
    called.suspend { accepted := .reserve 4 capacity }
  else
    { called with promise := called.promise.finish (.threw (listenError status)) }

/-- The callback; `acceptStatus` is the result of `uv_accept`, and `grown` the capacity after
`accepted_` is reallocated. -/
def onNewConnection (status acceptStatus : Int) (client : Stream) (grown : ℕ) : State Stream :=
  match state.data with
  | none => state
  | some awaiter =>
      let entry :=
        if status = 0 then
          if acceptStatus = 0 then .stream client else .error acceptStatus
        else .error status
      let accepted := awaiter.accepted.emplaceBack entry grown
      let collected := state.collected ++ [entry]
      match awaiter.handle with
      | some handle =>
          { state with
            promise := (MultiPromise.Action.other (.wake handle)).perform state.promise
            data := some { accepted }
            collected }
      | none => { state with data := some { awaiter with accepted }, collected }

end State

/-- What the program, libuv and the scheduler can do next. -/
inductive Action (Stream : Type) where
  | listen (generator : Handle) (capacity : ℕ) (status : Int)
  | onNewConnection (status acceptStatus : Int) (client : Stream) (grown : ℕ)
  /-- A step of consumers, of the scheduler or of other coroutines. -/
  | follow (action : MultiPromise.Action Stream UvcoException)

namespace Action

/-- `listen()` is called again by a running coroutine after the last call has ended, and nobody
awaits that one any more. -/
def Enabled (state : State Stream) : Action Stream → Prop
  | .listen generator _ _ => state.promise.ended.isSome ∧
      state.promise.runtime.status generator = .running ∧
      ∀ handle, ¬state.promise.Awaits handle
  | .onNewConnection .. => True
  | .follow action => action.Enabled state.promise ∧ action.IsForeign state.promise.generator

/-- The state after an action. -/
def perform (state : State Stream) : Action Stream → State Stream
  | .listen generator capacity status => state.listen generator capacity status
  | .onNewConnection status acceptStatus client grown =>
      state.onNewConnection status acceptStatus client grown
  | .follow action => state.follow action

end Action

/-- All programs around one server, from the first call of `listen()` on. -/
def system (Stream : Type) : TransitionSystem (State Stream) (Action Stream) where
  Initial state := ∃ generator capacity status,
    state = ({ promise := .initial generator } : State Stream).listen generator capacity status
  Enabled state action := action.Enabled state
  perform state action := action.perform state

end Uvco.StreamServer
