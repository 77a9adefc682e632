import Uvco.BoundedQueue
import Uvco.MultiPromise.Body

/-!
# Receiving from a UDP socket

This file embeds the receiving half of `uvco/udp.cc`: `RecvAwaiter_`, the callback
`onReceiveOne`, `receiveOneFrom()`, the generator `receiveMany()`, and `close()`.
`receiveOne()` does nothing but await `receiveOneFrom()`.

One coroutine receives at a time, and its awaiter is a local variable. The data
pointer of the `uv_udp_t` refers to that awaiter only while the coroutine is
suspended in it; the callback takes a null pointer as a sign that receiving was
cancelled. The state remembers whether libuv was ever given a null or closed
handle, and whether the data pointer of a closing handle was ever written.
-/

namespace Uvco.Udp

variable {Packet : Type}

/-- `RecvAwaiter_::QueueItem_`. -/
inductive QueueItem (Packet : Type) where
  | packet (packet : Packet)
  | error (status : Int)
deriving DecidableEq, Repr

/-- The packets among the items of a buffer. -/
def packets (items : List (QueueItem Packet)) : List Packet :=
  items.filterMap fun item =>
    match item with
    | .packet packet => some packet
    | .error _ => none

/-- `RecvAwaiter_::packetQueueSize`. -/
def packetQueueSize : ℕ := 128

/-- What libuv passes to `onReceiveOne`. -/
inductive Received (Packet : Type) where
  | packet (packet : Packet)
  /-- A negative `nread`. -/
  | error (status : Int)
  /-- There is no address: buffers are to be freed. -/
  | nothing
deriving DecidableEq, Repr

/-- What the callback puts into the buffer. -/
def Received.item : Received Packet → Option (QueueItem Packet)
  | .packet content => some (.packet content)
  | .error status => some (.error status)
  | .nothing => none

/-- A coroutine that receives, with its `RecvAwaiter_`. -/
structure Receiver (Packet : Type) where
  coroutine : Handle
  /-- This is `receiveMany()`; otherwise `stop_receiving_` is set. -/
  many : Bool
  buffer : BoundedQueue (QueueItem Packet)
  handle : Option Handle := none

/-- Put an item into the buffer, if there is space. -/
def Receiver.receive (receiver : Receiver Packet) (item : QueueItem Packet) : Receiver Packet :=
  if receiver.buffer.hasSpace then
    match receiver.buffer.put item with
    | .ok buffer => { receiver with buffer }
    | .error _ => receiver
  else receiver

/-- A packet that libuv has handed to the callback. -/
structure Arrival (Packet : Type) where
  packet : Packet
  /-- How many packets were buffered. -/
  buffered : ℕ
  /-- It was put into the buffer. -/
  kept : Bool
deriving DecidableEq, Repr

/-- A socket with the coroutine that receives from it. -/
structure State (Packet : Type) where
  /-- The generator and the `MultiPromise` of the last `receiveMany()`. -/
  promise : MultiPromise.State Packet UvcoException
  receiver : Option (Receiver Packet) := none
  /-- `udp_` is not null. -/
  isOpen : Bool := true
  /-- The data pointer of the handle refers to the awaiter of the receiver. -/
  dataSet : Bool := false
  /-- Between `uv_udp_recv_start` and `uv_udp_recv_stop`. -/
  receiving : Bool := false
  /-- Sending keeps the handle active, too. -/
  sending : Bool := false
  /-- How `receiveOneFrom()` ended, each time. -/
  outcomes : List (Except UvcoException Packet) := []
  /-- The packets that arrived since the last call of `receiveMany()`. -/
  arrivals : List (Arrival Packet) := []
  /-- How often `uv_close` was called. -/
  closes : ℕ := 0
  closeThrew : Bool := false
  /-- A null or closed handle was passed to libuv, or a closing handle was written to. -/
  fault : Bool := false

/-- The exception of `RecvAwaiter_::await_resume`. -/
def recvError (status : Int) : UvcoException :=
  .ofStatus status "Udp::RecvAwaiter_::await_resume: error during recv"

namespace State

variable (state : State Packet)

/-- `uv_is_active()`. -/
def uvIsActive : Bool :=
  state.receiving || state.sending

/-- `RecvAwaiter_::await_suspend`. -/
def awaitSuspend (receiver : Receiver Packet) : State Packet :=
  { state with
    promise := (MultiPromise.Action.other (.suspend receiver.coroutine)).perform state.promise
    receiver := some { receiver with handle := some receiver.coroutine }
    dataSet := true
    fault := state.fault || !state.isOpen }

/-- `resetData`, which needs the handle. -/
def resetData : State Packet :=
  { state with dataSet := false, fault := state.fault || !state.isOpen }

/-- `receiveMany()` returns or throws, and `onExit` is run before. -/
def finishMany (ending : MultiPromise.Ending UvcoException) : State Packet :=
  let exited := if state.isOpen then { state with receiving := false, dataSet := false } else state
  { exited with promise := state.promise.finish ending, receiver := none }

/-- `receiveOneFrom()` returns or throws, and `onExit` is run before. -/
def finishOne (coroutine : Handle) (outcome : Except UvcoException Packet) : State Packet :=
  { state.resetData with
    promise := (MultiPromise.Action.other (.finish coroutine)).perform state.promise
    receiver := none
    outcomes := state.outcomes ++ [outcome] }

/-- The receiver takes an item from its buffer and goes on up to the next suspension. -/
def takeItem (receiver : Receiver Packet) : State Packet :=
  if receiver.buffer.empty then
    if receiver.many then state.finishMany .returned
    else state.finishOne receiver.coroutine (.error (.ofMessage "bad optional access"))
  else
    match receiver.buffer.get with
    | .ok (.packet packet, buffer) =>
        if receiver.many then
          { state with
            promise := state.promise.yield packet
            receiver := some { receiver with buffer } }
        else state.finishOne receiver.coroutine (.ok packet)
    | .ok (.error status, _) =>
        if receiver.many then state.finishMany (.threw (recvError status))
        else state.finishOne receiver.coroutine (.error (recvError status))
    | .error _ => state

/-- `RecvAwaiter_::await_resume` and what follows. -/
def awaitResume (receiver : Receiver Packet) : State Packet :=
  state.resetData.takeItem receiver

/-- The loop of `receiveMany()`, from its condition up to the next suspension. -/
def loop (receiver : Receiver Packet) : State Packet :=
  if state.isOpen then
    if state.uvIsActive then
      if receiver.buffer.empty then state.awaitSuspend receiver else state.awaitResume receiver
    else state.finishMany .returned
  else
    -- `uv_is_active(nullptr)`.
    { state with fault := true }

/-- A step of the `MultiPromise`, and of the receiver if it is resumed. -/
def follow (action : MultiPromise.Action Packet UvcoException) : State Packet :=
  let after := { state with promise := action.perform state.promise }
  match state.receiver with
  | none => after
  | some receiver =>
      match state.promise.runtime.status receiver.coroutine,
        after.promise.runtime.status receiver.coroutine with
      | .elsewhere, .running => after.awaitResume receiver
      | .waiting _, .running => after.loop receiver
      | _, _ => after

/-- `receiveOneFrom()`; `status` is the result of `uv_udp_recv_start`. -/
def receiveOneFrom (coroutine : Handle) (capacity : ℕ) (capacity_lt : capacity < 2 ^ 32)
    (status : Int) : State Packet :=
  if status = 0 then
    -- The buffer is empty, so `await_ready()` is false.
    ({ state with receiving := true } : State Packet).awaitSuspend
      { coroutine, many := false, buffer := .create capacity capacity_lt }
  else
    state.finishOne coroutine (.error (.ofStatus status "uv_udp_recv_start()"))

/-- `receiveMany()`; `status` is the result of `uv_udp_recv_start`. -/
def receiveMany (generator : Handle) (capacity : ℕ) (capacity_lt : capacity < 2 ^ 32)
    (status : Int) : State Packet :=
  let called := { state with
    promise := .started state.promise.runtime generator
    arrivals := [] }
  if status = 0 then
    ({ called with receiving := true } : State Packet).loop
      { coroutine := generator, many := true, buffer := .create capacity capacity_lt }
  else
    called.finishMany (.threw (.ofStatus status "receiveMany(): uv_udp_recv_start()"))

/-- Notes a packet, with the state of the buffer it finds. -/
def recordArrival (received : Received Packet) : List (Arrival Packet) :=
  match received, state.receiver with
  | .packet packet, some receiver => state.arrivals ++ [{
      packet
      buffered := receiver.buffer.size
      kept := state.dataSet && receiver.buffer.hasSpace }]
  | .packet _, none | .error _, _ | .nothing, _ => state.arrivals

/-- `onReceiveOne`; the awaiter is that of the data pointer. -/
def onReceiveOne (received : Received Packet) : State Packet :=
  let state := { state with arrivals := state.recordArrival received }
  if state.dataSet then
    match state.receiver, received.item with
    | some receiver, some item =>
        let state := { state with receiving := state.receiving && receiver.many }
        match receiver.handle with
        | some handle =>
            { state with
              promise := (MultiPromise.Action.other (.wake handle)).perform state.promise
              receiver := some { receiver.receive item with handle := none } }
        | none => { state with receiver := some (receiver.receive item) }
    | some _, none | none, _ => state
  else
    { state with receiving := false }

/-- `closeHandle(udp_.release())`. -/
def release : State Packet :=
  { state with
    isOpen := false
    dataSet := false
    receiving := false
    closes := state.closes + 1 }

/-- `close()`, which resumes a suspended receiver right here. -/
def close : State Packet :=
  if state.isOpen then
    match state.dataSet, state.receiver with
    | true, some receiver =>
        match receiver.buffer.put (.error UV_ECANCELED) with
        | .ok buffer =>
            match receiver.handle with
            | some handle =>
                -- The receiver is resumed right here.
                let resumed := { state with
                  promise := (MultiPromise.Action.other (.resume handle)).perform state.promise }
                (resumed.awaitResume { receiver with buffer, handle := none }).release
            | none =>
                ({ state with receiver := some { receiver with buffer } } : State Packet).release
        | .error _ => { state with closeThrew := true }
    | true, none | false, _ => state.release
  else state

end State

/-- What the program, libuv and the scheduler can do next. -/
inductive Action (Packet : Type) where
  | receiveOneFrom (coroutine : Handle) (capacity : ℕ) (capacity_lt : capacity < 2 ^ 32)
      (status : Int)
  | receiveMany (generator : Handle) (capacity : ℕ) (capacity_lt : capacity < 2 ^ 32)
      (status : Int)
  | onReceiveOne (received : Received Packet)
  /-- Sending begins or ends. -/
  | send (sending : Bool)
  | close
  /-- A step of consumers, of the scheduler or of other coroutines. -/
  | follow (action : MultiPromise.Action Packet UvcoException)

namespace Action

/-- At most one coroutine receives, on an open socket; libuv calls back only while it receives. -/
def Enabled (state : State Packet) : Action Packet → Prop
  | .receiveOneFrom coroutine capacity _ _ => state.isOpen = true ∧ state.receiver.isNone ∧
      1 ≤ capacity ∧ coroutine ≠ state.promise.generator ∧
      state.promise.runtime.status coroutine = .running
  | .receiveMany generator capacity _ _ => state.isOpen = true ∧ state.receiver.isNone ∧
      packetQueueSize ≤ capacity ∧ state.promise.runtime.status generator = .running ∧
      ∀ handle, ¬state.promise.Awaits handle
  | .onReceiveOne _ => state.receiving = true
  | .send _ | .close => True
  | .follow action => action.Enabled state.promise ∧ action.IsForeign state.promise.generator ∧
      ∀ receiver ∈ state.receiver, action.IsForeign receiver.coroutine

/-- The state after an action. -/
def perform (state : State Packet) : Action Packet → State Packet
  | .receiveOneFrom coroutine capacity capacity_lt status =>
      state.receiveOneFrom coroutine capacity capacity_lt status
  | .receiveMany generator capacity capacity_lt status =>
      state.receiveMany generator capacity capacity_lt status
  | .onReceiveOne received => state.onReceiveOne received
  | .send sending => { state with sending }
  | .close => state.close
  | .follow action => state.follow action

end Action

/-- All programs around one socket. Before the first `receiveMany()`, its generator has not
started. -/
def system (Packet : Type) : TransitionSystem (State Packet) (Action Packet) where
  Initial state := ∃ generator, state = { promise := .initial generator }
  Enabled state action := action.Enabled state
  perform state action := action.perform state

end Uvco.Udp
