import Mathlib.Data.List.ReduceOption
import Uvco.Exception
import Uvco.Library.Transition
import Uvco.Runtime

/-!
# Reading from and writing to a stream

This file embeds `read()`, `write()` and `close()` of `uvco/stream.cc`, with the
awaiters `InStreamAwaiter_` and `OutStreamAwaiter_` and their callbacks.

The handle of a suspended coroutine is stored twice: in `handle_` of its awaiter,
for the callback, and in `reader_` or `writer_` of the stream, for `close()`. The
callback clears only the first copy; the second one is cleared when the coroutine
runs. An awaiter is a local variable, so the coroutine it belongs to identifies it.

An overload of `read()` returns a string; it awaits the same awaiter. The frame
of a coroutine that is destroyed counts as done.
-/

namespace Uvco.Stream

/-- The two operations that suspend a coroutine. -/
inductive Point where
  | read
  | write
deriving DecidableEq, Repr

/-- The end of the stream, as libuv reports it. -/
def UV_EOF : Int := -4095

/-- `InStreamAwaiter_` or `OutStreamAwaiter_`, in the frame of a suspended coroutine. -/
structure Awaiter where
  coroutine : Handle
  handle : Option Handle := none
  status : Option Int := none
  /-- `status` in `write()`, the result of `uv_write`. -/
  started : Int := 0
  /-- How often a callback has enqueued the coroutine. -/
  callbacks : ℕ := 0
  /-- How often `close()` has resumed the coroutine. -/
  closes : ℕ := 0
deriving DecidableEq, Repr

/-- `close()` has resumed the coroutine. -/
def Awaiter.closed (awaiter : Awaiter) : Awaiter :=
  { awaiter with closes := awaiter.closes + 1 }

/-- How a `read()` or `write()` ends. -/
inductive Outcome where
  /-- `read()` returns the number of bytes. -/
  | bytes (count : Int)
  /-- `write()` returns. -/
  | written
  | threw (exception : UvcoException)
deriving DecidableEq, Repr

/-- `InStreamAwaiter_::await_resume` if there is a status. -/
def readOutcome (nread : Int) : Outcome :=
  if nread = UV_EOF then .bytes 0
  else if nread < 0 then .threw (.ofStatus nread "StreamBase::read() encountered error")
  else .bytes nread

/-- What `write()` does with the result of `await_resume`. It reports the result of `uv_write`. -/
def writeOutcome (status completionStatus : Int) : Outcome :=
  if completionStatus < 0 then
    .threw (.ofStatus status "StreamBase::write() encountered error while awaiting write")
  else .written

/-- What an operation reports after libuv has reported success. -/
def success : Point → Int → Outcome
  | .read, status => .bytes status
  | .write, _ => .written

/-- An operation that was suspended and has ended. -/
structure Ended where
  point : Point
  awaiter : Awaiter
  outcome : Outcome
deriving DecidableEq, Repr

/-- A stream with the coroutines that read and write it. -/
structure State where
  runtime : Runtime Point := {}
  /-- `stream_` is not null. -/
  isOpen : Bool := true
  /-- `reader_` and `writer_`. -/
  registered : Point → Option Handle := fun _ => none
  /-- The awaiters of the suspended coroutines. -/
  awaiter : Point → Option Awaiter := fun _ => none
  /-- The data pointer of the `uv_stream_t`. -/
  data : Option Handle := none
  /-- Between `uv_read_start` and `uv_read_stop`. -/
  active : Bool := false
  /-- The data pointers of the write requests that libuv has not completed yet. -/
  requests : List (Option Handle) := []
  ended : List Ended := []
  /-- What was thrown before the coroutine was suspended. -/
  refused : List UvcoException := []
  /-- `close()` has resumed a coroutine that was in the scheduler queue. -/
  resumedQueued : Bool := false
  /-- An assertion failed, or a frame was used that is not suspended any more. -/
  fault : Bool := false

namespace State

variable (state : State)

/-- The coroutines to which libuv leads a callback. -/
def targets : Point → List Handle
  | .read => state.data.toList
  | .write => state.requests.reduceOption

/-- `reader_` or `writer_` changes. -/
def setRegistered (point : Point) (handle : Option Handle) : State :=
  { state with registered := Function.update state.registered point handle }

/-- An awaiter is made, changed or destroyed. -/
def setAwaiter (point : Point) (awaiter : Option Awaiter) : State :=
  { state with awaiter := Function.update state.awaiter point awaiter }

/-- `~InStreamAwaiter_`. -/
def leaveRead : State :=
  if state.isOpen then
    ({ state with active := false, data := none } : State).setRegistered .read none
  else state.setRegistered .read none

/-- `resetRequestData` on the request of a coroutine. -/
def resetRequestData (coroutine : Handle) : State :=
  { state with
    requests := state.requests.map fun data => if data = some coroutine then none else data }

/-- `_onExit` of `write()` and `~OutStreamAwaiter_`. -/
def leaveWrite (awaiter : Awaiter) : State :=
  if awaiter.handle.isSome then
    (state.resetRequestData awaiter.coroutine).setRegistered .write none
  else state.setRegistered .write none

/-- The local variables of a coroutine are destroyed. -/
def leave (point : Point) (awaiter : Awaiter) : State :=
  match point with
  | .read => state.leaveRead.setAwaiter .read none
  | .write => (state.leaveWrite awaiter).setAwaiter .write none

/-- A coroutine throws before it is suspended. -/
def refuse (point : Point) (awaiter : Awaiter) (exception : UvcoException) : State :=
  let left := state.leave point awaiter
  { left with
    runtime := left.runtime.setStatus awaiter.coroutine .done
    refused := left.refused ++ [exception] }

/-- `await_suspend`, up to the start of the operation. -/
def suspend (point : Point) (awaiter : Awaiter) : State :=
  ({ state with runtime := state.runtime.setStatus awaiter.coroutine (.waiting point) } : State)
    |>.setRegistered point (some awaiter.coroutine)
    |>.setAwaiter point (some { awaiter with handle := some awaiter.coroutine })

/-- The exception of `start_read()`. -/
def readStartError (result : Int) : UvcoException :=
  .ofStatus result "StreamBase::read() encountered error in uv_read_start()"

/-- `read()`, up to the suspension. If the stream is readable, `await_ready()` starts reading and
stops again; libuv does not call back in between. The other arguments are results of
`uv_read_start`. -/
def read (coroutine : Handle) (readable : Bool) (ready start : Int) : State :=
  let awaiter : Awaiter := { coroutine }
  if readable = true ∧ ready ≠ 0 then state.refuse .read awaiter (readStartError ready)
  else
    let suspended := { state.suspend .read awaiter with
      data := some coroutine
      -- `BOOST_ASSERT(dataIsNull(&stream_.stream()))`.
      fault := state.fault || state.data.isSome }
    if start ≠ 0 then
      suspended.refuse .read { awaiter with handle := some coroutine } (readStartError start)
    else { suspended with active := true }

/-- `write()`, up to the suspension; `status` is the result of `uv_write`. -/
def write (coroutine : Handle) (status : Int) : State :=
  let awaiter : Awaiter := { coroutine, started := status }
  if status < 0 then
    state.refuse .write awaiter
      (.ofStatus status "StreamBase::write() encountered error in uv_write")
  else
    { state.suspend .write awaiter with requests := state.requests ++ [some coroutine] }

/-- A callback has found the awaiter of `target`: it stores the status, and enqueues the handle. -/
def report (point : Point) (target : Handle) (status : Int) : State :=
  match state.awaiter point with
  | some awaiter =>
      if awaiter.coroutine = target then
        match awaiter.handle with
        | some handle =>
            ({ state with runtime := state.runtime.enqueue handle } : State).setAwaiter point
              (some { awaiter with
                handle := none
                status := some status
                callbacks := awaiter.callbacks + 1 })
        | none =>
            -- Only `onOutStreamWrite` asserts that there is a handle.
            ({ state with fault := state.fault || point = .write } : State).setAwaiter point
              (some { awaiter with status := some status })
      else { state with fault := true }
  | none => { state with fault := true }

/-- The callback of `uv_read_start`; reading stops with its first call. -/
def onInStreamRead (nread : Int) : State :=
  match state.data with
  | some target => ({ state with active := false, data := none } : State).report .read target nread
  | none => { state with fault := true }

/-- The write request at this index is completed, and freed. -/
def onOutStreamWrite (index : ℕ) (status : Int) : State :=
  let completed := { state with requests := state.requests.eraseIdx index }
  match state.requests[index]? with
  | some (some target) => completed.report .write target status
  | some none | none => completed

/-- What a resumed coroutine reports; `none` if an assertion of `await_resume` fails. -/
def outcome (point : Point) (awaiter : Awaiter) : Option Outcome :=
  match point with
  | .read =>
      match awaiter.status with
      | some nread => some (readOutcome nread)
      | none => if state.isOpen then none else some (.bytes 0)
  | .write =>
      if state.isOpen then awaiter.status.map (writeOutcome awaiter.started)
      else some (writeOutcome awaiter.started UV_ECANCELED)

/-- A resumed coroutine runs to its end. -/
def awaitResume (point : Point) (awaiter : Awaiter) : State :=
  match state.outcome point awaiter with
  | some outcome =>
      let left := state.leave point awaiter
      { left with
        runtime := left.runtime.setStatus awaiter.coroutine .done
        ended := left.ended ++ [{ point, awaiter, outcome }] }
  | none => { state with fault := true }

/-- `coroutine_handle::resume()`. -/
def resume (handle : Handle) : State :=
  match state.runtime.status handle with
  | .waiting point =>
      match state.awaiter point with
      | some awaiter => state.awaitResume point awaiter
      | none => { state with fault := true }
  | .elsewhere => { state with runtime := state.runtime.setStatus handle .running }
  | .running | .done => { state with fault := true }

/-- The scheduler resumes the next coroutine, if there is one. -/
def resumeNext : State :=
  match state.runtime.getNext with
  | (some handle, runtime) => ({ state with runtime } : State).resume handle
  | (none, runtime) => { state with runtime }

/-- `closeHandle(stream_.release())`. -/
def release : State :=
  { state with isOpen := false, active := false, data := none }

/-- `close()` resets `reader_` or `writer_`, and is about to resume this coroutine. -/
def unregister (point : Point) (awaiter : Awaiter) : State :=
  (state.setRegistered point none).setAwaiter point (some awaiter.closed)

/-- What `close()` does with `reader_`, and with `writer_`. -/
def resumeRegistered (point : Point) : State :=
  match state.registered point, state.awaiter point with
  | some handle, some awaiter =>
      ({ state.unregister point awaiter with
        resumedQueued := state.resumedQueued || decide (0 < state.runtime.pending handle) } :
        State).resume handle
  | some _, none => { state with fault := true }
  | none, _ => state

/-- `close()`, which resumes the reader and the writer right here. -/
def close : State :=
  let released := if state.isOpen then state.release else state
  (released.resumeRegistered .read).resumeRegistered .write

/-- `PromiseCore::destroyCoroutine`, if the promise of a suspended operation is dropped. -/
def drop (point : Point) : State :=
  match state.awaiter point with
  | some awaiter =>
      let cancelled := { state with runtime := state.runtime.cancel awaiter.coroutine }
      let left := cancelled.leave point awaiter
      { left with runtime := left.runtime.setStatus awaiter.coroutine .done }
  | none => state

end State

/-- What the program, libuv and the scheduler can do next. -/
inductive Action where
  | read (coroutine : Handle) (readable : Bool) (ready start : Int)
  | write (coroutine : Handle) (status : Int)
  | onInStreamRead (nread : Int)
  | onOutStreamWrite (index : ℕ) (status : Int)
  | close
  /-- The promise of a suspended operation is dropped. -/
  | drop (point : Point)
  | resumeNext
  /-- A coroutine does something that does not involve the stream. -/
  | other (action : Runtime.Action)

namespace Action

/-- At most one coroutine reads and one writes, from and to an open stream. libuv calls back for
what was started and not stopped. -/
def Enabled (state : State) : Action → Prop
  | .read coroutine _ _ _ => state.isOpen = true ∧ state.awaiter .read = none ∧
      state.runtime.status coroutine = .running
  | .write coroutine _ => state.isOpen = true ∧ state.awaiter .write = none ∧
      state.runtime.status coroutine = .running
  | .onInStreamRead _ => state.active = true
  | .onOutStreamWrite index _ => index < state.requests.length
  | .close | .resumeNext => True
  | .drop point => (state.awaiter point).isSome = true
  | .other action => action.Enabled state.runtime

/-- The state after an action. -/
def perform (state : State) : Action → State
  | .read coroutine readable ready start => state.read coroutine readable ready start
  | .write coroutine status => state.write coroutine status
  | .onInStreamRead nread => state.onInStreamRead nread
  | .onOutStreamWrite index status => state.onOutStreamWrite index status
  | .close => state.close
  | .drop point => state.drop point
  | .resumeNext => state.resumeNext
  | .other action => { state with runtime := action.perform state.runtime }

end Action

/-- All programs around one stream. -/
def system : TransitionSystem State Action where
  Initial state := state = {}
  Enabled state action := action.Enabled state
  perform state action := action.perform state

end Uvco.Stream
