import Uvco.Request.Operation

/-!
# The operations

The operations of `uvco/stream.cc`, `uvco/tcp.cc`, `uvco/uds.cc`, `uvco/udp.cc`,
`uvco/name_resolution.cc`, `uvco/fs.cc` and `uvco/async_work.cc` that hand a
request to libuv. They own the request in three different ways.

The callback of a stream or of a connecting client frees the request in any case.
A request that the thread pool works on belongs to the awaiter, whose destructor
leaves it to the callback if the data pointer is still set. The request of
`Udp::send` is a local variable.
-/

namespace Uvco.Request

/-- A status that is not zero is thrown. -/
def ofStatus (location : String) (status : Int) : Outcome :=
  if status ≠ 0 then .threw (.ofStatus status location) else .returned

theorem outcome_of_reported (report : Int → Outcome) {awaiter : Awaiter}
    (reported : awaiter.status.isSome = true) :
    ∃ outcome, awaiter.status.map report = some outcome := by
  rcases Option.isSome_iff_exists.mp reported with ⟨status, status_eq⟩
  exact ⟨report status, by rw [status_eq, Option.map_some]⟩

/-! ## Requests that the callback owns -/

/-- A callback that holds the request in a `unique_ptr`. It may assert that there is a handle, and
it may reset the data pointer before it frees the request. -/
def ownedCallback (assertsHandle resetsData : Bool) (status : Int) (operation : Operation) :
    Operation × Option Handle :=
  let read := operation.onRequest Object.access
  if operation.request.data then
    let stored := read.store status
    let asserted := if assertsHandle then stored.assertHandle else stored
    let (scheduled, handle) := asserted.schedule
    let reset := if resetsData then scheduled.onRequest Object.resetRequestData else scheduled
    (reset.onRequest Object.free, handle)
  else (read.onRequest Object.free, none)

/-- The `OnExit` guard: a handle that is still set belongs to an operation that was cancelled. -/
def onExit (awaiter : Awaiter) (request : Object) : Object :=
  if awaiter.handle.isSome then request.resetRequestData else request

/-- `StreamBase::write`, with `OutStreamAwaiter_`. It throws the result of `uv_write`, also if the
request has failed later. -/
def StreamBase.write : Protocol where
  onStream := true
  registers := true
  prepare := Object.setRequestData
  checkStart status :=
    if status < 0 then
      some (.ofStatus status "StreamBase::write() encountered error in uv_write")
    else none
  callback := ownedCallback true true
  outcome isOpen status awaiter :=
    let completionStatus := if isOpen then awaiter.status else some UV_ECANCELED
    completionStatus.map fun completionStatus =>
      if completionStatus < 0 then
        .threw (.ofStatus status "StreamBase::write() encountered error while awaiting write")
      else .returned
  leave := onExit

/-- `StreamBase::shutdown`, with `ShutdownAwaiter_`. Nobody looks at the result of `uv_shutdown`. -/
def StreamBase.shutdown : Protocol where
  onStream := true
  prepare := Object.setRequestData
  callback := ownedCallback false false
  outcome _ _ awaiter := awaiter.status.map (ofStatus "StreamBase::shutdown() encountered error")
  leave := onExit

/-- `TcpClient::connect`, after the name was resolved. -/
def TcpClient.connect : Protocol where
  prepare := Object.setRequestData
  checkStart connectStatus :=
    if connectStatus < 0 then
      some (.ofStatus connectStatus "TcpClient::connect() failed immediately")
    else none
  callback := ownedCallback false true
  outcome _ _ awaiter := awaiter.status.map (ofStatus "TcpClient::connect() connection failed")
  leave := onExit

/-- `UnixStreamClient::connect`. The status of its awaiter is zero until the callback sets it. -/
def UnixStreamClient.connect : Protocol where
  prepare := Object.setRequestData
  checkStart connectStatus :=
    if connectStatus ≠ 0 then
      some (.ofStatus connectStatus "UnixStreamClient::connect() failed immediately")
    else none
  callback := ownedCallback false false
  outcome _ _ awaiter :=
    some (ofStatus "UnixStreamClient failed to connect" (awaiter.status.getD 0))
  leave := onExit

/-! ## Requests of the thread pool -/

/-- `Resolver::onAddrinfo`. -/
def Resolver.onAddrinfo (status : Int) (operation : Operation) : Operation × Option Handle :=
  let read := operation.onRequest Object.access
  if operation.request.data then
    if status = UV_ECANCELED then (read, none)
    else
      let stored := (read.store status).assertHandle
      (stored, stored.handle)
  else (read.onRequest Object.free, none)

/-- Both `await_resume()` of a name lookup and of a file operation assert that the data pointer is
set, and reset it. -/
def resetDataOnResume (request : Object) : Option Object :=
  if request.data then some request.resetRequestData else none

/-- A destructor that leaves the request to the callback if the data pointer is set. -/
def leaveToCallback (request : Object) : Object :=
  if request.data then request.resetRequestData.cancel else request.free

/-- `Resolver::gai`, with `AddrinfoAwaiter_`. The result of `uv_getaddrinfo` is not looked at. -/
def Resolver.gai : Protocol where
  threadPool := true
  awaitSuspend request := some request.setRequestData
  callback := Resolver.onAddrinfo
  outcome _ _ awaiter := awaiter.status.map (ofStatus "getaddrinfo()")
  awaitResume := resetDataOnResume
  leave _ := leaveToCallback

/-- `FileOpAwaiter_::onFileOpDone`. -/
def FileOpAwaiter.onFileOpDone (result : Int) (operation : Operation) :
    Operation × Option Handle :=
  let read := operation.onRequest Object.access
  if operation.request.data = false ∨ result = UV_ECANCELED then
    (read.onRequest fun request => request.cleanup.free, none)
  else (read.store result).schedule

/-- The functions of `File` and `Directory` that await a `FileOpAwaiter_` and return. -/
def FileOpAwaiter.operation : Protocol where
  threadPool := true
  awaitSuspend request := if request.data then none else some request.setRequestData
  callback := FileOpAwaiter.onFileOpDone
  outcome _ _ awaiter := awaiter.status.map fun result =>
    if result < 0 then .threw (.ofStatus result "file operation failed") else .returned
  awaitResume := resetDataOnResume
  leave _ request :=
    if request.data then request.resetRequestData.cancel else request.cleanup.free

/-- `Directory::readAll` yields the entries while the awaiter exists. -/
def Directory.readAll : Protocol :=
  { FileOpAwaiter.operation with generator := true }

/-- `AsyncWorkAwaiter_::onWorkDone`. -/
def AsyncWorkAwaiter.onWorkDone (status : Int) (operation : Operation) :
    Operation × Option Handle :=
  let read := operation.onRequest Object.access
  if operation.request.data then (read.store status).schedule
  else (read.onRequest Object.free, none)

/-- `innerSubmitWork`, with `AsyncWorkAwaiter_`. -/
def innerSubmitWork : Protocol where
  threadPool := true
  prepare := Object.setRequestData
  callback := AsyncWorkAwaiter.onWorkDone
  outcome _ _ awaiter := awaiter.status.map (ofStatus "AsyncWorkAwaiter_ failed")
  awaitResume request := some request.resetRequestData
  leave _ := leaveToCallback

/-! ## A request in the frame of a coroutine -/

/-- `Udp::onSendDone`. -/
def Udp.onSendDone (status : Int) (operation : Operation) : Operation × Option Handle :=
  let read := operation.onRequest Object.access
  if operation.request.data then (read.store status).schedule
  else (read, none)

/-- `Udp::send`, with `SendAwaiter_`. -/
def Udp.send : Protocol where
  checkStart status :=
    if status ≠ 0 then some (.ofStatus status "uv_udp_send() failed immediately") else none
  awaitSuspend request := some request.setRequestData
  callback := Udp.onSendDone
  outcome _ _ awaiter := awaiter.status.map (ofStatus "uv_udp_send() failed while sending")
  leave _ request := request.resetRequestData.free

end Uvco.Request
