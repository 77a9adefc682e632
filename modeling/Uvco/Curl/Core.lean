import Mathlib.Data.Nat.Notation
import Mathlib.Tactic.Common
import Uvco.Exception

/-!
# `CurlRequestCore_`

What a request of `uvco/integrations/curl` knows about its transfer, and what the
generator of `start()` makes of it. The generator is suspended in `co_await *core_` or at
`co_yield`, and a chunk that was yielded is what the consumer obtains.
-/

namespace Uvco.Curl

/-- A `CURLMSG_DONE`, with what `curl_easy_getinfo` says about its easy handle. -/
structure Done where
  /-- The `CURLcode`; 0 is `CURLE_OK`. -/
  result : ℕ
  responseCode : Int
  verifyResult : Int
deriving DecidableEq, Repr

/-- `await_resume()` does not return `nullopt` because of the status. -/
def Done.Accepted (done : Done) : Prop :=
  done.responseCode = 200 ∧ done.verifyResult = 0

instance (done : Done) : Decidable done.Accepted :=
  inferInstanceAs (Decidable (_ ∧ _))

/-- How `start()` ends. -/
inductive Ending where
  | returned
  /-- `CurlException(status, url)`. -/
  | threwCurl (status : ℕ) (url : String)
  | threwUv (exception : UvcoException)
deriving DecidableEq, Repr

/-- `class CurlRequestCore_`. -/
structure CurlRequestCore where
  url : String
  /-- `downloaderHandle_` leads to the generator. -/
  downloaderHandle : Bool := false
  chunks : List String := []
  uvStatus : Option Int := none
  curlStatus : Option ℕ := none
  responseCode : Option Int := none
  verifyResult : Option Int := none
deriving DecidableEq, Repr

namespace CurlRequestCore

variable (core : CurlRequestCore)

/-- Only the first status counts. -/
def setUvStatus (status : Int) : CurlRequestCore :=
  { core with uvStatus := core.uvStatus.or (some status) }

/-- Only the first response code counts. -/
def setResponseCode (status : Int) : CurlRequestCore :=
  { core with responseCode := core.responseCode.or (some status) }

/-- Only the first result of the certificate's verification counts. -/
def setVerifyResult (result : Int) : CurlRequestCore :=
  { core with verifyResult := core.verifyResult.or (some result) }

/-- Only the first result of the transfer counts. -/
def setCurlStatus (status : ℕ) : CurlRequestCore :=
  { core with curlStatus := core.curlStatus.or (some status) }

/-- The setters that `checkCurlInfo()` calls for a message. -/
def record (done : Done) : CurlRequestCore :=
  ((core.setCurlStatus done.result).setResponseCode done.responseCode).setVerifyResult
    done.verifyResult

/-- What `await_ready()` returns after `checkCurlInfo()`. -/
def awaitReady : Bool :=
  !core.chunks.isEmpty || core.responseCode.any (0 < ·)

/-- One of the statuses makes `await_resume()` return `nullopt`. -/
def rejected : Bool :=
  core.uvStatus.any (· ≠ 0) || core.verifyResult.any (· ≠ 0) || core.responseCode.any (· ≠ 200)

/-- The next chunk, or nothing after an error or at the end. -/
def awaitResume : Option String × CurlRequestCore :=
  if core.rejected then
    (none, core)
  else
    match core.chunks with
    | chunk :: chunks => (some chunk, { core with chunks })
    | [] => (none, core)

/-- The end of `start()`. -/
def ending : Ending :=
  if core.curlStatus.any (· ≠ 0) then
    .threwCurl (core.curlStatus.getD 0) core.url
  else if core.uvStatus.any (· ≠ 0) then
    .threwUv (.ofStatus (core.uvStatus.getD 0) ("Socket error while fetching " ++ core.url))
  else
    .returned

end CurlRequestCore

/-- Where the generator `start()` is. -/
inductive Position where
  /-- `start()` was not called. -/
  | notStarted
  /-- At `co_await *core_`. -/
  | awaiting
  | atYield
  | ended (ending : Ending)
deriving DecidableEq, Repr

/-- A `CurlRequest` with the generator of its `start()`. -/
structure Request where
  core : CurlRequestCore
  position : Position := .notStarted
  /-- The generator is in the scheduler queue. -/
  enqueued : Bool := false
  yielded : List String := []
  /-- The chunks that libcurl has handed over. -/
  arrived : List String := []
  /-- The message that libcurl has queued. -/
  done : Option Done := none
  /-- The socket errors that libuv has reported. -/
  errors : List Int := []
deriving DecidableEq, Repr

namespace Request

variable (request : Request)

/-- The generator is enqueued by the request. -/
def wakeDownloader : Request :=
  { request with core := { request.core with downloaderHandle := false }, enqueued := true }

/-- A chunk has arrived; a generator that awaits it is woken. -/
def onDataAvailable (data : String) : Request :=
  let stored := { request with
    core := { request.core with chunks := request.core.chunks ++ [data] }
    arrived := request.arrived ++ [data] }
  if stored.core.downloaderHandle then stored.wakeDownloader else stored

/-- An error is kept and reported only if the generator awaits. -/
def onError (status : Int) : Request :=
  if request.core.downloaderHandle then
    { request with core := request.core.setUvStatus status }.wakeDownloader
  else
    request

/-- What `checkCurlInfo()` does about one message. -/
def readDone (done : Done) : Request :=
  { request with core := request.core.record done }.onError 0

/-- `co_yield` suspends the generator. -/
def coYield (chunk : String) : Request :=
  { request with
    position := .atYield, enqueued := false, yielded := request.yielded ++ [chunk] }

/-- The generator leaves its loop and ends. -/
def finish : Request :=
  { request with position := .ended request.core.ending, enqueued := false }

/-- The generator goes on in `await_resume()`. -/
def resumed : Request :=
  match request.core.awaitResume with
  | (some chunk, core) => { request with core }.coYield chunk
  | (none, core) => { request with core }.finish

/-- The generator goes on at `co_await *core_`, whose `checkCurlInfo()` has been executed. -/
def await : Request :=
  if request.core.awaitReady then
    request.resumed
  else
    { request with
      core := { request.core with downloaderHandle := true }
      position := .awaiting, enqueued := false }

end Request

end Uvco.Curl
