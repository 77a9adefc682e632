import Mathlib.Logic.Function.Basic
import Uvco.Curl.Core
import Uvco.Library.Transition

/-!
# `UvCurlContext_`

All requests of a `Curl` object, with the callbacks of libuv, what libcurl does while
`curl_multi_socket_action` is executed, and the steps of the generators. A request is
named by a number. Every enqueued generator may be resumed next.
-/

namespace Uvco.Curl

/-- The callback that has called `curl_multi_socket_action`. -/
inductive Phase where
  | idle
  | inTimeout
  | inSocket
deriving DecidableEq, Repr

/-- The requests of a context, with what libcurl has to tell about them. -/
structure State where
  requests : ℕ → Option Request := fun _ => none
  /-- The messages that `curl_multi_info_read` will return. -/
  messages : List (ℕ × Done) := []
  /-- `polls_` leads from a socket to the request. -/
  polls : ℕ → Option ℕ := fun _ => none
  phase : Phase := .idle

namespace State

variable (state : State)

/-- Changes the request with this number, if there is one. -/
def modify (id : ℕ) (change : Request → Request) : State :=
  { state with requests := Function.update state.requests id ((state.requests id).map change) }

/-- `Curl::get` and `Curl::post`. -/
def request (id : ℕ) (url : String) : State :=
  { state with requests := Function.update state.requests id (some { core := { url } }) }

/-- `checkCurlInfo()`: reads all messages of libcurl, in order. -/
def checkCurlInfo : State :=
  state.messages.foldl (fun state message => state.modify message.1 (·.readDone message.2))
    { state with messages := [] }

/-- The generator of a request executes `co_await *core_`. -/
def coAwait (id : ℕ) : State :=
  state.checkCurlInfo.modify id Request.await

/-- The scheduler resumes the generator of a request. -/
def resume (id : ℕ) : State :=
  match (state.requests id).map Request.position with
  | some .awaiting => state.modify id Request.resumed
  | some .atYield => state.coAwait id
  | some .notStarted | some (.ended _) | none => state

/-- `getRequest(socket).onError(status)`. -/
def socketError (socket : ℕ) (status : Int) : State :=
  match state.polls socket with
  | some id =>
      state.modify id fun request =>
        { request with errors := request.errors ++ [status] }.onError status
  | none => state

/-- Reports an error to the request of the socket, or begins `curl_multi_socket_action`. -/
def onCurlSocketActive (socket : ℕ) (status : Int) : State :=
  if status ≠ 0 then state.socketError socket status else { state with phase := .inSocket }

/-- libcurl queues a `CURLMSG_DONE`. -/
def complete (id : ℕ) (done : Done) : State :=
  { state with messages := state.messages ++ [(id, done)] }.modify id
    ({ · with done := some done })

/-- `curl_multi_socket_action` returns, and the callback comes to its end. -/
def socketActionReturned : State :=
  match state.phase with
  | .inSocket => { state.checkCurlInfo with phase := .idle }
  | .inTimeout | .idle => { state with phase := .idle }

end State

/-- What the program, libuv and libcurl can do next. -/
inductive Action where
  | request (id : ℕ) (url : String)
  | start (id : ℕ)
  /-- The consumer has obtained the last chunk, and awaits the next one. -/
  | next (id : ℕ)
  | resume (id : ℕ)
  | onUvTimeout
  | onCurlSocketActive (socket : ℕ) (status : Int)
  | onCurlDataAvailable (id : ℕ) (data : String)
  | complete (id : ℕ) (done : Done)
  /-- `CURL_POLL_IN`, `CURL_POLL_OUT` or `CURL_POLL_INOUT`. -/
  | curlSocketFunction (socket id : ℕ)
  | socketActionReturned
deriving DecidableEq, Repr

namespace Action

/-- The request exists and has this property. -/
def Of (state : State) (id : ℕ) (Property : Request → Prop) : Prop :=
  ∃ request, state.requests id = some request ∧ Property request

/-- libcurl calls back only from within `curl_multi_socket_action`; the program acts in between. -/
def Enabled (state : State) : Action → Prop
  | .request id _ => state.phase = .idle ∧ state.requests id = none
  | .start id => state.phase = .idle ∧ Of state id fun request => request.position = .notStarted
  | .next id => state.phase = .idle ∧ Of state id fun request =>
      request.position = .atYield ∧ request.enqueued = false
  | .resume id => state.phase = .idle ∧ Of state id fun request => request.enqueued = true
  | .onUvTimeout => state.phase = .idle
  | .onCurlSocketActive socket _ => state.phase = .idle ∧ (state.polls socket).isSome = true
  | .onCurlDataAvailable id _ | .complete id _ =>
      state.phase ≠ .idle ∧ Of state id fun request => request.done = none
  | .curlSocketFunction _ id => state.phase ≠ .idle ∧ (state.requests id).isSome = true
  | .socketActionReturned => state.phase ≠ .idle

/-- The state after an action. -/
def perform (state : State) : Action → State
  | .request id url => state.request id url
  | .start id => state.coAwait id
  | .next id => state.modify id ({ · with enqueued := true })
  | .resume id => state.resume id
  | .onUvTimeout => { state with phase := .inTimeout }
  | .onCurlSocketActive socket status => state.onCurlSocketActive socket status
  | .onCurlDataAvailable id data => state.modify id (·.onDataAvailable data)
  | .complete id done => state.complete id done
  | .curlSocketFunction socket id =>
      { state with polls := Function.update state.polls socket (some id) }
  | .socketActionReturned => state.socketActionReturned

end Action

/-- All programs that use one `Curl` object, and all that libcurl and libuv can do. -/
def system : TransitionSystem State Action where
  Initial state := state = {}
  Enabled state action := action.Enabled state
  perform state action := action.perform state

/-! ## Messages -/

namespace State

variable {state : State} {id other : ℕ} {request : Request}

/-- The messages about a request that `checkCurlInfo` has not read. -/
def unread (state : State) (id : ℕ) : List Done :=
  (state.messages.filter (·.1 = id)).map (·.2)

@[simp]
theorem unread_modify (change : Request → Request) (other : ℕ) :
    (state.modify id change).unread other = state.unread other := rfl

theorem requests_modify_self (found : state.requests id = some request)
    (change : Request → Request) :
    (state.modify id change).requests id = some (change request) := by
  simp [modify, found]

/-- Nothing happens to a request that does not exist. -/
theorem modify_missing (missing : state.requests id = none) (change : Request → Request) :
    state.modify id change = state := by
  have unchanged : Function.update state.requests id none = state.requests := by
    rw [← missing, Function.update_eq_self]
  simp only [modify, missing, Option.map_none, unchanged]

theorem requests_modify_of_ne (different : other ≠ id) (change : Request → Request) :
    (state.modify id change).requests other = state.requests other := by
  simp [modify, different]

theorem requests_foldl (messages : List (ℕ × Done)) (state : State) (id : ℕ) :
    (messages.foldl (fun state message => state.modify message.1 (·.readDone message.2))
      state).requests id =
    (state.requests id).map
      (((messages.filter (·.1 = id)).map (·.2)).foldl Request.readDone ·) := by
  induction messages generalizing state with
  | nil => simp
  | cons message messages ih =>
      rw [List.foldl_cons, ih]
      rcases message with ⟨owner, done⟩
      by_cases same : owner = id
      · subst same
        simp [modify, Function.comp_def]
      · have different : id ≠ owner := fun eq => same eq.symm
        simp [modify, same, different]

theorem foldl_frame (messages : List (ℕ × Done)) (state : State) :
    let after := messages.foldl
      (fun state message => state.modify message.1 (·.readDone message.2)) state
    after.messages = state.messages ∧ after.polls = state.polls ∧ after.phase = state.phase := by
  induction messages generalizing state with
  | nil => exact ⟨rfl, rfl, rfl⟩
  | cons message messages ih => exact ih _

/-- Each request reads the messages about it. -/
theorem requests_checkCurlInfo (state : State) (id : ℕ) :
    state.checkCurlInfo.requests id =
      (state.requests id).map ((state.unread id).foldl Request.readDone ·) :=
  requests_foldl state.messages { state with messages := [] } id

theorem found_checkCurlInfo (found : state.requests id = some request) :
    state.checkCurlInfo.requests id =
      some ((state.unread id).foldl Request.readDone request) := by
  rw [requests_checkCurlInfo, found]
  rfl

@[simp]
theorem messages_checkCurlInfo (state : State) : state.checkCurlInfo.messages = [] :=
  (foldl_frame state.messages { state with messages := [] }).1

@[simp]
theorem phase_checkCurlInfo (state : State) : state.checkCurlInfo.phase = state.phase :=
  (foldl_frame state.messages { state with messages := [] }).2.2

@[simp]
theorem unread_checkCurlInfo (state : State) (id : ℕ) : state.checkCurlInfo.unread id = [] := by
  simp [unread]

theorem unread_complete_self (done : Done) :
    (state.complete id done).unread id = state.unread id ++ [done] := by
  simp [complete, unread, modify]

theorem unread_complete_of_ne (different : other ≠ id) (done : Done) :
    (state.complete id done).unread other = state.unread other := by
  have distinct : id ≠ other := fun eq => different eq.symm
  simp [complete, unread, modify, distinct]

end State

end Uvco.Curl
