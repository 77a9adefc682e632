import Mathlib.Logic.Function.Basic
import Mathlib.Data.List.Nodup
import Uvco.Library.Transition

/-!
# The handles of `UvCurlContext_`

libcurl says which sockets it wants to be watched and when to call it again;
`UvCurlContext_` keeps a poll handle for each socket and one timer for this. This file
models the handles over the whole life of a context: the callbacks of libcurl and of
libuv, `close()`, the destructor, and the requests that come and go.

libcurl may call back whenever there is a `multi_`. While a request is destroyed, it
takes the request off its sockets; here, these are steps of their own. A function of
libcurl that is given a null `multi_` does nothing. The context does not look at what
`uv_poll_init_socket` and `uv_poll_start` return; here, they succeed.
-/

namespace Uvco.Curl

/-- `CURL_POLL_IN`, `CURL_POLL_OUT` and `CURL_POLL_INOUT`. -/
inductive Interest where
  | pollIn
  | pollOut
  | pollInOut
deriving DecidableEq, Repr

/-- `UV_READABLE` and `UV_WRITABLE`. -/
structure Events where
  readable : Bool
  writable : Bool
deriving DecidableEq, Repr

/-- `watchFor` in `curlSocketFunction`. -/
def Interest.watchFor (interest : Interest) : Events where
  writable := interest ≠ .pollIn
  readable := interest ≠ .pollOut

/-- An entry of `polls_`, with its `uv_poll_t`. -/
structure PollCtx where
  socket : ℕ
  request : ℕ
  /-- Between `uv_poll_start` and `uv_poll_stop`. -/
  watched : Option Events := none
deriving DecidableEq, Repr

/-- A multi handle of libcurl. -/
structure Multi where
  /-- What libcurl has asked for last. -/
  interest : ℕ → Option Interest := fun _ => none
  /-- The requests that use a socket. -/
  users : ℕ → List ℕ := fun _ => []
  timeout : Option ℕ := none

namespace Multi

variable (multi : Multi)

/-- A request asks for a socket to be watched, and uses it from now on. -/
def ask (request socket : ℕ) (interest : Interest) : Multi :=
  { multi with
    interest := Function.update multi.interest socket (some interest)
    users := Function.update multi.users socket (request :: multi.users socket) }

/-- libcurl does not use the socket any more. -/
def remove (socket : ℕ) : Multi :=
  { multi with
    interest := Function.update multi.interest socket none
    users := Function.update multi.users socket [] }

/-- A request gives up a socket that others may still use. -/
def leave (request socket : ℕ) : Multi :=
  { multi with
    users := Function.update multi.users socket ((multi.users socket).filter (· ≠ request)) }

end Multi

/-- `UvCurlContext_`, with what has happened to its handles. -/
structure UvCurlContext where
  /-- `multi_`, or null. -/
  multi : Option Multi := some {}
  polls : List PollCtx := []
  /-- `timer_`, or null; the time it is armed for. -/
  timer : Option (Option ℕ) := some none
  /-- The poll handles that were passed to `uv_close`. -/
  closedPolls : List PollCtx := []
  closedTimers : ℕ := 0
  /-- The sockets that `uv_poll_init_socket` was called for, in order. -/
  initialized : List ℕ := []
  /-- libuv has reported an error for a socket, and does not watch it any more. -/
  failed : ℕ → Bool := fun _ => false
  /-- All requests, and those that were not destroyed. -/
  created : List ℕ := []
  alive : List ℕ := []
  /-- The requests whose `downloaderHandle_` is set. -/
  waiting : ℕ → Bool := fun _ => false
  closeCalls : ℕ := 0
  destroyed : Bool := false
  /-- A request was awaited after the context was destroyed. -/
  orphaned : Bool := false
  /-- A request was awaited, and not ready, while its `downloaderHandle_` was set. -/
  awaitedTwice : Bool := false
  /-- A request was made, awaited or destroyed between `close()` and the destructor. -/
  usedClosed : Bool := false
  /-- libcurl was given a null `multi_`. -/
  nullMulti : Bool := false
  /-- An assertion failed, or the timer was set that is null after `close()`. -/
  fault : Bool := false

namespace UvCurlContext

variable (context : UvCurlContext)

/-- `polls_.find(socket)`. -/
def find (socket : ℕ) : Option PollCtx :=
  context.polls.find? (·.socket = socket)

/-- What libuv watches a socket for. -/
def watched (socket : ℕ) : Option Events :=
  (context.find socket).bind PollCtx.watched

/-- The entry of a socket is changed. -/
def modify (socket : ℕ) (change : PollCtx → PollCtx) : UvCurlContext :=
  { context with
    polls := context.polls.map fun poll => if poll.socket = socket then change poll else poll }

/-- The handle of a socket is started or stopped. -/
def watch (socket : ℕ) (watched : Option Events) : UvCurlContext :=
  context.modify socket ({ · with watched })

/-- The poll handle of the socket leads to this request from now on. -/
def associate (socket request : ℕ) : UvCurlContext :=
  context.modify socket ({ · with request })

/-- `initPoll`: makes a poll handle for a new socket, and leads it to the request in any case. -/
def initPoll (request newSocket : ℕ) : UvCurlContext :=
  if (context.find newSocket).isSome then context.associate newSocket request
  else { context with
    polls := context.polls ++ [{ socket := newSocket, request }]
    initialized := context.initialized ++ [newSocket] }

/-- `uvStartPoll`; the socket must have a poll handle. -/
def uvStartPoll (socket : ℕ) (events : Events) : UvCurlContext :=
  { context.watch socket (some events) with
    failed := Function.update context.failed socket false
    -- `BOOST_ASSERT(it != polls_.end())`.
    fault := context.fault || (context.find socket).isNone }

/-- `uvStopPoll`; without a poll handle nothing happens. -/
def uvStopPoll (socket : ℕ) : UvCurlContext :=
  { context.watch socket none with
    failed := Function.update context.failed socket false }

/-- `curlSocketFunction` with one of the three interests; `request` is the private data of the
easy handle. -/
def curlSocketFunction (request socket : ℕ) (interest : Interest) : UvCurlContext :=
  let asked : UvCurlContext :=
    { context with multi := context.multi.map (·.ask request socket interest) }
  (asked.initPoll request socket).uvStartPoll socket interest.watchFor

/-- `curlSocketFunction` with `CURL_POLL_REMOVE`: nobody uses the socket any more. -/
def curlPollRemove (socket : ℕ) : UvCurlContext :=
  let asked : UvCurlContext := { context with multi := context.multi.map (·.remove socket) }
  asked.uvStopPoll socket

/-- A request does not use a socket any more; libcurl says nothing if others do. -/
def leave (request socket : ℕ) : UvCurlContext :=
  { context with multi := context.multi.map (·.leave request socket) }

/-- `curlTimerFunction`. -/
def curlTimerFunction (timeoutMs : Int) : UvCurlContext :=
  let timeout := if timeoutMs < 0 then none else some timeoutMs.toNat
  { context with
    multi := context.multi.map fun multi => { multi with timeout }
    timer := context.timer.map fun _ => timeout
    fault := context.fault || context.timer.isNone }

/-- The timer has expired; it does not repeat. -/
def onUvTimeout : UvCurlContext :=
  { context with
    multi := context.multi.map fun multi => { multi with timeout := none }
    timer := context.timer.map fun _ => none
    nullMulti := context.nullMulti || context.multi.isNone }

/-- libuv calls `onCurlSocketActive`. It has stopped the handle if there is an error, and then
the request of the socket is looked up. -/
def onCurlSocketActive (socket : ℕ) (status : Int) : UvCurlContext :=
  if status ≠ 0 then
    { context.watch socket none with
      failed := Function.update context.failed socket true
      -- `BOOST_ASSERT(it != polls_.end())` in `getRequest()`.
      fault := context.fault || (context.find socket).isNone }
  else { context with nullMulti := context.nullMulti || context.multi.isNone }

/-- `curl_multi_cleanup`, and all poll handles are closed. -/
def closePolls : UvCurlContext :=
  { context with
    multi := none
    polls := []
    closedPolls := context.closedPolls ++ context.polls.map ({ · with watched := none }) }

/-- `closeHandle()` for the timer. -/
def closeTimer : UvCurlContext :=
  { context with timer := none, closedTimers := context.closedTimers + 1 }

/-- `close()`, which closes the timer even if there is none left. -/
def close : UvCurlContext :=
  let closed : UvCurlContext := { context.closePolls with closeCalls := context.closeCalls + 1 }
  -- `BOOST_ASSERT(handle != nullptr)` in `closeHandle()`.
  if closed.timer.isNone then { closed with fault := true } else closed.closeTimer

/-- `~UvCurlContext_`. -/
def destroy : UvCurlContext :=
  let closed : UvCurlContext := { context.closePolls with destroyed := true }
  if closed.timer.isNone then closed else closed.closeTimer

/-- A request calls libcurl: `addHandle`, `removeHandle` or `checkCurlInfo`. -/
def use : UvCurlContext :=
  { context with
    nullMulti := context.nullMulti || context.multi.isNone
    usedClosed := context.usedClosed || decide (0 < context.closeCalls) }

/-- `Curl::get` and `Curl::post`. -/
def request (id : ℕ) : UvCurlContext :=
  { context.use with created := id :: context.created, alive := id :: context.alive }

/-- `~CurlRequestCore_`, which looks whether there is a context. -/
def destroyRequest (id : ℕ) : UvCurlContext :=
  let removed := if context.destroyed then context else context.use
  { removed with alive := context.alive.filter (· ≠ id) }

/-- `await_suspend`. -/
def suspend (id : ℕ) : UvCurlContext :=
  { context with
    waiting := Function.update context.waiting id true
    awaitedTwice := context.awaitedTwice || context.waiting id
    -- `BOOST_ASSERT(!downloaderHandle_)`.
    fault := context.fault || context.waiting id }

/-- `await_ready`, apart from what it returns. -/
def awaitReady : UvCurlContext :=
  -- `BOOST_ASSERT_MSG(!context_.expired(), …)`.
  if context.destroyed then { context with orphaned := true, fault := true } else context.use

/-- `co_await *core_` in a generator of the request. -/
def await (id : ℕ) (ready : Bool) : UvCurlContext :=
  if ready then context.awaitReady else context.awaitReady.suspend id

/-- `onDataAvailable` or `onError` takes the `downloaderHandle_` of a request and enqueues it. -/
def wake (id : ℕ) : UvCurlContext :=
  { context with waiting := Function.update context.waiting id false }

/-- What the program, libuv and libcurl can do next. -/
inductive Action where
  | request (id : ℕ)
  /-- The request has a chunk or a response code if it is ready. -/
  | await (id : ℕ) (ready : Bool)
  | wake (id : ℕ)
  | destroyRequest (id : ℕ)
  | curlSocketFunction (id socket : ℕ) (interest : Interest)
  | curlPollRemove (socket : ℕ)
  | leave (id socket : ℕ)
  | curlTimerFunction (timeoutMs : Int)
  | onUvTimeout
  | onCurlSocketActive (socket : ℕ) (status : Int)
  | close
  | destroy
deriving DecidableEq, Repr

namespace Action

/-- What holds of the multi handle, if there is one. -/
def OfMulti (context : UvCurlContext) (Property : Multi → Prop) : Prop :=
  ∃ multi, context.multi = some multi ∧ Property multi

/-- libcurl calls back for requests that exist, and removes a socket before it takes the last
request off it. libuv calls back for handles that are active. -/
def Enabled (context : UvCurlContext) : Action → Prop
  | .request id => context.destroyed = false ∧ id ∉ context.created
  | .await id _ => id ∈ context.alive
  | .wake id => id ∈ context.alive ∧ context.waiting id = true
  | .destroyRequest id => id ∈ context.alive ∧
      ∀ multi, context.multi = some multi → ∀ socket, id ∉ multi.users socket
  | .curlSocketFunction id _ _ => context.multi.isSome = true ∧ id ∈ context.alive
  | .curlPollRemove _ | .curlTimerFunction _ => context.multi.isSome = true
  | .leave id socket => OfMulti context fun multi => id ∈ multi.users socket ∧
      ∃ other ∈ multi.users socket, other ≠ id
  | .onUvTimeout => (context.timer.bind id).isSome = true
  | .onCurlSocketActive socket _ => (context.watched socket).isSome = true
  | .close | .destroy => context.destroyed = false

/-- The context after an action. -/
def perform (context : UvCurlContext) : Action → UvCurlContext
  | .request id => context.request id
  | .await id ready => context.await id ready
  | .wake id => context.wake id
  | .destroyRequest id => context.destroyRequest id
  | .curlSocketFunction id socket interest => context.curlSocketFunction id socket interest
  | .curlPollRemove socket => context.curlPollRemove socket
  | .leave id socket => context.leave id socket
  | .curlTimerFunction timeoutMs => context.curlTimerFunction timeoutMs
  | .onUvTimeout => context.onUvTimeout
  | .onCurlSocketActive socket status => context.onCurlSocketActive socket status
  | .close => context.close
  | .destroy => context.destroy

end Action

/-- One context over its whole life. -/
def system : TransitionSystem UvCurlContext Action where
  Initial context := context = {}
  Enabled context action := action.Enabled context
  perform context action := action.perform context

/-! ## What is claimed of a context -/

/-- What libcurl and libuv rely on. -/
structure Sound (context : UvCurlContext) : Prop where
  /-- libuv watches a socket for what libcurl has asked for last, unless it has reported an error
  for it since: then it watches it no more. -/
  watching : ∀ multi, context.multi = some multi → ∀ socket, context.watched socket =
    if context.failed socket then none else (multi.interest socket).map Interest.watchFor
  /-- The timer is armed as libcurl has asked for. -/
  armed : ∀ multi, context.multi = some multi → context.timer = some multi.timeout
  /-- No socket has two poll handles. -/
  one_handle : (context.polls.map PollCtx.socket).Nodup
  /-- Every handle that was initialized is kept or was closed, once, and was stopped then; none is
  left without libcurl. -/
  closed_once : context.initialized.Nodup ∧
    context.initialized = (context.closedPolls ++ context.polls).map PollCtx.socket ∧
    1 = context.timer.toList.length + context.closedTimers
  stopped : ∀ poll ∈ context.closedPolls, poll.watched = none
  released : context.multi = none → context.polls = [] ∧ context.timer = none
  /-- No assertion fails, but for a second `close()`, requests that outlive the context, and
  requests that are awaited by two generators. -/
  fault_iff : context.fault = true ↔
    2 ≤ context.closeCalls ∨ context.orphaned = true ∨ context.awaitedTwice = true
  /-- libcurl is given a null `multi_` only by requests that are used after `close()`. -/
  nullMulti_iff : context.nullMulti = true ↔ context.usedClosed = true

/-! ## The entries of `polls_` -/

theorem find_socket {socket : ℕ} {poll : PollCtx} (found : context.find socket = some poll) :
    poll.socket = socket := by
  simpa using List.find?_some found

theorem find_modify (socket other : ℕ) {change : PollCtx → PollCtx}
    (keeps : ∀ poll, (change poll).socket = poll.socket) :
    (context.modify socket change).find other =
      (context.find other).map fun poll => if other = socket then change poll else poll := by
  have same_key : (fun poll : PollCtx =>
      decide ((if poll.socket = socket then change poll else poll).socket = other)) =
      fun poll => decide (poll.socket = other) := by
    funext poll
    split <;> simp [keeps]
  simp only [find, modify, List.find?_map, Function.comp_def, same_key]
  cases found : context.polls.find? (·.socket = other) with
  | none => rfl
  | some poll =>
      have socket_eq := context.find_socket found
      simp [socket_eq]

theorem find_watch (socket other : ℕ) (watched : Option Events) :
    (context.watch socket watched).find other =
      (context.find other).map fun poll =>
        if other = socket then { poll with watched } else poll :=
  context.find_modify socket other fun _ => rfl

theorem find_associate (socket request other : ℕ) :
    (context.associate socket request).find other =
      (context.find other).map fun poll =>
        if other = socket then { poll with request } else poll :=
  context.find_modify socket other fun _ => rfl

theorem watched_watch (socket other : ℕ) (watched : Option Events) :
    (context.watch socket watched).watched other =
      if other = socket ∧ (context.find socket).isSome = true then watched
      else context.watched other := by
  rw [UvCurlContext.watched, find_watch, UvCurlContext.watched]
  by_cases same : other = socket
  · subst same
    cases context.find other <;> simp
  · simp [same]

theorem initPoll_isSome (request socket : ℕ) :
    ((context.initPoll request socket).find socket).isSome = true := by
  unfold initPoll
  split
  · rename_i found
    rw [find_associate, Option.isSome_map]
    exact found
  · simp [find, List.find?_append]

/-- A handle that was just initialized is not active. -/
theorem initPoll_watched (request socket other : ℕ) :
    (context.initPoll request socket).watched other = context.watched other := by
  unfold initPoll
  split
  · rw [watched, find_associate, watched]
    cases context.find other with
    | none => rfl
    | some poll => by_cases same : other = socket <;> simp [same]
  · rename_i missing
    have missing : context.find socket = none := by simpa using missing
    simp only [watched, find, List.find?_append]
    by_cases same : socket = other
    · subst same
      have not_found : context.polls.find? (·.socket = socket) = none := missing
      simp [not_found]
    · cases context.polls.find? (·.socket = other) <;> simp [same]

theorem modify_sockets (socket : ℕ) {change : PollCtx → PollCtx}
    (keeps : ∀ poll, (change poll).socket = poll.socket) :
    (context.modify socket change).polls.map PollCtx.socket =
      context.polls.map PollCtx.socket := by
  simp only [modify, List.map_map]
  apply List.map_congr_left
  intro poll _
  simp only [Function.comp_apply]
  split <;> simp [keeps]

theorem watch_sockets (socket : ℕ) (watched : Option Events) :
    (context.watch socket watched).polls.map PollCtx.socket = context.polls.map PollCtx.socket :=
  context.modify_sockets socket fun _ => rfl

theorem find_none_iff (socket : ℕ) :
    context.find socket = none ↔ socket ∉ context.polls.map PollCtx.socket := by
  simp [find]

theorem initPoll_sockets (request socket : ℕ)
    (one_handle : (context.polls.map PollCtx.socket).Nodup)
    (initialized_eq : context.initialized = context.polls.map PollCtx.socket) :
    ((context.initPoll request socket).polls.map PollCtx.socket).Nodup ∧
      (context.initPoll request socket).initialized =
        (context.initPoll request socket).polls.map PollCtx.socket := by
  unfold initPoll
  split
  · have sockets_eq : (context.associate socket request).polls.map PollCtx.socket =
        context.polls.map PollCtx.socket := context.modify_sockets socket fun _ => rfl
    rw [sockets_eq]
    exact ⟨one_handle, initialized_eq⟩
  · rename_i missing
    have fresh : socket ∉ context.polls.map PollCtx.socket := by
      rw [← find_none_iff]
      simpa using missing
    refine ⟨?_, by simp [initialized_eq]⟩
    rw [List.map_append]
    exact one_handle.append (List.nodup_singleton _) (by simpa using fresh)

/-- Only the entries change. -/
theorem initPoll_frame (request socket : ℕ) :
    context.initPoll request socket = { context with
      polls := (context.initPoll request socket).polls
      initialized := (context.initPoll request socket).initialized } := by
  unfold initPoll
  split <;> rfl

theorem await_frame (id : ℕ) (ready : Bool) :
    ∃ waiting orphaned awaitedTwice usedClosed nullMulti fault, context.await id ready =
      { context with waiting, orphaned, awaitedTwice, usedClosed, nullMulti, fault } := by
  unfold await suspend awaitReady use
  split <;> split <;> exact ⟨_, _, _, _, _, _, rfl⟩

theorem destroyRequest_frame (id : ℕ) :
    ∃ usedClosed nullMulti, context.destroyRequest id =
      { context with alive := context.alive.filter (· ≠ id), usedClosed, nullMulti } := by
  unfold destroyRequest use
  split <;> exact ⟨_, _, rfl⟩

/-! ## One context over its whole life -/

/-- `Sound`, with what the context knows about its own end. -/
structure Invariant (context : UvCurlContext) : Prop extends context.Sound where
  with_multi : ∀ multi, context.multi = some multi →
    context.closeCalls = 0 ∧ context.destroyed = false ∧ context.closedPolls = []
  without_multi : context.multi = none → 1 ≤ context.closeCalls ∨ context.destroyed = true
  orphaned_destroyed : context.orphaned = true → context.destroyed = true

namespace Invariant

variable {context : UvCurlContext}

/-- As long as there is a `multi_`, there is a timer, and nothing was closed. -/
theorem in_use (invariant : context.Invariant) (in_use : context.multi.isSome = true) :
    ∃ multi, context.multi = some multi ∧ context.timer = some multi.timeout ∧
      context.closeCalls = 0 ∧ context.destroyed = false ∧
      context.initialized = context.polls.map PollCtx.socket := by
  rcases Option.isSome_iff_exists.mp in_use with ⟨multi, multi_eq⟩
  rcases invariant.with_multi multi multi_eq with ⟨not_closed, not_destroyed, none_closed⟩
  refine ⟨multi, multi_eq, invariant.armed multi multi_eq, not_closed, not_destroyed, ?_⟩
  rw [invariant.closed_once.2.1, none_closed, List.nil_append]

/-- libuv calls back as long as there is a `multi_`. -/
theorem multi_of_polls (invariant : context.Invariant) {socket : ℕ}
    (found : (context.find socket).isSome = true) : context.multi.isSome = true := by
  by_contra no_multi
  rcases invariant.released (by simpa using no_multi) with ⟨no_polls, -⟩
  simp [find, no_polls] at found

theorem found_of_watched {socket : ℕ} (watched : (context.watched socket).isSome = true) :
    (context.find socket).isSome = true := by
  rw [UvCurlContext.watched] at watched
  cases found : context.find socket with
  | none => simp [found] at watched
  | some poll => rfl

/-- libcurl has asked for something, and the handles of the context do what it has asked for. -/
theorem asks (invariant : context.Invariant) {multi changed : Multi} {polls : List PollCtx}
    {timer : Option (Option ℕ)} {failed : ℕ → Bool} {initialized : List ℕ}
    (multi_eq : context.multi = some multi)
    (watching : ∀ socket, ({ context with polls } : UvCurlContext).watched socket =
      if failed socket then none else (changed.interest socket).map Interest.watchFor)
    (one_handle : (polls.map PollCtx.socket).Nodup)
    (initialized_eq : initialized = polls.map PollCtx.socket)
    (armed : timer = some changed.timeout) :
    ({ context with multi := some changed, polls, timer, failed, initialized } :
      UvCurlContext).Invariant := by
  rcases invariant.with_multi multi multi_eq with ⟨not_closed, not_destroyed, none_closed⟩
  rcases invariant.closed_once with ⟨-, -, timers_closed⟩
  refine ⟨⟨?_, ?_, one_handle, ⟨initialized_eq ▸ one_handle, ?_, ?_⟩, invariant.stopped, nofun,
    invariant.fault_iff, invariant.nullMulti_iff⟩,
    fun _ _ => ⟨not_closed, not_destroyed, none_closed⟩, nofun, invariant.orphaned_destroyed⟩
  · rintro other ⟨⟩
    exact watching
  · rintro other ⟨⟩
    exact armed
  · rw [none_closed]
    exact initialized_eq
  · rw [invariant.armed multi multi_eq] at timers_closed
    rw [armed]
    exact timers_closed

theorem curlSocketFunction (invariant : context.Invariant) (id socket : ℕ) (interest : Interest)
    (in_use : context.multi.isSome = true) :
    (context.curlSocketFunction id socket interest).Invariant := by
  rcases invariant.in_use in_use with ⟨multi, multi_eq, timer_eq, -, -, initialized_before⟩
  let asked : UvCurlContext :=
    { context with multi := context.multi.map (·.ask id socket interest) }
  have found := asked.initPoll_isSome id socket
  have watched_eq := asked.initPoll_watched id socket
  rcases asked.initPoll_sockets id socket invariant.one_handle initialized_before with
    ⟨one_handle, initialized_eq⟩
  obtain ⟨polls, initialized, opened_eq⟩ : ∃ polls initialized,
      asked.initPoll id socket = { asked with polls, initialized } :=
    ⟨_, _, asked.initPoll_frame id socket⟩
  rw [opened_eq] at found watched_eq one_handle initialized_eq
  let opened : UvCurlContext := { asked with polls, initialized }
  have after_eq : context.curlSocketFunction id socket interest = { context with
      multi := some (multi.ask id socket interest)
      polls := (opened.watch socket (some interest.watchFor)).polls
      failed := Function.update context.failed socket false
      initialized } := by
    change (asked.initPoll id socket).uvStartPoll socket interest.watchFor = _
    have not_missing : (opened.find socket).isNone = false := by simpa using found
    rw [opened_eq, uvStartPoll, not_missing]
    simp [watch, modify, opened, asked, multi_eq]
  rw [after_eq]
  apply invariant.asks multi_eq
  case watching =>
    intro other
    have watched_after := opened.watched_watch socket other (some interest.watchFor)
    change (opened.watch socket (some interest.watchFor)).watched other = _
    rw [watched_after]
    by_cases same : other = socket
    · subst same
      simp [found, opened, Multi.ask]
    · have unchanged := (watched_eq other).trans (invariant.watching multi multi_eq other)
      simpa [same, Multi.ask] using unchanged
  case one_handle =>
    rw [watch_sockets]
    exact one_handle
  case initialized_eq =>
    rw [watch_sockets]
    exact initialized_eq
  case armed => exact timer_eq

theorem curlPollRemove (invariant : context.Invariant) (socket : ℕ)
    (in_use : context.multi.isSome = true) : (context.curlPollRemove socket).Invariant := by
  rcases invariant.in_use in_use with ⟨multi, multi_eq, timer_eq, -, -, initialized_eq⟩
  have after_eq : context.curlPollRemove socket = { context with
      multi := some (multi.remove socket)
      polls := (context.watch socket none).polls
      failed := Function.update context.failed socket false } := by
    simp [UvCurlContext.curlPollRemove, uvStopPoll, watch, modify, multi_eq]
  rw [after_eq]
  apply invariant.asks multi_eq
  case watching =>
    intro other
    change (context.watch socket none).watched other = _
    rw [watched_watch]
    by_cases same : other = socket
    · subst same
      cases found : context.find other with
      | some poll => simp [Multi.remove]
      | none => simp [Multi.remove, UvCurlContext.watched, found]
    · simpa [same, Multi.remove] using invariant.watching multi multi_eq other
  case one_handle =>
    rw [watch_sockets]
    exact invariant.one_handle
  case initialized_eq =>
    rw [watch_sockets]
    exact initialized_eq
  case armed => exact timer_eq

/-- The timer is started or stopped. -/
theorem sets_timer (invariant : context.Invariant) {multi : Multi}
    (multi_eq : context.multi = some multi) (timeout : Option ℕ) :
    ({ context with multi := some { multi with timeout }, timer := some timeout } :
      UvCurlContext).Invariant := by
  rcases invariant.in_use (by simp [multi_eq]) with ⟨-, -, -, -, -, initialized_eq⟩
  apply invariant.asks multi_eq
  case watching => exact invariant.watching multi multi_eq
  case one_handle => exact invariant.one_handle
  case initialized_eq => exact initialized_eq
  case armed => rfl

theorem curlTimerFunction (invariant : context.Invariant) (timeoutMs : Int)
    (in_use : context.multi.isSome = true) : (context.curlTimerFunction timeoutMs).Invariant := by
  rcases invariant.in_use in_use with ⟨multi, multi_eq, timer_eq, -⟩
  have armed := invariant.sets_timer multi_eq (if timeoutMs < 0 then none else some timeoutMs.toNat)
  simpa [UvCurlContext.curlTimerFunction, multi_eq, timer_eq] using armed

theorem onUvTimeout (invariant : context.Invariant)
    (armed : (context.timer.bind id).isSome = true) : context.onUvTimeout.Invariant := by
  have in_use : context.multi.isSome = true := by
    by_contra no_multi
    have no_timer := (invariant.released (by simpa using no_multi)).2
    simp [no_timer] at armed
  rcases invariant.in_use in_use with ⟨multi, multi_eq, timer_eq, -⟩
  have expired := invariant.sets_timer multi_eq none
  simpa [UvCurlContext.onUvTimeout, multi_eq, timer_eq] using expired

theorem onCurlSocketActive (invariant : context.Invariant) (socket : ℕ) (status : Int)
    (watched : (context.watched socket).isSome = true) :
    (context.onCurlSocketActive socket status).Invariant := by
  have found := found_of_watched watched
  rcases invariant.in_use (invariant.multi_of_polls found) with
    ⟨multi, multi_eq, timer_eq, -, -, initialized_eq⟩
  unfold UvCurlContext.onCurlSocketActive
  split
  · have not_missing : (context.find socket).isNone = false := by simpa using found
    have after_eq : ({ context.watch socket none with
        failed := Function.update context.failed socket true
        fault := context.fault || (context.find socket).isNone } : UvCurlContext) =
      { context with
        multi := some multi
        polls := (context.watch socket none).polls
        failed := Function.update context.failed socket true } := by
      rw [not_missing]
      simp [watch, modify, multi_eq]
    rw [after_eq]
    apply invariant.asks multi_eq
    case watching =>
      intro other
      change (context.watch socket none).watched other = _
      rw [watched_watch]
      by_cases same : other = socket
      · simp [same, found]
      · simpa [same] using invariant.watching multi multi_eq other
    case one_handle =>
      rw [watch_sockets]
      exact invariant.one_handle
    case initialized_eq =>
      rw [watch_sockets]
      exact initialized_eq
    case armed => exact timer_eq
  · have has_multi : (context.nullMulti || context.multi.isNone) = context.nullMulti := by
      simp [multi_eq]
    rw [has_multi]
    exact invariant

/-- `curl_multi_cleanup`, and the handles are closed. -/
theorem closes (invariant : context.Invariant) (closeCalls : ℕ) (destroyed fault : Bool)
    (released : 1 ≤ closeCalls ∨ destroyed = true)
    (still_destroyed : context.destroyed = true → destroyed = true)
    (fault_iff : fault = true ↔
      2 ≤ closeCalls ∨ context.orphaned = true ∨ context.awaitedTwice = true) :
    ({ context.closePolls with
      timer := none
      closedTimers := context.closedTimers + context.timer.toList.length
      closeCalls, destroyed, fault } : UvCurlContext).Invariant := by
  rcases invariant.closed_once with ⟨once, polls_closed, timers_closed⟩
  refine ⟨⟨nofun, nofun, List.nodup_nil, ⟨once, ?_, ?_⟩, fun poll poll_mem => ?_,
    fun _ => ⟨rfl, rfl⟩, fault_iff, invariant.nullMulti_iff⟩, nofun, fun _ => released,
    fun orphaned => ?_⟩
  · simpa [closePolls, Function.comp_def] using polls_closed
  · simp only [Option.toList_none, List.length_nil]
    omega
  · rcases List.mem_append.mp poll_mem with earlier | latest
    · exact invariant.stopped poll earlier
    · rcases List.mem_map.mp latest with ⟨closed, -, rfl⟩
      rfl
  · exact still_destroyed (invariant.orphaned_destroyed orphaned)

theorem not_orphaned (invariant : context.Invariant) (not_destroyed : context.destroyed = false) :
    context.orphaned = false := by
  by_contra orphaned
  have destroyed := invariant.orphaned_destroyed (by simpa using orphaned)
  exact nomatch not_destroyed.symm.trans destroyed

/-- Without a timer, the context was closed or destroyed. -/
theorem multi_of_timer (invariant : context.Invariant) (no_timer : context.timer = none) :
    context.multi = none := by
  by_contra in_use
  rcases invariant.in_use (Option.isSome_iff_ne_none.mpr in_use) with ⟨multi, -, armed, -⟩
  exact nomatch no_timer.symm.trans armed

theorem multi_of_closed (invariant : context.Invariant) (closed : 1 ≤ context.closeCalls) :
    context.multi = none := by
  by_contra in_use
  rcases invariant.in_use (Option.isSome_iff_ne_none.mpr in_use) with ⟨multi, -, -, not_closed, -⟩
  omega

theorem close (invariant : context.Invariant) (not_destroyed : context.destroyed = false) :
    context.close.Invariant := by
  have not_orphaned := invariant.not_orphaned not_destroyed
  cases timer_eq : context.timer with
  | none =>
      -- `close()` was called before.
      have closed : 1 ≤ context.closeCalls :=
        (invariant.without_multi (invariant.multi_of_timer timer_eq)).resolve_right
          (by simp [not_destroyed])
      have closes := invariant.closes (context.closeCalls + 1) context.destroyed true
        (.inl (Nat.succ_pos _)) id (by simp; omega)
      simpa [UvCurlContext.close, closePolls, timer_eq] using closes
  | some due =>
      have not_closed : context.closeCalls = 0 := by
        by_contra closed
        have no_multi := invariant.multi_of_closed (Nat.one_le_iff_ne_zero.mpr closed)
        exact nomatch timer_eq.symm.trans (invariant.released no_multi).2
      have closes := invariant.closes (context.closeCalls + 1) context.destroyed context.fault
        (.inl (Nat.succ_pos _)) id (by simp [invariant.fault_iff, not_orphaned, not_closed])
      simpa [UvCurlContext.close, closePolls, closeTimer, timer_eq] using closes

theorem destroy (invariant : context.Invariant) : context.destroy.Invariant := by
  have closes := invariant.closes context.closeCalls true context.fault (.inr rfl) (fun _ => rfl)
    invariant.fault_iff
  cases timer_eq : context.timer <;>
    simpa [UvCurlContext.destroy, closePolls, closeTimer, timer_eq] using closes

theorem leave (invariant : context.Invariant) {id socket : ℕ}
    (in_use : context.multi.isSome = true) : (context.leave id socket).Invariant := by
  rcases invariant.in_use in_use with ⟨multi, multi_eq, timer_eq, -, -, initialized_eq⟩
  have left : ({ context with multi := some (multi.leave id socket) } :
      UvCurlContext).Invariant := by
    apply invariant.asks multi_eq
    case watching => exact invariant.watching multi multi_eq
    case one_handle => exact invariant.one_handle
    case initialized_eq => exact initialized_eq
    case armed => exact timer_eq
  simpa [UvCurlContext.leave, multi_eq] using left

/-- A request is created, awaited, woken or destroyed. -/
theorem requests (invariant : context.Invariant) (created alive : List ℕ) (waiting : ℕ → Bool) :
    ({ context with created, alive, waiting } : UvCurlContext).Invariant :=
  ⟨⟨invariant.watching, invariant.armed, invariant.one_handle, invariant.closed_once,
    invariant.stopped, invariant.released, invariant.fault_iff, invariant.nullMulti_iff⟩,
    invariant.with_multi, invariant.without_multi, invariant.orphaned_destroyed⟩

/-- Until the context is destroyed, there is a `multi_` exactly if it was not closed. -/
theorem multi_isNone (invariant : context.Invariant) (not_destroyed : context.destroyed = false) :
    context.multi.isNone = true ↔ 0 < context.closeCalls := by
  constructor
  · intro no_multi
    exact (invariant.without_multi (Option.isNone_iff_eq_none.mp no_multi)).resolve_right
      (by simp [not_destroyed])
  · exact fun closed => Option.isNone_iff_eq_none.mpr (invariant.multi_of_closed closed)

theorem use (invariant : context.Invariant) (not_destroyed : context.destroyed = false) :
    context.use.Invariant := by
  refine ⟨⟨invariant.watching, invariant.armed, invariant.one_handle, invariant.closed_once,
    invariant.stopped, invariant.released, invariant.fault_iff, ?_⟩, invariant.with_multi,
    invariant.without_multi, invariant.orphaned_destroyed⟩
  simp only [UvCurlContext.use, Bool.or_eq_true, decide_eq_true_eq, invariant.nullMulti_iff,
    invariant.multi_isNone not_destroyed]

theorem suspend (invariant : context.Invariant) (id : ℕ) : (context.suspend id).Invariant := by
  refine ⟨⟨invariant.watching, invariant.armed, invariant.one_handle, invariant.closed_once,
    invariant.stopped, invariant.released, ?_, invariant.nullMulti_iff⟩, invariant.with_multi,
    invariant.without_multi, invariant.orphaned_destroyed⟩
  simp only [UvCurlContext.suspend, Bool.or_eq_true, invariant.fault_iff, or_assoc]

theorem orphan (invariant : context.Invariant) (destroyed : context.destroyed = true) :
    ({ context with orphaned := true, fault := true } : UvCurlContext).Invariant :=
  ⟨⟨invariant.watching, invariant.armed, invariant.one_handle, invariant.closed_once,
    invariant.stopped, invariant.released, by simp, invariant.nullMulti_iff⟩,
    invariant.with_multi, invariant.without_multi, fun _ => destroyed⟩

theorem await (invariant : context.Invariant) (id : ℕ) (ready : Bool) :
    (context.await id ready).Invariant := by
  have checked : context.awaitReady.Invariant := by
    unfold UvCurlContext.awaitReady
    split
    · rename_i destroyed
      exact invariant.orphan destroyed
    · rename_i not_destroyed
      exact invariant.use (by simpa using not_destroyed)
  unfold UvCurlContext.await
  split
  · exact checked
  · exact checked.suspend id

theorem destroyRequest (invariant : context.Invariant) (id : ℕ) :
    (context.destroyRequest id).Invariant := by
  unfold UvCurlContext.destroyRequest
  split
  · exact invariant.requests _ _ _
  · rename_i not_destroyed
    exact (invariant.use (by simpa using not_destroyed)).requests _ _ _

theorem step (invariant : context.Invariant) {action : Action}
    (enabled : action.Enabled context) : (action.perform context).Invariant := by
  cases action with
  | request id => exact (invariant.use enabled.1).requests _ _ _
  | destroyRequest id => exact invariant.destroyRequest id
  | await id ready => exact invariant.await id ready
  | wake id => exact invariant.requests _ _ _
  | curlSocketFunction id socket interest =>
      exact invariant.curlSocketFunction id socket interest enabled.1
  | curlPollRemove socket => exact invariant.curlPollRemove socket enabled
  | leave id socket =>
      rcases enabled with ⟨multi, multi_eq, -⟩
      exact invariant.leave (by simp [multi_eq])
  | curlTimerFunction timeoutMs => exact invariant.curlTimerFunction timeoutMs enabled
  | onUvTimeout => exact invariant.onUvTimeout enabled
  | onCurlSocketActive socket status => exact invariant.onCurlSocketActive socket status enabled
  | close => exact invariant.close enabled
  | destroy => exact invariant.destroy

end Invariant

theorem invariant_of_reachable {context : UvCurlContext} (reached : system.Reachable context) :
    context.Invariant := by
  apply TransitionSystem.Reachable.invariant Invariant ?_ ?_ reached
  · rintro context rfl
    refine ⟨⟨?_, ?_, List.nodup_nil, ⟨List.nodup_nil, rfl, rfl⟩, nofun, nofun, by simp, by simp⟩,
      ?_, nofun, nofun⟩
    · rintro multi ⟨⟩ socket
      rfl
    · rintro multi ⟨⟩
      rfl
    · rintro multi ⟨⟩
      exact ⟨rfl, rfl, rfl⟩
  · exact fun context action invariant enabled => invariant.step enabled

/-- In every run, libuv does what libcurl has asked for, no handle is closed twice or forgotten,
and the only mistakes are a second `close()`, requests that are used after it or outlive the
context, and requests that are awaited twice at a time. -/
theorem sound_of_reachable {context : UvCurlContext} (reached : system.Reachable context) :
    context.Sound :=
  (invariant_of_reachable reached).toSound

/-- A socket is used, closed by libcurl and used again; a request is awaited by two generators;
`close()` is called twice, and a request is destroyed afterwards. -/
theorem sound_two_closes :
    ([.request 0, .await 0 false, .curlSocketFunction 0 7 .pollInOut, .curlTimerFunction 100,
      .onCurlSocketActive 7 0, .wake 0, .curlPollRemove 7, .request 1,
      .curlSocketFunction 1 7 .pollIn, .onCurlSocketActive 7 (-9), .curlPollRemove 7,
      .destroyRequest 1, .await 0 false, .await 0 false, .onUvTimeout, .close, .close,
      .destroyRequest 0, .destroy].foldl Action.perform ({} : UvCurlContext)).Sound := by
  have start : system.Reachable {} := .start rfl
  have first := start.step (Action.request 0) ⟨rfl, by decide⟩ trivial
  have awaited := first.step (Action.await 0 false) (show 0 ∈ [0] by decide) trivial
  have opened := awaited.step (Action.curlSocketFunction 0 7 .pollInOut) ⟨rfl, by decide⟩ trivial
  have armed := opened.step (Action.curlTimerFunction 100) rfl trivial
  have active := armed.step (Action.onCurlSocketActive 7 0) rfl trivial
  have woken := active.step (Action.wake 0) ⟨by decide, rfl⟩ trivial
  have removed := woken.step (Action.curlPollRemove 7) rfl trivial
  have second := removed.step (Action.request 1) ⟨rfl, by decide⟩ trivial
  have again := second.step (Action.curlSocketFunction 1 7 .pollIn) ⟨rfl, by decide⟩ trivial
  have failed := again.step (Action.onCurlSocketActive 7 (-9)) rfl trivial
  have gone := failed.step (Action.curlPollRemove 7) rfl trivial
  have unused : ∀ socket, 1 ∉ Function.update (Function.update (Function.update
      (Function.update (fun _ => []) 7 [0]) 7 []) 7 [1]) 7 ([] : List ℕ) socket := by
    intro socket
    by_cases same : socket = 7 <;> simp [Function.update, same]
  have destroyed := gone.step (Action.destroyRequest 1)
    ⟨by decide, by rintro multi ⟨⟩ socket; exact unused socket⟩ trivial
  have waits := destroyed.step (Action.await 0 false) (show 0 ∈ [0] by decide) trivial
  have waits_twice := waits.step (Action.await 0 false) (show 0 ∈ [0] by decide) trivial
  have expired := waits_twice.step Action.onUvTimeout rfl trivial
  have closed := expired.step Action.close rfl trivial
  have twice := closed.step Action.close rfl trivial
  have late := twice.step (Action.destroyRequest 0) ⟨by decide, nofun⟩ trivial
  exact sound_of_reachable (late.step Action.destroy rfl trivial)

end UvCurlContext

end Uvco.Curl
