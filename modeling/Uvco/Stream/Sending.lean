import Mathlib.Data.List.Forall2
import Uvco.Library.Outbox
import Uvco.Stream.Transfer
import Uvco.Stream.WriteRequests

/-!
# The bytes that `write()` sends

This file adds the buffers to the write side of a stream. `write()` moves its argument
into the request, which libuv keeps until it calls `onOutStreamWrite`: the buffer is
there even if the coroutine is not. libuv sends the buffers in the order of the calls of
`uv_write`, in pieces of any length, and completes the requests in this order. Nothing
is sent any more after `close()`, and the requests that are not complete are cancelled.

The write requests are numbered, so that a `write()` can be told from those before it
whose promises were dropped.
-/

namespace Uvco.Stream

/-- The status of a request that has failed. -/
abbrev WriteError := {status : Int // status < 0}

/-- What libuv passes to the callback. -/
def completionStatus : Outbox.Fate WriteError → Int
  | .waiting | .delivered => 0
  | .failed status => status

/-- libuv's queue of write requests, with the `UvWriteWithBuffer` of each. -/
abbrev WriteQueue := Outbox Byte WriteError

/-- What requests fail with that are left when the handle is closed. -/
def writeCanceled : WriteError := ⟨UV_ECANCELED, by decide⟩

/-- A stream with the buffers that it writes. -/
structure Sending where
  stream : State := {}
  outbox : WriteQueue := .empty
  /-- The buffers that `uv_write` has accepted, in order. -/
  accepted : List (List Byte) := []
  /-- The number of requests that libuv has completed. -/
  completed : ℕ := 0
  /-- The request of the suspended `write()`. -/
  writing : Option ℕ := none
  finished : List (ℕ × Ended) := []
  /-- The stream was shut down. -/
  isShutDown : Bool := false

namespace Sending

variable (sending : Sending)

/-- The calls of `write()` that have ended in a step. -/
def endedIn (after : State) : List Ended :=
  (after.endedAt .write).drop (sending.stream.endedAt .write).length

/-- The stream has taken a step. -/
def follow (after : State) : Sending :=
  { sending with
    stream := after
    writing := if (after.awaiter .write).isSome then sending.writing else none
    finished := sending.finished ++ sending.writing.toList.flatMap fun number =>
      (sending.endedIn after).map fun ended => (number, ended) }

/-- `write()`; `status` is the result of `uv_write`. -/
def write (coroutine : Handle) (buf : List Byte) (status : Int) : Sending :=
  let called : Sending :=
    if status < 0 then sending
    else { sending with
      outbox := sending.outbox.submit buf
      accepted := sending.accepted ++ [buf]
      writing := some sending.accepted.length }
  called.follow (sending.stream.write coroutine status)

/-- libuv hands the next bytes of the first request to the kernel. -/
def transmit (count : ℕ) : Sending :=
  { sending with outbox := sending.outbox.transmit count }

/-- libuv has sent the first request. -/
def deliver : Sending :=
  { sending with outbox := sending.outbox.deliver }

/-- libuv could not send the first request. -/
def fail (error : WriteError) : Sending :=
  { sending with outbox := sending.outbox.fail error }

/-- libuv completes the next request: it calls `onOutStreamWrite`. -/
def onOutStreamWrite (parcel : Outbox.Parcel Byte WriteError) : Sending :=
  let called : Sending := { sending with completed := sending.completed + 1 }
  called.follow (sending.stream.onOutStreamWrite 0 (completionStatus parcel.fate))

/-- libuv has shut the connection down, after the last request. -/
def onShutdown : Sending :=
  { sending with isShutDown := true }

/-- `close()`. -/
def close : Sending :=
  let released : Sending := { sending with outbox := sending.outbox.failAll writeCanceled }
  released.follow sending.stream.close

/-- What the program, libuv and the kernel can do next. -/
inductive Action where
  | write (coroutine : Handle) (buf : List Byte) (status : Int)
  | transmit (count : ℕ)
  | deliver
  | fail (error : WriteError)
  | onOutStreamWrite (parcel : Outbox.Parcel Byte WriteError)
  | onShutdown
  | close
  /-- A step that is not about the write requests in particular. -/
  | stream (action : Stream.Action)

namespace Action

/-- An open stream sends, in order; a request is completed when it was sent or has failed. -/
def Enabled (sending : Sending) : Action → Prop
  | .write coroutine _ status =>
      (Stream.Action.write coroutine status).Enabled sending.stream ∧
        (sending.isShutDown = true → status < 0)
  | .transmit _ | .deliver | .fail _ => sending.stream.isOpen = true
  | .onOutStreamWrite parcel => sending.outbox.settled[sending.completed]? = some parcel
  | .onShutdown => sending.stream.isOpen = true ∧ sending.outbox.waiting = []
  | .close => True
  | .stream action => action.Enabled sending.stream ∧
      match action with
      | .write .. | .onOutStreamWrite .. | .close => False
      | .read .. | .onInStreamRead .. | .drop _ | .resumeNext | .other _ => True

/-- The state after an action. -/
def perform (sending : Sending) : Action → Sending
  | .write coroutine buf status => sending.write coroutine buf status
  | .transmit count => sending.transmit count
  | .deliver => sending.deliver
  | .fail error => sending.fail error
  | .onOutStreamWrite parcel => sending.onOutStreamWrite parcel
  | .onShutdown => sending.onShutdown
  | .close => sending.close
  | .stream action => sending.follow (action.perform sending.stream)

end Action

/-- All programs around one stream, with the bytes they write. -/
def system : TransitionSystem Sending Action where
  Initial sending := sending = {}
  Enabled sending action := action.Enabled sending
  perform sending action := action.perform sending

/-- No more bytes will follow. -/
def IsFinished : Prop :=
  sending.isShutDown = true ∨ sending.stream.isOpen = false

/-- Only `close()` closes the stream. -/
theorem Action.stream_isOpen {sending : Sending} {action : Stream.Action}
    (enabled : (Action.stream action).Enabled sending) :
    (action.perform sending.stream).isOpen = sending.stream.isOpen := by
  rcases enabled with ⟨-, not_write⟩
  cases action with
  | read coroutine readable ready start => exact State.read_isOpen _ _ _ _ _
  | onInStreamRead nread => exact State.onInStreamRead_isOpen _ nread
  | drop point => exact State.drop_isOpen _ point
  | resumeNext => exact State.resumeNext_isOpen _
  | other action => rfl
  | write coroutine status => exact not_write.elim
  | onOutStreamWrite index status => exact not_write.elim
  | close => exact not_write.elim

/-! ## What is logged along a run -/

/-- libuv has settled a request, and passes this status to the callback. -/
def Settles (outbox : WriteQueue) (number : ℕ) (status : Int) : Prop :=
  ∃ parcel, outbox.settled[number]? = some parcel ∧ completionStatus parcel.fate = status

theorem Settles.mono {before after : WriteQueue} (continues : Outbox.Continues before after)
    {number : ℕ} {status : Int} (settles : Settles before number status) :
    Settles after number status := by
  rcases settles with ⟨parcel, found, status_eq⟩
  exact ⟨parcel, continues.found found, status_eq⟩

/-- If the callback reports success, all of the buffer was sent. -/
theorem Settles.whole {outbox : WriteQueue} {number : ℕ} {status : Int}
    (settles : Settles outbox number status) (success : 0 ≤ status) :
    ∃ parcel, outbox.parcels[number]? = some parcel ∧ parcel.piece = parcel.content := by
  rcases settles with ⟨parcel, found, status_eq⟩
  refine ⟨parcel, outbox.parcels_of_settled found, ?_⟩
  have sound := outbox.sound parcel (List.mem_of_getElem? found)
  apply parcel.piece_eq_content
  apply sound.whole
  cases fate_eq : parcel.fate with
  | waiting => exact absurd fate_eq sound.not_waiting
  | delivered => rfl
  | failed error =>
      rw [fate_eq] at status_eq
      have negative := error.property
      change (error : Int) = status at status_eq
      omega

/-- What the record of the buffers has to do with the requests of the stream. -/
structure Logged (sending : Sending) : Prop where
  reached : Stream.system.Reachable sending.stream
  current : sending.writing.isSome = (sending.stream.awaiter .write).isSome
  contents_eq : sending.outbox.contents = sending.accepted
  count : sending.completed + sending.stream.requests.length = sending.accepted.length
  /-- The request with a data pointer is that of the suspended `write()`. -/
  owner : ∀ (index : ℕ) (target : Handle),
    sending.stream.requests[index]? = some (some target) →
      sending.writing = some (sending.completed + index)
  reported : ∀ number awaiter status, sending.writing = some number →
    sending.stream.awaiter .write = some awaiter → awaiter.status = some status →
      Settles sending.outbox number status
  finished : ∀ number ended, (number, ended) ∈ sending.finished → ended.outcome = .written →
    ∃ status, 0 ≤ status ∧ Settles sending.outbox number status
  /-- Nothing waits to be sent on a stream that was closed or shut down. -/
  no_more : sending.IsFinished → sending.outbox.waiting = []

theorem follow_stays {after : State} {awaiter : Awaiter}
    (found : after.awaiter .write = some awaiter)
    (ended_eq : after.endedAt .write = sending.stream.endedAt .write) :
    sending.follow after = { sending with stream := after } := by
  simp [follow, found, endedIn, ended_eq]

theorem follow_gone {after : State} (gone : after.awaiter .write = none)
    (ended_eq : after.endedAt .write = sending.stream.endedAt .write) :
    sending.follow after = { sending with stream := after, writing := none } := by
  simp [follow, gone, endedIn, ended_eq]

theorem follow_ends {after : State} {number : ℕ} {ended : Ended}
    (current : sending.writing = some number) (gone : after.awaiter .write = none)
    (ended_eq : after.endedAt .write = sending.stream.endedAt .write ++ [ended]) :
    sending.follow after = { sending with
      stream := after
      writing := none
      finished := sending.finished ++ [(number, ended)] } := by
  simp [follow, current, gone, endedIn, ended_eq]

namespace Logged

variable {sending : Sending}

theorem current_of_found (logged : sending.Logged) {awaiter : Awaiter}
    (found : sending.stream.awaiter .write = some awaiter) :
    ∃ number, sending.writing = some number := by
  apply Option.isSome_iff_exists.mp
  rw [logged.current, found]
  rfl

/-- libuv sends something or settles a request. -/
theorem sends (logged : sending.Logged) {outbox : WriteQueue}
    (continues : Outbox.Continues sending.outbox outbox)
    (contents_eq : outbox.contents = sending.outbox.contents)
    (no_more : sending.IsFinished → outbox.waiting = []) :
    ({ sending with outbox } : Sending).Logged where
  reached := logged.reached
  current := logged.current
  contents_eq := contents_eq.trans logged.contents_eq
  count := logged.count
  owner := logged.owner
  reported number awaiter status current found is_reported :=
    (logged.reported number awaiter status current found is_reported).mono continues
  finished number ended ended_mem written := by
    rcases logged.finished number ended ended_mem written with ⟨status, success, settles⟩
    exact ⟨status, success, settles.mono continues⟩
  no_more := no_more

/-- What does not depend on how a step affects the suspended `write()`. -/
structure Moves (sending : Sending) (after : State) : Prop where
  reached : Stream.system.Reachable after
  cleared : Cleared sending.stream.requests after.requests
  no_more : after.isOpen = false → sending.outbox.waiting = []

/-- The `write()` that was suspended is gone, with or without a result. -/
theorem departs (logged : sending.Logged) {after : State} (moves : Moves sending after)
    (gone : after.awaiter .write = none) {finished : List (ℕ × Ended)}
    (sound : ∀ number ended, (number, ended) ∈ finished → ended.outcome = .written →
      ∃ status, 0 ≤ status ∧ Settles sending.outbox number status) :
    ({ sending with stream := after, writing := none, finished } : Sending).Logged where
  reached := moves.reached
  current := by simp [gone]
  contents_eq := logged.contents_eq
  count := by
    have count := logged.count
    rwa [← moves.cleared.length_eq] at count
  owner index target found := absurd found (State.data_of_nobody moves.reached gone index target)
  reported := by simp
  finished := sound
  no_more := by
    rintro (shut_down | closed)
    · exact logged.no_more (.inl shut_down)
    · exact moves.no_more closed

/-- A step that does not concern the suspended `write()`. -/
theorem idle (logged : sending.Logged) {after : State} (moves : Moves sending after)
    (same : after.awaiter .write = sending.stream.awaiter .write)
    (ended_eq : after.endedAt .write = sending.stream.endedAt .write) :
    (sending.follow after).Logged := by
  cases found : sending.stream.awaiter .write with
  | none =>
      rw [sending.follow_gone (same.trans found) ended_eq]
      exact logged.departs moves (same.trans found) logged.finished
  | some awaiter =>
      rw [sending.follow_stays (same.trans found) ended_eq]
      refine ⟨moves.reached, ?_, logged.contents_eq, ?_, fun index target data_found => ?_,
        fun number other status current other_found => ?_, logged.finished, ?_⟩
      · rw [same]
        exact logged.current
      · have count := logged.count
        rwa [← moves.cleared.length_eq] at count
      · exact logged.owner index target (moves.cleared.of_data index target data_found)
      · exact logged.reported number other status current (same.symm.trans other_found)
      · rintro (shut_down | closed)
        · exact logged.no_more (.inl shut_down)
        · exact moves.no_more closed

/-- A step of the stream that may end the suspended `write()`, but not call it back. -/
theorem follows (logged : sending.Logged) {action : Stream.Action} {after : State}
    (moves : Moves sending after) (progress : State.Progress sending.stream action after .write)
    (no_call : ∀ coroutine status, action ≠ .write coroutine status)
    (no_callback : ∀ index status, action ≠ .onOutStreamWrite index status) :
    (sending.follow after).Logged := by
  cases progress with
  | idle _ same ended_eq => exact logged.idle moves same ended_eq
  | begins awaiter start calls =>
      cases action with
      | write coroutine status => exact absurd rfl (no_call coroutine status)
      | _ => exact calls.elim
  | reported awaiter status calls =>
      cases action with
      | onOutStreamWrite index status => exact absurd rfl (no_callback index status)
      | _ => exact calls.elim
  | dropped awaiter drops found gone ended_eq =>
      rw [sending.follow_gone gone ended_eq]
      exact logged.departs moves gone logged.finished
  | resumed awaiter status _ found is_reported _ gone ended_eq =>
      rcases logged.current_of_found found with ⟨number, current⟩
      rw [sending.follow_ends current gone ended_eq]
      refine logged.departs moves gone fun other ended ended_mem written => ?_
      rcases List.mem_append.mp ended_mem with earlier | latest
      · exact logged.finished other ended earlier written
      · obtain ⟨rfl, rfl⟩ := Prod.mk.inj (List.mem_singleton.mp latest)
        refine ⟨status, ?_, logged.reported other awaiter status current found is_reported⟩
        by_contra negative
        simp [Stream.reported, writeOutcome, Int.not_le.mp negative] at written
  | closed awaiter _ found _ gone ended_eq =>
      rcases logged.current_of_found found with ⟨number, current⟩
      rw [sending.follow_ends current gone ended_eq]
      refine logged.departs moves gone fun other ended ended_mem written => ?_
      rcases List.mem_append.mp ended_mem with earlier | latest
      · exact logged.finished other ended earlier written
      · -- A `write()` that `close()` resumes throws.
        obtain ⟨rfl, rfl⟩ := Prod.mk.inj (List.mem_singleton.mp latest)
        simp [State.interrupted, writeOutcome, UV_ECANCELED] at written

/-- `uv_write` has accepted the request of a `write()`. -/
theorem accepts (logged : sending.Logged) {after : State} {awaiter : Awaiter} {buf : List Byte}
    (reached : Stream.system.Reachable after)
    (nobody : sending.stream.awaiter .write = none) (found : after.awaiter .write = some awaiter)
    (no_status : awaiter.status = none)
    (ended_eq : after.endedAt .write = sending.stream.endedAt .write)
    (requests_eq : after.requests = sending.stream.requests ++ [some awaiter.coroutine])
    (is_open : after.isOpen = true) (not_shut : sending.isShutDown = false) :
    (({ sending with
      outbox := sending.outbox.submit buf
      accepted := sending.accepted ++ [buf]
      writing := some sending.accepted.length } : Sending).follow after).Logged := by
  let called : Sending := { sending with
    outbox := sending.outbox.submit buf
    accepted := sending.accepted ++ [buf]
    writing := some sending.accepted.length }
  change (called.follow after).Logged
  have count := logged.count
  rw [called.follow_stays found ended_eq]
  refine ⟨reached, by simp [called, found], ?_, ?_, fun index target data_found => ?_,
    fun number other status current other_found is_reported => ?_,
    fun number ended ended_mem written => ?_, ?_⟩
  · rw [Outbox.contents_submit, logged.contents_eq]
  · rw [requests_eq, List.length_append, List.length_append]
    exact congrArg (· + 1) count
  · -- The other requests belong to calls that are gone.
    rw [requests_eq] at data_found
    by_cases earlier : index < sending.stream.requests.length
    · rw [List.getElem?_append_left earlier] at data_found
      exact absurd data_found (State.data_of_nobody logged.reached nobody index target)
    · have in_range := (List.getElem?_eq_some_iff.mp data_found).1
      rw [List.length_append, List.length_singleton] at in_range
      have index_eq : index = sending.stream.requests.length := by omega
      rw [index_eq]
      exact congrArg some count.symm
  · obtain rfl := Option.some.inj (found.symm.trans other_found)
    exact nomatch no_status.symm.trans is_reported
  · rcases logged.finished number ended ended_mem written with ⟨status, success, settles⟩
    exact ⟨status, success, settles.mono (Outbox.continues_submit buf)⟩
  · rintro (shut_down | closed)
    · exact nomatch not_shut.symm.trans shut_down
    · exact nomatch is_open.symm.trans closed

theorem write (logged : sending.Logged) {coroutine : Handle} {buf : List Byte} {status : Int}
    (enabled : (Action.write coroutine buf status).Enabled sending) :
    (sending.write coroutine buf status).Logged := by
  rcases enabled with ⟨possible, shut_down⟩
  rcases possible with ⟨is_open, nobody, running⟩
  have possible : (Stream.Action.write coroutine status).Enabled sending.stream :=
    ⟨is_open, nobody, running⟩
  have reached := State.reachable_perform logged.reached possible
  have still_open := (sending.stream.write_isOpen coroutine status).trans is_open
  have progress := State.step_progress logged.reached possible .write
  unfold Sending.write
  by_cases refused : status < 0
  · rw [if_pos refused]
    cases progress with
    | idle _ same ended_eq =>
        refine logged.idle ⟨reached, sending.stream.write_refused coroutine refused, ?_⟩ same
          ended_eq
        exact fun closed => nomatch still_open.symm.trans closed
    | begins awaiter start calls accepted =>
        obtain ⟨-, rfl⟩ := calls
        omega
    | reported awaiter _ calls => exact calls.elim
    | dropped awaiter drops => exact nomatch drops
    | resumed awaiter _ resumes => exact nomatch resumes
    | closed awaiter closes => exact nomatch closes
  · rw [if_neg refused]
    have accepted : 0 ≤ status := by omega
    have found := sending.stream.write_awaiter coroutine accepted
    have ended_eq : (sending.stream.write coroutine status).endedAt .write =
        sending.stream.endedAt .write := by
      cases progress with
      | idle _ _ ended_eq => exact ended_eq
      | begins _ _ _ _ _ _ _ _ _ ended_eq => exact ended_eq
      | reported awaiter _ calls => exact calls.elim
      | dropped awaiter drops => exact nomatch drops
      | resumed awaiter _ resumes => exact nomatch resumes
      | closed awaiter closes => exact nomatch closes
    apply logged.accepts reached nobody found rfl ended_eq
    · exact sending.stream.write_requests coroutine accepted
    · exact still_open
    · by_contra shut
      exact refused (shut_down (by simpa using shut))

/-- There are write requests left that libuv has not completed. -/
theorem possible_callback (logged : sending.Logged) {parcel : Outbox.Parcel Byte WriteError}
    (settled : sending.outbox.settled[sending.completed]? = some parcel) (status : Int) :
    (Stream.Action.onOutStreamWrite 0 status).Enabled sending.stream := by
  have in_range := (List.getElem?_eq_some_iff.mp settled).1
  have count := logged.count
  rw [← logged.contents_eq, Outbox.contents_length, Outbox.parcels_length] at count
  change 0 < sending.stream.requests.length
  omega

theorem onOutStreamWrite (logged : sending.Logged) {parcel : Outbox.Parcel Byte WriteError}
    (settled : sending.outbox.settled[sending.completed]? = some parcel) :
    (sending.onOutStreamWrite parcel).Logged := by
  have possible := logged.possible_callback settled (completionStatus parcel.fate)
  have reached := State.reachable_perform logged.reached possible
  have requests_eq := sending.stream.onOutStreamWrite_requests 0 (completionStatus parcel.fate)
  have open_eq := sending.stream.onOutStreamWrite_isOpen 0 (completionStatus parcel.fate)
  let called : Sending := { sending with completed := sending.completed + 1 }
  let after := sending.stream.onOutStreamWrite 0 (completionStatus parcel.fate)
  change (called.follow after).Logged
  have count : called.completed + after.requests.length = called.accepted.length := by
    have count := logged.count
    have nonempty : 0 < sending.stream.requests.length := possible
    rw [requests_eq, List.length_eraseIdx_of_lt nonempty]
    simp only [called]
    omega
  have owner : ∀ (index : ℕ) (target : Handle), after.requests[index]? = some (some target) →
      sending.writing = some (called.completed + index) := by
    intro index target found
    rw [requests_eq, List.eraseIdx_zero, List.getElem?_tail] at found
    rw [logged.owner (index + 1) target found]
    exact congrArg some (by simp only [called]; omega)
  have no_more : ∀ writing stream, stream.isOpen = after.isOpen →
      ({ called with stream, writing } : Sending).IsFinished → called.outbox.waiting = [] := by
    rintro writing stream same (shut_down | closed)
    · exact logged.no_more (.inl shut_down)
    · exact logged.no_more (.inr (open_eq.symm.trans (same.symm.trans closed)))
  have progress : State.Progress sending.stream
      (.onOutStreamWrite 0 (completionStatus parcel.fate)) after .write :=
    State.step_progress logged.reached possible .write
  cases progress with
  | begins awaiter start calls => exact calls.elim
  | dropped awaiter drops => exact nomatch drops
  | resumed awaiter _ resumes => exact nomatch resumes
  | closed awaiter closes => exact nomatch closes
  | idle _ same ended_eq =>
      cases found : sending.stream.awaiter .write with
      | none =>
          rw [called.follow_gone (same.trans found) ended_eq]
          have gone : after.awaiter .write = none := same.trans found
          exact ⟨reached, by simp [gone], logged.contents_eq, count,
            fun index target data_found =>
              absurd data_found (State.data_of_nobody reached gone index target),
            by simp, logged.finished, no_more none after rfl⟩
      | some awaiter =>
          rw [called.follow_stays (same.trans found) ended_eq]
          refine ⟨reached, ?_, logged.contents_eq, count, owner,
            fun number other status current other_found => ?_, logged.finished,
            no_more sending.writing after rfl⟩
          · exact logged.current.trans (congrArg Option.isSome same.symm)
          · exact logged.reported number other status current (same.symm.trans other_found)
  | reported awaiter status calls found no_status after_eq ended_eq =>
      obtain rfl : completionStatus parcel.fate = status := calls
      rw [called.follow_stays after_eq ended_eq]
      refine ⟨reached, ?_, logged.contents_eq, count, owner,
        fun number other status current other_found is_reported => ?_, logged.finished,
        no_more sending.writing after rfl⟩
      · rw [logged.current.trans (congrArg Option.isSome found)]
        exact (congrArg Option.isSome after_eq).symm
      · obtain rfl := Option.some.inj (after_eq.symm.trans other_found)
        obtain rfl := Option.some.inj is_reported
        -- Its awaiter was called back, so this was the request with the data pointer.
        have data : ∃ target, sending.stream.requests[0]? = some (some target) := by
          by_contra no_data
          have same := sending.stream.onOutStreamWrite_awaiter (completionStatus parcel.fate)
            fun target data_found => no_data ⟨target, data_found⟩
          have unchanged := (congrFun same Point.write).symm.trans after_eq
          rw [found] at unchanged
          have status_eq := congrArg Awaiter.status (Option.some.inj unchanged)
          exact nomatch no_status.symm.trans status_eq
        rcases data with ⟨target, data_found⟩
        have is_next := logged.owner 0 target data_found
        obtain rfl : sending.completed = number := Option.some.inj (is_next.symm.trans current)
        exact ⟨parcel, settled, rfl⟩

theorem close (logged : sending.Logged) : sending.close.Logged := by
  have released : ({ sending with outbox := sending.outbox.failAll writeCanceled } :
      Sending).Logged :=
    logged.sends (Outbox.continues_failAll _) (Outbox.contents_failAll _) fun _ => rfl
  have possible : Stream.Action.close.Enabled sending.stream := trivial
  have reached := State.reachable_perform logged.reached possible
  have progress := State.step_progress logged.reached possible .write
  exact released.follows ⟨reached, sending.stream.close_cleared, fun _ => rfl⟩ progress nofun nofun

theorem step (logged : sending.Logged) {action : Action} (enabled : action.Enabled sending) :
    (action.perform sending).Logged := by
  cases action with
  | write coroutine buf status => exact logged.write enabled
  | onOutStreamWrite parcel => exact logged.onOutStreamWrite enabled
  | close => exact logged.close
  | transmit count =>
      exact logged.sends (Outbox.continues_transmit count) (Outbox.contents_transmit count)
        logged.no_more
  | deliver =>
      apply logged.sends Outbox.continues_deliver Outbox.contents_deliver
      intro finished
      exact Outbox.waiting_deliver (logged.no_more finished)
  | fail error =>
      apply logged.sends (Outbox.continues_fail error) (Outbox.contents_fail error)
      intro finished
      exact Outbox.waiting_fail error (logged.no_more finished)
  | onShutdown =>
      exact ⟨logged.reached, logged.current, logged.contents_eq, logged.count, logged.owner,
        logged.reported, logged.finished, fun _ => enabled.2⟩
  | stream action =>
      rcases enabled with ⟨possible, not_write⟩
      refine logged.follows ⟨State.reachable_perform logged.reached possible, ?_, ?_⟩
        (State.step_progress logged.reached possible .write) ?_ ?_
      · cases action with
        | read coroutine readable ready start => exact State.read_cleared _ _ _ _ _
        | onInStreamRead nread =>
            change Cleared _ (sending.stream.onInStreamRead nread).requests
            rw [State.onInStreamRead_requests]
            exact .refl _
        | drop point => exact State.drop_cleared _ point
        | resumeNext => exact State.resumeNext_cleared _
        | other action => exact .refl _
        | write coroutine status => exact not_write.elim
        | onOutStreamWrite index status => exact not_write.elim
        | close => exact not_write.elim
      · have open_eq := Action.stream_isOpen ⟨possible, not_write⟩
        exact fun closed => logged.no_more (.inr (open_eq.symm.trans closed))
      · rintro coroutine status rfl
        exact not_write
      · rintro index status rfl
        exact not_write

end Logged

theorem logged_of_reachable {sending : Sending} (reached : system.Reachable sending) :
    sending.Logged := by
  apply TransitionSystem.Reachable.invariant Logged ?_ ?_ reached
  · rintro sending rfl
    exact ⟨.start rfl, rfl, rfl, rfl, by simp, by simp, by simp, fun _ => rfl⟩
  · exact fun sending action logged enabled => logged.step enabled

/-! ## After the last byte -/

theorem write_outbox (coroutine : Handle) (buf : List Byte) (status : Int) :
    (sending.write coroutine buf status).outbox =
      if status < 0 then sending.outbox else sending.outbox.submit buf := by
  unfold Sending.write
  split <;> rfl

/-- What was sent stays sent. -/
theorem continues_perform (action : Action) :
    Outbox.Continues sending.outbox (action.perform sending).outbox := by
  cases action with
  | write coroutine buf status =>
      change Outbox.Continues _ (sending.write coroutine buf status).outbox
      rw [write_outbox]
      split
      · exact .refl _
      · exact Outbox.continues_submit buf
  | transmit count => exact Outbox.continues_transmit count
  | deliver => exact Outbox.continues_deliver
  | fail error => exact Outbox.continues_fail error
  | close => exact Outbox.continues_failAll writeCanceled
  | onOutStreamWrite parcel => exact .refl _
  | onShutdown => exact .refl _
  | stream action => exact .refl _

/-- Nothing is sent after the stream was closed or shut down. -/
theorem Logged.still_finished {sending : Sending} (logged : sending.Logged) {action : Action}
    (enabled : action.Enabled sending) (finished : sending.IsFinished) :
    (action.perform sending).IsFinished ∧
      (action.perform sending).outbox.transmitted = sending.outbox.transmitted := by
  have nothing_waits := logged.no_more finished
  cases action with
  | write coroutine buf status =>
      rcases enabled with ⟨possible, shut_down⟩
      have is_open : sending.stream.isOpen = true := possible.1
      rcases finished with is_shut | closed
      · have refused := shut_down is_shut
        refine ⟨.inl ?_, ?_⟩
        · change (sending.write coroutine buf status).isShutDown = true
          rw [Sending.write, if_pos refused]
          exact is_shut
        · change (sending.write coroutine buf status).outbox.transmitted = _
          rw [write_outbox, if_pos refused]
      · exact nomatch is_open.symm.trans closed
  | transmit count =>
      refine ⟨finished, ?_⟩
      change sending.outbox.transmitted ++ _ = _
      rw [nothing_waits]
      simp
  | deliver => exact ⟨finished, Outbox.transmitted_deliver⟩
  | fail error => exact ⟨finished, Outbox.transmitted_fail error⟩
  | onOutStreamWrite parcel =>
      refine ⟨finished.imp id fun closed => ?_, rfl⟩
      exact (sending.stream.onOutStreamWrite_isOpen _ _).trans closed
  | onShutdown => exact ⟨.inl rfl, rfl⟩
  | close => exact ⟨.inr sending.stream.close_isOpen, rfl⟩
  | stream action =>
      exact ⟨finished.imp id fun closed => (Action.stream_isOpen enabled).trans closed, rfl⟩

/-! ## What was sent -/

theorem Logged.accepted_of_parcels {sending : Sending} (logged : sending.Logged) {number : ℕ}
    {parcel : Outbox.Parcel Byte WriteError}
    (found : sending.outbox.parcels[number]? = some parcel) :
    sending.accepted[number]? = some parcel.content := by
  rw [← logged.contents_eq, Outbox.contents, List.getElem?_map, found]
  rfl

/-- The parts of the accepted buffers that were sent. -/
def pieces : List (List Byte) :=
  sending.outbox.parcels.map Outbox.Parcel.piece

theorem Logged.pieces_prefix {sending : Sending} (logged : sending.Logged) :
    List.Forall₂ (· <+: ·) sending.pieces sending.accepted := by
  rw [← logged.contents_eq, pieces, Outbox.contents, List.forall₂_map_left_iff,
    List.forall₂_map_right_iff, List.forall₂_same]
  exact fun parcel _ => List.take_prefix _ _

/-- A `write()` that has returned has sent its whole buffer. -/
theorem Logged.pieces_of_written {sending : Sending} (logged : sending.Logged) {number : ℕ}
    {ended : Ended} (ended_mem : (number, ended) ∈ sending.finished)
    (written : ended.outcome = .written) :
    sending.pieces[number]? = sending.accepted[number]? ∧ number < sending.accepted.length := by
  rcases logged.finished number ended ended_mem written with ⟨status, success, settles⟩
  rcases settles.whole success with ⟨parcel, found, whole⟩
  have accepted_eq := logged.accepted_of_parcels found
  refine ⟨?_, (List.getElem?_eq_some_iff.mp accepted_eq).1⟩
  rw [accepted_eq, pieces, List.getElem?_map, found, ← whole]
  rfl

/-- What was sent, compared with the calls of `write()`. -/
structure SendsInOrder (sending : Sending) : Prop where
  /-- The beginning of each buffer was sent, in the order of the calls. -/
  in_order : sending.outbox.transmitted = sending.pieces.flatten ∧
    List.Forall₂ (· <+: ·) sending.pieces sending.accepted
  /-- A `write()` that has returned has sent its whole buffer. -/
  returned : ∀ number ended, (number, ended) ∈ sending.finished → ended.outcome = .written →
    ∃ buf, sending.accepted[number]? = some buf ∧ sending.pieces[number]? = some buf
  /-- As long as no request fails, nothing is left out, whatever became of the promises. -/
  gapless : (∀ parcel ∈ sending.outbox.settled, parcel.fate = .delivered) →
    sending.outbox.transmitted <+: sending.accepted.flatten ∧
      (sending.IsFinished → sending.outbox.transmitted = sending.accepted.flatten)

theorem Logged.inOrder {sending : Sending} (logged : sending.Logged) : sending.SendsInOrder := by
  refine ⟨⟨sending.outbox.transmitted_pieces, logged.pieces_prefix⟩,
    fun number ended ended_mem written => ?_, fun delivered => ?_⟩
  · rcases logged.pieces_of_written ended_mem written with ⟨pieces_eq, in_range⟩
    rw [pieces_eq]
    exact ⟨_, List.getElem?_eq_getElem in_range, List.getElem?_eq_getElem in_range⟩
  · have all := sending.outbox.transmitted_rest delivered
    rw [logged.contents_eq] at all
    refine ⟨⟨_, all⟩, fun finished => ?_⟩
    simpa [Outbox.unsettled, logged.no_more finished] using all

theorem sendsInOrder_of_reachable {sending : Sending} (reached : system.Reachable sending) :
    sending.SendsInOrder :=
  (logged_of_reachable reached).inOrder

/-- The promise of the first `write()` is dropped; its buffer is sent nevertheless, before that of
the second one, which returns. -/
theorem sendsInOrder_after_drop :
    ([.write 0 [104] 0, .stream (.drop .write), .write 1 [105, 33] 0, .transmit 1, .deliver,
      .transmit 2, .deliver, .onOutStreamWrite ⟨[104], 1, .delivered⟩,
      .onOutStreamWrite ⟨[105, 33], 2, .delivered⟩, .stream .resumeNext].foldl
        Action.perform ({} : Sending)).SendsInOrder := by
  have start : system.Reachable {} := .start rfl
  have first := start.step (Action.write 0 [104] 0) ⟨⟨rfl, rfl, rfl⟩, nofun⟩ trivial
  have dropped := first.step (Action.stream (.drop .write)) ⟨rfl, trivial⟩ trivial
  have second := dropped.step (Action.write 1 [105, 33] 0) ⟨⟨rfl, rfl, rfl⟩, nofun⟩ trivial
  have sent := second.step (Action.transmit 1) rfl trivial
  have delivered := sent.step Action.deliver rfl trivial
  have more := delivered.step (Action.transmit 2) rfl trivial
  have both := more.step Action.deliver rfl trivial
  have called := both.step (Action.onOutStreamWrite ⟨[104], 1, .delivered⟩) rfl trivial
  have again := called.step (Action.onOutStreamWrite ⟨[105, 33], 2, .delivered⟩) rfl trivial
  have resumed := again.step (Action.stream .resumeNext) ⟨trivial, trivial⟩ trivial
  exact sendsInOrder_of_reachable resumed

end Sending

end Uvco.Stream
