import Uvco.Curl.Context

/-!
# The stages of a request

A message of libcurl is known to the request once `checkCurlInfo` has read it. The
generator is parked, waits for the request to enqueue it, has been enqueued for one of
three reasons, or has ended.
-/

namespace Uvco.Curl

namespace CurlRequestCore

/-- What the request knows about its completion. -/
def Knows (core : CurlRequestCore) : Option Done → Prop
  | none => core.curlStatus = none ∧ core.responseCode = none ∧ core.verifyResult = none
  | some done =>
      core.curlStatus = some done.result ∧ core.responseCode = some done.responseCode ∧
        core.verifyResult = some done.verifyResult

/-- How much the request knows about the message that libcurl has queued. -/
inductive Recorded (core : CurlRequestCore) : Option Done → List Done → Prop where
  | transferring (blank : core.Knows none) : Recorded core none []
  | unread (done : Done) (blank : core.Knows none) : Recorded core (some done) [done]
  | read (done : Done) (known : core.Knows (some done)) : Recorded core (some done) []

variable {core : CurlRequestCore} {done : Done}

theorem Knows.not_blank (known : core.Knows (some done)) : ¬core.Knows none := by
  rintro ⟨no_status, -, -⟩
  simp [known.1] at no_status

theorem Recorded.blank_or_known {message : Option Done} {unread : List Done}
    (recorded : core.Recorded message unread) :
    core.Knows none ∨ ∃ done, message = some done ∧ unread = [] ∧ core.Knows (some done) := by
  cases recorded with
  | transferring blank => exact .inl blank
  | unread _ blank => exact .inl blank
  | read done known => exact .inr ⟨done, rfl, rfl, known⟩

theorem Recorded.blank_of_mem {message : Option Done} {unread : List Done}
    (recorded : core.Recorded message unread) (is_unread : done ∈ unread) : core.Knows none := by
  rcases recorded.blank_or_known with blank | ⟨-, -, rfl, -⟩
  · exact blank
  · simp at is_unread

theorem Recorded.of_same {other : CurlRequestCore} {message : Option Done} {unread : List Done}
    (recorded : core.Recorded message unread)
    (same : ∀ known, core.Knows known → other.Knows known) : other.Recorded message unread := by
  cases recorded with
  | transferring blank => exact .transferring (same none blank)
  | unread done blank => exact .unread done (same none blank)
  | read done known => exact .read done (same (some done) known)

theorem Recorded.known {message : Option Done} (recorded : core.Recorded message [])
    (done_eq : message = some done) : core.Knows (some done) := by
  subst done_eq
  cases recorded with
  | read _ known => exact known

theorem Knows.unique {other : Done} (known : core.Knows (some done))
    (known' : core.Knows (some other)) : done = other := by
  rcases done with ⟨result, responseCode, verifyResult⟩
  rcases other with ⟨result', responseCode', verifyResult'⟩
  rcases known with ⟨result_eq, response_eq, verify_eq⟩
  rcases known' with ⟨result_eq', response_eq', verify_eq'⟩
  simp_all

theorem Recorded.done_eq {message : Option Done} {unread : List Done}
    (recorded : core.Recorded message unread) (known : core.Knows (some done)) :
    message = some done ∧ unread = [] := by
  rcases recorded.blank_or_known with blank | ⟨other, rfl, rfl, known'⟩
  · exact absurd blank known.not_blank
  · exact ⟨congrArg some (known'.unique known), rfl⟩

theorem record_of_blank (blank : core.Knows none) :
    core.record done = { core with
      curlStatus := some done.result
      responseCode := some done.responseCode
      verifyResult := some done.verifyResult } := by
  rcases blank with ⟨no_status, no_code, no_verification⟩
  simp [record, setCurlStatus, setResponseCode, setVerifyResult, no_status, no_code,
    no_verification]

theorem rejected_of_error {status : Int} (status_eq : core.uvStatus = some status)
    (error : status ≠ 0) : core.rejected = true := by
  simp [rejected, status_eq, error]

theorem not_rejected_of_blank (blank : core.Knows none) (no_error : core.uvStatus = none) :
    core.rejected = false := by
  rcases blank with ⟨-, no_code, no_verification⟩
  simp [rejected, no_error, no_code, no_verification]

theorem rejected_iff (known : core.Knows (some done))
    (no_error : ∀ status, core.uvStatus = some status → status = 0) :
    core.rejected = true ↔ ¬done.Accepted := by
  rcases known with ⟨-, code_eq, verification_eq⟩
  have quiet : core.uvStatus.any (· ≠ 0) = false := by
    cases status_eq : core.uvStatus with
    | none => rfl
    | some status => simp [no_error status status_eq]
  simp only [rejected, quiet, code_eq, verification_eq, Done.Accepted]
  simp only [Option.any_some, Bool.false_or, Bool.or_eq_true, decide_eq_true_eq, ne_eq]
  omega

theorem awaitReady_iff (known : core.Knows (some done)) :
    core.awaitReady = true ↔ core.chunks ≠ [] ∨ 0 < done.responseCode := by
  simp [awaitReady, known.2.1]

theorem awaitReady_iff_of_blank (blank : core.Knows none) :
    core.awaitReady = true ↔ core.chunks ≠ [] := by
  simp [awaitReady, blank.2.1]

end CurlRequestCore

namespace Request

/-- `start()` ends with the error that was recorded, or, if there was none, returns. -/
def Reports (request : Request) : Ending → Prop
  | .returned => (∃ done, request.done = some done ∧ done.result = 0) ∧
      ∀ status, request.core.uvStatus = some status → status = 0
  | .threwCurl status url => url = request.core.url ∧ status ≠ 0 ∧
      ∃ done, request.done = some done ∧ done.result = status
  | .threwUv exception => ∃ status ∈ request.errors, status ≠ 0 ∧
      request.core.uvStatus = some status ∧
      exception = .ofStatus status ("Socket error while fetching " ++ request.core.url)

/-- The generator has a reason to end. -/
def Finished (request : Request) : Prop :=
  (∃ status ∈ request.errors, request.core.uvStatus = some status ∧ status ≠ 0) ∨
    ∃ done, request.core.Knows (some done) ∧ (done.Accepted → request.core.chunks = [])

/-- Why `await_ready()` is true, and where this came from. -/
inductive Ready (request : Request) : Prop where
  | chunk (no_error : request.core.uvStatus = none) (some_chunk : request.core.chunks ≠ [])
  | failed {status : Int} (status_eq : request.core.uvStatus = some status) (error : status ≠ 0)
      (reported : status ∈ request.errors)
  | known {done : Done} (known : request.core.Knows (some done))
      (no_error : request.core.uvStatus = none ∨
        request.core.uvStatus = some 0 ∧ request.core.chunks = [])

/-- Where the generator is, and what `downloaderHandle_` and `uvStatus_` have got to do with it. -/
inductive Stage (request : Request) : Prop where
  | parked (position : request.position = .notStarted ∧ request.enqueued = false ∨
        request.position = .atYield)
      (handle : request.core.downloaderHandle = false) (no_error : request.core.uvStatus = none)
  | waiting (position : request.position = .awaiting) (enqueued : request.enqueued = false)
      (handle : request.core.downloaderHandle = true) (no_error : request.core.uvStatus = none)
      (no_chunk : request.core.chunks = [])
  | woken (position : request.position = .awaiting) (enqueued : request.enqueued = true)
      (handle : request.core.downloaderHandle = false) (ready : request.Ready)
  | ended {ending : Ending} (position : request.position = .ended ending)
      (enqueued : request.enqueued = false) (handle : request.core.downloaderHandle = false)
      (reports : request.Reports ending) (finished : request.Finished)

/-- What holds of a request whose completion has these messages still unread. -/
structure Invariant (request : Request) (unread : List Done) : Prop where
  recorded : request.core.Recorded request.done unread
  stage : request.Stage
  arrived_eq : request.arrived = request.yielded ++ request.core.chunks

variable {request : Request} {unread : List Done} {done : Done}

/-- Before the message is read, only a socket error is a reason to end. -/
theorem Finished.error (finished : request.Finished) (blank : request.core.Knows none) :
    ∃ status ∈ request.errors, request.core.uvStatus = some status ∧ status ≠ 0 := by
  rcases finished with error | ⟨done, known, -⟩
  · exact error
  · exact absurd blank known.not_blank

theorem invariant_new (url : String) : Invariant { core := { url } } [] where
  recorded := .transferring ⟨rfl, rfl, rfl⟩
  stage := .parked (.inl ⟨rfl, rfl⟩) rfl rfl
  arrived_eq := rfl

/-! ## What `await_resume()` does -/

theorem reports_ending (recorded : request.core.Recorded request.done unread)
    (reported : ∀ status, request.core.uvStatus = some status → status ≠ 0 →
      status ∈ request.errors)
    (finished : request.Finished) : request.Reports request.core.ending := by
  unfold CurlRequestCore.ending
  split
  · rename_i curl_error
    rcases Option.any_eq_true _ _ |>.mp curl_error with ⟨status, status_eq, error⟩
    have known : ∃ done, request.done = some done ∧ done.result = status := by
      rcases recorded.blank_or_known with blank | ⟨done, done_eq, -, known⟩
      · simp [blank.1] at status_eq
      · exact ⟨done, done_eq, by simpa [known.1] using status_eq⟩
    rw [status_eq]
    exact ⟨rfl, by simpa using error, known⟩
  · rename_i no_curl_error
    split
    · rename_i uv_error
      rcases Option.any_eq_true _ _ |>.mp uv_error with ⟨status, status_eq, error⟩
      have nonzero : status ≠ 0 := by simpa using error
      rw [status_eq]
      exact ⟨status, reported status status_eq nonzero, nonzero, status_eq, rfl⟩
    · rename_i no_uv_error
      have quiet : ∀ status, request.core.uvStatus = some status → status = 0 := by
        intro status status_eq
        simpa [status_eq] using no_uv_error
      refine ⟨?_, quiet⟩
      rcases finished with ⟨status, -, status_eq, error⟩ | ⟨done, known, -⟩
      · exact absurd (quiet status status_eq) error
      · refine ⟨done, (recorded.done_eq known).1, ?_⟩
        simpa [known.1] using no_curl_error

theorem resumed_of_rejected (rejected : request.core.rejected = true) :
    request.resumed = request.finish := by
  simp [resumed, CurlRequestCore.awaitResume, rejected]

theorem resumed_of_no_chunk (no_chunk : request.core.chunks = []) :
    request.resumed = request.finish := by
  simp [resumed, CurlRequestCore.awaitResume, no_chunk]

theorem await_of_ready (ready : request.core.awaitReady = true) :
    request.await = request.resumed :=
  if_pos ready

/-- What becomes of a generator that goes on: it yields the next chunk, or it ends with what is
recorded. -/
inductive Proceeds (request : Request) : Prop where
  | yields {chunk : String} {chunks : List String}
      (chunks_eq : request.core.chunks = chunk :: chunks)
      (no_error : request.core.uvStatus = none)
      (accepted : ∀ done, request.core.Knows (some done) → done.Accepted)
      (resumed_eq : request.resumed =
        { request with core := { request.core with chunks } }.coYield chunk)
  | ends (finished : request.Finished) (reports : request.Reports request.core.ending)
      (resumed_eq : request.resumed = request.finish)

theorem Proceeds.of_not_rejected {chunk : String} {chunks : List String}
    (chunks_eq : request.core.chunks = chunk :: chunks) (no_error : request.core.uvStatus = none)
    (not_rejected : request.core.rejected = false)
    (accepted : ∀ done, request.core.Knows (some done) → done.Accepted) : request.Proceeds := by
  refine .yields chunks_eq no_error accepted ?_
  simp [resumed, CurlRequestCore.awaitResume, not_rejected, chunks_eq]

/-- The message decides what becomes of the chunks. -/
theorem Proceeds.of_known (recorded : request.core.Recorded request.done unread)
    (known : request.core.Knows (some done))
    (no_error : request.core.uvStatus = none ∨
      request.core.uvStatus = some 0 ∧ request.core.chunks = []) : request.Proceeds := by
  have quiet : ∀ status, request.core.uvStatus = some status → status = 0 := by
    rcases no_error with no_status | ⟨status_zero, -⟩
    · simp [no_status]
    · simp [status_zero, eq_comm]
  have reports : request.Finished → request.Reports request.core.ending :=
    reports_ending recorded fun status status_eq error => absurd (quiet status status_eq) error
  by_cases accepted : done.Accepted
  · have not_rejected : request.core.rejected = false := by
      simpa using mt (CurlRequestCore.rejected_iff known quiet).mp (not_not.mpr accepted)
    rcases chunks_eq : request.core.chunks with _ | ⟨chunk, chunks⟩
    · have finished : request.Finished := .inr ⟨done, known, fun _ => chunks_eq⟩
      exact .ends finished (reports finished) (resumed_of_no_chunk chunks_eq)
    · have no_status : request.core.uvStatus = none := by
        rcases no_error with no_status | ⟨-, no_chunk⟩
        · exact no_status
        · simp [no_chunk] at chunks_eq
      refine .of_not_rejected chunks_eq no_status not_rejected ?_
      exact fun other known' => known.unique known' ▸ accepted
  · have rejected := (CurlRequestCore.rejected_iff known quiet).mpr accepted
    have finished : request.Finished := .inr ⟨done, known, fun holds => absurd holds accepted⟩
    exact .ends finished (reports finished) (resumed_of_rejected rejected)

theorem Ready.proceeds (ready : request.Ready)
    (recorded : request.core.Recorded request.done unread) : request.Proceeds := by
  cases ready with
  | chunk no_error some_chunk =>
      rcases recorded.blank_or_known with blank | ⟨done, -, -, known⟩
      · rcases List.exists_cons_of_ne_nil some_chunk with ⟨chunk, chunks, chunks_eq⟩
        refine .of_not_rejected chunks_eq no_error
          (CurlRequestCore.not_rejected_of_blank blank no_error) ?_
        exact fun _ known => absurd blank known.not_blank
      · exact .of_known recorded known (.inl no_error)
  | failed status_eq error reported =>
      have finished : request.Finished := .inl ⟨_, reported, status_eq, error⟩
      refine .ends finished (reports_ending recorded ?_ finished)
        (resumed_of_rejected (CurlRequestCore.rejected_of_error status_eq error))
      intro other other_eq _
      obtain rfl := Option.some.inj (status_eq.symm.trans other_eq)
      exact reported
  | known known no_error => exact .of_known recorded known no_error

/-- Reading messages leaves the generator where it is, and the chunks alone. -/
theorem readAll_frame (unread : List Done) (request : Request) :
    let after := unread.foldl readDone request
    after.position = request.position ∧ after.core.chunks = request.core.chunks ∧
      after.done = request.done := by
  induction unread generalizing request with
  | nil => exact ⟨rfl, rfl, rfl⟩
  | cons done unread ih =>
      have one : (request.readDone done).position = request.position ∧
          (request.readDone done).core.chunks = request.core.chunks ∧
          (request.readDone done).done = request.done := by
        unfold readDone onError
        split <;> exact ⟨rfl, rfl, rfl⟩
      rcases ih (request.readDone done) with ⟨position, chunks, message⟩
      exact ⟨position.trans one.1, chunks.trans one.2.1, message.trans one.2.2⟩

@[simp]
theorem position_readAll (unread : List Done) (request : Request) :
    (unread.foldl readDone request).position = request.position :=
  (readAll_frame unread request).1

@[simp]
theorem chunks_readAll (unread : List Done) (request : Request) :
    (unread.foldl readDone request).core.chunks = request.core.chunks :=
  (readAll_frame unread request).2.1

@[simp]
theorem done_readAll (unread : List Done) (request : Request) :
    (unread.foldl readDone request).done = request.done :=
  (readAll_frame unread request).2.2

/-- No message takes a generator out of the scheduler queue. -/
theorem enqueued_readAll (unread : List Done) (enqueued : request.enqueued = true) :
    (unread.foldl readDone request).enqueued = true := by
  induction unread generalizing request with
  | nil => exact enqueued
  | cons done unread ih =>
      refine ih ?_
      unfold readDone onError
      split
      · rfl
      · exact enqueued

/-- A message enqueues the generator that waits for the request. -/
theorem enqueued_readDone (handle : request.core.downloaderHandle = true) (done : Done) :
    (request.readDone done).enqueued = true := by
  have handle' : (request.core.record done).downloaderHandle = true := handle
  simp only [readDone, onError, handle', if_true, wakeDownloader]

/-- A generator that goes on has fewer chunks to yield, or ends. -/
theorem Ready.progress (ready : request.Ready)
    (recorded : request.core.Recorded request.done unread) :
    (∃ ending, request.resumed.position = .ended ending) ∨
      request.resumed.position = .atYield ∧ request.resumed.done = request.done ∧
        request.resumed.errors = request.errors ∧
        request.resumed.core.chunks.length < request.core.chunks.length := by
  cases ready.proceeds recorded with
  | yields chunks_eq _ _ resumed_eq =>
      rw [resumed_eq]
      refine .inr ⟨rfl, rfl, rfl, ?_⟩
      simp [coYield, chunks_eq]
  | ends _ _ resumed_eq =>
      rw [resumed_eq]
      exact .inl ⟨_, rfl⟩

/-! ## What the operations keep -/

namespace Invariant

/-- While libcurl has not queued a message, there is nothing to be known. -/
theorem blank (invariant : request.Invariant unread) (transferring : request.done = none) :
    unread = [] ∧ request.core.Knows none := by
  have recorded := invariant.recorded
  rw [transferring] at recorded
  cases recorded with
  | transferring blank => exact ⟨rfl, blank⟩


theorem onDataAvailable (invariant : request.Invariant unread)
    (transferring : request.done = none) (data : String) :
    (request.onDataAvailable data).Invariant unread := by
  have arrived_eq : request.arrived ++ [data] =
      request.yielded ++ (request.core.chunks ++ [data]) := by
    rw [invariant.arrived_eq, List.append_assoc]
  have kept : request.core.downloaderHandle = false → (request.onDataAvailable data) =
      { request with
        core := { request.core with chunks := request.core.chunks ++ [data] }
        arrived := request.arrived ++ [data] } := by
    intro handle
    simp [Request.onDataAvailable, handle]
  cases invariant.stage with
  | parked position handle no_error =>
      rw [kept handle]
      exact ⟨invariant.recorded.of_same fun _ => id, .parked position handle no_error, arrived_eq⟩
  | waiting position enqueued handle no_error no_chunk =>
      simp only [Request.onDataAvailable, handle, if_true]
      refine ⟨invariant.recorded.of_same fun _ => id,
        .woken position rfl rfl (.chunk no_error ?_), arrived_eq⟩
      exact List.append_ne_nil_of_right_ne_nil _ (List.cons_ne_nil data [])
  | woken position enqueued handle ready =>
      rw [kept handle]
      refine ⟨invariant.recorded.of_same fun _ => id, .woken position enqueued handle ?_,
        arrived_eq⟩
      cases ready with
      | chunk no_error =>
          exact .chunk no_error (List.append_ne_nil_of_right_ne_nil _ (List.cons_ne_nil data []))
      | failed status_eq error reported => exact .failed status_eq error reported
      | known known => exact absurd (invariant.blank transferring).2 known.not_blank
  | ended position enqueued handle reports finished =>
      rw [kept handle]
      have error := finished.error (invariant.blank transferring).2
      refine ⟨invariant.recorded.of_same fun _ => id,
        .ended position enqueued handle ?_ (.inl error), arrived_eq⟩
      revert reports
      cases ‹Ending› <;> exact id

theorem complete (invariant : request.Invariant unread) (transferring : request.done = none)
    (done : Done) :
    ({ request with done := some done } : Request).Invariant (unread ++ [done]) := by
  rcases invariant.blank transferring with ⟨rfl, blank⟩
  refine ⟨.unread done blank, ?_, invariant.arrived_eq⟩
  cases invariant.stage with
  | parked position handle no_error => exact .parked position handle no_error
  | waiting position enqueued handle no_error no_chunk =>
      exact .waiting position enqueued handle no_error no_chunk
  | woken position enqueued handle ready =>
      refine .woken position enqueued handle ?_
      cases ready with
      | chunk no_error some_chunk => exact .chunk no_error some_chunk
      | failed status_eq error reported => exact .failed status_eq error reported
      | known known => exact absurd blank known.not_blank
  | @ended ending position enqueued handle reports finished =>
      refine .ended position enqueued handle ?_
        (.inl (finished.error blank))
      cases ending with
      | returned =>
          rcases reports.1 with ⟨done, done_eq, -⟩
          simp [transferring] at done_eq
      | threwCurl status url =>
          rcases reports.2.2 with ⟨done, done_eq, -⟩
          simp [transferring] at done_eq
      | threwUv exception => exact reports

theorem readDone (invariant : request.Invariant [done]) : (request.readDone done).Invariant [] := by
  have unread_cases : request.done = some done ∧ request.core.Knows none := by
    have recorded := invariant.recorded
    cases done_eq : request.done with
    | none =>
        rw [done_eq] at recorded
        nomatch recorded
    | some other =>
        rw [done_eq] at recorded
        cases recorded with
        | unread _ blank => exact ⟨rfl, blank⟩
  rcases unread_cases with ⟨done_eq, blank⟩
  have recorded : ∀ core : CurlRequestCore, core.Knows (some done) →
      core.Recorded request.done [] := by
    intro core known
    rw [done_eq]
    exact .read done known
  simp only [Request.readDone, CurlRequestCore.record_of_blank blank]
  cases invariant.stage with
  | parked position handle no_error =>
      simp only [onError, handle, Bool.false_eq_true, if_false]
      exact ⟨recorded _ ⟨rfl, rfl, rfl⟩, .parked position rfl no_error, invariant.arrived_eq⟩
  | waiting position enqueued handle no_error no_chunk =>
      simp only [onError, handle, if_true]
      refine ⟨recorded _ ⟨rfl, rfl, rfl⟩, .woken position rfl rfl ?_, invariant.arrived_eq⟩
      refine .known (show CurlRequestCore.Knows _ (some done) from ⟨rfl, rfl, rfl⟩)
        (.inr ⟨?_, no_chunk⟩)
      simp [wakeDownloader, CurlRequestCore.setUvStatus, no_error]
  | woken position enqueued handle ready =>
      simp only [onError, handle, Bool.false_eq_true, if_false]
      refine ⟨recorded _ ⟨rfl, rfl, rfl⟩, .woken position enqueued rfl ?_, invariant.arrived_eq⟩
      cases ready with
      | chunk no_error some_chunk => exact .chunk no_error some_chunk
      | failed status_eq error reported => exact .failed status_eq error reported
      | known known => exact absurd blank known.not_blank
  | @ended ending position enqueued handle reports finished =>
      simp only [onError, handle, Bool.false_eq_true, if_false]
      refine ⟨recorded _ ⟨rfl, rfl, rfl⟩,
        .ended position enqueued rfl ?_ (.inl (finished.error blank)), invariant.arrived_eq⟩
      revert reports
      cases ending <;> exact id

/-- `checkCurlInfo` reads at most one message about a request. -/
theorem readAll (invariant : request.Invariant unread) :
    (unread.foldl Request.readDone request).Invariant [] := by
  have recorded := invariant.recorded
  cases recorded_eq : request.done with
  | none =>
      rcases invariant.blank recorded_eq with ⟨rfl, -⟩
      exact invariant
  | some done =>
      rw [recorded_eq] at recorded
      cases recorded with
      | unread done => exact invariant.readDone
      | read => exact invariant

theorem onError (invariant : request.Invariant unread) {status : Int} (error : status ≠ 0) :
    ({ request with errors := request.errors ++ [status] }.onError status).Invariant unread := by
  cases invariant.stage with
  | parked position handle no_error =>
      simp only [Request.onError, handle, Bool.false_eq_true, if_false]
      exact ⟨invariant.recorded, .parked position handle no_error, invariant.arrived_eq⟩
  | waiting position enqueued handle no_error no_chunk =>
      simp only [Request.onError, handle, if_true]
      refine ⟨invariant.recorded.of_same fun _ => id, .woken position rfl rfl ?_,
        invariant.arrived_eq⟩
      have status_eq : (({ request.core with downloaderHandle := true } :
          CurlRequestCore).setUvStatus status).uvStatus = some status := by
        simp [CurlRequestCore.setUvStatus, no_error]
      exact .failed status_eq error (List.mem_append_right _ (List.mem_singleton_self status))
  | woken position enqueued handle ready =>
      simp only [Request.onError, handle, Bool.false_eq_true, if_false]
      refine ⟨invariant.recorded, .woken position enqueued handle ?_, invariant.arrived_eq⟩
      cases ready with
      | chunk no_error some_chunk => exact .chunk no_error some_chunk
      | failed status_eq other_error reported =>
          exact .failed status_eq other_error (List.mem_append_left _ reported)
      | known known no_error => exact .known known no_error
  | @ended ending position enqueued handle reports finished =>
      simp only [Request.onError, handle, Bool.false_eq_true, if_false]
      have finished_after : ({ request with errors := request.errors ++ [status] } :
          Request).Finished := by
        refine finished.imp_left ?_
        rintro ⟨other, reported, rest⟩
        exact ⟨other, List.mem_append_left _ reported, rest⟩
      refine ⟨invariant.recorded, .ended position enqueued handle ?_ finished_after,
        invariant.arrived_eq⟩
      cases ending with
      | returned | threwCurl => exact reports
      | threwUv exception =>
          rcases reports with ⟨other, reported, rest⟩
          exact ⟨other, List.mem_append_left _ reported, rest⟩

theorem next (invariant : request.Invariant unread) (at_yield : request.position = .atYield) :
    ({ request with enqueued := true } : Request).Invariant unread := by
  refine ⟨invariant.recorded, ?_, invariant.arrived_eq⟩
  cases invariant.stage with
  | parked position handle no_error => exact .parked (.inr at_yield) handle no_error
  | waiting position | woken position | ended position => simp [at_yield] at position

theorem resumed (invariant : request.Invariant unread)
    (handle : request.core.downloaderHandle = false) (ready : request.Ready) :
    request.resumed.Invariant unread := by
  cases ready.proceeds invariant.recorded with
  | yields chunks_eq no_error accepted resumed_eq =>
      rw [resumed_eq]
      refine ⟨invariant.recorded.of_same fun _ => id, .parked (.inr rfl) handle no_error, ?_⟩
      simp [coYield, invariant.arrived_eq, chunks_eq]
  | ends finished reports resumed_eq =>
      rw [resumed_eq]
      refine ⟨invariant.recorded, .ended rfl rfl handle ?_ finished, invariant.arrived_eq⟩
      revert reports
      cases request.core.ending <;> exact id

theorem finished (invariant : request.Invariant unread) {ending : Ending}
    (ended : request.position = .ended ending) : request.Finished := by
  cases invariant.stage with
  | parked position => simp [ended] at position
  | waiting position | woken position => simp [ended] at position
  | ended _ _ _ _ finished => exact finished

theorem reports (invariant : request.Invariant unread) {ending : Ending}
    (ended : request.position = .ended ending) : request.Reports ending := by
  cases invariant.stage with
  | parked position => simp [ended] at position
  | waiting position | woken position => simp [ended] at position
  | ended position _ _ reports => exact Position.ended.inj (position.symm.trans ended) ▸ reports

/-- A generator that is not suspended in `co_await *core_` is parked. -/
theorem parked (invariant : request.Invariant unread)
    (position : request.position = .notStarted ∨ request.position = .atYield) :
    request.core.downloaderHandle = false ∧ request.core.uvStatus = none := by
  cases invariant.stage with
  | parked _ handle no_error => exact ⟨handle, no_error⟩
  | waiting position' | woken position' | ended position' => simp [position'] at position

/-- A parked generator that is ready goes on. -/
theorem ready_of_awaitReady (invariant : request.Invariant [])
    (no_error : request.core.uvStatus = none) (ready : request.core.awaitReady = true) :
    request.Ready := by
  rcases invariant.recorded.blank_or_known with blank | ⟨done, -, -, known⟩
  · exact .chunk no_error ((CurlRequestCore.awaitReady_iff_of_blank blank).mp ready)
  · exact .known known (.inl no_error)

theorem await (invariant : request.Invariant [])
    (position : request.position = .notStarted ∨ request.position = .atYield) :
    request.await.Invariant [] := by
  rcases invariant.parked position with ⟨handle, no_error⟩
  unfold Request.await
  split
  · rename_i ready
    exact invariant.resumed handle (invariant.ready_of_awaitReady no_error ready)
  · rename_i not_ready
    have no_chunk : request.core.chunks = [] := by
      by_contra some_chunk
      simp [CurlRequestCore.awaitReady, some_chunk] at not_ready
    exact ⟨invariant.recorded.of_same fun _ => id, .waiting rfl rfl rfl no_error no_chunk,
      invariant.arrived_eq⟩

end Invariant

end Request

namespace State

/-- What holds of all requests in every reachable state. -/
structure Invariant (state : State) : Prop where
  requests : ∀ id request, state.requests id = some request → request.Invariant (state.unread id)
  fresh : ∀ id, state.requests id = none → state.unread id = []

variable {state : State} {id : ℕ} {request : Request}

namespace Invariant

theorem modify (invariant : state.Invariant) (found : state.requests id = some request)
    {change : Request → Request} (changed : (change request).Invariant (state.unread id)) :
    (state.modify id change).Invariant := by
  refine ⟨fun other other_request other_found => ?_, fun other missing => ?_⟩
  · by_cases same : other = id
    · subst same
      rw [requests_modify_self found] at other_found
      exact Option.some.inj other_found ▸ changed
    · rw [requests_modify_of_ne same] at other_found
      exact invariant.requests other other_request other_found
  · by_cases same : other = id
    · subst same
      simp [requests_modify_self found] at missing
    · rw [requests_modify_of_ne same] at missing
      exact invariant.fresh other missing

theorem checkCurlInfo (invariant : state.Invariant) : state.checkCurlInfo.Invariant := by
  refine ⟨fun other other_request other_found => ?_,
    fun other _ => unread_checkCurlInfo state other⟩
  rw [requests_checkCurlInfo] at other_found
  rcases Option.map_eq_some_iff.mp other_found with ⟨before, before_found, rfl⟩
  rw [unread_checkCurlInfo]
  exact (invariant.requests other before before_found).readAll

theorem newRequest (invariant : state.Invariant) (missing : state.requests id = none)
    (url : String) : (state.request id url).Invariant := by
  refine ⟨fun other other_request other_found => ?_, fun other other_missing => ?_⟩
  · simp only [State.request, Function.update_apply] at other_found
    split at other_found
    · rename_i same
      subst same
      have unread_eq : (state.request other url).unread other = [] := invariant.fresh other missing
      rw [unread_eq]
      exact Option.some.inj other_found ▸ Request.invariant_new url
    · exact invariant.requests other other_request other_found
  · simp only [State.request, Function.update_apply] at other_missing
    split at other_missing
    · simp at other_missing
    · exact invariant.fresh other other_missing

theorem complete (invariant : state.Invariant) (found : state.requests id = some request)
    (transferring : request.done = none) (done : Done) : (state.complete id done).Invariant := by
  refine ⟨fun other other_request other_found => ?_, fun other other_missing => ?_⟩
  · by_cases same : other = id
    · subst same
      rw [State.complete, requests_modify_self (by exact found)] at other_found
      rw [unread_complete_self]
      exact Option.some.inj other_found ▸
        (invariant.requests other request found).complete transferring done
    · rw [State.complete, requests_modify_of_ne same] at other_found
      rw [unread_complete_of_ne same]
      exact invariant.requests other other_request other_found
  · by_cases same : other = id
    · subst same
      rw [State.complete, requests_modify_self (by exact found)] at other_missing
      simp at other_missing
    · rw [State.complete, requests_modify_of_ne same] at other_missing
      rw [unread_complete_of_ne same]
      exact invariant.fresh other other_missing

theorem coAwait (invariant : state.Invariant) (found : state.requests id = some request)
    (position : request.position = .notStarted ∨ request.position = .atYield) :
    (state.coAwait id).Invariant := by
  refine invariant.checkCurlInfo.modify (found_checkCurlInfo found) ?_
  rw [unread_checkCurlInfo]
  exact (invariant.requests id request found).readAll.await (by simpa using position)

/-- The scheduler resumes a generator that has yielded, or that the request has woken. -/
theorem enqueued_cases (invariant : state.Invariant) (found : state.requests id = some request)
    (enqueued : request.enqueued = true) :
    request.position = .atYield ∧ state.resume id = state.coAwait id ∨
    request.position = .awaiting ∧ request.core.downloaderHandle = false ∧ request.Ready ∧
      state.resume id = state.modify id Request.resumed := by
  cases (invariant.requests id request found).stage with
  | parked position =>
      rcases position with ⟨-, not_enqueued⟩ | at_yield
      · simp [enqueued] at not_enqueued
      · exact .inl ⟨at_yield, by simp only [State.resume, found, Option.map_some, at_yield]⟩
  | waiting _ not_enqueued | ended _ not_enqueued => simp [enqueued] at not_enqueued
  | woken position _ handle ready =>
      exact .inr ⟨position, handle, ready,
        by simp only [State.resume, found, Option.map_some, position]⟩

theorem resume (invariant : state.Invariant) (found : state.requests id = some request)
    (enqueued : request.enqueued = true) : (state.resume id).Invariant := by
  rcases invariant.enqueued_cases found enqueued with
    ⟨at_yield, resume_eq⟩ | ⟨-, handle, ready, resume_eq⟩
  · rw [resume_eq]
    exact invariant.coAwait found (.inr at_yield)
  · rw [resume_eq]
    exact invariant.modify found ((invariant.requests id request found).resumed handle ready)

theorem onCurlSocketActive (invariant : state.Invariant) (socket : ℕ) (status : Int) :
    (state.onCurlSocketActive socket status).Invariant := by
  unfold State.onCurlSocketActive socketError
  split
  · rename_i error
    split
    · rename_i id _
      cases found : state.requests id with
      | none =>
          rw [modify_missing found]
          exact invariant
      | some request =>
          exact invariant.modify found ((invariant.requests id request found).onError error)
    · exact invariant
  · exact ⟨invariant.requests, invariant.fresh⟩

theorem socketActionReturned (invariant : state.Invariant) :
    state.socketActionReturned.Invariant := by
  unfold State.socketActionReturned
  split
  · exact ⟨invariant.checkCurlInfo.requests, invariant.checkCurlInfo.fresh⟩
  · exact ⟨invariant.requests, invariant.fresh⟩
  · exact ⟨invariant.requests, invariant.fresh⟩

theorem step (invariant : state.Invariant) {action : Action} (enabled : action.Enabled state) :
    (action.perform state).Invariant := by
  cases action with
  | request id url => exact invariant.newRequest enabled.2 url
  | start id =>
      rcases enabled with ⟨-, request, found, position⟩
      exact invariant.coAwait found (.inl position)
  | next id =>
      rcases enabled with ⟨-, request, found, position, -⟩
      exact invariant.modify found ((invariant.requests id request found).next position)
  | resume id =>
      rcases enabled with ⟨-, request, found, enqueued⟩
      exact invariant.resume found enqueued
  | onUvTimeout => exact ⟨invariant.requests, invariant.fresh⟩
  | onCurlSocketActive socket status => exact invariant.onCurlSocketActive socket status
  | onCurlDataAvailable id data =>
      rcases enabled with ⟨-, request, found, transferring⟩
      exact invariant.modify found
        ((invariant.requests id request found).onDataAvailable transferring data)
  | complete id done =>
      rcases enabled with ⟨-, request, found, transferring⟩
      exact invariant.complete found transferring done
  | curlSocketFunction socket id => exact ⟨invariant.requests, invariant.fresh⟩
  | socketActionReturned => exact invariant.socketActionReturned

end Invariant

theorem invariant_of_reachableVia {Allowed : State → Action → Prop}
    (reached : system.ReachableVia Allowed state) : state.Invariant := by
  refine reached.invariant State.Invariant ?_ ?_
  · rintro _ rfl
    exact ⟨fun _ _ found => (nomatch found), fun _ _ => rfl⟩
  · exact fun _ _ invariant enabled _ => invariant.step enabled

end State

end Uvco.Curl
