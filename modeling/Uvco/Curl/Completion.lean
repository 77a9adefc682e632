import Uvco.Curl.Stage

/-!
# When a completion is lost

The message of a completed transfer is read by the socket callback and by
`await_ready()`, but not by the timeout callback. `await_ready()` tells from the response
code that a transfer is complete, which is 0 if there was no response; and a socket error
is dropped unless the generator waits for the request.
-/

namespace Uvco.Curl

namespace Request

/-- The next `await_ready()` of the generator returns true. -/
def NextAwaitReady (request : Request) (unread : List Done) : Prop :=
  (unread.foldl readDone request).core.awaitReady = true

/-- The completion of a request, or a socket error, leads to the end of its generator. -/
structure Unlost (request : Request) (phase : Phase) (unread : List Done) : Prop where
  /-- The socket callback reads the messages before it comes to its end. -/
  enqueued : request.done.isSome = true → request.position = .awaiting →
    request.enqueued = true ∨ phase = .inSocket ∧ unread ≠ []
  ready : request.done.isSome = true →
    request.position = .notStarted ∨ request.position = .atYield → request.NextAwaitReady unread
  error : request.errors ≠ [] → request.done = none →
    request.position = .awaiting ∧ request.enqueued = true ∧
      (∃ status ∈ request.errors, request.core.uvStatus = some status) ∨
    ∃ ending, request.position = .ended ending

/-- A message that libcurl queues now does not escape the generator. -/
def Hears (request : Request) (phase : Phase) (done : Done) : Prop :=
  match request.position with
  | .notStarted | .atYield => request.core.chunks ≠ [] ∨ 0 < done.responseCode
  | .awaiting => phase = .inTimeout → request.enqueued = true
  | .ended _ => True

/-- The generator waits for the request, or does not need to hear of a socket error any more. -/
def HearsError (request : Request) : Prop :=
  request.core.downloaderHandle = true ∨ request.done.isSome = true ∨
    request.core.uvStatus.isSome = true ∨ ∃ ending, request.position = .ended ending

/-- The generator does not take the last chunk while a message without a response is unread. -/
def Keeps (request : Request) (unread : List Done) : Prop :=
  request.position = .awaiting → request.core.uvStatus = none → request.core.chunks.length = 1 →
    ∀ done ∈ unread, 0 < done.responseCode

variable {request : Request} {phase : Phase} {unread : List Done}

theorem unlost_of_transferring (transferring : request.done = none)
    (no_error : request.errors = []) : request.Unlost phase unread where
  enqueued completed := by simp [transferring] at completed
  ready completed := by simp [transferring] at completed
  error failed := absurd no_error failed

theorem unlost_of_ended {ending : Ending} (ended : request.position = .ended ending) :
    request.Unlost phase unread where
  enqueued _ awaiting := by simp [ended] at awaiting
  ready _ parked := by simp [ended] at parked
  error _ _ := .inr ⟨ending, ended⟩

/-- Once a message is queued, where the generator is matters. -/
theorem unlost_iff_of_parked (completed : request.done.isSome = true)
    (parked : request.position = .notStarted ∨ request.position = .atYield) :
    request.Unlost phase unread ↔ request.NextAwaitReady unread := by
  refine ⟨fun unlost => unlost.ready completed parked, fun ready => ⟨?_, fun _ _ => ready, ?_⟩⟩
  · intro _ awaiting
    simp [awaiting] at parked
  · intro _ transferring
    simp [transferring] at completed

theorem unlost_iff_of_awaiting (completed : request.done.isSome = true)
    (awaiting : request.position = .awaiting) :
    request.Unlost phase unread ↔
      (request.enqueued = true ∨ phase = .inSocket ∧ unread ≠ []) := by
  refine ⟨fun unlost => unlost.enqueued completed awaiting,
    fun enqueued => ⟨fun _ _ => enqueued, ?_, ?_⟩⟩
  · intro _ parked
    simp [awaiting] at parked
  · intro _ transferring
    simp [transferring] at completed

/-- What has happened to a parked generator can only be the completion. -/
theorem Unlost.completed (unlost : request.Unlost phase unread)
    (happened : request.done.isSome = true ∨ request.errors ≠ [])
    (parked : request.position = .notStarted ∨ request.position = .atYield) :
    request.done.isSome = true := by
  rcases happened with completed | failed
  · exact completed
  · by_contra transferring
    have done_eq : request.done = none := by simpa using transferring
    rcases unlost.error failed done_eq with ⟨awaiting, -⟩ | ⟨ending, ended⟩
    · simp [awaiting] at parked
    · simp [ended] at parked

/-- A socket error of which the request knows nothing is lost unless the generator has ended. -/
theorem unlost_iff_hearsError (transferring : request.done = none) (failed : request.errors ≠ [])
    (handle : request.core.downloaderHandle = false) (no_status : request.core.uvStatus = none) :
    request.Unlost phase unread ↔ request.HearsError := by
  constructor
  · intro unlost
    rcases unlost.error failed transferring with ⟨-, -, status, -, status_eq⟩ | ended
    · simp [no_status] at status_eq
    · exact .inr (.inr (.inr ended))
  · rintro (waits | completed | known | ⟨ending, ended⟩)
    · simp [handle] at waits
    · simp [transferring] at completed
    · simp [no_status] at known
    · exact unlost_of_ended ended

namespace Invariant

variable {done : Done}

theorem nextAwaitReady_iff (invariant : request.Invariant unread)
    (done_eq : request.done = some done) :
    request.NextAwaitReady unread ↔ request.core.chunks ≠ [] ∨ 0 < done.responseCode := by
  have known := invariant.readAll.recorded.known (by simpa using done_eq)
  rw [NextAwaitReady, CurlRequestCore.awaitReady_iff known, chunks_readAll]

/-- An error that is not lost is known to a suspended generator. -/
theorem errors_eq (unlost : request.Unlost phase unread) (transferring : request.done = none)
    (no_status : request.core.uvStatus = none)
    (not_ended : ∀ ending, request.position ≠ .ended ending) : request.errors = [] := by
  by_contra failed
  rcases unlost.error failed transferring with ⟨-, -, status, -, status_eq⟩ | ⟨ending, ended⟩
  · simp [no_status] at status_eq
  · exact not_ended ending ended

/-- Before the end of the socket callback, and of an `await_ready()`, all messages are read. -/
theorem unlost_readAll (invariant : request.Invariant unread)
    (unlost : request.Unlost phase unread) (after : Phase) :
    (unread.foldl Request.readDone request).Unlost after [] := by
  cases done_eq : request.done with
  | none =>
      rcases invariant.blank done_eq with ⟨rfl, -⟩
      refine ⟨fun completed => ?_, fun completed => ?_, unlost.error⟩
      · simp [done_eq] at completed
      · simp [done_eq] at completed
  | some done =>
      have completed : request.done.isSome = true := by simp [done_eq]
      refine ⟨fun _ awaiting => .inl ?_, fun _ parked => ?_, fun _ transferring => ?_⟩
      · rw [position_readAll] at awaiting
        cases invariant.stage with
        | parked parked => simp [awaiting] at parked
        | ended ended => simp [awaiting] at ended
        | woken _ enqueued => exact enqueued_readAll unread enqueued
        | waiting _ not_enqueued handle =>
            rcases unlost.enqueued completed awaiting with enqueued | ⟨-, some_message⟩
            · simp [not_enqueued] at enqueued
            · have recorded := invariant.recorded
              rw [done_eq] at recorded
              cases recorded with
              | unread => exact enqueued_readDone handle done
              | read => exact absurd rfl some_message
      · rw [position_readAll] at parked
        exact unlost.ready completed parked
      · simp [done_eq] at transferring

/-! ## What the generator makes of a completion -/

/-- A generator that goes on keeps the completion, unless it takes the last chunk too early. -/
theorem unlost_resumed_iff (invariant : request.Invariant unread)
    (unlost : request.Unlost phase unread) (handle : request.core.downloaderHandle = false)
    (ready : request.Ready) (position : request.position = .awaiting ∨ unread = [])
    (not_ended : ∀ ending, request.position ≠ .ended ending) :
    request.resumed.Unlost phase unread ↔ request.Keeps unread := by
  have invariant_resumed := invariant.resumed handle ready
  cases ready.proceeds invariant.recorded with
  | ends finished reports resumed_eq =>
      rw [resumed_eq]
      refine ⟨fun _ _ no_error _ done is_unread => ?_, fun _ => unlost_of_ended rfl⟩
      rcases finished.error (invariant.recorded.blank_of_mem is_unread) with
        ⟨status, -, status_eq, -⟩
      simp [no_error] at status_eq
  | @yields chunk chunks chunks_eq no_error accepted resumed_eq =>
      rw [resumed_eq] at invariant_resumed ⊢
      rcases Option.eq_none_or_eq_some request.done with transferring | ⟨done, done_eq⟩
      · rcases invariant.blank transferring with ⟨rfl, -⟩
        have no_errors := errors_eq unlost transferring no_error not_ended
        refine ⟨fun _ _ _ _ done is_unread => ?_,
          fun _ => unlost_of_transferring transferring no_errors⟩
        simp at is_unread
      · rw [unlost_iff_of_parked (by simp [coYield, done_eq]) (.inr rfl),
          invariant_resumed.nextAwaitReady_iff done_eq]
        have recorded := invariant.recorded
        rw [done_eq] at recorded
        cases recorded with
        | read _ known =>
            have responded : 0 < done.responseCode := by
              rw [(accepted done known).1]
              decide
            refine ⟨fun _ _ _ _ other is_unread => ?_, fun _ => .inr responded⟩
            simp at is_unread
        | unread =>
            have awaiting : request.position = .awaiting := by simpa using position
            have last_iff : request.core.chunks.length = 1 ↔ ¬chunks ≠ [] := by
              rw [chunks_eq, List.length_cons, not_not, Nat.add_eq_right, List.length_eq_zero_iff]
            simp only [Keeps, awaiting, no_error, last_iff, List.mem_singleton, forall_eq,
              true_implies]
            exact or_iff_not_imp_left

/-- After `checkCurlInfo()`, a generator that is parked goes on to the end of its request. -/
theorem unlost_await (invariant : request.Invariant []) (unlost : request.Unlost phase [])
    (position : request.position = .notStarted ∨ request.position = .atYield) :
    request.await.Unlost phase [] := by
  rcases invariant.parked position with ⟨handle, no_error⟩
  have not_ended : ∀ ending, request.position ≠ .ended ending := by
    rintro ending ended
    simp [ended] at position
  unfold Request.await
  split
  · rename_i ready
    refine (invariant.unlost_resumed_iff unlost handle
      (invariant.ready_of_awaitReady no_error ready) (.inr rfl) not_ended).mpr ?_
    intro _ _ _ _ is_unread
    simp at is_unread
  · rename_i not_ready
    have transferring : request.done = none := by
      by_contra completed
      exact not_ready (unlost.ready (Option.isSome_iff_ne_none.mpr completed) position)
    have no_errors := errors_eq unlost transferring no_error not_ended
    exact unlost_of_transferring transferring no_errors

theorem unlost_complete_iff (invariant : request.Invariant unread)
    (transferring : request.done = none) (busy : phase ≠ .idle) (done : Done) :
    ({ request with done := some done } : Request).Unlost phase (unread ++ [done]) ↔
      request.Hears phase done := by
  have completed := invariant.complete transferring done
  unfold Hears
  split
  · rename_i not_started
    rw [unlost_iff_of_parked (by rfl) (by exact .inl not_started), completed.nextAwaitReady_iff rfl]
  · rename_i at_yield
    rw [unlost_iff_of_parked (by rfl) (by exact .inr at_yield), completed.nextAwaitReady_iff rfl]
  · rename_i awaiting
    rw [unlost_iff_of_awaiting (by rfl) (by exact awaiting)]
    cases phase with
    | idle => exact absurd rfl busy
    | inTimeout => simp
    | inSocket => simp
  · rename_i ending ended
    exact ⟨fun _ => trivial, fun _ => unlost_of_ended ended⟩

theorem unlost_onDataAvailable (invariant : request.Invariant unread)
    (unlost : request.Unlost phase unread) (transferring : request.done = none) (data : String) :
    (request.onDataAvailable data).Unlost phase unread := by
  by_cases no_errors : request.errors = []
  · have frame : (request.onDataAvailable data).done = request.done ∧
        (request.onDataAvailable data).errors = request.errors := by
      unfold Request.onDataAvailable
      dsimp only
      split <;> exact ⟨rfl, rfl⟩
    exact unlost_of_transferring (frame.1.trans transferring) (frame.2.trans no_errors)
  · have handle : request.core.downloaderHandle = false := by
      cases invariant.stage with
      | parked _ handle | woken _ _ handle | ended _ _ handle => exact handle
      | waiting _ not_enqueued =>
          rcases unlost.error no_errors transferring with ⟨-, enqueued, -⟩ | ⟨ending, ended⟩
          · simp [not_enqueued] at enqueued
          · simp_all
    have unchanged : request.onDataAvailable data = { request with
        core := { request.core with chunks := request.core.chunks ++ [data] }
        arrived := request.arrived ++ [data] } := by
      simp [Request.onDataAvailable, handle]
    rw [unchanged]
    refine ⟨fun completed => ?_, fun completed => ?_, unlost.error⟩
    · simp [transferring] at completed
    · simp [transferring] at completed

theorem unlost_next (invariant : request.Invariant unread) (unlost : request.Unlost phase unread)
    (at_yield : request.position = .atYield) :
    ({ request with enqueued := true } : Request).Unlost phase unread := by
  rcases Option.eq_none_or_eq_some request.done with transferring | ⟨done, done_eq⟩
  · have no_errors := errors_eq unlost transferring (invariant.parked (.inr at_yield)).2
      (by simp [at_yield])
    exact unlost_of_transferring transferring no_errors
  · have completed : request.done.isSome = true := by simp [done_eq]
    rw [unlost_iff_of_parked (by exact completed) (by exact .inr at_yield),
      (invariant.next at_yield).nextAwaitReady_iff (by exact done_eq)]
    exact (invariant.nextAwaitReady_iff done_eq).mp (unlost.ready completed (.inr at_yield))

/-- A socket error is lost unless the generator waits for the request. -/
theorem unlost_onError_iff (invariant : request.Invariant unread)
    (unlost : request.Unlost phase unread) {status : Int} (error : status ≠ 0) :
    ({ request with errors := request.errors ++ [status] }.onError status).Unlost phase unread ↔
      request.HearsError := by
  have invariant_after := invariant.onError error
  have dropped : request.core.downloaderHandle = false →
      { request with errors := request.errors ++ [status] }.onError status =
        { request with errors := request.errors ++ [status] } := by
    intro handle
    simp only [Request.onError, handle, Bool.false_eq_true, if_false]
  have failed : request.errors ++ [status] ≠ [] :=
    List.append_ne_nil_of_right_ne_nil _ (List.cons_ne_nil status [])
  cases invariant.stage with
  | waiting position _ handle no_error =>
      have woken : { request with errors := request.errors ++ [status] }.onError status =
          { request with
            core := { request.core with downloaderHandle := false, uvStatus := some status }
            errors := request.errors ++ [status], enqueued := true } := by
        simp [Request.onError, handle, wakeDownloader, CurlRequestCore.setUvStatus, no_error]
      rw [woken]
      refine ⟨fun _ => .inl handle, fun _ => ⟨fun _ _ => .inl rfl, fun _ parked => ?_,
        fun _ _ => .inl ⟨position, rfl, status, ?_, rfl⟩⟩⟩
      · simp [position] at parked
      · exact List.mem_append_right _ (List.mem_singleton_self status)
  | ended position _ handle =>
      rw [dropped handle]
      exact ⟨fun _ => .inr (.inr (.inr ⟨_, position⟩)), fun _ => unlost_of_ended position⟩
  | parked position handle no_error =>
      rw [dropped handle] at invariant_after ⊢
      have parked : request.position = .notStarted ∨ request.position = .atYield :=
        position.imp_left And.left
      rcases Option.eq_none_or_eq_some request.done with transferring | ⟨done, done_eq⟩
      · exact unlost_iff_hearsError transferring failed handle no_error
      · have completed : request.done.isSome = true := by simp [done_eq]
        refine ⟨fun _ => .inr (.inl completed), fun _ => ?_⟩
        rw [unlost_iff_of_parked (by exact completed) (by exact parked),
          invariant_after.nextAwaitReady_iff (by exact done_eq)]
        exact (invariant.nextAwaitReady_iff done_eq).mp (unlost.ready completed parked)
  | woken position enqueued handle ready =>
      rw [dropped handle]
      rcases Option.eq_none_or_eq_some request.done with transferring | ⟨done, done_eq⟩
      · cases ready with
        | known known => exact absurd (invariant.blank transferring).2 known.not_blank
        | @failed other status_eq _ reported =>
            refine ⟨fun _ => .inr (.inr (.inl (by simp [status_eq]))), fun _ => ⟨?_, ?_, ?_⟩⟩
            · exact fun _ _ => .inl enqueued
            · intro _ parked
              simp [position] at parked
            · exact fun _ _ =>
                .inl ⟨position, enqueued, other, List.mem_append_left _ reported, status_eq⟩
        | chunk no_error => exact unlost_iff_hearsError transferring failed handle no_error
      · have completed : request.done.isSome = true := by simp [done_eq]
        refine ⟨fun _ => .inr (.inl completed), fun _ => ?_⟩
        rw [unlost_iff_of_awaiting (by exact completed) (by exact position)]
        exact .inl enqueued

end Invariant

end Request

namespace State

/-- No request has lost its completion. -/
def Unlost (state : State) : Prop :=
  ∀ id request, state.requests id = some request → request.Unlost state.phase (state.unread id)

/-- The step does not make a generator miss the completion of its request. -/
def Heard (state : State) : Action → Prop
  | .complete id done =>
      ∀ request, state.requests id = some request → request.Hears state.phase done
  | .onCurlSocketActive socket status => status ≠ 0 → ∀ id, state.polls socket = some id →
      ∀ request, state.requests id = some request → request.HearsError
  | .resume id => ∀ request, state.requests id = some request → request.Keeps (state.unread id)
  | .request .. | .start _ | .next _ | .onUvTimeout | .onCurlDataAvailable ..
  | .curlSocketFunction .. | .socketActionReturned => True

variable {state : State} {id : ℕ} {request : Request}

namespace Unlost

theorem modify_iff (unlost : state.Unlost) (found : state.requests id = some request)
    (change : Request → Request) :
    (state.modify id change).Unlost ↔ (change request).Unlost state.phase (state.unread id) := by
  refine ⟨fun after => after id _ (requests_modify_self found change),
    fun changed other other_request other_found => ?_⟩
  by_cases same : other = id
  · subst same
    rw [requests_modify_self found] at other_found
    exact Option.some.inj other_found ▸ changed
  · rw [requests_modify_of_ne same] at other_found
    exact unlost other other_request other_found

theorem newRequest (unlost : state.Unlost) (id : ℕ) (url : String) :
    (state.request id url).Unlost := by
  intro other other_request other_found
  simp only [State.request, Function.update_apply] at other_found
  split at other_found
  · exact Option.some.inj other_found ▸ Request.unlost_of_transferring rfl rfl
  · exact unlost other other_request other_found

/-- Outside of the socket callback, generators that have to go on are enqueued already. -/
theorem of_phase (unlost : state.Unlost) (quiet : state.phase ≠ .inSocket) (phase : Phase) :
    ({ state with phase } : State).Unlost := by
  intro id request found
  have before := unlost id request found
  refine ⟨fun completed awaiting => .inl ?_, before.ready, before.error⟩
  rcases before.enqueued completed awaiting with enqueued | ⟨in_socket, -⟩
  · exact enqueued
  · exact absurd in_socket quiet

theorem checkCurlInfo (unlost : state.Unlost) (invariant : state.Invariant) (phase : Phase) :
    ({ state.checkCurlInfo with phase } : State).Unlost := by
  intro id request found
  have found' : state.checkCurlInfo.requests id = some request := found
  rw [requests_checkCurlInfo] at found'
  rcases Option.map_eq_some_iff.mp found' with ⟨before, before_found, rfl⟩
  have all_read : ({ state.checkCurlInfo with phase } : State).unread id = [] :=
    unread_checkCurlInfo state id
  rw [all_read]
  exact (invariant.requests id before before_found).unlost_readAll
    (unlost id before before_found) phase

theorem coAwait (unlost : state.Unlost) (invariant : state.Invariant)
    (found : state.requests id = some request)
    (position : request.position = .notStarted ∨ request.position = .atYield) :
    (state.coAwait id).Unlost := by
  have found' := found_checkCurlInfo found
  have unlost' : state.checkCurlInfo.Unlost := unlost.checkCurlInfo invariant _
  have invariant' := invariant.checkCurlInfo.requests id _ found'
  have unlost_request := unlost' id _ found'
  refine (unlost'.modify_iff found' Request.await).mpr ?_
  rw [unread_checkCurlInfo] at invariant' unlost_request ⊢
  exact invariant'.unlost_await unlost_request (by simpa using position)

theorem resume_iff (unlost : state.Unlost) (invariant : state.Invariant)
    (found : state.requests id = some request) (enqueued : request.enqueued = true) :
    (state.resume id).Unlost ↔ request.Keeps (state.unread id) := by
  rcases invariant.enqueued_cases found enqueued with
    ⟨at_yield, resume_eq⟩ | ⟨awaiting, handle, ready, resume_eq⟩
  · rw [resume_eq]
    refine ⟨fun _ awaiting => ?_, fun _ => unlost.coAwait invariant found (.inr at_yield)⟩
    simp [at_yield] at awaiting
  · rw [resume_eq, unlost.modify_iff found]
    exact (invariant.requests id request found).unlost_resumed_iff (unlost id request found) handle
      ready (.inl awaiting) (by simp [awaiting])

theorem complete_iff (unlost : state.Unlost) (invariant : state.Invariant)
    (found : state.requests id = some request) (transferring : request.done = none)
    (busy : state.phase ≠ .idle) (done : Done) :
    (state.complete id done).Unlost ↔ request.Hears state.phase done := by
  rw [← (invariant.requests id request found).unlost_complete_iff transferring busy done,
    ← unread_complete_self]
  refine ⟨fun after => after id _ (requests_modify_self (by exact found) _),
    fun changed other other_request other_found => ?_⟩
  by_cases same : other = id
  · subst same
    rw [State.complete, requests_modify_self (by exact found)] at other_found
    exact Option.some.inj other_found ▸ changed
  · rw [State.complete, requests_modify_of_ne same] at other_found
    rw [unread_complete_of_ne same]
    exact unlost other other_request other_found

theorem onCurlSocketActive_iff (unlost : state.Unlost) (invariant : state.Invariant)
    (quiet : state.phase = .idle) (socket : ℕ) (status : Int) :
    (state.onCurlSocketActive socket status).Unlost ↔
      state.Heard (.onCurlSocketActive socket status) := by
  unfold State.onCurlSocketActive
  split
  · rename_i error
    unfold socketError
    cases polled : state.polls socket with
    | none => simp [Heard, polled, unlost]
    | some id =>
        cases found : state.requests id with
        | none =>
            simp only [modify_missing found]
            simp [Heard, polled, unlost, found]
        | some request =>
            dsimp only
            have one_iff := (invariant.requests id request found).unlost_onError_iff
              (unlost id request found) error
            rw [unlost.modify_iff found, one_iff]
            simp [Heard, polled, found, error]
  · rename_i no_error
    refine ⟨fun _ error => absurd error no_error, fun _ => unlost.of_phase ?_ _⟩
    simp [quiet]

theorem socketActionReturned (unlost : state.Unlost) (invariant : state.Invariant) :
    state.socketActionReturned.Unlost := by
  unfold State.socketActionReturned
  split
  · exact unlost.checkCurlInfo invariant _
  · rename_i in_timeout
    exact unlost.of_phase (by simp [in_timeout]) _
  · rename_i quiet
    exact unlost.of_phase (by simp [quiet]) _

/-- A step loses nothing if and only if it is heard. -/
theorem step_iff (unlost : state.Unlost) (invariant : state.Invariant) {action : Action}
    (enabled : action.Enabled state) :
    (action.perform state).Unlost ↔ state.Heard action := by
  cases action with
  | request id url => exact ⟨fun _ => trivial, fun _ => unlost.newRequest id url⟩
  | start id =>
      rcases enabled with ⟨-, request, found, position⟩
      exact ⟨fun _ => trivial, fun _ => unlost.coAwait invariant found (.inl position)⟩
  | next id =>
      rcases enabled with ⟨-, request, found, at_yield, -⟩
      refine ⟨fun _ => trivial, fun _ => (unlost.modify_iff found _).mpr ?_⟩
      exact (invariant.requests id request found).unlost_next (unlost id request found) at_yield
  | resume id =>
      rcases enabled with ⟨-, request, found, enqueued⟩
      refine (unlost.resume_iff invariant found enqueued).trans ?_
      simp [Heard, found]
  | onUvTimeout =>
      exact ⟨fun _ => trivial, fun _ => unlost.of_phase (by rw [enabled]; decide) _⟩
  | onCurlSocketActive socket status =>
      exact unlost.onCurlSocketActive_iff invariant enabled.1 socket status
  | onCurlDataAvailable id data =>
      rcases enabled with ⟨-, request, found, transferring⟩
      refine ⟨fun _ => trivial, fun _ => (unlost.modify_iff found _).mpr ?_⟩
      exact (invariant.requests id request found).unlost_onDataAvailable (unlost id request found)
        transferring data
  | complete id done =>
      rcases enabled with ⟨busy, request, found, transferring⟩
      refine (unlost.complete_iff invariant found transferring busy done).trans ?_
      simp [Heard, found]
  | curlSocketFunction socket id => exact ⟨fun _ => trivial, fun _ => unlost⟩
  | socketActionReturned => exact ⟨fun _ => trivial, fun _ => unlost.socketActionReturned invariant⟩

end Unlost

/-! ## Reading to the end -/

/-- The consumer of a request, and the generator. -/
def Reads (id : ℕ) (_ : State) (action : Action) : Prop :=
  action = .start id ∨ action = .next id ∨ action = .resume id

/-- The consumer gets to the end of `start()`, which reports what is recorded. -/
def ReadsToEnd (state : State) (id : ℕ) : Prop :=
  ∃ after request ending, system.StepsVia (Reads id) state after ∧
    after.requests id = some request ∧ request.position = .ended ending ∧ request.Reports ending

/-- What holds between two callbacks of a run in which no completion is lost. -/
structure Kept (state : State) : Prop where
  invariant : state.Invariant
  unlost : state.Unlost
  idle : state.phase = .idle

theorem ReadsToEnd.of_ended {ending : Ending} (invariant : state.Invariant)
    (found : state.requests id = some request) (ended : request.position = .ended ending) :
    state.ReadsToEnd id :=
  ⟨state, request, ending, .refl, found, ended, (invariant.requests id request found).reports ended⟩

theorem ReadsToEnd.step {action : Action} (reads : Reads id state action)
    (enabled : action.Enabled state) (rest : (action.perform state).ReadsToEnd id) :
    state.ReadsToEnd id := by
  rcases rest with ⟨after, request, ending, steps, result⟩
  exact ⟨after, request, ending, .head ⟨action, enabled, reads, rfl⟩ steps, result⟩

namespace Kept

theorem coAwait (kept : state.Kept) (found : state.requests id = some request)
    (parked : request.position = .notStarted ∨ request.position = .atYield) :
    (state.coAwait id).Kept where
  invariant := kept.invariant.coAwait found parked
  unlost := kept.unlost.coAwait kept.invariant found parked
  idle := (phase_checkCurlInfo state).trans kept.idle

theorem next (kept : state.Kept) (found : state.requests id = some request)
    (at_yield : request.position = .atYield) :
    (state.modify id ({ · with enqueued := true })).Kept where
  invariant := kept.invariant.modify found
    ((kept.invariant.requests id request found).next at_yield)
  unlost := (kept.unlost.modify_iff found _).mpr
    ((kept.invariant.requests id request found).unlost_next (kept.unlost id request found) at_yield)
  idle := kept.idle

/-- After a completion, `co_await *core_` does not suspend a generator that was parked. -/
theorem coAwait_progress (kept : state.Kept) (found : state.requests id = some request)
    (completed : request.done.isSome = true)
    (parked : request.position = .notStarted ∨ request.position = .atYield) :
    ∃ after, (state.coAwait id).requests id = some after ∧
      ((∃ ending, after.position = .ended ending) ∨
        after.position = .atYield ∧ after.done.isSome = true ∧
          after.core.chunks.length < request.core.chunks.length) := by
  have read := (kept.invariant.requests id request found).readAll
  have ready := (kept.unlost id request found).ready completed parked
  have no_error := (read.parked (by simpa using parked)).2
  refine ⟨_, requests_modify_self (found_checkCurlInfo found) Request.await, ?_⟩
  rw [Request.await_of_ready ready]
  rcases (read.ready_of_awaitReady no_error ready).progress read.recorded with
    ended | ⟨at_yield, done_eq, -, fewer⟩
  · exact .inl ended
  · refine .inr ⟨at_yield, ?_, ?_⟩
    · rw [done_eq, Request.done_readAll]
      exact completed
    · rwa [Request.chunks_readAll] at fewer

/-- The induction is on the number of chunks that were not yielded yet. -/
theorem readsToEnd_of_parked (bound : ℕ) (kept : state.Kept)
    (found : state.requests id = some request) (completed : request.done.isSome = true)
    (parked : request.position = .notStarted ∨ request.position = .atYield)
    (fewer : request.core.chunks.length < bound) : state.ReadsToEnd id := by
  induction bound generalizing state request with
  | zero => omega
  | succ bound ih =>
      have from_coAwait : ∀ {state : State} {request : Request}, state.Kept →
          state.requests id = some request → request.done.isSome = true →
          request.position = .notStarted ∨ request.position = .atYield →
          request.core.chunks.length < bound + 1 → (state.coAwait id).ReadsToEnd id := by
        intro state request kept found completed parked fewer
        have kept_after := kept.coAwait found parked
        rcases kept.coAwait_progress found completed parked with
          ⟨after, found_after, ⟨ending, ended⟩ | ⟨at_yield, completed_after, fewer_after⟩⟩
        · exact .of_ended kept_after.invariant found_after ended
        · exact ih kept_after found_after completed_after (.inr at_yield) (by omega)
      have resume_eq : ∀ {state : State} {request : Request},
          state.requests id = some request → request.position = .atYield →
          state.resume id = state.coAwait id := by
        intro state request found at_yield
        simp only [State.resume, found, Option.map_some, at_yield]
      rcases parked with not_started | at_yield
      · refine .step (.inl rfl) ⟨kept.idle, request, found, not_started⟩ ?_
        exact from_coAwait kept found completed (.inl not_started) fewer
      · cases enqueued : request.enqueued with
        | true =>
            refine .step (.inr (.inr rfl)) ⟨kept.idle, request, found, enqueued⟩ ?_
            rw [Action.perform, resume_eq found at_yield]
            exact from_coAwait kept found completed (.inr at_yield) fewer
        | false =>
            have kept_next := kept.next found at_yield
            have found_next := requests_modify_self found ({ · with enqueued := true })
            refine .step (.inr (.inl rfl)) ⟨kept.idle, request, found, at_yield, enqueued⟩ ?_
            refine .step (.inr (.inr rfl)) ⟨kept_next.idle, _, found_next, rfl⟩ ?_
            rw [Action.perform, Action.perform, resume_eq found_next at_yield]
            exact from_coAwait kept_next found_next completed (.inr at_yield) fewer

/-- Whoever reads on after a completion or a socket error gets to the end. -/
theorem readsToEnd (kept : state.Kept) (found : state.requests id = some request)
    (happened : request.done.isSome = true ∨ request.errors ≠ [])
    (heard : state.Heard (.resume id)) : state.ReadsToEnd id := by
  have invariant := kept.invariant.requests id request found
  have unlost := kept.unlost id request found
  cases position : request.position with
  | notStarted =>
      have completed := unlost.completed happened (.inl position)
      exact kept.readsToEnd_of_parked _ found completed (.inl position) (Nat.lt_succ_self _)
  | atYield =>
      have completed := unlost.completed happened (.inr position)
      exact kept.readsToEnd_of_parked _ found completed (.inr position) (Nat.lt_succ_self _)
  | ended ending => exact .of_ended kept.invariant found position
  | awaiting =>
      have enqueued : request.enqueued = true := by
        by_contra not_enqueued
        have not_completed : ¬request.done.isSome = true := by
          intro completed
          rcases unlost.enqueued completed position with enqueued | ⟨in_socket, -⟩
          · exact not_enqueued enqueued
          · simp [kept.idle] at in_socket
        have failed := happened.resolve_left not_completed
        rcases unlost.error failed (by simpa using not_completed) with
          ⟨-, enqueued, -⟩ | ⟨ending, ended⟩
        · exact not_enqueued enqueued
        · simp [position] at ended
      have enabled : Action.Enabled state (.resume id) := ⟨kept.idle, request, found, enqueued⟩
      refine .step (.inr (.inr rfl)) enabled ?_
      have invariant_after := kept.invariant.step enabled
      have unlost_after := (kept.unlost.step_iff kept.invariant enabled).mpr heard
      rcases kept.invariant.enqueued_cases found enqueued with
        ⟨at_yield, -⟩ | ⟨-, handle, ready, resume_eq⟩
      · simp [position] at at_yield
      · rw [Action.perform, resume_eq] at invariant_after unlost_after ⊢
        have found_after := requests_modify_self found Request.resumed
        rcases ready.progress invariant.recorded with
          ⟨ending, ended⟩ | ⟨at_yield, done_eq, errors_eq, -⟩
        · exact .of_ended invariant_after found_after ended
        · have completed := (unlost_after id _ found_after).completed
            (by rwa [done_eq, errors_eq]) (.inr at_yield)
          exact readsToEnd_of_parked _ ⟨invariant_after, unlost_after, kept.idle⟩ found_after
            completed (.inr at_yield) (Nat.lt_succ_self _)

end Kept

theorem kept_of_reachableVia (reached : system.ReachableVia Heard state) :
    state.Invariant ∧ state.Unlost := by
  refine reached.invariant (fun state => state.Invariant ∧ state.Unlost) ?_ ?_
  · rintro state rfl
    exact ⟨⟨fun _ _ found => (nomatch found), fun _ _ => rfl⟩, fun _ _ found => (nomatch found)⟩
  · rintro state action ⟨invariant, unlost⟩ enabled heard
    exact ⟨invariant.step enabled, (unlost.step_iff invariant enabled).mpr heard⟩

/-- What is to be expected of a request whose transfer is complete, or for which a socket error was
reported. -/
structure Settles (state : State) (id : ℕ) (request : Request) : Prop where
  unlost : request.Unlost state.phase (state.unread id)
  reports : ∀ ending, request.position = .ended ending → request.Reports ending
  /-- The generator does not stay suspended, if the consumer reads on. -/
  readsToEnd : state.phase = .idle → state.Heard (.resume id) →
    request.done.isSome = true ∨ request.errors ≠ [] → state.ReadsToEnd id

/-- As long as every step is heard, every request settles; and the steps that are not heard lose a
completion or a socket error. -/
theorem settles_of_reachableVia (reached : system.ReachableVia Heard state) :
    (∀ id request, state.requests id = some request → state.Settles id request) ∧
      ∀ action, system.Enabled state action →
        ((system.perform state action).Unlost ↔ state.Heard action) := by
  rcases kept_of_reachableVia reached with ⟨invariant, unlost⟩
  refine ⟨fun id request found => ⟨unlost id request found, ?_, ?_⟩,
    fun action enabled => unlost.step_iff invariant enabled⟩
  · exact fun ending ended => (invariant.requests id request found).reports ended
  · exact fun idle heard happened => Kept.readsToEnd ⟨invariant, unlost, idle⟩ found happened heard

/-- The first request is completed in the callback of its socket, and the socket of the second one
fails. -/
theorem settles_two_requests :
    ∃ (state : State) (first second : Request), system.Reachable state ∧
      state.requests 0 = some first ∧ first.done = some ⟨0, 200, 0⟩ ∧ state.Settles 0 first ∧
      state.requests 1 = some second ∧ second.errors = [-104] ∧ state.Settles 1 second := by
  have start : system.ReachableVia Heard {} := .start rfl
  have first := start.step (Action.request 0 "a") ⟨rfl, rfl⟩ trivial
  have second := first.step (Action.request 1 "b") ⟨rfl, rfl⟩ trivial
  have started := second.step (Action.start 0) ⟨rfl, _, rfl, rfl⟩ trivial
  have both := started.step (Action.start 1) ⟨rfl, _, rfl, rfl⟩ trivial
  have timeout := both.step Action.onUvTimeout rfl trivial
  have socket := timeout.step (Action.curlSocketFunction 5 0) ⟨by decide, rfl⟩ trivial
  have sockets := socket.step (Action.curlSocketFunction 6 1) ⟨by decide, rfl⟩ trivial
  have connecting := sockets.step Action.socketActionReturned
    (show Phase.inTimeout ≠ .idle by decide) trivial
  have active := connecting.step (Action.onCurlSocketActive 5 0) ⟨rfl, rfl⟩
    (fun error => absurd rfl error)
  have received := active.step (Action.onCurlDataAvailable 0 "x") ⟨by decide, _, rfl, rfl⟩ trivial
  have completed := received.step (Action.complete 0 ⟨0, 200, 0⟩) ⟨by decide, _, rfl, rfl⟩
    (by rintro _ ⟨⟩; intro; rfl)
  have returned := completed.step Action.socketActionReturned
    (show Phase.inSocket ≠ .idle by decide) trivial
  have failed := returned.step (Action.onCurlSocketActive 6 (-104)) ⟨rfl, rfl⟩
    (by rintro - _ ⟨⟩ _ ⟨⟩; exact .inl rfl)
  have settles := (settles_of_reachableVia failed).1
  exact ⟨_, _, _, failed.reachable, rfl, rfl, settles 0 _ rfl, rfl, rfl, settles 1 _ rfl⟩

/-- A transfer runs into its timeout while the generator waits: the timeout callback does not read
the message. -/
theorem timeout_is_lost :
    ¬∀ state, system.Reachable state → ∀ id request, state.requests id = some request →
      state.Settles id request := by
  intro always
  have start : system.Reachable {} := .start rfl
  have requested := start.step (Action.request 0 "a") ⟨rfl, rfl⟩ trivial
  have started := requested.step (Action.start 0) ⟨rfl, _, rfl, rfl⟩ trivial
  have timeout := started.step Action.onUvTimeout rfl trivial
  have completed := timeout.step (Action.complete 0 ⟨28, 0, 0⟩) ⟨by decide, _, rfl, rfl⟩ trivial
  have returned := completed.step Action.socketActionReturned
    (show Phase.inTimeout ≠ .idle by decide) trivial
  rcases (always _ returned 0 _ rfl).unlost.enqueued rfl rfl with enqueued | ⟨in_socket, -⟩
  · exact absurd enqueued (by decide)
  · exact absurd in_socket (by decide)

end State

end Uvco.Curl
