import Mathlib.Data.List.Induction
import Uvco.Curl.Stage

/-!
# What the consumer of `start()` obtains

A consumer that is as fast as the transfer obtains the chunks of a response before its
status is known. A slow consumer finds the status first, and if the response is rejected,
obtains nothing.
-/

namespace Uvco.Curl

/-- What libcurl does about a request. -/
structure History where
  chunks : List String
  done : Done

namespace History

variable (history : History)

/-- A consumer that reads `start()` to its end can obtain these chunks. -/
def Yields (values : List String) : Prop :=
  ∃ state id request ending, system.Reachable state ∧ state.requests id = some request ∧
    request.position = .ended ending ∧ request.arrived = history.chunks ∧
    request.done = some history.done ∧ request.errors = [] ∧ request.yielded = values

/-- All consumers obtain the same: all chunks, or none if the response is rejected. -/
def Independent : Prop :=
  ∀ values, history.Yields values →
    (values = history.chunks ∨ ¬history.done.Accepted ∧ values = []) ∧
      ∀ other, history.Yields other → values = other

variable {history} {values : List String}

/-- What was not obtained is left in the request. -/
theorem Yields.exists_rest (yields : history.Yields values) :
    ∃ rest, history.chunks = values ++ rest ∧ (history.done.Accepted → rest = []) := by
  rcases yields with
    ⟨state, id, request, ending, reached, found, ended, arrived, done_eq, no_errors, rfl⟩
  have invariant := (State.invariant_of_reachableVia reached).requests id request found
  refine ⟨request.core.chunks, arrived ▸ invariant.arrived_eq, fun accepted => ?_⟩
  rcases invariant.finished ended with ⟨status, reported, -⟩ | ⟨done, known, all_yielded⟩
  · simp [no_errors] at reported
  · have same := (invariant.recorded.done_eq known).1
    rw [done_eq] at same
    exact all_yielded (Option.some.inj same ▸ accepted)

end History

/-! ## Two consumers -/

namespace State

/-- There is one request, with a socket. -/
def single (request : Request) (messages : List (ℕ × Done)) (phase : Phase) : State where
  requests := Function.update (fun _ => none) 0 (some request)
  messages
  polls := Function.update (fun _ => none) 0 (some 0)
  phase

variable {request : Request} {messages : List (ℕ × Done)} {phase : Phase}

theorem modify_single (change : Request → Request) :
    (single request messages phase).modify 0 change = single (change request) messages phase := by
  simp [single, modify]

theorem resume_single (awaiting : request.position = .awaiting) :
    (single request messages phase).resume 0 = single request.resumed messages phase := by
  have position_eq : ((single request messages phase).requests 0).map Request.position =
      some .awaiting := congrArg some awaiting
  rw [resume, position_eq]
  exact modify_single Request.resumed

theorem checkCurlInfo_single (done : Done) :
    (single request [(0, done)] phase).checkCurlInfo =
      single (request.readDone done) [] phase :=
  modify_single (·.readDone done)

theorem coAwait_single : (single request [] phase).coAwait 0 = single request.await [] phase :=
  modify_single Request.await

theorem reachable_single (url : String) (phase : Phase) :
    system.Reachable (single { core := { url } } [] phase) := by
  have start : system.Reachable {} := .start rfl
  have requested := start.step (Action.request 0 url) ⟨rfl, rfl⟩ trivial
  have timeout := requested.step Action.onUvTimeout rfl trivial
  have polled := timeout.step (Action.curlSocketFunction 0 0)
    ⟨show Phase.inTimeout ≠ .idle by decide, rfl⟩ trivial
  have idle := polled.step Action.socketActionReturned
    (show Phase.inTimeout ≠ .idle by decide) trivial
  cases phase with
  | idle => exact idle
  | inTimeout => exact idle.step Action.onUvTimeout rfl trivial
  | inSocket => exact idle.step (Action.onCurlSocketActive 0 0) ⟨rfl, rfl⟩ trivial

section Reachable

variable (reached : system.Reachable (single request messages phase))

include reached

theorem reachable_onDataAvailable (busy : phase ≠ .idle) (transferring : request.done = none)
    (data : String) :
    system.Reachable (single (request.onDataAvailable data) messages phase) := by
  rw [← modify_single (·.onDataAvailable data)]
  exact reached.step (Action.onCurlDataAvailable 0 data) ⟨busy, request, rfl, transferring⟩ trivial

theorem reachable_complete (busy : phase ≠ .idle) (transferring : request.done = none)
    (done : Done) :
    system.Reachable
      (single { request with done := some done } (messages ++ [(0, done)]) phase) := by
  rw [← modify_single ({ · with done := some done })]
  exact reached.step (Action.complete 0 done) ⟨busy, request, rfl, transferring⟩ trivial

theorem reachable_resumed (idle : phase = .idle) (awaiting : request.position = .awaiting)
    (enqueued : request.enqueued = true) :
    system.Reachable (single request.resumed messages phase) := by
  rw [← resume_single awaiting]
  exact reached.step (Action.resume 0) ⟨idle, request, rfl, enqueued⟩ trivial

end Reachable

theorem reachable_start (reached : system.Reachable (single request [] .idle))
    (not_started : request.position = .notStarted) :
    system.Reachable (single request.await [] .idle) := by
  rw [← coAwait_single]
  exact reached.step (Action.start 0) ⟨rfl, request, rfl, not_started⟩ trivial

/-- The consumer has obtained a chunk, and awaits the next one. -/
theorem reachable_next (reached : system.Reachable (single request [] .idle))
    (at_yield : request.position = .atYield) (parked : request.enqueued = false) :
    system.Reachable (single ({ request with enqueued := true } : Request).await [] .idle) := by
  have next : system.Reachable (single { request with enqueued := true } [] .idle) := by
    rw [← modify_single ({ · with enqueued := true })]
    exact reached.step (Action.next 0) ⟨rfl, request, rfl, at_yield, parked⟩ trivial
  have resumed := next.step (Action.resume 0) ⟨rfl, _, rfl, rfl⟩ trivial
  have position_eq : ((single { request with enqueued := true } [] .idle).requests 0).map
      Request.position = some .atYield := congrArg some at_yield
  change system.Reachable ((single { request with enqueued := true } [] .idle).resume 0) at resumed
  rwa [resume, position_eq, coAwait_single] at resumed

/-! ### The slow one -/

/-- The whole response arrives before `start()` is called. -/
theorem reachable_buffered (url : String) (chunks : List String) :
    system.Reachable (single { core := { url, chunks }, arrived := chunks } [] .inTimeout) := by
  induction chunks using List.reverseRecOn with
  | nil => exact reachable_single url .inTimeout
  | append_singleton chunks chunk ih => exact reachable_onDataAvailable ih (by decide) rfl chunk

/-! ### The fast one -/

/-- The generator waits for the next chunk, and the consumer has obtained all others. -/
def caughtUp (url : String) (taken : List String) : Request where
  core := { url, downloaderHandle := true }
  position := .awaiting
  yielded := taken
  arrived := taken

theorem reachable_caughtUp (url : String) (chunks : List String) :
    system.Reachable (single (caughtUp url chunks) [] .idle) := by
  induction chunks using List.reverseRecOn with
  | nil => exact reachable_start (reachable_single url .idle) rfl
  | append_singleton chunks chunk ih =>
      have timeout : system.Reachable (single (caughtUp url chunks) [] .inTimeout) :=
        ih.step Action.onUvTimeout rfl trivial
      have arrived := reachable_onDataAvailable timeout (by decide) rfl chunk
      have idle : system.Reachable
          (single ((caughtUp url chunks).onDataAvailable chunk) [] .idle) :=
        arrived.step Action.socketActionReturned (show Phase.inTimeout ≠ .idle by decide) trivial
      exact reachable_next (reachable_resumed idle rfl rfl rfl) rfl rfl

end State

namespace History

variable (history : History)

/-- Whoever is as fast as the transfer obtains all chunks. -/
theorem yields_all : history.Yields history.chunks := by
  have socket : system.Reachable (State.single (State.caughtUp "" history.chunks) [] .inSocket) :=
    (State.reachable_caughtUp "" history.chunks).step (Action.onCurlSocketActive 0 0) ⟨rfl, rfl⟩
      trivial
  have completed := State.reachable_complete socket (by decide) rfl history.done
  have returned := completed.step Action.socketActionReturned
    (show Phase.inSocket ≠ .idle by decide) trivial
  have idle : system.Reachable (State.single
      ({ State.caughtUp "" history.chunks with done := some history.done }.readDone history.done)
      [] .idle) := by
    change system.Reachable
      { State.checkCurlInfo (State.single _ [(0, history.done)] .inSocket) with phase := .idle }
      at returned
    rwa [State.checkCurlInfo_single] at returned
  have ended := State.reachable_resumed idle rfl rfl rfl
  rw [Request.resumed_of_no_chunk rfl] at ended
  exact ⟨_, 0, _, _, ended, rfl, rfl, rfl, rfl, rfl, rfl⟩

/-- Whoever calls `start()` after the transfer obtains nothing, if the response is rejected. -/
theorem yields_nothing (rejected : ¬history.done.Accepted) (some_chunk : history.chunks ≠ []) :
    history.Yields [] := by
  have buffered := State.reachable_buffered "" history.chunks
  have completed := State.reachable_complete buffered (by decide) rfl history.done
  have returned := completed.step Action.socketActionReturned
    (show Phase.inTimeout ≠ .idle by decide) trivial
  have started := returned.step (Action.start 0) ⟨rfl, _, rfl, rfl⟩ trivial
  let late : Request :=
    { core := { url := "", chunks := history.chunks }, arrived := history.chunks
      done := some history.done }
  have known : (late.readDone history.done).core.Knows (some history.done) := ⟨rfl, rfl, rfl⟩
  have ready : (late.readDone history.done).core.awaitReady = true :=
    (CurlRequestCore.awaitReady_iff known).mpr (.inl some_chunk)
  have no_chunk : (late.readDone history.done).core.rejected = true :=
    (CurlRequestCore.rejected_iff known fun _ no_status => (nomatch no_status)).mpr rejected
  have ended : system.Reachable
      (State.single (late.readDone history.done).finish [] .idle) := by
    change system.Reachable
      (((State.single late [(0, history.done)] .idle).checkCurlInfo).modify 0 Request.await)
      at started
    rwa [State.checkCurlInfo_single, State.modify_single, Request.await_of_ready ready,
      Request.resumed_of_rejected no_chunk] at started
  exact ⟨_, 0, _, _, ended, rfl, rfl, rfl, rfl, rfl, rfl⟩

/-- What a consumer obtains does not depend on its pace if and only if the response is accepted, or
has no body. -/
theorem independent_iff :
    history.Independent ↔ history.done.Accepted ∨ history.chunks = [] := by
  constructor
  · intro independent
    by_contra neither
    rcases not_or.mp neither with ⟨rejected, some_chunk⟩
    have same := (independent history.chunks history.yields_all).2 []
      (history.yields_nothing rejected some_chunk)
    exact some_chunk same
  · intro decided
    have all : ∀ values, history.Yields values → values = history.chunks := by
      intro values yields
      rcases yields.exists_rest with ⟨rest, chunks_eq, no_rest⟩
      rcases decided with accepted | no_chunk
      · rw [chunks_eq, no_rest accepted, List.append_nil]
      · rw [no_chunk] at chunks_eq ⊢
        exact (List.append_eq_nil_iff.mp chunks_eq.symm).1
    exact fun values yields =>
      ⟨.inl (all values yields),
        fun other yields' => (all values yields).trans (all other yields').symm⟩

/-- A page that was not found, with a body. -/
theorem not_found_depends_on_pace :
    ¬∀ history : History, history.Independent := by
  intro always
  have independent := always ⟨["gone"], ⟨0, 404, 0⟩⟩
  have fast := yields_all ⟨["gone"], ⟨0, 404, 0⟩⟩
  have slow := yields_nothing ⟨["gone"], ⟨0, 404, 0⟩⟩ (by decide) (by decide)
  exact absurd ((independent _ fast).2 _ slow) (by decide)

end History

end Uvco.Curl
