import Uvco.Request.Owned
import Uvco.Stream.Progress

/-!
# The status of a failed stream operation

`read()` and `shutdown()` throw the status that libuv has reported. `write()`
throws the result of `uv_write` instead, which is not negative.
-/

namespace Uvco.Stream

namespace Ended

/-- libuv completes the operation with this status, or `close()` implies it. -/
def Completed (ended : Ended) (status : Int) : Prop :=
  ended.awaiter.status = some status ∨
    ended.point = .write ∧ ended.awaiter.status = none ∧ 0 < ended.awaiter.closes ∧
      status = UV_ECANCELED

/-- The operation has ended as libuv has reported. -/
structure KeepsStatus (ended : Ended) : Prop where
  failed : ∀ status < 0, ended.Completed status → (ended.point = .read → status ≠ UV_EOF) →
    ∃ exception, ended.outcome = .threw exception ∧ exception.status = some status
  succeeded : ∀ status, 0 ≤ status → ended.awaiter.status = some status →
    ended.awaiter.closes = 0 → ∀ exception, ended.outcome ≠ .threw exception

/-- What an operation reports is decided by its awaiter. -/
structure Explained (ended : Ended) : Prop where
  accepted : 0 ≤ ended.awaiter.started
  outcome_eq : ended.awaiter.closes = 0 ∧ (∃ status, ended.awaiter.status = some status ∧
      ended.outcome = reported ended.point ended.awaiter status) ∨
    0 < ended.awaiter.closes ∧ ended.outcome = State.interrupted ended.point ended.awaiter

theorem readOutcome_of_error {status : Int} (negative : status < 0) (not_end : status ≠ UV_EOF) :
    ∃ exception, readOutcome status = .threw exception ∧ exception.status = some status := by
  simp [readOutcome, negative, not_end, UvcoException.status]

theorem writeOutcome_of_error (started : Int) {status : Int} (negative : status < 0)
    {exception : UvcoException} (threw : writeOutcome started status = .threw exception) :
    exception.status = some started := by
  rw [writeOutcome, if_pos negative] at threw
  obtain rfl := Outcome.threw.inj threw
  rfl

theorem Explained.read_keepsStatus {ended : Ended} (explained : ended.Explained)
    (reads : ended.point = .read) : ended.KeepsStatus := by
  rcases ended with ⟨point, awaiter, outcome⟩
  obtain rfl : point = .read := reads
  have outcome_eq : ∀ status, awaiter.status = some status → outcome = readOutcome status := by
    intro status status_eq
    rcases explained.outcome_eq with ⟨-, same, same_eq, outcome_eq⟩ | ⟨-, outcome_eq⟩
    · obtain rfl := Option.some.inj (status_eq.symm.trans same_eq)
      exact outcome_eq
    · simpa [State.interrupted, status_eq] using outcome_eq
  constructor
  · rintro status negative (completed | ⟨⟨⟩, -⟩) not_end
    rw [outcome_eq status completed]
    exact readOutcome_of_error negative (not_end rfl)
  · intro status success completed _ exception
    rw [outcome_eq status completed, State.Invariant.readOutcome_of_success success]
    simp

/-- A failed `write()` throws something else than what libuv has reported. -/
theorem Explained.write_keepsStatus_iff {ended : Ended} (explained : ended.Explained)
    (writes : ended.point = .write) :
    ended.KeepsStatus ↔ ∀ status, ended.Completed status → 0 ≤ status := by
  rcases ended with ⟨point, awaiter, outcome⟩
  obtain rfl : point = .write := writes
  have accepted : 0 ≤ awaiter.started := explained.accepted
  constructor
  · intro keeps status completed
    by_contra negative
    rcases keeps.failed status (by omega) completed nofun with ⟨exception, threw, status_eq⟩
    have started_eq : exception.status = some awaiter.started := by
      rcases explained.outcome_eq with ⟨not_closed, same, same_eq, outcome_eq⟩ | ⟨-, outcome_eq⟩
      · have completed_eq : same = status := by
          rcases completed with reported_eq | ⟨-, -, closed, -⟩
          · exact Option.some.inj (same_eq.symm.trans reported_eq)
          · dsimp only at closed not_closed
            omega
        rw [outcome_eq] at threw
        exact writeOutcome_of_error awaiter.started (by omega) threw
      · rw [outcome_eq] at threw
        exact writeOutcome_of_error awaiter.started (by decide) threw
    have := Option.some.inj (started_eq.symm.trans status_eq)
    omega
  · intro successful
    constructor
    · intro status negative completed _
      have := successful status completed
      omega
    · intro status success completed not_closed exception
      rcases explained.outcome_eq with ⟨-, same, same_eq, outcome_eq⟩ | ⟨closed, -⟩
      · obtain rfl := Option.some.inj (completed.symm.trans same_eq)
        rw [outcome_eq]
        simp [reported, State.Invariant.writeOutcome_of_success awaiter.started success]
      · dsimp only at closed not_closed
        omega

end Ended

namespace State

variable {state : State}

/-- Requests of suspended writers were accepted, and what has ended is explained. -/
structure Accounted (state : State) : Prop where
  accepted : ∀ point awaiter, state.awaiter point = some awaiter → 0 ≤ awaiter.started
  explained : ∀ ended ∈ state.ended, ended.Explained

theorem mem_endedAt {ended : Ended} : ended ∈ state.endedAt ended.point ↔ ended ∈ state.ended := by
  simp [endedAt]

theorem Accounted.step {action : Action} {after : State} (accounted : state.Accounted)
    (progress : ∀ point, Progress state action after point) : after.Accounted := by
  have old : ∀ point ended, ended ∈ state.endedAt point → ended.Explained :=
    fun point ended ended_mem => accounted.explained ended (List.mem_filter.mp ended_mem).1
  constructor
  · intro point awaiter found
    cases progress point with
    | idle _ same => exact accounted.accepted point awaiter (same.symm.trans found)
    | begins begun start _ accepted _ _ begun_found started =>
        obtain rfl := Option.some.inj (begun_found.symm.trans found)
        rw [started]
        exact accepted
    | reported called status _ called_found _ after_eq =>
        obtain rfl := Option.some.inj (after_eq.symm.trans found)
        exact accounted.accepted point called called_found
    | dropped _ _ _ gone => simp [gone] at found
    | resumed _ _ _ _ _ _ gone => simp [gone] at found
    | closed _ _ _ _ gone => simp [gone] at found
  · intro ended ended_mem
    rw [← mem_endedAt] at ended_mem
    cases progress ended.point with
    | idle _ _ ended_eq => exact old _ _ (ended_eq ▸ ended_mem)
    | begins _ _ _ _ _ _ _ _ _ ended_eq => exact old _ _ (ended_eq ▸ ended_mem)
    | reported _ _ _ _ _ _ ended_eq => exact old _ _ (ended_eq ▸ ended_mem)
    | dropped _ _ _ _ ended_eq => exact old _ _ (ended_eq ▸ ended_mem)
    | resumed awaiter status _ found is_reported not_closed _ ended_eq =>
        rw [ended_eq, List.mem_append, List.mem_singleton] at ended_mem
        rcases ended_mem with earlier | latest
        · exact old _ _ earlier
        · rw [latest]
          exact ⟨accounted.accepted _ awaiter found, .inl ⟨not_closed, status, is_reported, rfl⟩⟩
    | closed awaiter _ found _ _ ended_eq =>
        rw [ended_eq, List.mem_append, List.mem_singleton] at ended_mem
        rcases ended_mem with earlier | latest
        · exact old _ _ earlier
        · rw [latest]
          exact ⟨accounted.accepted _ awaiter found, .inr ⟨Nat.succ_pos _, rfl⟩⟩

theorem accounted_of_reachable (reached : system.Reachable state) : state.Accounted := by
  induction reached with
  | start initial =>
      obtain rfl := initial
      exact ⟨by simp, by simp⟩
  | step action reached enabled _ ih =>
      exact ih.step fun point => step_progress reached enabled point

end State

/-- `shutdown()` throws what libuv has reported. -/
theorem shutdown_outcome {state : Request.State}
    (reached : (Request.system Request.StreamBase.shutdown).Reachable state) {coroutine : Handle}
    {operation : Request.Operation} {status : Int} {outcome : Request.Outcome}
    (found : state.operation coroutine = some operation)
    (done : operation.request.phase = .done status) (ended : operation.outcome = some outcome) :
    outcome = Request.ofStatus "StreamBase::shutdown() encountered error" status := by
  have invariant := Request.invariant_of_callbackOwned (by simp [Request.callbackOwned]) reached
  cases invariant.stage coroutine operation found with
  | settled same _ same_done explained =>
      obtain rfl := Request.Phase.done.inj (done.symm.trans same_done)
      rcases explained outcome ended with registers | ⟨isOpen, awaiter, reported, outcome_eq⟩
      · simp [Request.StreamBase.shutdown] at registers
      · simpa [Request.StreamBase.shutdown, reported] using outcome_eq.symm
  | suspended _ _ _ unresumed => simp [unresumed] at ended
  | unstarted _ _ _ _ _ unresumed => simp [unresumed] at ended
  | called _ _ _ unresumed => simp [unresumed] at ended
  | resumed _ _ _ kept => simp [Request.StreamBase.shutdown] at kept
  | abandoned _ inFlight => simp [done, Request.Phase.InFlight] at inFlight
  | refused _ _ idle => simp [done] at idle

/-- In every run, an operation reports the status of its completion if and only if it is not a
`write()` that was completed with an error. -/
theorem keepsStatus_iff {stream : State} {shutdowns : Request.State}
    (reached : system.Reachable stream)
    (shutdowns_reached : (Request.system Request.StreamBase.shutdown).Reachable shutdowns) :
    (∀ ended ∈ stream.ended,
      (ended.KeepsStatus ↔
        (ended.point = .write → ∀ status, ended.Completed status → 0 ≤ status))) ∧
    ∀ coroutine operation status outcome, shutdowns.operation coroutine = some operation →
      operation.request.phase = .done status → operation.outcome = some outcome →
      (status ≠ 0 → ∃ exception, outcome = .threw exception ∧ exception.status = some status) ∧
        (status = 0 → outcome = .returned) := by
  constructor
  · intro ended ended_mem
    have explained := (State.accounted_of_reachable reached).explained ended ended_mem
    cases point_eq : ended.point with
    | read => simpa using explained.read_keepsStatus point_eq
    | write => simpa using explained.write_keepsStatus_iff point_eq
  · intro coroutine operation status outcome found done ended
    rw [shutdown_outcome shutdowns_reached found done ended]
    constructor
    · intro failed
      simp [Request.ofStatus, failed, UvcoException.status]
    · intro success
      simp [Request.ofStatus, success]

/-- A `read()` fails, and keeps its status. -/
theorem keepsStatus_failed_read :
    (⟨.read, { coroutine := 0, status := some (-104), callbacks := 1 },
      readOutcome (-104)⟩ : Ended).KeepsStatus := by
  have no_shutdowns : (Request.system Request.StreamBase.shutdown).Reachable {} := .start rfl
  have start : system.Reachable {} := .start rfl
  have reads := start.step (Action.read 0 false 0 0) ⟨rfl, rfl, rfl⟩ trivial
  have called := reads.step (Action.onInStreamRead (-104)) rfl trivial
  have resumed := called.step Action.resumeNext trivial trivial
  exact ((keepsStatus_iff resumed no_shutdowns).1 _ (List.mem_singleton_self _)).mpr nofun

/-- libuv reports that a write has failed, and `write()` throws an exception whose status is 0. -/
theorem failed_write_loses_status :
    ¬∀ state, system.Reachable state → ∀ ended ∈ state.ended, ended.KeepsStatus := by
  intro always
  have start : system.Reachable {} := .start rfl
  have writes := start.step (Action.write 0 0) ⟨rfl, rfl, rfl⟩ trivial
  have called := writes.step (Action.onOutStreamWrite 0 (-32)) (Nat.lt_succ_self 0) trivial
  have resumed := called.step Action.resumeNext trivial trivial
  rcases (always _ resumed _ (List.mem_singleton_self _)).failed (-32) (by decide) (.inl rfl) nofun
    with ⟨exception, threw, status_eq⟩
  obtain rfl := Outcome.threw.inj threw
  exact absurd status_eq (by decide)

end Uvco.Stream
