import Uvco.Stream.Stage

/-!
# How often a suspended operation is resumed

`close()` resumes the coroutines in `reader_` and `writer_` directly. If the callback
of such a coroutine was called before, the scheduler holds its handle, too: the
coroutine runs and ends within `close()`, and the entry stays in the queue. A
`write()` then reports that it was cancelled, although libuv reported success.

This is what goes wrong, and nothing else does.
-/

namespace Uvco.Stream

namespace State

variable {state : State} {point : Point}

/-- Every operation is resumed once, by its callback or by `close()`. -/
structure ResumedOnce (state : State) : Prop where
  /-- An operation that has ended was woken by its callback or by `close()`, not by both. -/
  ended_once : ∀ ended ∈ state.ended, ended.Once
  /-- A suspended one is in the scheduler queue exactly if its callback was called. -/
  queued : ∀ point awaiter, state.awaiter point = some awaiter →
    awaiter.closes = 0 ∧ awaiter.callbacks ≤ 1 ∧
      state.runtime.pending awaiter.coroutine = awaiter.callbacks
  /-- Otherwise libuv will call back. None is left behind by `close()`. -/
  not_forgotten : ∀ point awaiter, state.awaiter point = some awaiter →
    state.isOpen = true ∧ (awaiter.callbacks = 0 → state.targets point = [awaiter.coroutine])
  resumed_unqueued : state.resumedQueued = false
  /-- The queue does not refer to a coroutine that has ended. -/
  no_entry : ∀ handle, state.runtime.status handle = .done → state.runtime.pending handle = 0

/-- `close()` is not called while a coroutine that it would resume is in the scheduler queue. -/
def ClosesUnqueued (state : State) : Action → Prop
  | .close => ∀ point handle, state.registered point = some handle →
      state.runtime.pending handle = 0
  | .read .. | .write .. | .onInStreamRead _ | .onOutStreamWrite .. | .drop _ | .resumeNext
  | .other _ => True

/-! ## Closing -/

/-- What a coroutine reports that is resumed because of `close()`. -/
def interrupted : Point → Awaiter → Outcome
  | .read, awaiter => awaiter.status.elim (.bytes 0) readOutcome
  | .write, awaiter => writeOutcome awaiter.started UV_ECANCELED

namespace Invariant

theorem release (invariant : state.Invariant) : state.release.Invariant := by
  constructor
  · exact invariant.consistent
  · intro point
    refine (invariant.stage point).keep rfl rfl ?_ (fun _ => rfl) (fun _ waiting => ⟨waiting, rfl⟩)
    cases point
    · exact .inr ⟨rfl, rfl⟩
    · exact .inl rfl
  · exact invariant.known
  · rfl
  · exact fun _ => rfl
  · exact invariant.ended_once
  · exact invariant.not_queued
  · exact invariant.no_fault

theorem outcome_closed (closed : state.isOpen = false) (point : Point) (awaiter : Awaiter) :
    state.outcome point awaiter = some (interrupted point awaiter) := by
  cases point with
  | read => cases reported : awaiter.status <;> simp [outcome, interrupted, reported, closed]
  | write => simp [outcome, interrupted, closed]

theorem resumeRegistered_eq {awaiter : Awaiter} (waits : state.Waiting point awaiter) :
    state.resumeRegistered point =
      (state.unregister point awaiter).awaitResume point awaiter.closed := by
  have status : (state.unregister point awaiter).runtime.status awaiter.coroutine =
      .waiting point := waits.status
  have found : (state.unregister point awaiter).awaiter point = some awaiter.closed := by
    simp [unregister, setAwaiter]
  simp only [State.resumeRegistered, waits.registered, waits.found, waits.unqueued, resume, status,
    found, Nat.lt_irrefl, decide_false, Bool.or_false]
  rfl

/-- A waiting coroutine that `close()` resumes ends. -/
theorem resumeRegistered (invariant : state.Invariant) (closed : state.isOpen = false)
    (unqueued : ∀ handle, state.registered point = some handle →
      state.runtime.pending handle = 0) :
    (state.resumeRegistered point).Invariant ∧
      (state.resumeRegistered point).awaiter = Function.update state.awaiter point none ∧
      (state.resumeRegistered point).registered =
        Function.update state.registered point none ∧
      (state.resumeRegistered point).isOpen = state.isOpen := by
  cases registered : state.registered point with
  | none =>
      have no_awaiter := (invariant.stage point).of_unregistered registered
      have unchanged : state.resumeRegistered point = state := by
        simp only [State.resumeRegistered, registered]
      rw [unchanged]
      refine ⟨invariant, ?_, ?_, rfl⟩
      · exact (Function.update_eq_self_iff.mpr no_awaiter.symm).symm
      · exact (Function.update_eq_self_iff.mpr registered.symm).symm
  | some handle =>
      rcases (invariant.stage point).of_registered registered with ⟨awaiter, awaits, rfl⟩
      have not_queued := unqueued _ registered
      rcases (invariant.stage point).of_found awaits.found with waits | queued
      case inr =>
        have queued_once := queued.queued_once
        omega
      rw [resumeRegistered_eq waits]
      have departing := invariant.departing awaits invariant.consistent rfl not_queued
        (fun _ _ => rfl)
      have no_status : awaiter.closed.status = none := waits.no_status
      have still_closed : (state.unregister point awaiter).isOpen = false := closed
      have outcome_eq := outcome_closed still_closed point awaiter.closed
      refine ⟨departing.unregister.awaitResume outcome_eq ⟨?_, ?_⟩, ?_, ?_, ?_⟩
      · simp [Awaiter.closed, waits.no_callback, waits.not_closed]
      · simp [no_status]
      · simp only [awaitResume, outcome_eq, leave_awaiter]
        simp [unregister, setRegistered, setAwaiter]
      · simp only [awaitResume, outcome_eq, leave_registered]
        simp [unregister, setRegistered, setAwaiter]
      · simp only [awaitResume, outcome_eq]
        exact (leave_frame _ _ _).2.1

end Invariant

/-- Resuming a coroutine changes neither the queue nor the stream, and creates no awaiter. -/
theorem resume_frame (state : State) (handle : Handle) :
    (state.resume handle).runtime.loop = state.runtime.loop ∧
      (state.resume handle).isOpen = state.isOpen ∧
      (state.resume handle).resumedQueued = state.resumedQueued ∧
      ∀ point, state.awaiter point = none → (state.resume handle).awaiter point = none := by
  unfold resume
  split
  · rename_i resumed _
    split
    · rename_i awaiter _
      rcases state.leave_frame resumed awaiter with ⟨runtime_eq, open_eq, -, queued_eq, -⟩
      unfold awaitResume
      split
      · refine ⟨?_, open_eq, queued_eq, ?_⟩
        · change (state.leave resumed awaiter).runtime.loop = state.runtime.loop
          rw [runtime_eq]
        · intro point no_awaiter
          by_cases same : point = resumed
          · simp [same]
          · simp [same, no_awaiter]
      · exact ⟨rfl, rfl, rfl, fun _ no_awaiter => no_awaiter⟩
    · exact ⟨rfl, rfl, rfl, fun _ no_awaiter => no_awaiter⟩
  · exact ⟨rfl, rfl, rfl, fun _ no_awaiter => no_awaiter⟩
  · exact ⟨rfl, rfl, rfl, fun _ no_awaiter => no_awaiter⟩
  · exact ⟨rfl, rfl, rfl, fun _ no_awaiter => no_awaiter⟩

theorem resumeRegistered_pending (state : State) (point : Point) (handle : Handle) :
    (state.resumeRegistered point).runtime.pending handle = state.runtime.pending handle := by
  unfold resumeRegistered
  split
  · simp only [Runtime.pending, (resume_frame _ _).1]
    rfl
  · rfl
  · rfl

/-- It is recorded that `close()` resumes a coroutine that is in the queue. -/
theorem resumeRegistered_resumedQueued (state : State) (point : Point) {handle : Handle}
    {awaiter : Awaiter} (registered : state.registered point = some handle)
    (found : state.awaiter point = some awaiter) :
    (state.resumeRegistered point).resumedQueued =
      (state.resumedQueued || decide (0 < state.runtime.pending handle)) := by
  simp only [resumeRegistered, registered, found, (resume_frame _ _).2.2.1]

theorem resumeRegistered_recorded (recorded : state.resumedQueued = true) :
    (state.resumeRegistered point).resumedQueued = true := by
  unfold resumeRegistered
  split
  · simp only [(resume_frame _ _).2.2.1, recorded, Bool.true_or]
  · exact recorded
  · exact recorded

namespace Invariant

theorem released_or_closed (invariant : state.Invariant) :
    ∃ released : State, released.Invariant ∧ released.isOpen = false ∧
      released.registered = state.registered ∧ released.runtime = state.runtime ∧
      released.awaiter = state.awaiter ∧ released.ended = state.ended ∧
      state.close = (released.resumeRegistered .read).resumeRegistered .write := by
  unfold State.close
  cases open_eq : state.isOpen with
  | false => exact ⟨state, invariant, open_eq, rfl, rfl, rfl, rfl, by simp⟩
  | true => exact ⟨state.release, invariant.release, rfl, rfl, rfl, rfl, rfl, by simp⟩

theorem close (invariant : state.Invariant) (unqueued : state.ClosesUnqueued .close) :
    state.close.Invariant ∧ ∀ point, state.close.awaiter point = none := by
  rcases invariant.released_or_closed with
    ⟨released, invariant, closed, registered_eq, runtime_eq, -, -, close_eq⟩
  have read_unqueued : ∀ handle, released.registered .read = some handle →
      released.runtime.pending handle = 0 := by
    rw [registered_eq, runtime_eq]
    exact unqueued .read
  rcases invariant.resumeRegistered closed read_unqueued with
    ⟨after_read, awaiter_eq, after_registered, open_eq⟩
  have write_unqueued : ∀ handle,
      (released.resumeRegistered .read).registered .write = some handle →
      (released.resumeRegistered .read).runtime.pending handle = 0 := by
    intro handle registered
    rw [after_registered, Function.update_of_ne (by simp), registered_eq] at registered
    rw [resumeRegistered_pending, runtime_eq]
    exact unqueued .write handle registered
  rcases after_read.resumeRegistered (open_eq.trans closed) write_unqueued with
    ⟨after_write, awaiter_eq', -, -⟩
  rw [close_eq]
  refine ⟨after_write, fun point => ?_⟩
  rw [awaiter_eq', awaiter_eq]
  cases point <;> simp

/-- At any other moment, `close()` resumes a coroutine that is in the queue. -/
theorem close_queued (invariant : state.Invariant) (queued : ¬state.ClosesUnqueued .close) :
    state.close.resumedQueued = true := by
  rcases invariant.released_or_closed with
    ⟨released, invariant, closed, registered_eq, runtime_eq, -, -, close_eq⟩
  simp only [ClosesUnqueued, not_forall] at queued
  rw [← registered_eq, ← runtime_eq] at queued
  rcases queued with ⟨point, handle, registered, pending⟩
  have positive := Nat.pos_of_ne_zero pending
  rw [close_eq]
  by_cases read_unqueued : ∀ handle, released.registered .read = some handle →
      released.runtime.pending handle = 0
  · rcases invariant.resumeRegistered closed read_unqueued with
      ⟨after_read, -, after_registered, -⟩
    cases point with
    | read => exact absurd (read_unqueued handle registered) pending
    | write =>
        rw [← Function.update_of_ne (by simp : Point.write ≠ .read) none released.registered,
          ← after_registered] at registered
        rcases (after_read.stage .write).of_registered registered with ⟨awaiter, awaits, rfl⟩
        rw [resumeRegistered_resumedQueued _ _ registered awaits.found, resumeRegistered_pending,
          decide_eq_true positive, Bool.or_true]
  · simp only [not_forall] at read_unqueued
    rcases read_unqueued with ⟨reader, reads, reader_pending⟩
    rcases (invariant.stage .read).of_registered reads with ⟨awaiter, awaits, rfl⟩
    apply resumeRegistered_recorded
    rw [resumeRegistered_resumedQueued _ _ reads awaits.found,
      decide_eq_true (Nat.pos_of_ne_zero reader_pending), Bool.or_true]

end Invariant

/-! ## Runs -/

/-- After `close()`, nobody is suspended. -/
def Drained (state : State) : Prop :=
  state.isOpen = false → ∀ point, state.awaiter point = none

namespace Drained

theorem report (drained : state.Drained) (point : Point) (target : Handle) (status : Int) :
    (state.report point target status).Drained := by
  unfold State.report
  split
  · rename_i awaiter found
    have not_closed : state.isOpen ≠ false := by
      intro closed
      simp [drained closed point] at found
    split
    · split
      · exact fun closed => absurd closed not_closed
      · exact fun closed => absurd closed not_closed
    · exact drained
  · exact drained

theorem resume (drained : state.Drained) (handle : Handle) : (state.resume handle).Drained := by
  rcases state.resume_frame handle with ⟨-, open_eq, -, no_awaiter⟩
  intro closed point
  exact no_awaiter point (drained (open_eq.symm.trans closed) point)

theorem drop (drained : state.Drained) (point : Point) : (state.drop point).Drained := by
  unfold State.drop
  split
  · rename_i awaiter found
    intro closed
    have was_closed := (leave_frame _ _ _).2.1.symm.trans closed
    simp [drained was_closed point] at found
  · exact drained

end Drained

theorem read_isOpen (state : State) (coroutine : Handle) (readable : Bool) (ready start : Int) :
    (state.read coroutine readable ready start).isOpen = state.isOpen := by
  unfold read
  dsimp only
  split
  · exact (leave_frame _ _ _).2.1
  · split
    · exact (leave_frame _ _ _).2.1
    · rfl

theorem write_isOpen (state : State) (coroutine : Handle) (status : Int) :
    (state.write coroutine status).isOpen = state.isOpen := by
  unfold write
  dsimp only
  split
  · exact (leave_frame _ _ _).2.1
  · rfl

/-- Nobody can be suspended on a closed stream. -/
theorem Drained.step (drained : state.Drained) {action : Action} (enabled : action.Enabled state)
    (not_close : action ≠ .close) : (action.perform state).Drained := by
  cases action with
  | read coroutine readable ready start =>
      intro closed
      have still_open := (state.read_isOpen coroutine readable ready start).trans enabled.1
      exact absurd (still_open.symm.trans closed) (by simp)
  | write coroutine status =>
      intro closed
      have still_open := (state.write_isOpen coroutine status).trans enabled.1
      exact absurd (still_open.symm.trans closed) (by simp)
  | onInStreamRead nread =>
      change (state.onInStreamRead nread).Drained
      unfold onInStreamRead
      split
      · refine Drained.report ?_ _ _ _
        exact drained
      · exact drained
  | onOutStreamWrite index status =>
      change (state.onOutStreamWrite index status).Drained
      unfold onOutStreamWrite
      dsimp only
      split
      · refine Drained.report ?_ _ _ _
        exact drained
      · exact drained
      · exact drained
  | close => exact absurd rfl not_close
  | drop point => exact drained.drop point
  | resumeNext =>
      change state.resumeNext.Drained
      unfold resumeNext
      split
      · refine Drained.resume ?_ _
        exact drained
      · exact drained
  | other action => exact drained

theorem Invariant.step (invariant : state.Invariant) (drained : state.Drained) {action : Action}
    (enabled : action.Enabled state) (unqueued : state.ClosesUnqueued action) :
    (action.perform state).Invariant := by
  cases action with
  | read coroutine readable ready start => exact invariant.read enabled
  | write coroutine status => exact invariant.write enabled
  | onInStreamRead nread => exact invariant.onInStreamRead enabled
  | onOutStreamWrite index status => exact invariant.onOutStreamWrite enabled
  | close => exact (invariant.close unqueued).1
  | drop point => exact invariant.drop
  | resumeNext => exact invariant.resumeNext drained
  | other action => exact invariant.unrelated (invariant.consistent.other enabled)

theorem invariant_of_reachableVia (reached : system.ReachableVia ClosesUnqueued state) :
    state.Invariant ∧ state.Drained := by
  refine reached.invariant (fun state => state.Invariant ∧ state.Drained) ?_ ?_
  · rintro state rfl
    refine ⟨⟨.empty _, fun point => .idle rfl rfl ?_, ?_, rfl, fun _ => rfl, ?_, rfl, rfl⟩, ?_⟩
    · cases point <;> rfl
    · exact fun _ _ waiting => nomatch waiting
    · exact fun _ member => nomatch member
    · exact fun _ _ => rfl
  · rintro state action ⟨invariant, drained⟩ enabled unqueued
    refine ⟨invariant.step drained enabled unqueued, ?_⟩
    by_cases is_close : action = .close
    · subst is_close
      exact fun _ => (invariant.close unqueued).2
    · exact drained.step enabled is_close

theorem Invariant.resumedOnce (invariant : state.Invariant) (drained : state.Drained) :
    state.ResumedOnce := by
  refine ⟨invariant.ended_once, ?_, ?_, invariant.not_queued, ?_⟩
  · intro point awaiter found
    rcases (invariant.stage point).of_found found with waits | queued
    · exact ⟨waits.not_closed, by rw [waits.no_callback]; exact Nat.zero_le 1,
        waits.unqueued.trans waits.no_callback.symm⟩
    · exact ⟨queued.not_closed, Nat.le_of_eq queued.one_callback,
        queued.queued_once.trans queued.one_callback.symm⟩
  · intro point awaiter found
    have is_open : state.isOpen = true := by
      by_contra closed
      simp [drained (by simpa using closed) point] at found
    refine ⟨is_open, fun no_callback => ?_⟩
    rcases (invariant.stage point).of_found found with waits | queued
    · exact waits.target.resolve_right (by simp [is_open])
    · simp [queued.one_callback] at no_callback
  · intro handle done
    by_contra positive
    have suspended := invariant.consistent.queued handle (Nat.pos_of_ne_zero positive)
    simp [done, Status.isSuspended] at suspended

/-- In every run in which `close()` is not called while a coroutine that it resumes is in the
scheduler queue, every operation is resumed once; called at such a moment of the run, `close()`
resumes that coroutine a second time. -/
theorem resumedOnce_of_reachableVia (reached : system.ReachableVia ClosesUnqueued state) :
    state.ResumedOnce ∧ (state.close.ResumedOnce ↔ state.ClosesUnqueued .close) := by
  rcases invariant_of_reachableVia reached with ⟨invariant, drained⟩
  refine ⟨invariant.resumedOnce drained, ?_, ?_⟩
  · intro resumed_once
    by_contra queued
    have resumed_queued := invariant.close_queued queued
    simp [resumed_once.resumed_unqueued] at resumed_queued
  · intro unqueued
    rcases invariant.close unqueued with ⟨after_invariant, no_awaiter⟩
    exact after_invariant.resumedOnce fun _ => no_awaiter

/-- A `write()` is completed and resumed; then `close()` resumes a `read()`. -/
theorem resumedOnce_write_then_read :
    ([.write 0 0, .onOutStreamWrite 0 0, .resumeNext, .read 1 true 0 0, .close].foldl
      Action.perform ({} : State)).ResumedOnce := by
  have start : system.ReachableVia ClosesUnqueued {} := .start rfl
  have writes := start.step (Action.write 0 0) ⟨rfl, rfl, rfl⟩ trivial
  have completed := writes.step (Action.onOutStreamWrite 0 0) Nat.zero_lt_one trivial
  have resumed := completed.step Action.resumeNext trivial trivial
  have reads := resumed.step (Action.read 1 true 0 0) ⟨rfl, rfl, rfl⟩ trivial
  have unqueued : ClosesUnqueued (([.write 0 0, .onOutStreamWrite 0 0, .resumeNext,
      .read 1 true 0 0] : List Action).foldl Action.perform {}) .close := by
    intro point handle registered
    cases point
    · obtain rfl := Option.some.inj registered
      rfl
    · exact nomatch registered
  exact (resumedOnce_of_reachableVia (reads.step Action.close trivial unqueued)).1

/-- `close()` after libuv has completed a `write()` and before the scheduler resumes it: the
coroutine is resumed although it is in the queue, reports that it was cancelled, and ends with its
handle still in the queue. -/
theorem completed_write_cancelled : ∃ state, system.Reachable state ∧ ¬state.ResumedOnce ∧
    state.resumedQueued = true ∧
    state.runtime.status 0 = .done ∧ state.runtime.pending 0 = 1 ∧
    ∃ ended ∈ state.ended, ended.awaiter.status = some 0 ∧ ended.outcome =
      .threw (.ofStatus 0 "StreamBase::write() encountered error while awaiting write") := by
  have start : system.Reachable {} := .start rfl
  have writes := start.step (Action.write 0 0) ⟨rfl, rfl, rfl⟩ trivial
  have completed := writes.step (Action.onOutStreamWrite 0 0) Nat.zero_lt_one trivial
  have closed := completed.step Action.close trivial trivial
  refine ⟨_, closed, ?_, rfl, rfl, rfl, _, List.mem_singleton_self _, rfl, rfl⟩
  intro resumed_once
  exact absurd resumed_once.resumed_unqueued (by decide)

end State

end Uvco.Stream
