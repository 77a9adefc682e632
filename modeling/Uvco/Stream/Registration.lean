import Uvco.Stream.Resume

/-!
# The read registration of a stream

libuv finds the awaiter of a `read()` through the data pointer of the stream,
between `uv_read_start` and `uv_read_stop`. `ReadRegistered` says whose awaiter
that is. It holds in all runs: on an open stream it is part of `Invariant`, and
`close()` leaves nobody suspended, whatever the scheduler queue holds.
-/

namespace Uvco.Stream

namespace State

variable {state : State} {point : Point}

/-- What libuv may find through the data pointer of the stream. -/
structure ReadRegistered (state : State) : Prop where
  /-- Reading is started for a `read()` that is suspended and was not called back. -/
  started : state.active = true → ∃ awaiter, state.awaiter .read = some awaiter ∧
    state.data = some awaiter.coroutine ∧ awaiter.handle = some awaiter.coroutine ∧
    state.runtime.status awaiter.coroutine = .waiting .read
  /-- Its awaiter is that of the only suspended `read()`. -/
  one_reader : ∀ handle, state.runtime.status handle = .waiting .read →
    ∃ awaiter, state.awaiter .read = some awaiter ∧ awaiter.coroutine = handle
  /-- If no `read()` is suspended, reading is stopped. -/
  stopped : (∀ handle, state.runtime.status handle ≠ .waiting .read) →
    state.active = false ∧ state.data = none
  /-- No assertion failed, and no callback was led to an awaiter that does not exist. -/
  no_fault : state.fault = false

theorem Invariant.readRegistered (invariant : state.Invariant) : state.ReadRegistered := by
  have target_of_data : ∀ target, state.data = some target → target ∈ state.targets .read := by
    intro target data_eq
    simp [targets, data_eq]
  constructor
  · intro active
    have data_set : state.data.isSome = true := invariant.reading.symm.trans active
    rcases Option.isSome_iff_exists.mp data_set with ⟨target, data_eq⟩
    rcases invariant.waits_of_target (target_of_data target data_eq) with ⟨awaiter, waits, rfl, -⟩
    exact ⟨awaiter, waits.found, data_eq, waits.handle_eq, waits.status⟩
  · intro handle waiting
    rcases (invariant.stage .read).of_registered (invariant.known handle .read waiting) with
      ⟨awaiter, awaits, coroutine_eq⟩
    exact ⟨awaiter, awaits.found, coroutine_eq⟩
  · intro nobody
    have no_data : state.data = none := by
      by_contra data_set
      rcases Option.ne_none_iff_exists'.mp data_set with ⟨target, data_eq⟩
      rcases invariant.waits_of_target (target_of_data target data_eq) with ⟨awaiter, waits, -, -⟩
      exact nobody awaiter.coroutine waits.status
    exact ⟨by rw [invariant.reading, no_data]; rfl, no_data⟩
  · exact invariant.no_fault

/-! ## After `close()` -/

/-- What changes if a coroutine is resumed and ends. -/
structure Departed (before after : State) (point : Point) (awaiter : Awaiter)
    (outcome : Outcome) : Prop where
  runtime : after.runtime = before.runtime.setStatus awaiter.coroutine .done
  isOpen : after.isOpen = before.isOpen
  no_awaiter : after.awaiter = Function.update before.awaiter point none
  unregistered : after.registered = Function.update before.registered point none
  active : after.active = (before.leave point awaiter).active
  data : after.data = (before.leave point awaiter).data
  targets : after.targets = (before.leave point awaiter).targets
  ended : after.ended = before.ended ++ [⟨point, awaiter, outcome⟩]
  fault : after.fault = before.fault

theorem awaitResume_departed {awaiter : Awaiter} {outcome : Outcome}
    (outcome_eq : state.outcome point awaiter = some outcome) :
    Departed state (state.awaitResume point awaiter) point awaiter outcome := by
  rcases state.leave_frame point awaiter with ⟨runtime_eq, open_eq, ended_eq, -, fault_eq⟩
  simp only [awaitResume, outcome_eq, runtime_eq, ended_eq]
  refine ⟨rfl, open_eq, by simp, by simp, rfl, rfl, ?_, rfl, fault_eq⟩
  funext other
  cases other <;> rfl

theorem resumeRegistered_suspended {awaiter : Awaiter} (awaits : state.Suspended point awaiter) :
    ∃ resumedQueued, state.resumeRegistered point =
      (({ state with resumedQueued } : State).unregister point awaiter).awaitResume point
        awaiter.closed := by
  have status : (state.unregister point awaiter).runtime.status awaiter.coroutine =
      .waiting point := awaits.status
  have found : (state.unregister point awaiter).awaiter point = some awaiter.closed := by
    simp [unregister, setAwaiter]
  refine ⟨state.resumedQueued || decide (0 < state.runtime.pending awaiter.coroutine), ?_⟩
  simp only [resumeRegistered, awaits.registered, awaits.found, resume, status, found]
  rfl

/-- The handle of the stream was released; coroutines may still be suspended. -/
structure Shut (state : State) : Prop where
  tolerant : state.runtime.Tolerant
  closed : state.isOpen = false
  stopped : state.active = false
  no_data : state.data = none
  operation : ∀ point, state.awaiter point = none ∧ state.registered point = none ∧
      state.targets point = [] ∨
    ∃ awaiter, state.Suspended point awaiter ∧ ∀ target ∈ state.targets point,
      target = awaiter.coroutine ∧ awaiter.handle.isSome = true
  known : ∀ handle point, state.runtime.status handle = .waiting point →
    state.registered point = some handle
  no_fault : state.fault = false

/-- Nobody is suspended on the released stream. -/
structure Closed (state : State) : Prop extends state.Shut where
  no_awaiter : ∀ point, state.awaiter point = none

namespace Shut

theorem of_invariant (invariant : state.Invariant) (closed : state.isOpen = false) :
    state.Shut := by
  have no_data := invariant.released closed
  refine ⟨invariant.consistent.tolerant, closed, ?_, no_data, fun point => ?_, invariant.known,
    invariant.no_fault⟩
  · rw [invariant.reading, no_data]
    rfl
  · cases invariant.stage point with
    | idle no_awaiter unregistered no_target =>
        exact .inl ⟨no_awaiter, unregistered, no_target⟩
    | waiting awaiter waits =>
        refine .inr ⟨awaiter, waits.toSuspended, fun target target_mem => ?_⟩
        rcases waits.target with target_eq | ⟨-, none_left⟩
        · rw [target_eq, List.mem_singleton] at target_mem
          exact ⟨target_mem, by rw [waits.handle_eq]; rfl⟩
        · simp [none_left] at target_mem
    | queued awaiter queued =>
        refine .inr ⟨awaiter, queued.toSuspended, fun target target_mem => ?_⟩
        simp [queued.no_target] at target_mem

theorem leave_closed (closed : state.isOpen = false) (point : Point) (awaiter : Awaiter) :
    (state.leave point awaiter).active = state.active ∧
      (state.leave point awaiter).data = state.data := by
  cases point
  · simp [State.leave, leaveRead, closed, setRegistered, setAwaiter]
  · simp only [State.leave, leaveWrite]
    split <;> exact ⟨rfl, rfl⟩

/-- A coroutine ends within `close()`, whether or not it is in the scheduler queue. -/
theorem awaitResume (shut : state.Shut) {awaiter : Awaiter}
    (awaits : state.Suspended point awaiter)
    (own : ∀ target ∈ state.targets point,
      target = awaiter.coroutine ∧ awaiter.handle.isSome = true) :
    ((state.unregister point awaiter).awaitResume point awaiter.closed).Shut ∧
      ((state.unregister point awaiter).awaitResume point awaiter.closed).awaiter =
        Function.update state.awaiter point none ∧
      ((state.unregister point awaiter).awaitResume point awaiter.closed).ended =
        state.ended ++ [⟨point, awaiter.closed, interrupted point awaiter.closed⟩] := by
  have still_closed : (state.unregister point awaiter).isOpen = false := shut.closed
  have outcome_eq := Invariant.outcome_closed still_closed point awaiter.closed
  rcases leave_closed still_closed point awaiter.closed with ⟨active_eq, data_eq⟩
  have departed := awaitResume_departed outcome_eq
  have other_awaiter : ∀ other, other ≠ point → ((state.unregister point awaiter).awaitResume point
      awaiter.closed).awaiter other = state.awaiter other := by
    intro other differs
    rw [departed.no_awaiter]
    simp [differs, unregister, setRegistered, setAwaiter]
  have other_registered : ∀ other, other ≠ point → ((state.unregister point awaiter).awaitResume
      point awaiter.closed).registered other = state.registered other := by
    intro other differs
    rw [departed.unregistered]
    simp [differs, unregister, setRegistered, setAwaiter]
  refine ⟨?_, by rw [departed.no_awaiter]; simp [unregister, setRegistered, setAwaiter],
    departed.ended⟩
  constructor
  · rw [departed.runtime]
    exact shut.tolerant.setStatus _ (.inr rfl)
  · exact departed.isOpen.trans shut.closed
  · rw [departed.active]
    exact active_eq.trans shut.stopped
  · rw [departed.data]
    exact data_eq.trans shut.no_data
  · intro other
    by_cases same : other = point
    · subst same
      left
      refine ⟨by simp [departed.no_awaiter], by simp [departed.unregistered], ?_⟩
      rw [departed.targets]
      refine leave_targets (fun _ => shut.no_data) fun target target_mem => own target ?_
      cases other <;> exact target_mem
    · have targets_eq : ((state.unregister point awaiter).awaitResume point
          awaiter.closed).targets other = state.targets other := by
        rw [departed.targets, leave_other_targets _ _ _ same]
        cases other <;> rfl
      rw [targets_eq, other_awaiter other same, other_registered other same]
      rcases shut.operation other with nothing | ⟨otherAwaiter, otherAwaits, otherOwn⟩
      · exact .inl nothing
      · refine .inr ⟨otherAwaiter, otherAwaits.keep (other_awaiter other same)
          (other_registered other same) ?_, otherOwn⟩
        · have differs : otherAwaiter.coroutine ≠ awaiter.coroutine := by
            intro coroutine_eq
            have waiting := otherAwaits.status
            rw [coroutine_eq, awaits.status, Status.waiting.injEq] at waiting
            exact same waiting.symm
          rw [departed.runtime]
          exact (Runtime.setStatus_status_of_ne _ differs).trans otherAwaits.status
  · intro handle other waiting
    rw [departed.runtime] at waiting
    have differs : handle ≠ awaiter.coroutine := by
      rintro rfl
      simp [Awaiter.closed] at waiting
    have before : state.runtime.status handle = .waiting other :=
      (Runtime.setStatus_status_of_ne .done differs).symm.trans waiting
    have registered := shut.known handle other before
    have other_point : other ≠ point := by
      rintro rfl
      exact differs (Option.some.inj (registered.symm.trans awaits.registered))
    exact (other_registered other other_point).trans registered
  · exact departed.fault.trans shut.no_fault

theorem resumeRegistered (shut : state.Shut) (point : Point) :
    (state.resumeRegistered point).Shut ∧
      (state.resumeRegistered point).awaiter = Function.update state.awaiter point none ∧
      (state.resumeRegistered point).ended = state.ended ++ (state.awaiter point).toList.map
        fun awaiter => ⟨point, awaiter.closed, interrupted point awaiter.closed⟩ := by
  rcases shut.operation point with ⟨no_awaiter, unregistered, -⟩ | ⟨awaiter, awaits, own⟩
  · have unchanged : state.resumeRegistered point = state := by
      simp only [State.resumeRegistered, unregistered]
    rw [unchanged]
    exact ⟨shut, (Function.update_eq_self_iff.mpr no_awaiter.symm).symm, by simp [no_awaiter]⟩
  · rcases resumeRegistered_suspended awaits with ⟨recorded, after_eq⟩
    -- What is recorded about the queue does not matter to anybody.
    have recorded_shut : ({ state with resumedQueued := recorded } : State).Shut :=
      ⟨shut.tolerant, shut.closed, shut.stopped, shut.no_data, fun other =>
        (shut.operation other).imp (by cases other <;> exact id) (by
          rintro ⟨other_awaiter, awaits, own⟩
          exact ⟨other_awaiter, ⟨awaits.found, awaits.registered, awaits.status, awaits.not_closed⟩,
            by cases other <;> exact own⟩), shut.known, shut.no_fault⟩
    rw [after_eq, awaits.found]
    exact recorded_shut.awaitResume
      ⟨awaits.found, awaits.registered, awaits.status, awaits.not_closed⟩
      (by cases point <;> exact own)

end Shut

/-- `close()` at any moment, also while a coroutine that it resumes is in the queue. -/
theorem Invariant.closed (invariant : state.Invariant) :
    state.close.Closed ∧
      state.close.ended = state.ended ++ (state.awaiter .read).toList.map
          (fun awaiter => ⟨.read, awaiter.closed, interrupted .read awaiter.closed⟩) ++
        (state.awaiter .write).toList.map
          fun awaiter => ⟨.write, awaiter.closed, interrupted .write awaiter.closed⟩ := by
  rcases invariant.released_or_closed with
    ⟨released, invariant, closed, -, -, awaiter_eq, ended_eq, close_eq⟩
  rcases (Shut.of_invariant invariant closed).resumeRegistered .read with
    ⟨after_read, no_reader, ended_read⟩
  rcases after_read.resumeRegistered .write with ⟨after_write, no_writer, ended_write⟩
  rw [close_eq]
  refine ⟨⟨after_write, fun point => ?_⟩, ?_⟩
  · rw [no_writer, no_reader]
    cases point <;> simp
  · rw [ended_write, ended_read, no_reader, ended_eq, awaiter_eq,
      Function.update_of_ne (by simp)]

namespace Closed

theorem unregistered (closed : state.Closed) (point : Point) :
    state.registered point = none ∧ state.targets point = [] := by
  rcases closed.operation point with ⟨-, unregistered, no_target⟩ | ⟨awaiter, awaits, -⟩
  · exact ⟨unregistered, no_target⟩
  · have found := awaits.found
    simp [closed.no_awaiter point] at found

theorem nobody_waits (closed : state.Closed) (handle : Handle) (point : Point) :
    state.runtime.status handle ≠ .waiting point := by
  intro waiting
  have registered := closed.known handle point waiting
  simp [(closed.unregistered point).1] at registered

/-- Only the other coroutines have moved. -/
theorem withRuntime (closed : state.Closed) {runtime : Runtime Point}
    (tolerant : runtime.Tolerant) (undisturbed : Runtime.Undisturbed state.runtime runtime) :
    ({ state with runtime } : State).Closed := by
  refine ⟨⟨tolerant, closed.closed, closed.stopped, closed.no_data, fun point => ?_,
    fun handle point waiting => ?_, closed.no_fault⟩, closed.no_awaiter⟩
  · have unregistered := closed.unregistered point
    exact .inl ⟨closed.no_awaiter point, unregistered.1, by cases point <;> exact unregistered.2⟩
  · exact absurd ((undisturbed.waiting_iff handle point).mp waiting) (closed.nobody_waits _ _)

theorem resumeNext (closed : state.Closed) : state.resumeNext.Closed := by
  unfold State.resumeNext
  rcases popped : state.runtime.getNext with ⟨_ | handle, runtime⟩
  · rcases closed.tolerant.resume_nothing popped with ⟨tolerant, undisturbed⟩
    exact closed.withRuntime tolerant undisturbed
  · rcases Runtime.getNext_popped popped with ⟨status_eq, not_done, popped_pending, -, -⟩
    simp only [resume, status_eq]
    cases status : state.runtime.status handle with
    | running => exact absurd status (closed.tolerant.queued handle (by omega))
    | done => exact absurd status not_done
    | waiting point => exact absurd status (closed.nobody_waits handle point)
    | elsewhere =>
        rcases closed.tolerant.resume_elsewhere popped status with ⟨tolerant, undisturbed⟩
        exact closed.withRuntime tolerant undisturbed

/-- libuv completes what is left, which leads to nobody. -/
theorem onOutStreamWrite (closed : state.Closed) (index : ℕ) (status : Int) :
    (state.onOutStreamWrite index status).Closed := by
  have no_target := (closed.unregistered .write).2
  have all_null : ∀ data ∈ state.requests, data = none := by
    intro data data_mem
    by_contra target
    rcases Option.ne_none_iff_exists'.mp target with ⟨handle, rfl⟩
    have handle_mem : handle ∈ state.targets .write := List.reduceOption_mem_iff.mpr data_mem
    simp [no_target] at handle_mem
  have completed : ({ state with requests := state.requests.eraseIdx index } : State).Closed := by
    refine ⟨⟨closed.tolerant, closed.closed, closed.stopped, closed.no_data, fun point => ?_,
      closed.known, closed.no_fault⟩, closed.no_awaiter⟩
    refine .inl ⟨closed.no_awaiter point, (closed.unregistered point).1, ?_⟩
    cases point with
    | read => exact (closed.unregistered .read).2
    | write =>
        refine List.eq_nil_iff_forall_not_mem.mpr fun handle handle_mem => ?_
        have erased := List.mem_of_mem_eraseIdx (List.reduceOption_mem_iff.mp handle_mem)
        exact absurd (all_null _ erased) (by simp)
  unfold State.onOutStreamWrite
  split
  · rename_i target found
    exact absurd (all_null _ (List.mem_of_getElem? found)) (by simp)
  · exact completed
  · exact completed

theorem close_eq (closed : state.Closed) : state.close = state := by
  simp only [State.close, closed.closed, Bool.false_eq_true, if_false, State.resumeRegistered,
    (closed.unregistered _).1]

theorem step (closed : state.Closed) {action : Action} (enabled : action.Enabled state) :
    (action.perform state).Closed := by
  cases action with
  | read coroutine readable ready start =>
      have is_open := enabled.1
      simp [closed.closed] at is_open
  | write coroutine status =>
      have is_open := enabled.1
      simp [closed.closed] at is_open
  | onInStreamRead nread =>
      simp [Action.Enabled, closed.stopped] at enabled
  | onOutStreamWrite index status => exact closed.onOutStreamWrite index status
  | close =>
      rw [Action.perform, closed.close_eq]
      exact closed
  | drop point => simp [Action.Enabled, closed.no_awaiter] at enabled
  | resumeNext => exact closed.resumeNext
  | other action =>
      rcases closed.tolerant.other enabled with ⟨tolerant, undisturbed⟩
      exact closed.withRuntime tolerant undisturbed

theorem readRegistered (closed : state.Closed) : state.ReadRegistered := by
  constructor
  · intro active
    simp [closed.stopped] at active
  · exact fun handle waiting => absurd waiting (closed.nobody_waits handle .read)
  · exact fun _ => ⟨closed.stopped, closed.no_data⟩
  · exact closed.no_fault

end Closed

/-! ## Runs -/

theorem open_or_closed_of_reachable (reached : system.Reachable state) :
    (state.Invariant ∧ state.Drained) ∨ state.Closed := by
  apply TransitionSystem.Reachable.invariant
    (fun state => (state.Invariant ∧ state.Drained) ∨ state.Closed) ?_ ?_ reached
  · exact fun state initial => .inl (invariant_of_reachableVia (.start initial))
  · rintro state action (⟨invariant, drained⟩ | closed) enabled
    · by_cases is_close : action = .close
      · subst is_close
        exact .inr invariant.closed.1
      · have unqueued : state.ClosesUnqueued action := by
          cases action <;> first | exact trivial | exact absurd rfl is_close
        exact .inl ⟨invariant.step drained enabled unqueued, drained.step enabled is_close⟩
    · exact .inr (closed.step enabled)

/-- In every run, libuv is led to the awaiter of the one suspended `read()`, and only while
it is suspended. -/
theorem readRegistered_of_reachable (reached : system.Reachable state) :
    state.ReadRegistered := by
  rcases open_or_closed_of_reachable reached with ⟨invariant, -⟩ | closed
  · exact invariant.readRegistered
  · exact closed.readRegistered

/-- A `read()` is dropped, another one is called back, and `close()` resumes it although it is
in the scheduler queue. -/
theorem readRegistered_close_queued :
    ([.read 0 true 0 0, .drop .read, .read 1 false 0 0, .onInStreamRead 5, .close].foldl
      Action.perform ({} : State)).ReadRegistered := by
  have start : system.Reachable {} := .start rfl
  have reads := start.step (Action.read 0 true 0 0) ⟨rfl, rfl, rfl⟩ trivial
  have dropped := reads.step (Action.drop .read) rfl trivial
  have again := dropped.step (Action.read 1 false 0 0) ⟨rfl, rfl, rfl⟩ trivial
  have called := again.step (Action.onInStreamRead 5) rfl trivial
  exact readRegistered_of_reachable (called.step Action.close trivial trivial)

end State

end Uvco.Stream
