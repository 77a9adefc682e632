import Uvco.Stream.Operation

/-!
# The operations of a stream

An operation is suspended and libuv will call back for it, or its callback was
called and its coroutine is in the scheduler queue. `reader_` or `writer_` holds
the handle in both stages. The two operations do not affect each other, and each
of them ends in the same way, whoever resumes or destroys its coroutine.
-/

namespace Uvco.Stream

/-- An operation was woken once, and what libuv reported is what it reports. -/
structure Ended.Once (ended : Ended) : Prop where
  woken_once : ended.awaiter.callbacks + ended.awaiter.closes = 1
  succeeded : ∀ status, ended.awaiter.status = some status → 0 ≤ status →
    ended.outcome = success ended.point status

/-- What a coroutine reports after its callback was called on an open stream. -/
def reported : Point → Awaiter → Int → Outcome
  | .read, _, status => readOutcome status
  | .write, awaiter, status => writeOutcome awaiter.started status

namespace State

variable {state : State} {point : Point}

/-- The operation waits, and `close()` has not resumed it. -/
structure Suspended (state : State) (point : Point) (awaiter : Awaiter) : Prop where
  found : state.awaiter point = some awaiter
  registered : state.registered point = some awaiter.coroutine
  status : state.runtime.status awaiter.coroutine = .waiting point
  not_closed : awaiter.closes = 0

/-- libuv will call back; after `closeHandle()`, not for a read. -/
structure Waiting (state : State) (point : Point) (awaiter : Awaiter) : Prop
    extends state.Suspended point awaiter where
  handle_eq : awaiter.handle = some awaiter.coroutine
  no_status : awaiter.status = none
  no_callback : awaiter.callbacks = 0
  unqueued : state.runtime.pending awaiter.coroutine = 0
  target : state.targets point = [awaiter.coroutine] ∨
    state.isOpen = false ∧ state.targets point = []

/-- The callback was called, and the coroutine is in the scheduler queue. -/
structure Queued (state : State) (point : Point) (awaiter : Awaiter) : Prop
    extends state.Suspended point awaiter where
  handle_eq : awaiter.handle = none
  reported : awaiter.status.isSome = true
  one_callback : awaiter.callbacks = 1
  queued_once : state.runtime.pending awaiter.coroutine = 1
  no_target : state.targets point = []

/-- How far the reader or the writer has got. -/
inductive Stage (state : State) (point : Point) : Prop where
  | idle (no_awaiter : state.awaiter point = none) (unregistered : state.registered point = none)
      (no_target : state.targets point = [])
  | waiting (awaiter : Awaiter) (waits : state.Waiting point awaiter)
  | queued (awaiter : Awaiter) (queued : state.Queued point awaiter)

/-- What holds of a stream in every run that meets the condition. -/
structure Invariant (state : State) : Prop where
  consistent : state.runtime.Consistent
  stage : ∀ point, state.Stage point
  /-- Nobody else waits. -/
  known : ∀ handle point, state.runtime.status handle = .waiting point →
    state.registered point = some handle
  reading : state.active = state.data.isSome
  released : state.isOpen = false → state.data = none
  ended_once : ∀ ended ∈ state.ended, ended.Once
  not_queued : state.resumedQueued = false
  no_fault : state.fault = false

theorem Suspended.keep {before after : State} {awaiter : Awaiter}
    (suspended : before.Suspended point awaiter)
    (awaiter_eq : after.awaiter point = before.awaiter point)
    (registered_eq : after.registered point = before.registered point)
    (status : after.runtime.status awaiter.coroutine = .waiting point) :
    after.Suspended point awaiter :=
  ⟨awaiter_eq.trans suspended.found, registered_eq.trans suspended.registered, status,
    suspended.not_closed⟩

/-- A step that is not about a suspension point. -/
theorem Stage.keep {before after : State} (stage : before.Stage point)
    (awaiter_eq : after.awaiter point = before.awaiter point)
    (registered_eq : after.registered point = before.registered point)
    (target : after.targets point = before.targets point ∨
      after.isOpen = false ∧ after.targets point = [])
    (stays_closed : before.isOpen = false → after.isOpen = false)
    (undisturbed : ∀ handle, before.runtime.status handle = .waiting point →
      after.runtime.status handle = .waiting point ∧
        after.runtime.pending handle = before.runtime.pending handle) :
    after.Stage point := by
  have still_none : before.targets point = [] → after.targets point = [] := by
    intro no_target
    rcases target with target_eq | ⟨-, none_left⟩
    · exact target_eq.trans no_target
    · exact none_left
  cases stage with
  | idle no_awaiter unregistered no_target =>
      exact .idle (awaiter_eq.trans no_awaiter) (registered_eq.trans unregistered)
        (still_none no_target)
  | waiting awaiter waits =>
      rcases undisturbed _ waits.status with ⟨status, pending_eq⟩
      refine .waiting awaiter ⟨waits.toSuspended.keep awaiter_eq registered_eq status,
        waits.handle_eq, waits.no_status, waits.no_callback, pending_eq.trans waits.unqueued, ?_⟩
      rcases target with target_eq | closed
      · rw [target_eq]
        exact waits.target.imp_right fun closed => ⟨stays_closed closed.1, closed.2⟩
      · exact .inr closed
  | queued awaiter queued =>
      rcases undisturbed _ queued.status with ⟨status, pending_eq⟩
      exact .queued awaiter ⟨queued.toSuspended.keep awaiter_eq registered_eq status,
        queued.handle_eq, queued.reported, queued.one_callback,
        pending_eq.trans queued.queued_once, still_none queued.no_target⟩

theorem Stage.of_found (stage : state.Stage point) {awaiter : Awaiter}
    (found : state.awaiter point = some awaiter) :
    state.Waiting point awaiter ∨ state.Queued point awaiter := by
  cases stage with
  | idle no_awaiter => simp [found] at no_awaiter
  | waiting other waits =>
      obtain rfl : awaiter = other := Option.some.inj (found.symm.trans waits.found)
      exact .inl waits
  | queued other queued =>
      obtain rfl : awaiter = other := Option.some.inj (found.symm.trans queued.found)
      exact .inr queued

theorem Stage.of_registered (stage : state.Stage point) {handle : Handle}
    (registered : state.registered point = some handle) :
    ∃ awaiter, state.Suspended point awaiter ∧ awaiter.coroutine = handle := by
  cases stage with
  | idle _ unregistered => simp [registered] at unregistered
  | waiting awaiter waits =>
      exact ⟨awaiter, waits.toSuspended, Option.some.inj (waits.registered.symm.trans registered)⟩
  | queued awaiter queued =>
      exact ⟨awaiter, queued.toSuspended,
        Option.some.inj (queued.registered.symm.trans registered)⟩

theorem Stage.of_unregistered (stage : state.Stage point)
    (unregistered : state.registered point = none) : state.awaiter point = none := by
  cases stage with
  | idle no_awaiter => exact no_awaiter
  | waiting awaiter waits => simp [waits.registered] at unregistered
  | queued awaiter queued => simp [queued.registered] at unregistered

theorem Stage.of_none (stage : state.Stage point) (no_awaiter : state.awaiter point = none) :
    state.registered point = none ∧ state.targets point = [] := by
  cases stage with
  | idle _ unregistered no_target => exact ⟨unregistered, no_target⟩
  | waiting awaiter waits => simp [waits.found] at no_awaiter
  | queued awaiter queued => simp [queued.found] at no_awaiter

/-! ## Leaving a coroutine -/

section Leave

variable (state : State) (point : Point) (awaiter : Awaiter)

@[simp]
theorem leave_awaiter :
    (state.leave point awaiter).awaiter = Function.update state.awaiter point none := by
  cases point
  · simp only [leave, leaveRead]
    split <;> rfl
  · simp only [leave, leaveWrite]
    split <;> rfl

@[simp]
theorem leave_registered :
    (state.leave point awaiter).registered = Function.update state.registered point none := by
  cases point
  · simp only [leave, leaveRead]
    split <;> rfl
  · simp only [leave, leaveWrite]
    split <;> rfl

/-- Everything but the registration and the pointers that libuv holds. -/
theorem leave_frame :
    (state.leave point awaiter).runtime = state.runtime ∧
      (state.leave point awaiter).isOpen = state.isOpen ∧
      (state.leave point awaiter).ended = state.ended ∧
      (state.leave point awaiter).resumedQueued = state.resumedQueued ∧
      (state.leave point awaiter).fault = state.fault := by
  cases point
  · simp only [leave, leaveRead]
    split <;> exact ⟨rfl, rfl, rfl, rfl, rfl⟩
  · simp only [leave, leaveWrite]
    split <;> exact ⟨rfl, rfl, rfl, rfl, rfl⟩

theorem leave_other_targets {other : Point} (differs : other ≠ point) :
    (state.leave point awaiter).targets other = state.targets other := by
  cases point
  · cases other
    · exact absurd rfl differs
    · simp only [leave, leaveRead]
      split <;> rfl
  · cases other
    · simp only [leave, leaveWrite]
      split <;> rfl
    · exact absurd rfl differs

theorem resetRequestData_targets (coroutine : Handle) :
    (state.resetRequestData coroutine).targets .write =
      (state.targets .write).filter (· ≠ coroutine) := by
  simp only [targets, resetRequestData]
  induction state.requests with
  | nil => rfl
  | cons data requests ih =>
      cases data with
      | none => simpa using ih
      | some target =>
          by_cases same : target = coroutine
          · simpa [same] using ih
          · simpa [same] using ih

variable {state point awaiter}

/-- libuv does not refer to an awaiter that is gone. -/
theorem leave_targets (released : state.isOpen = false → state.data = none)
    (own : ∀ target ∈ state.targets point,
      target = awaiter.coroutine ∧ awaiter.handle.isSome = true) :
    (state.leave point awaiter).targets point = [] := by
  cases point with
  | read =>
      simp only [leave, leaveRead]
      split
      · rfl
      · rename_i closed
        simp [targets, setRegistered, setAwaiter, released (by simpa using closed)]
  | write =>
      simp only [leave, leaveWrite]
      split
      · change (state.resetRequestData awaiter.coroutine).targets .write = []
        rw [resetRequestData_targets, List.filter_eq_nil_iff]
        intro target target_mem
        simp [(own target target_mem).1]
      · rename_i no_handle
        refine List.eq_nil_iff_forall_not_mem.mpr fun target target_mem => no_handle ?_
        exact (own target target_mem).2

theorem leave_reading (reading : state.active = state.data.isSome) :
    (state.leave point awaiter).active = (state.leave point awaiter).data.isSome := by
  cases point
  · simp only [leave, leaveRead]
    split
    · rfl
    · exact reading
  · simp only [leave, leaveWrite]
    split <;> exact reading

theorem leave_released (released : state.isOpen = false → state.data = none)
    (closed : state.isOpen = false) : (state.leave point awaiter).data = none := by
  cases point
  · simp only [leave, leaveRead]
    split
    · rfl
    · exact released closed
  · simp only [leave, leaveWrite]
    split <;> exact released closed

end Leave

/-- Everything is in order but for one operation, which is about to end. -/
structure Departing (state : State) (point : Point) (awaiter : Awaiter) : Prop where
  consistent : state.runtime.Consistent
  stage : ∀ other, other ≠ point → state.Stage other
  known : ∀ handle other, handle ≠ awaiter.coroutine →
    state.runtime.status handle = .waiting other →
      other ≠ point ∧ state.registered other = some handle
  status : ∀ other, other ≠ point → state.runtime.status awaiter.coroutine ≠ .waiting other
  unqueued : state.runtime.pending awaiter.coroutine = 0
  own : ∀ target ∈ state.targets point,
    target = awaiter.coroutine ∧ awaiter.handle.isSome = true
  reading : state.active = state.data.isSome
  released : state.isOpen = false → state.data = none
  ended_once : ∀ ended ∈ state.ended, ended.Once
  not_queued : state.resumedQueued = false
  no_fault : state.fault = false

namespace Departing

variable {awaiter : Awaiter}

/-- The operation arrives at a stage, and no other one is affected. -/
theorem settle (departing : state.Departing point awaiter) {after : State}
    (consistent : after.runtime.Consistent) (stage : after.Stage point)
    (subject : ∀ other, after.runtime.status awaiter.coroutine = .waiting other →
      after.registered other = some awaiter.coroutine)
    (others : ∀ handle, handle ≠ awaiter.coroutine →
      after.runtime.status handle = state.runtime.status handle ∧
        after.runtime.pending handle = state.runtime.pending handle)
    (awaiter_eq : ∀ other, other ≠ point → after.awaiter other = state.awaiter other)
    (registered_eq : ∀ other, other ≠ point → after.registered other = state.registered other)
    (targets_eq : ∀ other, other ≠ point → after.targets other = state.targets other)
    (open_eq : after.isOpen = state.isOpen) (reading : after.active = after.data.isSome)
    (released : after.isOpen = false → after.data = none)
    (ended_once : ∀ ended ∈ after.ended, ended.Once)
    (queued_eq : after.resumedQueued = state.resumedQueued)
    (no_fault : after.fault = false) : after.Invariant := by
  constructor
  · exact consistent
  · intro other
    by_cases same : other = point
    · exact same ▸ stage
    · refine (departing.stage other same).keep (awaiter_eq other same) (registered_eq other same)
        (.inl (targets_eq other same)) (fun closed => open_eq.trans closed) ?_
      intro handle waiting
      have differs : handle ≠ awaiter.coroutine := by
        rintro rfl
        exact departing.status other same waiting
      exact ⟨(others handle differs).1.trans waiting, (others handle differs).2⟩
  · intro handle other waiting
    by_cases same : handle = awaiter.coroutine
    · subst same
      exact subject other waiting
    · rw [(others handle same).1] at waiting
      rcases departing.known handle other same waiting with ⟨other_point, registered⟩
      exact (registered_eq other other_point).trans registered
  · exact reading
  · exact released
  · exact ended_once
  · exact queued_eq.trans departing.not_queued
  · exact no_fault

/-- The coroutine may have been in any stage. -/
theorem leave (departing : state.Departing point awaiter) (refused : List UvcoException)
    {more : List Ended} (more_once : ∀ ended ∈ more, ended.Once) :
    ({ state.leave point awaiter with
      runtime := state.runtime.setStatus awaiter.coroutine .done
      refused
      ended := state.ended ++ more } : State).Invariant := by
  rcases state.leave_frame point awaiter with ⟨-, open_eq, -, queued_eq, fault_eq⟩
  apply departing.settle
  case consistent => exact departing.consistent.setStatus _ departing.unqueued
  case stage =>
    refine .idle ?_ ?_ ?_
    · simp
    · simp
    · exact leave_targets departing.released departing.own
  case subject =>
    intro other waiting
    simp at waiting
  case others =>
    intro handle differs
    exact ⟨Runtime.setStatus_status_of_ne _ differs, rfl⟩
  case awaiter_eq =>
    intro other differs
    simp [differs]
  case registered_eq =>
    intro other differs
    simp [differs]
  case targets_eq => exact fun other differs => state.leave_other_targets point awaiter differs
  case open_eq => exact open_eq
  case reading => exact leave_reading departing.reading
  case released =>
    exact fun closed => leave_released departing.released (open_eq.symm.trans closed)
  case ended_once =>
    intro ended ended_mem
    rcases List.mem_append.mp ended_mem with before | new
    · exact departing.ended_once ended before
    · exact more_once ended new
  case queued_eq => exact queued_eq
  case no_fault => exact fault_eq.trans departing.no_fault

/-- What is registered for the operation itself does not matter. -/
theorem unregister (departing : state.Departing point awaiter) :
    (state.unregister point awaiter).Departing point awaiter.closed := by
  constructor
  · exact departing.consistent
  · intro other differs
    refine (departing.stage other differs).keep ?_ ?_ (.inl ?_) id
      (fun _ waiting => ⟨waiting, rfl⟩)
    · simp [State.unregister, setRegistered, setAwaiter, differs]
    · simp [State.unregister, setRegistered, setAwaiter, differs]
    · cases other <;> rfl
  · intro handle other differs waiting
    rcases departing.known handle other differs waiting with ⟨other_point, registered⟩
    refine ⟨other_point, ?_⟩
    simp [State.unregister, setRegistered, setAwaiter, other_point, registered]
  · exact departing.status
  · exact departing.unqueued
  · intro target target_mem
    refine departing.own target ?_
    cases point <;> exact target_mem
  · exact departing.reading
  · exact departing.released
  · exact departing.ended_once
  · exact departing.not_queued
  · exact departing.no_fault

theorem awaitResume (departing : state.Departing point awaiter) {outcome : Outcome}
    (outcome_eq : state.outcome point awaiter = some outcome)
    (once : (⟨point, awaiter, outcome⟩ : Ended).Once) :
    (state.awaitResume point awaiter).Invariant := by
  rcases state.leave_frame point awaiter with ⟨runtime_eq, -, ended_eq, -, -⟩
  simp only [State.awaitResume, outcome_eq, runtime_eq, ended_eq]
  exact departing.leave _ (by simpa using once)

/-- Its coroutine ends without being resumed. -/
theorem abandon (departing : state.Departing point awaiter) (refused : List UvcoException) :
    ({ state.leave point awaiter with
      runtime := (state.leave point awaiter).runtime.setStatus awaiter.coroutine .done
      refused } : State).Invariant := by
  rcases state.leave_frame point awaiter with ⟨runtime_eq, -, ended_eq, -, -⟩
  have left := departing.leave refused (by simp : ∀ ended ∈ ([] : List Ended), ended.Once)
  rw [List.append_nil, ← ended_eq] at left
  rw [runtime_eq]
  exact left

/-- The operation is suspended, and libuv will call back. -/
theorem begin (departing : state.Departing point awaiter) {after : State}
    (handle_eq : awaiter.handle = some awaiter.coroutine) (no_status : awaiter.status = none)
    (no_callback : awaiter.callbacks = 0) (not_closed : awaiter.closes = 0)
    (runtime_eq : after.runtime = state.runtime.setStatus awaiter.coroutine (.waiting point))
    (awaiter_eq : after.awaiter = Function.update state.awaiter point (some awaiter))
    (registered_eq :
      after.registered = Function.update state.registered point (some awaiter.coroutine))
    (target : after.targets point = [awaiter.coroutine])
    (other_targets : ∀ other, other ≠ point → after.targets other = state.targets other)
    (open_eq : after.isOpen = state.isOpen) (reading : after.active = after.data.isSome)
    (released : after.isOpen = false → after.data = none) (ended_eq : after.ended = state.ended)
    (queued_eq : after.resumedQueued = state.resumedQueued)
    (no_fault : after.fault = false) : after.Invariant := by
  apply departing.settle
  case consistent =>
    rw [runtime_eq]
    exact departing.consistent.setStatus _ departing.unqueued
  case stage =>
    refine .waiting awaiter ⟨⟨?_, ?_, ?_, not_closed⟩, handle_eq, no_status, no_callback, ?_,
      .inl target⟩
    · simp [awaiter_eq]
    · simp [registered_eq]
    · simp [runtime_eq]
    · rw [runtime_eq, Runtime.pending_setStatus]
      exact departing.unqueued
  case subject =>
    intro other waiting
    rw [runtime_eq, Runtime.setStatus_status_self, Status.waiting.injEq] at waiting
    simp [registered_eq, waiting]
  case others =>
    intro handle differs
    rw [runtime_eq]
    exact ⟨Runtime.setStatus_status_of_ne _ differs, rfl⟩
  case awaiter_eq =>
    intro other differs
    simp [awaiter_eq, differs]
  case registered_eq =>
    intro other differs
    simp [registered_eq, differs]
  case targets_eq => exact other_targets
  case open_eq => exact open_eq
  case reading => exact reading
  case released => exact released
  case ended_once =>
    rw [ended_eq]
    exact departing.ended_once
  case queued_eq => exact queued_eq
  case no_fault => exact no_fault

end Departing

namespace Invariant

variable {awaiter : Awaiter}

/-- A suspended coroutine that is taken out of the queue. -/
theorem departing (invariant : state.Invariant) (suspended : state.Suspended point awaiter)
    {runtime : Runtime Point} (consistent : runtime.Consistent)
    (status_eq : runtime.status = state.runtime.status)
    (unqueued : runtime.pending awaiter.coroutine = 0)
    (others : ∀ handle, handle ≠ awaiter.coroutine →
      runtime.pending handle = state.runtime.pending handle) :
    ({ state with runtime } : State).Departing point awaiter := by
  have status_ne : ∀ other, other ≠ point →
      state.runtime.status awaiter.coroutine ≠ .waiting other := by
    intro other differs waiting
    rw [suspended.status, Status.waiting.injEq] at waiting
    exact differs waiting.symm
  constructor
  · exact consistent
  · intro other differs
    refine (invariant.stage other).keep rfl rfl (.inl ?_) id ?_
    · cases other <;> rfl
    · intro handle waiting
      dsimp only
      rw [status_eq]
      refine ⟨waiting, others handle ?_⟩
      rintro rfl
      exact status_ne other differs waiting
  · intro handle other differs waiting
    dsimp only at waiting
    rw [status_eq] at waiting
    have registered := invariant.known handle other waiting
    refine ⟨?_, registered⟩
    rintro rfl
    exact differs (Option.some.inj (registered.symm.trans suspended.registered))
  · intro other differs
    dsimp only
    rw [status_eq]
    exact status_ne other differs
  · exact unqueued
  · intro target target_mem
    replace target_mem : target ∈ state.targets point := by
      cases point <;> exact target_mem
    rcases (invariant.stage point).of_found suspended.found with waits | queued
    · rcases waits.target with target_eq | ⟨-, none_left⟩
      · rw [target_eq, List.mem_singleton] at target_mem
        exact ⟨target_mem, by rw [waits.handle_eq]; rfl⟩
      · simp [none_left] at target_mem
    · simp [queued.no_target] at target_mem
  · exact invariant.reading
  · exact invariant.released
  · exact invariant.ended_once
  · exact invariant.not_queued
  · exact invariant.no_fault

theorem departing_running (invariant : state.Invariant) (no_awaiter : state.awaiter point = none)
    (running : state.runtime.status awaiter.coroutine = .running) :
    state.Departing point awaiter := by
  rcases (invariant.stage point).of_none no_awaiter with ⟨unregistered, no_target⟩
  constructor
  · exact invariant.consistent
  · exact fun other _ => invariant.stage other
  · intro handle other _ waiting
    have registered := invariant.known handle other waiting
    refine ⟨?_, registered⟩
    rintro rfl
    simp [unregistered] at registered
  · simp [running]
  · exact invariant.consistent.pending_of_running running
  · simp [no_target]
  · exact invariant.reading
  · exact invariant.released
  · exact invariant.ended_once
  · exact invariant.not_queued
  · exact invariant.no_fault

theorem read (invariant : state.Invariant) {coroutine : Handle} {readable : Bool}
    {ready start : Int}
    (enabled : (Action.read coroutine readable ready start).Enabled state) :
    (state.read coroutine readable ready start).Invariant := by
  rcases enabled with ⟨is_open, no_awaiter, running⟩
  have no_data : state.data = none := by
    have no_target := ((invariant.stage .read).of_none no_awaiter).2
    simpa [targets] using no_target
  have departing (awaiter : Awaiter) (coroutine_eq : awaiter.coroutine = coroutine) :
      state.Departing .read awaiter :=
    invariant.departing_running no_awaiter (by rw [coroutine_eq]; exact running)
  have begun : ({ state.suspend .read { coroutine } with
      data := some coroutine
      fault := state.fault || state.data.isSome
      active := true } : State).Invariant := by
    refine (departing { coroutine, handle := some coroutine } rfl).begin rfl rfl rfl rfl rfl rfl
      rfl rfl ?_ rfl rfl ?_ rfl rfl ?_
    · intro other differs
      cases other
      · exact absurd rfl differs
      · rfl
    · intro closed
      simp [suspend, setRegistered, setAwaiter, is_open] at closed
    · simp [invariant.no_fault, no_data]
  unfold State.read
  dsimp only
  split
  · exact (departing { coroutine } rfl).abandon _
  · split
    · -- The destructor undoes what `await_suspend` did.
      have refused := (departing { coroutine } rfl).abandon
        (state.refused ++ [readStartError start])
      convert refused using 1
      simp [refuse, State.leave, leaveRead, suspend, setRegistered, setAwaiter, is_open,
        no_data, Runtime.setStatus]
    · exact begun

theorem write (invariant : state.Invariant) {coroutine : Handle} {status : Int}
    (enabled : (Action.write coroutine status).Enabled state) :
    (state.write coroutine status).Invariant := by
  rcases enabled with ⟨is_open, no_awaiter, running⟩
  unfold State.write
  dsimp only
  split
  · refine Departing.abandon ?_ _
    exact invariant.departing_running no_awaiter running
  · have departing : state.Departing .write
        { coroutine, handle := some coroutine, started := status } :=
      invariant.departing_running no_awaiter running
    refine departing.begin rfl rfl rfl rfl rfl rfl rfl ?_ ?_ rfl invariant.reading
      invariant.released rfl rfl invariant.no_fault
    · have no_target := ((invariant.stage .write).of_none no_awaiter).2
      simp only [targets] at no_target ⊢
      rw [List.reduceOption_append, no_target]
      rfl
    · intro other differs
      cases other
      · rfl
      · exact absurd rfl differs

/-- A step that is about none of the suspended operations. -/
theorem keep (invariant : state.Invariant) {after : State}
    (consistent : after.runtime.Consistent)
    (waiting_iff : ∀ handle point, after.runtime.status handle = .waiting point ↔
      state.runtime.status handle = .waiting point)
    (pending_eq : ∀ handle point, state.runtime.status handle = .waiting point →
      after.runtime.pending handle = state.runtime.pending handle)
    (awaiter_eq : after.awaiter = state.awaiter)
    (registered_eq : after.registered = state.registered)
    (targets_eq : after.targets = state.targets) (open_eq : after.isOpen = state.isOpen)
    (data_eq : after.data = state.data) (active_eq : after.active = state.active)
    (ended_eq : after.ended = state.ended) (queued_eq : after.resumedQueued = state.resumedQueued)
    (fault_eq : after.fault = state.fault) : after.Invariant := by
  constructor
  · exact consistent
  · intro point
    refine (invariant.stage point).keep (by rw [awaiter_eq]) (by rw [registered_eq])
      (.inl (by rw [targets_eq])) (fun closed => open_eq.trans closed) ?_
    exact fun handle waiting =>
      ⟨(waiting_iff handle point).mpr waiting, pending_eq handle point waiting⟩
  · intro handle point waiting
    rw [registered_eq]
    exact invariant.known handle point ((waiting_iff handle point).mp waiting)
  · rw [active_eq, data_eq]
    exact invariant.reading
  · rw [open_eq, data_eq]
    exact invariant.released
  · rw [ended_eq]
    exact invariant.ended_once
  · exact queued_eq.trans invariant.not_queued
  · exact fault_eq.trans invariant.no_fault

theorem unrelated (invariant : state.Invariant) {runtime : Runtime Point} {subject : Handle}
    (unrelated : Runtime.Unrelated state.runtime runtime subject) :
    ({ state with runtime } : State).Invariant := by
  apply invariant.keep
  · exact unrelated.consistent
  · exact unrelated.waiting_iff
  · exact fun handle point => unrelated.pending_eq
  all_goals rfl

theorem report (invariant : state.Invariant) (waits : state.Waiting point awaiter) {called : State}
    (runtime_eq : called.runtime = state.runtime) (awaiter_eq : called.awaiter = state.awaiter)
    (registered_eq : called.registered = state.registered)
    (no_target : called.targets point = [])
    (other_targets : ∀ other, other ≠ point → called.targets other = state.targets other)
    (open_eq : called.isOpen = state.isOpen) (reading : called.active = called.data.isSome)
    (released : called.isOpen = false → called.data = none) (ended_eq : called.ended = state.ended)
    (queued_eq : called.resumedQueued = state.resumedQueued)
    (fault_eq : called.fault = state.fault) (status : Int) :
    (called.report point awaiter.coroutine status).Invariant := by
  have found : called.awaiter point = some awaiter := by
    rw [awaiter_eq]
    exact waits.found
  have departing : state.Departing point awaiter :=
    invariant.departing waits.toSuspended invariant.consistent rfl waits.unqueued (fun _ _ => rfl)
  simp only [State.report, found, if_true, waits.handle_eq]
  apply departing.settle
  case consistent =>
    change (called.runtime.enqueue awaiter.coroutine).Consistent
    rw [runtime_eq]
    exact invariant.consistent.enqueue_waiting waits.status
  case stage =>
    refine .queued { awaiter with
      handle := none
      status := some status
      callbacks := awaiter.callbacks + 1 }
      ⟨⟨?_, ?_, ?_, waits.not_closed⟩, rfl, rfl, ?_, ?_, ?_⟩
    · exact Function.update_self ..
    · change called.registered point = some awaiter.coroutine
      rw [registered_eq]
      exact waits.registered
    · change called.runtime.status awaiter.coroutine = .waiting point
      rw [runtime_eq]
      exact waits.status
    · exact congrArg (· + 1) waits.no_callback
    · change (called.runtime.enqueue awaiter.coroutine).pending awaiter.coroutine = 1
      rw [Runtime.pending_enqueue_self, runtime_eq, waits.unqueued]
    · cases point <;> exact no_target
  case subject =>
    intro other waiting
    change called.runtime.status awaiter.coroutine = .waiting other at waiting
    rw [runtime_eq] at waiting
    exact (congrFun registered_eq other).trans (invariant.known _ other waiting)
  case others =>
    intro handle differs
    change called.runtime.status handle = state.runtime.status handle ∧
      (called.runtime.enqueue awaiter.coroutine).pending handle = state.runtime.pending handle
    rw [Runtime.pending_enqueue_of_ne differs, runtime_eq]
    exact ⟨rfl, rfl⟩
  case awaiter_eq =>
    intro other differs
    simp [setAwaiter, differs, awaiter_eq]
  case registered_eq => exact fun other _ => congrFun registered_eq other
  case targets_eq =>
    intro other differs
    refine Eq.trans ?_ (other_targets other differs)
    cases other <;> rfl
  case open_eq => exact open_eq
  case reading => exact reading
  case released => exact released
  case ended_once =>
    change ∀ ended ∈ called.ended, ended.Once
    rw [ended_eq]
    exact invariant.ended_once
  case queued_eq => exact queued_eq
  case no_fault => exact fault_eq.trans invariant.no_fault

/-- The awaiter that libuv leads a callback to. -/
theorem waits_of_target (invariant : state.Invariant) {target : Handle}
    (target_mem : target ∈ state.targets point) :
    ∃ awaiter, state.Waiting point awaiter ∧ awaiter.coroutine = target ∧
      state.targets point = [target] := by
  cases invariant.stage point with
  | idle _ _ no_target => simp [no_target] at target_mem
  | queued _ queued => simp [queued.no_target] at target_mem
  | waiting awaiter waits =>
      rcases waits.target with target_eq | ⟨-, none_left⟩
      · rw [target_eq, List.mem_singleton] at target_mem
        exact ⟨awaiter, waits, target_mem.symm, by rw [target_eq, target_mem]⟩
      · simp [none_left] at target_mem

theorem onInStreamRead (invariant : state.Invariant) {nread : Int}
    (enabled : (Action.onInStreamRead nread).Enabled state) :
    (state.onInStreamRead nread).Invariant := by
  have data_set : state.data.isSome = true := invariant.reading.symm.trans enabled
  rcases Option.isSome_iff_exists.mp data_set with ⟨target, data_eq⟩
  rcases invariant.waits_of_target (by simp [targets, data_eq] : target ∈ state.targets .read)
    with ⟨awaiter, waits, rfl, -⟩
  simp only [State.onInStreamRead, data_eq]
  apply invariant.report waits
  case other_targets =>
    intro other differs
    cases other
    · exact absurd rfl differs
    · rfl
  case released => exact fun _ => rfl
  all_goals rfl

theorem requests_split {index : ℕ} {data : Option Handle}
    (found : state.requests[index]? = some data) :
    ∃ front back, state.requests = front ++ data :: back ∧
      state.requests.eraseIdx index = front ++ back := by
  rcases List.getElem?_eq_some_iff.mp found with ⟨index_lt, rfl⟩
  refine ⟨state.requests.take index, state.requests.drop (index + 1), ?_,
    List.eraseIdx_eq_take_drop_succ _ _⟩
  rw [← List.drop_eq_getElem_cons index_lt, List.take_append_drop]

theorem onOutStreamWrite (invariant : state.Invariant) {index : ℕ} {status : Int}
    (enabled : (Action.onOutStreamWrite index status).Enabled state) :
    (state.onOutStreamWrite index status).Invariant := by
  rcases found : state.requests[index]? with _ | data
  · have too_large := List.getElem?_eq_none_iff.mp found
    exact absurd enabled (Nat.not_lt.mpr too_large)
  rcases requests_split found with ⟨front, back, requests_eq, erased_eq⟩
  have before_eq : state.targets .write = front.reduceOption ++ (data :: back).reduceOption := by
    rw [targets, requests_eq, List.reduceOption_append]
  have after_eq : (state.requests.eraseIdx index).reduceOption =
      front.reduceOption ++ back.reduceOption := by
    rw [erased_eq, List.reduceOption_append]
  simp only [State.onOutStreamWrite, found]
  cases data with
  | none =>
      rw [List.reduceOption_cons_of_none, ← after_eq] at before_eq
      apply invariant.keep
      case consistent => exact invariant.consistent
      case waiting_iff => exact fun handle point => Iff.rfl
      case targets_eq =>
        funext point
        cases point
        · rfl
        · exact before_eq.symm
      all_goals intros; rfl
  | some target =>
      rw [List.reduceOption_cons_of_some] at before_eq
      rcases invariant.waits_of_target (by simp [before_eq] : target ∈ state.targets .write)
        with ⟨awaiter, waits, rfl, only⟩
      rw [before_eq, List.append_eq_singleton_iff] at only
      apply invariant.report waits
      case no_target =>
        rw [targets, after_eq]
        rcases only with ⟨front_nil, back_eq⟩ | ⟨-, back_eq⟩
        · rw [front_nil, (List.cons.inj back_eq).2]
          rfl
        · simp at back_eq
      case other_targets =>
        intro other differs
        cases other
        · rfl
        · exact absurd rfl differs
      case reading => exact invariant.reading
      case released => exact invariant.released
      all_goals rfl

theorem readOutcome_of_success {status : Int} (success : 0 ≤ status) :
    readOutcome status = .bytes status := by
  have not_eof : status ≠ UV_EOF := by
    rintro rfl
    simp [UV_EOF] at success
  simp [readOutcome, not_eof, Int.not_lt.mpr success]

theorem writeOutcome_of_success (started : Int) {status : Int} (success : 0 ≤ status) :
    writeOutcome started status = .written := by
  simp [writeOutcome, Int.not_lt.mpr success]

/-- On an open stream, a coroutine reports what its callback was given. -/
theorem outcome_reported (state : State) (point : Point) (is_open : state.isOpen = true)
    {status : Int} (is_reported : awaiter.status = some status) :
    state.outcome point awaiter = some (reported point awaiter status) := by
  cases point <;> simp [outcome, reported, is_reported, is_open]

theorem reported_of_success {status : Int} (nonnegative : 0 ≤ status) :
    reported point awaiter status = success point status := by
  cases point with
  | read => exact readOutcome_of_success nonnegative
  | write => exact writeOutcome_of_success awaiter.started nonnegative

theorem resumeNext (invariant : state.Invariant)
    (drained : state.isOpen = false → ∀ point, state.awaiter point = none) :
    state.resumeNext.Invariant := by
  unfold State.resumeNext
  rcases popped : state.runtime.getNext with ⟨_ | handle, runtime⟩
  · rcases invariant.consistent.resume_nothing popped with ⟨consistent, unchanged⟩
    apply invariant.keep
    case consistent => exact consistent
    case waiting_iff =>
      intro handle point
      dsimp only
      rw [(unchanged handle).1]
    case pending_eq => exact fun handle point _ => (unchanged handle).2
    all_goals rfl
  · rcases invariant.consistent.getNext_some popped with
      ⟨status_eq, suspended, next_pending, other_pending⟩
    have consistent := invariant.consistent.getNext
    rw [popped] at consistent
    dsimp only at consistent
    simp only [resume, status_eq]
    cases handle_status : state.runtime.status handle with
    | running => simp [handle_status, Status.isSuspended] at suspended
    | done => simp [handle_status, Status.isSuspended] at suspended
    | elsewhere =>
        exact invariant.unrelated (invariant.consistent.resume_elsewhere popped handle_status)
    | waiting point =>
        rcases (invariant.stage point).of_registered (invariant.known handle point handle_status)
          with ⟨awaiter, awaits, rfl⟩
        rcases (invariant.stage point).of_found awaits.found with waits | queued
        · have unqueued := waits.unqueued
          omega
        · have queued_once := queued.queued_once
          have is_open : state.isOpen = true := by
            by_contra closed
            have no_awaiter := drained (by simpa using closed) point
            simp [awaits.found] at no_awaiter
          rcases Option.isSome_iff_exists.mp queued.reported with ⟨status, is_reported⟩
          have outcome_eq := outcome_reported { state with runtime } point is_open is_reported
          have departing := invariant.departing awaits consistent status_eq (by omega)
            other_pending
          simp only [awaits.found]
          refine departing.awaitResume outcome_eq ⟨?_, ?_⟩
          · change awaiter.callbacks + awaiter.closes = 1
            rw [queued.one_callback, queued.not_closed]
          · intro other_status other_eq success
            obtain rfl : status = other_status := Option.some.inj (is_reported.symm.trans other_eq)
            exact reported_of_success success

theorem drop (invariant : state.Invariant) : (state.drop point).Invariant := by
  unfold State.drop
  cases found : state.awaiter point with
  | none => exact invariant
  | some awaiter =>
      have awaits : state.Suspended point awaiter := by
        rcases (invariant.stage point).of_found found with waits | queued
        · exact waits.toSuspended
        · exact queued.toSuspended
      have departing := invariant.departing awaits
        (invariant.consistent.cancel awaiter.coroutine) rfl Runtime.pending_cancel_self
        (fun handle differs => Runtime.pending_cancel_of_ne differs)
      exact departing.abandon _

end Invariant

end State

end Uvco.Stream
