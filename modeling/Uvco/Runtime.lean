import Uvco.Loop

/-!
# Coroutines around the modelled component

Every component that suspends coroutines is modelled together with the
coroutines that use it. A coroutine is running, suspended at one of the
suspension points that the model describes (`Wait`), suspended somewhere else,
or done. Coroutines suspended somewhere else are enqueued by code outside the
model; that code enqueues a suspended coroutine once, so a coroutine that runs
is never in the scheduler queue.

Several coroutines can be running at once: a coroutine that resumes another one,
or starts one by calling it, stays on the call stack. A coroutine that was not
started yet is counted as running, too.
-/

namespace Uvco

/-- What a coroutine is doing. -/
inductive Status (Wait : Type) where
  /-- On the call stack, or not started yet. -/
  | running
  /-- Suspended in an awaiter that is not part of the model. -/
  | elsewhere
  /-- Suspended at a suspension point of the model. -/
  | waiting (point : Wait)
  /-- At `final_suspend`. -/
  | done
deriving DecidableEq, Repr

/-- The coroutine can be resumed. -/
def Status.isSuspended {Wait : Type} : Status Wait → Bool
  | .elsewhere | .waiting _ => true
  | .running | .done => false

/-- The loop and the coroutines. -/
structure Runtime (Wait : Type) where
  loop : Loop := {}
  status : Handle → Status Wait := fun _ => .running

namespace Runtime

variable {Wait : Type} (runtime : Runtime Wait) (handle : Handle)

/-- `coroutine_handle::done()`. -/
def done (handle : Handle) : Bool :=
  match runtime.status handle with
  | .done => true
  | .running | .elsewhere | .waiting _ => false

/-- A coroutine suspends, goes on or ends. -/
def setStatus (status : Status Wait) : Runtime Wait :=
  { runtime with status := Function.update runtime.status handle status }

/-- `Loop::enqueue`. -/
def enqueue : Runtime Wait :=
  { runtime with loop := runtime.loop.enqueue handle }

/-- `Loop::cancel`. -/
def cancel : Runtime Wait :=
  { runtime with loop := runtime.loop.cancel handle }

/-- `Loop::getNext`. -/
def getNext : Option Handle × Runtime Wait :=
  let (next, loop) := runtime.loop.getNext runtime.done
  (next, { runtime with loop })

/-- The number of entries of a coroutine in the scheduler queue. -/
def pending : ℕ :=
  runtime.loop.scheduler.pending handle

variable {runtime handle}

theorem done_iff : runtime.done handle = true ↔ runtime.status handle = .done := by
  unfold done
  cases runtime.status handle <;> simp

@[simp]
theorem setStatus_status_self (status : Status Wait) :
    (runtime.setStatus handle status).status handle = status := by
  simp [setStatus]

theorem setStatus_status_of_ne {other : Handle} (status : Status Wait) (differs : other ≠ handle) :
    (runtime.setStatus handle status).status other = runtime.status other := by
  simp [setStatus, differs]

@[simp]
theorem pending_setStatus (status : Status Wait) (other : Handle) :
    (runtime.setStatus handle status).pending other = runtime.pending other := rfl

@[simp]
theorem enqueue_status : (runtime.enqueue handle).status = runtime.status := rfl

@[simp]
theorem pending_enqueue_self : (runtime.enqueue handle).pending handle =
    runtime.pending handle + 1 := by
  simp [pending, enqueue]

theorem pending_enqueue_of_ne {other : Handle} (differs : other ≠ handle) :
    (runtime.enqueue handle).pending other = runtime.pending other := by
  simp [pending, enqueue, Ne.symm differs]

@[simp]
theorem pending_cancel_self : (runtime.cancel handle).pending handle = 0 := by
  simp [pending, cancel]

theorem pending_cancel_of_ne {other : Handle} (differs : other ≠ handle) :
    (runtime.cancel handle).pending other = runtime.pending other := by
  simp [pending, cancel, Scheduler.pending_cancel_of_ne _ differs]

theorem cancel_of_pending_eq_zero (not_queued : runtime.pending handle = 0) :
    runtime.cancel handle = runtime := by
  rw [cancel, Loop.cancel, Scheduler.cancel_of_pending_eq_zero not_queued]

/-- What is popped is not done; entries of coroutines that are not done are not skipped. -/
theorem getNext_popped {after : Runtime Wait} (popped : runtime.getNext = (some handle, after)) :
    after.status = runtime.status ∧ runtime.status handle ≠ .done ∧
      runtime.pending handle = after.pending handle + 1 ∧
      (∀ other, after.pending other ≤ runtime.pending other) ∧
      ∀ other, other ≠ handle → runtime.status other ≠ .done →
        after.pending other = runtime.pending other := by
  simp only [getNext, Prod.mk.injEq] at popped
  rcases popped with ⟨next_eq, rfl⟩
  rcases Loop.getNext_some (Prod.ext next_eq rfl) with ⟨skipped, resumable_eq, live, skipped_done⟩
  have handle_live : runtime.status handle ≠ .done := by
    intro is_done
    rw [done_iff.mpr is_done] at live
    simp at live
  have not_skipped : ∀ other, runtime.status other ≠ .done → skipped.count (some other) = 0 := by
    intro other other_live
    rw [List.count_eq_zero]
    intro other_mem
    exact other_live (done_iff.mp (skipped_done other other_mem))
  refine ⟨rfl, handle_live, ?_, ?_, ?_⟩
  · rw [pending, Scheduler.pending, resumable_eq, List.count_append, not_skipped handle handle_live,
      List.count_cons_self, Nat.zero_add]
    rfl
  · intro other
    rw [pending, Scheduler.pending, pending, Scheduler.pending, resumable_eq]
    exact ((List.sublist_cons_self _ _).trans (List.sublist_append_right _ _)).count_le _
  · intro other differs other_live
    rw [pending, Scheduler.pending, pending, Scheduler.pending, resumable_eq, List.count_append,
      not_skipped other other_live, Nat.zero_add,
      List.count_cons_of_ne (by simpa using Ne.symm differs)]

theorem getNext_drained {after : Runtime Wait} (popped : runtime.getNext = (none, after)) :
    after.status = runtime.status ∧ (∀ handle, after.pending handle = 0) ∧
      ∀ handle, runtime.status handle ≠ .done → runtime.pending handle = 0 := by
  simp only [getNext, Prod.mk.injEq] at popped
  rcases popped with ⟨next_eq, rfl⟩
  rcases Loop.getNext_none (Prod.ext next_eq rfl) with ⟨emptied, all_done⟩
  refine ⟨rfl, ?_, ?_⟩
  · intro handle
    rw [pending, Scheduler.pending_eq_zero, emptied]
    simp
  · intro handle not_done
    by_contra positive
    have queued := Scheduler.pending_pos.mp (Nat.pos_of_ne_zero positive)
    exact not_done (done_iff.mp (all_done handle queued))

/-- Only suspended coroutines are in the scheduler queue. -/
structure Consistent (runtime : Runtime Wait) : Prop where
  queued : ∀ handle, 0 < runtime.pending handle → (runtime.status handle).isSuspended = true
  once : ∀ handle, runtime.status handle = .elsewhere → runtime.pending handle ≤ 1

theorem Consistent.empty (status : Handle → Status Wait) :
    ({ status } : Runtime Wait).Consistent :=
  ⟨fun _ queued => absurd queued (Nat.lt_irrefl 0), fun _ _ => Nat.zero_le _⟩

theorem Consistent.pending_of_running (consistent : runtime.Consistent)
    (running : runtime.status handle = .running) : runtime.pending handle = 0 := by
  by_contra positive
  have suspended := consistent.queued handle (Nat.pos_of_ne_zero positive)
  simp [running, Status.isSuspended] at suspended

theorem Consistent.not_done (consistent : runtime.Consistent)
    (queued : 0 < runtime.pending handle) : runtime.status handle ≠ .done := by
  intro is_done
  have suspended := consistent.queued handle queued
  simp [is_done, Status.isSuspended] at suspended

theorem Consistent.getNext_some {after : Runtime Wait} (consistent : runtime.Consistent)
    (popped : runtime.getNext = (some handle, after)) :
    after.status = runtime.status ∧ (runtime.status handle).isSuspended = true ∧
      runtime.pending handle = after.pending handle + 1 ∧
      ∀ other, other ≠ handle → after.pending other = runtime.pending other := by
  rcases getNext_popped popped with ⟨status_eq, -, popped_pending, pending_le, other_pending⟩
  refine ⟨status_eq, consistent.queued handle (by omega), popped_pending, ?_⟩
  intro other differs
  -- A finished coroutine is not in the queue, so its entries are not missing afterwards.
  by_cases queued : 0 < runtime.pending other
  · exact other_pending other differs (consistent.not_done queued)
  · have := pending_le other
    omega

theorem Consistent.getNext_none {after : Runtime Wait} (consistent : runtime.Consistent)
    (popped : runtime.getNext = (none, after)) :
    after.status = runtime.status ∧
      ∀ handle, runtime.pending handle = 0 ∧ after.pending handle = 0 := by
  rcases getNext_drained popped with ⟨status_eq, emptied, all_done⟩
  refine ⟨status_eq, fun handle => ⟨?_, emptied handle⟩⟩
  by_contra positive
  exact positive (all_done handle (consistent.not_done (Nat.pos_of_ne_zero positive)))

theorem getNext_shorter {after : Runtime Wait} (popped : runtime.getNext = (some handle, after)) :
    after.loop.scheduler.resumable.length < runtime.loop.scheduler.resumable.length := by
  simp only [getNext, Prod.mk.injEq] at popped
  rcases popped with ⟨next_eq, rfl⟩
  rcases Loop.getNext_some (Prod.ext next_eq rfl) with ⟨skipped, resumable_eq, -, -⟩
  rw [resumable_eq, List.length_append, List.length_cons]
  exact Nat.lt_of_lt_of_le (Nat.lt_succ_self _) (Nat.le_add_left _ _)

theorem Consistent.dequeue {after : Runtime Wait} (consistent : runtime.Consistent)
    (status_eq : after.status = runtime.status)
    (pending_le : ∀ handle, after.pending handle ≤ runtime.pending handle) :
    after.Consistent := by
  constructor
  · intro handle queued
    rw [status_eq]
    exact consistent.queued handle (Nat.lt_of_lt_of_le queued (pending_le handle))
  · intro handle suspended
    rw [status_eq] at suspended
    exact Nat.le_trans (pending_le handle) (consistent.once handle suspended)

theorem Consistent.getNext (consistent : runtime.Consistent) : runtime.getNext.2.Consistent := by
  rcases popped : runtime.getNext with ⟨_ | next, after⟩
  · rcases consistent.getNext_none popped with ⟨status_eq, emptied⟩
    refine consistent.dequeue status_eq ?_
    intro handle
    rw [(emptied handle).2]
    exact Nat.zero_le _
  · rcases consistent.getNext_some popped with ⟨status_eq, -, next_pending, other_pending⟩
    refine consistent.dequeue status_eq ?_
    intro handle
    by_cases same : handle = next
    · subst same
      dsimp only
      omega
    · exact Nat.le_of_eq (other_pending handle same)

theorem Consistent.cancel (consistent : runtime.Consistent) (cancelled : Handle) :
    (runtime.cancel cancelled).Consistent := by
  refine consistent.dequeue rfl ?_
  intro handle
  by_cases same : handle = cancelled
  · subst same
    simp
  · exact Nat.le_of_eq (pending_cancel_of_ne same)

/-- A coroutine that is not in the queue may change its status freely. -/
theorem Consistent.setStatus (consistent : runtime.Consistent) (status : Status Wait)
    (not_queued : runtime.pending handle = 0) : (runtime.setStatus handle status).Consistent := by
  constructor
  · intro other queued
    rw [pending_setStatus] at queued
    have differs : other ≠ handle := by
      rintro rfl
      simp [not_queued] at queued
    rw [setStatus_status_of_ne status differs]
    exact consistent.queued other queued
  · intro other suspended
    rw [pending_setStatus]
    by_cases same : other = handle
    · subst same
      rw [not_queued]
      exact Nat.zero_le _
    · rw [setStatus_status_of_ne status same] at suspended
      exact consistent.once other suspended

theorem Consistent.enqueue_waiting (consistent : runtime.Consistent) {point : Wait}
    (waiting : runtime.status handle = .waiting point) : (runtime.enqueue handle).Consistent := by
  constructor
  · intro other queued
    by_cases same : other = handle
    · rw [same, enqueue_status, waiting]
      rfl
    · rw [pending_enqueue_of_ne same] at queued
      exact consistent.queued other queued
  · intro other suspended
    have differs : other ≠ handle := by
      rintro rfl
      simp [waiting] at suspended
    rw [pending_enqueue_of_ne differs]
    exact consistent.once other suspended

/-! ## Coroutines that do something else -/

/-- What coroutines do that does not involve the modelled component. -/
inductive Action where
  /-- A coroutine suspends in an awaiter outside the model. -/
  | suspend (handle : Handle)
  /-- Such a coroutine is enqueued. -/
  | wake (handle : Handle)
  /-- Such a coroutine is resumed directly, as `StreamBase::close()` does. -/
  | resume (handle : Handle)
  /-- A coroutine runs to its end. -/
  | finish (handle : Handle)
deriving DecidableEq, Repr

/-- The coroutine that acts, or is enqueued. -/
def Action.subject : Action → Handle
  | .suspend handle | .wake handle | .resume handle | .finish handle => handle

/-- Nobody wakes a coroutine that runs, that is enqueued or that waits for something described here.
-/
def Action.Enabled (runtime : Runtime Wait) : Action → Prop
  | .suspend handle | .finish handle => runtime.status handle = .running
  | .wake handle | .resume handle =>
      runtime.status handle = .elsewhere ∧ runtime.pending handle = 0

/-- The coroutines after an action. -/
def Action.perform (runtime : Runtime Wait) : Action → Runtime Wait
  | .suspend handle => runtime.setStatus handle .elsewhere
  | .wake handle => runtime.enqueue handle
  | .resume handle => runtime.setStatus handle .running
  | .finish handle => runtime.setStatus handle .done

instance [DecidableEq Wait] (runtime : Runtime Wait) (action : Action) :
    Decidable (action.Enabled runtime) :=
  match action with
  | .suspend _ | .finish _ => inferInstanceAs (Decidable (_ = _))
  | .wake _ | .resume _ => inferInstanceAs (Decidable (_ ∧ _))

/-- A step of `subject` that leaves the coroutines suspended at a point of the model alone. -/
structure Unrelated (before after : Runtime Wait) (subject : Handle) : Prop where
  consistent : after.Consistent
  subject_not_waiting : ∀ point, before.status subject ≠ .waiting point
  subject_not_waiting_after : ∀ point, after.status subject ≠ .waiting point
  unchanged : ∀ handle, handle ≠ subject → after.status handle = before.status handle ∧
    after.pending handle = before.pending handle

theorem Unrelated.waiting_iff {before after : Runtime Wait} {subject : Handle}
    (unrelated : Unrelated before after subject) (handle : Handle) (point : Wait) :
    after.status handle = .waiting point ↔ before.status handle = .waiting point := by
  by_cases same : handle = subject
  · subst same
    simp [unrelated.subject_not_waiting, unrelated.subject_not_waiting_after]
  · rw [(unrelated.unchanged handle same).1]

theorem Unrelated.pending_eq {before after : Runtime Wait} {subject handle : Handle} {point : Wait}
    (unrelated : Unrelated before after subject) (waiting : before.status handle = .waiting point) :
    after.pending handle = before.pending handle := by
  refine (unrelated.unchanged handle ?_).2
  rintro rfl
  exact unrelated.subject_not_waiting point waiting

/-- Whoever has ended before, and is not the subject, has ended afterwards. -/
theorem Unrelated.done {before after : Runtime Wait} {subject handle : Handle}
    (unrelated : Unrelated before after subject) (not_done : before.status subject ≠ .done)
    (is_done : before.status handle = .done) : after.status handle = .done := by
  have differs : handle ≠ subject := by
    rintro rfl
    exact not_done is_done
  exact (unrelated.unchanged handle differs).1.trans is_done

/-- Other coroutines leave those suspended at a point of the model alone. -/
theorem Consistent.other (consistent : runtime.Consistent) {action : Action}
    (enabled : action.Enabled runtime) :
    Unrelated runtime (action.perform runtime) action.subject := by
  cases action with
  | suspend subject | finish subject =>
      refine ⟨consistent.setStatus _ (consistent.pending_of_running enabled), ?_, ?_, ?_⟩
      · intro point waiting
        simp only [Action.Enabled] at enabled
        simp [Action.subject, enabled] at waiting
      · simp [Action.perform, Action.subject]
      · exact fun handle differs => ⟨setStatus_status_of_ne _ differs, rfl⟩
  | wake subject =>
      rcases enabled with ⟨suspended, not_queued⟩
      refine ⟨⟨?_, ?_⟩, ?_, ?_, fun handle differs => ⟨rfl, pending_enqueue_of_ne differs⟩⟩
      · intro handle queued
        by_cases same : handle = subject
        · rw [same, Action.perform, enqueue_status, suspended]
          rfl
        · rw [Action.perform, pending_enqueue_of_ne same] at queued
          exact consistent.queued handle queued
      · intro handle handle_suspended
        by_cases same : handle = subject
        · subst same
          exact Nat.le_of_eq (pending_enqueue_self.trans (by rw [not_queued]))
        · rw [Action.perform, pending_enqueue_of_ne same]
          exact consistent.once handle handle_suspended
      · simp [Action.subject, suspended]
      · simp [Action.perform, Action.subject, suspended]
  | resume subject =>
      rcases enabled with ⟨suspended, not_queued⟩
      refine ⟨consistent.setStatus _ not_queued, ?_, ?_, ?_⟩
      · simp [Action.subject, suspended]
      · simp [Action.perform, Action.subject]
      · exact fun handle differs => ⟨setStatus_status_of_ne _ differs, rfl⟩

/-- So does a coroutine suspended somewhere else that is handed out and runs. -/
theorem Consistent.resume_elsewhere {after : Runtime Wait} (consistent : runtime.Consistent)
    (popped : runtime.getNext = (some handle, after))
    (suspended : runtime.status handle = .elsewhere) :
    Unrelated runtime (after.setStatus handle .running) handle := by
  rcases consistent.getNext_some popped with ⟨status_eq, -, next_pending, other_pending⟩
  have after_consistent := consistent.getNext
  rw [popped] at after_consistent
  have at_most_once := consistent.once handle suspended
  refine ⟨after_consistent.setStatus _ (by dsimp only; omega), by simp [suspended], by simp, ?_⟩
  intro other differs
  rw [setStatus_status_of_ne _ differs, status_eq]
  exact ⟨rfl, other_pending other differs⟩

theorem Consistent.resume_nothing {after : Runtime Wait} (consistent : runtime.Consistent)
    (popped : runtime.getNext = (none, after)) :
    after.Consistent ∧ ∀ handle, after.status handle = runtime.status handle ∧
      after.pending handle = runtime.pending handle := by
  rcases consistent.getNext_none popped with ⟨status_eq, emptied⟩
  have after_consistent := consistent.getNext
  rw [popped] at after_consistent
  exact ⟨after_consistent, fun handle =>
    ⟨by rw [status_eq], (emptied handle).2.trans (emptied handle).1.symm⟩⟩

/-! ## Entries that were left behind -/

/-- As `Consistent`, but a coroutine that has ended may have left entries in the queue. -/
structure Tolerant (runtime : Runtime Wait) : Prop where
  queued : ∀ handle, 0 < runtime.pending handle → runtime.status handle ≠ .running
  once : ∀ handle, runtime.status handle = .elsewhere → runtime.pending handle ≤ 1

/-- A step leaves the coroutines suspended at a point of the model alone. -/
structure Undisturbed (before after : Runtime Wait) : Prop where
  waiting_iff : ∀ handle point, after.status handle = .waiting point ↔
    before.status handle = .waiting point
  pending_eq : ∀ handle point, before.status handle = .waiting point →
    after.pending handle = before.pending handle

theorem Consistent.tolerant (consistent : runtime.Consistent) : runtime.Tolerant := by
  refine ⟨fun handle queued running => ?_, consistent.once⟩
  have suspended := consistent.queued handle queued
  simp [running, Status.isSuspended] at suspended

namespace Tolerant

theorem empty (status : Handle → Status Wait) : ({ status } : Runtime Wait).Tolerant :=
  (Consistent.empty status).tolerant

theorem pending_of_running (tolerant : runtime.Tolerant)
    (running : runtime.status handle = .running) : runtime.pending handle = 0 := by
  by_contra positive
  exact tolerant.queued handle (Nat.pos_of_ne_zero positive) running

theorem dequeue {after : Runtime Wait} (tolerant : runtime.Tolerant)
    (status_eq : after.status = runtime.status)
    (pending_le : ∀ handle, after.pending handle ≤ runtime.pending handle) : after.Tolerant := by
  constructor
  · intro handle queued
    rw [status_eq]
    exact tolerant.queued handle (Nat.lt_of_lt_of_le queued (pending_le handle))
  · intro handle suspended
    rw [status_eq] at suspended
    exact Nat.le_trans (pending_le handle) (tolerant.once handle suspended)

theorem cancel (tolerant : runtime.Tolerant) (cancelled : Handle) :
    (runtime.cancel cancelled).Tolerant := by
  refine tolerant.dequeue rfl fun handle => ?_
  by_cases same : handle = cancelled
  · subst same
    simp
  · exact Nat.le_of_eq (pending_cancel_of_ne same)

theorem setStatus (tolerant : runtime.Tolerant) (status : Status Wait)
    (allowed : runtime.pending handle = 0 ∨ status = .done) :
    (runtime.setStatus handle status).Tolerant := by
  constructor
  · intro other queued
    rw [pending_setStatus] at queued
    by_cases same : other = handle
    · subst same
      rcases allowed with unqueued | rfl
      · omega
      · simp
    · rw [setStatus_status_of_ne status same]
      exact tolerant.queued other queued
  · intro other suspended
    rw [pending_setStatus]
    by_cases same : other = handle
    · subst same
      rcases allowed with unqueued | rfl
      · omega
      · simp at suspended
    · rw [setStatus_status_of_ne status same] at suspended
      exact tolerant.once other suspended

theorem enqueue_waiting (tolerant : runtime.Tolerant) {point : Wait}
    (waiting : runtime.status handle = .waiting point) : (runtime.enqueue handle).Tolerant := by
  constructor
  · intro other queued
    by_cases same : other = handle
    · simp [same, waiting]
    · rw [pending_enqueue_of_ne same] at queued
      exact tolerant.queued other queued
  · intro other suspended
    have differs : other ≠ handle := by
      rintro rfl
      simp [waiting] at suspended
    rw [pending_enqueue_of_ne differs]
    exact tolerant.once other suspended

theorem other (tolerant : runtime.Tolerant) {action : Action}
    (enabled : action.Enabled runtime) :
    (action.perform runtime).Tolerant ∧ Undisturbed runtime (action.perform runtime) := by
  have changed : ∀ (handle : Handle) (status : Status Wait),
      (∀ point, runtime.status handle ≠ .waiting point) → (∀ point, status ≠ .waiting point) →
      Undisturbed runtime (runtime.setStatus handle status) := by
    intro handle status not_before not_after
    refine ⟨fun other point => ?_, fun _ _ _ => rfl⟩
    by_cases same : other = handle
    · subst same
      simp [not_before, not_after]
    · rw [setStatus_status_of_ne status same]
  cases action with
  | suspend handle | finish handle =>
      refine ⟨tolerant.setStatus _ (.inl (tolerant.pending_of_running enabled)), ?_⟩
      apply changed
      · intro point waiting
        rw [Action.Enabled] at enabled
        simp [enabled] at waiting
      · simp
  | wake handle =>
      rcases enabled with ⟨suspended, unqueued⟩
      refine ⟨⟨fun other queued => ?_, fun other other_suspended => ?_⟩, ⟨fun _ _ => Iff.rfl, ?_⟩⟩
      · by_cases same : other = handle
        · simp [same, Action.perform, suspended]
        · rw [Action.perform, pending_enqueue_of_ne same] at queued
          exact tolerant.queued other queued
      · by_cases same : other = handle
        · subst same
          exact Nat.le_of_eq (pending_enqueue_self.trans (by rw [unqueued]))
        · rw [Action.perform, pending_enqueue_of_ne same]
          exact tolerant.once other other_suspended
      · intro other point waiting
        refine pending_enqueue_of_ne ?_
        rintro rfl
        simp [suspended] at waiting
  | resume handle =>
      rcases enabled with ⟨suspended, unqueued⟩
      refine ⟨tolerant.setStatus _ (.inl unqueued), ?_⟩
      apply changed <;> simp [suspended]

/-- The scheduler hands out a coroutine that is suspended somewhere else. -/
theorem resume_elsewhere {after : Runtime Wait} (tolerant : runtime.Tolerant)
    (popped : runtime.getNext = (some handle, after))
    (suspended : runtime.status handle = .elsewhere) :
    (after.setStatus handle .running).Tolerant ∧
      Undisturbed runtime (after.setStatus handle .running) := by
  rcases getNext_popped popped with ⟨status_eq, -, popped_pending, pending_le, other_pending⟩
  have at_most_once := tolerant.once handle suspended
  refine ⟨(tolerant.dequeue status_eq pending_le).setStatus _ (.inl (by omega)), ?_⟩
  constructor
  · intro other point
    by_cases same : other = handle
    · subst same
      simp [suspended]
    · rw [setStatus_status_of_ne _ same, status_eq]
  · intro other point waiting
    refine other_pending other ?_ (by simp [waiting])
    rintro rfl
    simp [suspended] at waiting

theorem resume_nothing {after : Runtime Wait} (tolerant : runtime.Tolerant)
    (popped : runtime.getNext = (none, after)) :
    after.Tolerant ∧ Undisturbed runtime after := by
  rcases getNext_drained popped with ⟨status_eq, emptied, all_done⟩
  refine ⟨tolerant.dequeue status_eq ?_, ?_, ?_⟩
  · intro handle
    rw [emptied]
    exact Nat.zero_le _
  · intro handle point
    rw [status_eq]
  · intro handle point waiting
    rw [emptied, all_done handle (by simp [waiting])]

end Tolerant

end Runtime

end Uvco
