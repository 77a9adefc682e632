import Uvco.FsWatch.Stop

/-!
# What a watch delivers

Events that find 128 entries pending are dropped. Errors are put into the queue without
looking at its space, so an error that finds 128 entries pending makes the queue throw
through the callback.
-/

namespace Uvco.FsWatch

namespace State

/-- The events that the awaiter keeps. -/
def pending (state : State) : List FileEvent :=
  match state.data with
  | some awaiter => awaiter.events.toList
  | none => []

/-- The awaiter has no space for another event. -/
def Full (state : State) : Prop :=
  FsWatchAwaiter.defaultCapacity ≤ state.pending.length

/-- No error arrives while 128 entries are pending. -/
def NoErrorWhenFull (state : State) : Action → Prop
  | .onFsWatcherEvent _ _ status => state.Full → status = 0
  | .watch _ | .stopWatch _ | .follow _ => True

theorem pending_eq {state : State} {awaiter : FsWatchAwaiter}
    (data_eq : state.data = some awaiter) : state.pending = awaiter.events.toList := by
  simp only [pending, data_eq]

/-! ## What has left the callback -/

section Escaped

variable (state : State) (awaiter : FsWatchAwaiter)

@[simp]
theorem escaped_schedule : (state.schedule awaiter).escaped = state.escaped := by
  unfold schedule
  split <;> rfl

@[simp]
theorem escaped_resumed : (state.resumed awaiter).escaped = state.escaped := by
  unfold resumed
  split
  · rfl
  · split <;> rfl

@[simp]
theorem escaped_await : (state.await awaiter).escaped = state.escaped := by
  unfold await
  split
  · exact state.escaped_resumed awaiter
  · rfl

@[simp]
theorem escaped_proceed : state.proceed.escaped = state.escaped := by
  unfold proceed
  split
  · split
    · exact state.escaped_await _
    · exact state.escaped_resumed _
  · rfl

@[simp]
theorem escaped_follow (action : MultiPromise.Action FileEvent QueueFault) :
    (state.follow action).escaped = state.escaped := by
  have advance_eq : (state.advance action).escaped = state.escaped := by
    unfold advance
    dsimp only
    split
    · exact escaped_proceed _
    · rfl
  unfold follow settle
  split
  · split
    · exact advance_eq
    · exact advance_eq
  · exact advance_eq

@[simp]
theorem escaped_stopWatch (coroutine : Handle) :
    (state.stopWatch coroutine).escaped = state.escaped := by
  unfold stopWatch
  split
  · rfl
  · rw [escaped_follow]
    exact state.escaped_schedule _

end Escaped

namespace Invariant

variable {state : State}

/-- The callback throws if and only if an error finds 128 entries pending. -/
theorem escaped_iff (invariant : state.Invariant) (nothing : state.escaped = none)
    (path : String) (events : ℕ) (status : Int) :
    (state.onFsWatcherEvent path events status).escaped = none ↔
      state.NoErrorWhenFull (.onFsWatcherEvent path events status) := by
  rcases data_eq : state.data with _ | awaiter
  · have not_full : ¬state.Full := by
      simp [Full, pending, data_eq, FsWatchAwaiter.defaultCapacity]
    simp only [State.onFsWatcherEvent, data_eq]
    exact ⟨fun _ full => absurd full not_full, fun _ => nothing⟩
  · have full_iff : state.Full ↔
        FsWatchAwaiter.defaultCapacity ≤ awaiter.events.toList.length := by
      rw [Full, pending_eq data_eq]
    rcases invariant.onFsWatcherEvent_cases data_eq path events status with
      ⟨space, queue, -, -, after_eq⟩ | ⟨-, no_error, after_eq⟩ | ⟨full, error, after_eq⟩
    · rw [after_eq, escaped_schedule]
      exact ⟨fun _ full => absurd (full_iff.mp full) (Nat.not_le.mpr space), fun _ => nothing⟩
    · rw [after_eq]
      exact ⟨fun _ _ => no_error, fun _ => nothing⟩
    · rw [after_eq]
      constructor
      · intro contained
        simp at contained
      · intro allowed
        exact absurd (allowed (full_iff.mpr full)) error

theorem overflow (invariant : state.Invariant) (full : state.Full) (path : String) (events : ℕ) :
    state.onFsWatcherEvent path events 0 = state := by
  rcases data_eq : state.data with _ | awaiter
  · simp only [State.onFsWatcherEvent, data_eq]
  · rw [Full, pending_eq data_eq] at full
    rcases invariant.onFsWatcherEvent_cases data_eq path events 0 with
      ⟨space, -⟩ | ⟨-, -, after_eq⟩ | ⟨-, error, -⟩
    · omega
    · exact after_eq
    · exact absurd rfl error

end Invariant

/-- Every event that was accepted is delivered, in order, until the watch is stopped. -/
structure Delivers (state : State) : Prop where
  never_throws : state.escaped = none
  /-- The values are what arrived while there was space, in order and up to some point. -/
  in_order : state.promise.values <+: state.accepted
  /-- Until the watch is stopped, the rest is in the slot or in the queue. -/
  complete : state.stopping = none →
    state.accepted = state.promise.values ++ state.promise.inSlot ++ state.pending
  bounded : state.pending.length ≤ FsWatchAwaiter.defaultCapacity
  /-- Pending entries wait for the consumer or for the scheduler. -/
  prompt : state.pending ≠ [] →
    state.promise.runtime.status state.promise.generator = .waiting .atYield ∨
      state.promise.runtime.pending state.promise.generator = 1
  /-- An entry that finds no space leaves everything as it is. -/
  overflow : state.Full → ∀ path events status,
    state.NoErrorWhenFull (.onFsWatcherEvent path events status) →
    state.onFsWatcherEvent path events status = state

namespace Invariant

variable {state : State}

theorem delivers (invariant : state.Invariant) (nothing : state.escaped = none) :
    state.Delivers := by
  rcases invariant.promise.transported.values_eq with ⟨-, -, yielded_eq, -⟩
  have overflow : state.Full → ∀ path events status,
      state.NoErrorWhenFull (.onFsWatcherEvent path events status) →
      state.onFsWatcherEvent path events status = state := by
    intro full path events status allowed
    obtain rfl := allowed full
    exact invariant.overflow full path events
  have bounded : ∀ {awaiter : FsWatchAwaiter}, awaiter.events.capacity =
      FsWatchAwaiter.defaultCapacity → awaiter.events.toList.length ≤
        FsWatchAwaiter.defaultCapacity := by
    intro awaiter capacity
    exact capacity ▸ awaiter.events.length_le_capacity
  cases invariant.stage with
  | inAwaiter awaiter data_eq _ _ registered capacity accounted =>
      rw [yielded_eq] at accounted
      refine ⟨nothing, ?_, fun _ => ?_, ?_, ?_, overflow⟩
      · rw [accounted, List.append_assoc]
        exact List.prefix_append _ _
      · rw [pending_eq data_eq]
        exact accounted
      · rw [pending_eq data_eq]
        exact bounded capacity
      · rw [pending_eq data_eq]
        intro nonempty
        rcases registered with ⟨-, -, not_ready⟩ | ⟨-, queued, -⟩
        · have empty : awaiter.events.empty = true := by
            simpa using (Bool.or_eq_false_iff.mp not_ready).2
          exact absurd (awaiter.events.empty_iff.mp empty) nonempty
        · exact .inr queued
  | yielding awaiter data_eq _ status _ capacity accounted =>
      rw [yielded_eq] at accounted
      refine ⟨nothing, ?_, fun _ => ?_, ?_, fun _ => .inl status, overflow⟩
      · rw [accounted, List.append_assoc]
        exact List.prefix_append _ _
      · rw [pending_eq data_eq]
        exact accounted
      · rw [pending_eq data_eq]
        exact bounded capacity
  | ended data_eq _ accounted =>
      have none_pending : state.pending = [] := by simp only [pending, data_eq]
      refine ⟨nothing, ?_, fun stopping_eq => ?_, ?_, ?_, overflow⟩
      · rw [yielded_eq] at accounted
        exact (List.prefix_append _ _).trans accounted
      · cases invariant.stopping with
        | active _ _ going =>
            rcases going with ⟨_, found, -⟩
            simp [data_eq] at found
        | awaiting _ some_eq | ready _ some_eq | stuck _ some_eq => simp [stopping_eq] at some_eq
      · simp [none_pending]
      · exact fun nonempty => absurd none_pending nonempty

theorem contained (invariant : state.Invariant) (nothing : state.escaped = none) {action : Action}
    (allowed : state.NoErrorWhenFull action) : (action.perform state).escaped = none := by
  cases action with
  | watch generator => exact (escaped_await _ _).trans nothing
  | onFsWatcherEvent path events status =>
      exact (invariant.escaped_iff nothing path events status).mpr allowed
  | stopWatch coroutine => exact (escaped_stopWatch _ _).trans nothing
  | follow action => exact (escaped_follow _ _).trans nothing

end Invariant

end State

end Uvco.FsWatch
