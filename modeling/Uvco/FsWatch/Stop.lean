import Uvco.FsWatch.Stage

/-!
# `stopWatch()`

`stopWatch()` stops the awaiter and awaits the generator once. The generator ends when
it is resumed, unless it was suspended at `co_yield` with a value that nobody has read:
then `stopWatch()` obtains the value and is ready, but the generator is never resumed,
and its awaiter stays registered.
-/

namespace Uvco.FsWatch

namespace State

/-- How far `stopWatch()` has come. -/
inductive Stopping (state : State) : Prop where
  | active (stopping_eq : state.stopping = none) (not_ready : state.stopReady = false)
      (going : ∃ awaiter, state.data = some awaiter ∧ awaiter.stopped = false)
  | awaiting (coroutine : Handle) (stopping_eq : state.stopping = some coroutine)
      (not_ready : state.stopReady = false) (read : state.unread = false)
      (awaits : state.promise.Awaits coroutine)
      (unqueued : ∀ awaiter, state.data = some awaiter → awaiter.stopped = true ∧
        state.promise.runtime.pending coroutine = 0)
  | ready (coroutine : Handle) (stopping_eq : state.stopping = some coroutine)
      (distinct : coroutine ≠ state.promise.generator) (is_ready : state.stopReady = true)
      (read : state.unread = false) (unregistered : state.data = none)
  | stuck (coroutine : Handle) (stopping_eq : state.stopping = some coroutine)
      (distinct : coroutine ≠ state.promise.generator) (is_ready : state.stopReady = true)
      (unread : state.unread = true) (registered : state.data.isSome = true)
      (parked : state.promise.runtime.status state.promise.generator = .waiting .atYield)
      (unqueued : state.promise.runtime.pending state.promise.generator = 0)

/-- What holds of a watch in every reachable state. -/
structure Invariant (state : State) : Prop where
  promise : state.promise.Invariant
  stage : state.Stage
  stopping : state.Stopping

/-- `stopWatch()` ends if its coroutine runs, and otherwise nothing happens. -/
theorem settle_cases (state : State) (promise : state.promise.Invariant) (stage : state.Stage)
    (distinct : ∀ coroutine, state.stopping = some coroutine →
      coroutine ≠ state.promise.generator) :
    state.settle.promise.Invariant ∧ state.settle.Stage ∧
      state.settle.promise.generator = state.promise.generator ∧
      state.settle.data = state.data ∧ state.settle.stopping = state.stopping ∧
      state.settle.unread = state.unread ∧ state.settle.escaped = state.escaped ∧
      state.settle.promise.runtime.status state.promise.generator =
        state.promise.runtime.status state.promise.generator ∧
      state.settle.promise.runtime.pending state.promise.generator =
        state.promise.runtime.pending state.promise.generator ∧
      ((∀ coroutine, state.stopping = some coroutine →
          state.promise.runtime.status coroutine ≠ .running) ∧ state.settle = state ∨
        (∃ coroutine, state.stopping = some coroutine ∧
          state.promise.runtime.status coroutine = .running) ∧ state.settle.stopReady = true) := by
  unfold State.settle
  rcases stopping_eq : state.stopping with _ | coroutine
  · exact ⟨promise, stage, rfl, rfl, stopping_eq, rfl, rfl, rfl, rfl, .inl ⟨by simp, rfl⟩⟩
  · dsimp only
    split
    · rename_i running
      have differs := distinct coroutine stopping_eq
      have enabled : (MultiPromise.Action.other (.finish coroutine)).Enabled state.promise :=
        ⟨running, by simpa using differs⟩
      have unrelated := promise.consistent.other enabled.1
      have unchanged := unrelated.unchanged state.promise.generator (Ne.symm differs)
      refine ⟨promise.step enabled, ?_, rfl, rfl, rfl, rfl, rfl, unchanged.1, unchanged.2,
        .inr ⟨⟨coroutine, rfl, running⟩, rfl⟩⟩
      exact stage.keep rfl rfl rfl rfl rfl rfl unchanged.1 fun _ => unchanged.2
    · rename_i not_running
      refine ⟨promise, stage, rfl, rfl, stopping_eq, rfl, rfl, rfl, rfl, .inl ⟨?_, rfl⟩⟩
      rintro _ ⟨⟩
      exact not_running

/-- The coroutine of `stopWatch()` is known. -/
theorem distinct_of {state : State} {coroutine : Handle}
    (stopping_eq : state.stopping = some coroutine)
    (differs : coroutine ≠ state.promise.generator) (other : Handle)
    (stopping : state.stopping = some other) : other ≠ state.promise.generator := by
  obtain rfl := Option.some.inj (stopping_eq.symm.trans stopping)
  exact differs

theorem settle_of_awaits {state : State} {coroutine : Handle}
    (stopping_eq : state.stopping = some coroutine) (awaits : state.promise.Awaits coroutine) :
    state.settle = state := by
  have not_running : state.promise.runtime.status coroutine ≠ .running := by
    rw [awaits]
    simp
  simp only [State.settle, stopping_eq, if_neg not_running]

namespace Invariant

variable {state : State}

theorem distinct (invariant : state.Invariant) (coroutine : Handle)
    (stopping_eq : state.stopping = some coroutine) :
    coroutine ≠ state.promise.generator := by
  cases invariant.stopping with
  | active none_eq => simp [stopping_eq] at none_eq
  | awaiting _ found _ _ awaits =>
      obtain rfl := Option.some.inj (found.symm.trans stopping_eq)
      rintro rfl
      exact invariant.promise.generator_not_awaiting awaits
  | ready _ found distinct | stuck _ found distinct =>
      obtain rfl := Option.some.inj (found.symm.trans stopping_eq)
      exact distinct

/-- While nobody has called `stopWatch()`, a step leaves the watch going. -/
theorem follow_active (invariant : state.Invariant)
    {action : MultiPromise.Action FileEvent QueueFault} (enabled : action.Enabled state.promise)
    (is_foreign : action.IsForeign state.promise.generator) (stopping_eq : state.stopping = none)
    (not_ready : state.stopReady = false) {awaiter : FsWatchAwaiter}
    (data_eq : state.data = some awaiter) (going : awaiter.stopped = false) :
    (state.follow action).Invariant := by
  rcases invariant.stage.advance invariant.promise enabled is_foreign with
    ⟨after, advance_eq, stage, generator_eq⟩ | ⟨-, found, found_eq, advanced, generator_eq⟩
  · rw [advance_eq] at stage
    have settle_eq : state.follow action =
        { state with promise := action.perform state.promise } := by
      rw [State.follow, advance_eq]
      simp only [State.settle, stopping_eq]
    rw [settle_eq]
    exact ⟨after, stage, .active stopping_eq not_ready ⟨awaiter, data_eq, going⟩⟩
  · obtain rfl := Option.some.inj (data_eq.symm.trans found_eq)
    have settle_eq : state.follow action = state.advance action := by
      rw [State.follow, State.settle, advanced.stopping_eq]
      simp only [stopping_eq]
    rw [settle_eq]
    exact ⟨advanced.promise, advanced.stage, .active (advanced.stopping_eq.trans stopping_eq)
      (advanced.stopReady_eq.trans not_ready) (advanced.continues going)⟩

/-- While `stopWatch()` waits, the generator ends, and then the coroutine of `stopWatch()` runs. -/
theorem follow_awaiting (invariant : state.Invariant)
    {action : MultiPromise.Action FileEvent QueueFault} (enabled : action.Enabled state.promise)
    (is_foreign : action.IsForeign state.promise.generator)
    (not_await : ∀ handle, action ≠ .coAwait handle) {coroutine : Handle}
    (stopping_eq : state.stopping = some coroutine) (not_ready : state.stopReady = false)
    (read : state.unread = false) (awaits : state.promise.Awaits coroutine)
    (unqueued : ∀ awaiter, state.data = some awaiter → awaiter.stopped = true ∧
      state.promise.runtime.pending coroutine = 0) : (state.follow action).Invariant := by
  have differs : coroutine ≠ state.promise.generator := invariant.distinct coroutine stopping_eq
  have moved := invariant.promise.waiting_cases enabled is_foreign not_await awaits
  rcases invariant.stage.advance invariant.promise enabled is_foreign with
    ⟨after, advance_eq, stage, generator_eq⟩ | ⟨resumed, awaiter, data_eq, advanced, generator_eq⟩
  · rw [advance_eq] at stage
    rw [State.follow, advance_eq]
    rcases settle_cases { state with promise := action.perform state.promise } after stage
        (distinct_of stopping_eq (generator_eq.symm ▸ differs)) with
      ⟨promise, settled, settled_generator, data_eq, still_stopping, unread_eq, -, -, -, outcome⟩
    rcases moved with ⟨still_awaits, pending_eq⟩ | ⟨running, queued⟩
    · rcases outcome with ⟨-, settle_eq⟩ | ⟨⟨other, stopping, running⟩, -⟩
      · rw [settle_eq]
        refine ⟨after, stage, .awaiting coroutine stopping_eq not_ready read still_awaits ?_⟩
        intro awaiter found
        exact (unqueued awaiter found).imp_right pending_eq.trans
      · obtain rfl := Option.some.inj (stopping_eq.symm.trans stopping)
        dsimp only at running
        rw [still_awaits] at running
        simp at running
    · -- The coroutine of `stopWatch()` was enqueued, so the generator has ended.
      have unregistered : state.data = none := by
        rw [Option.eq_none_iff_forall_ne_some]
        intro awaiter found
        have := (unqueued awaiter found).2
        omega
      rcases outcome with ⟨not_running, -⟩ | ⟨-, is_ready⟩
      · exact absurd running (not_running coroutine stopping_eq)
      · refine ⟨promise, settled, .ready coroutine (still_stopping.trans stopping_eq) ?_ is_ready
          (unread_eq.trans read) (data_eq.trans unregistered)⟩
        rw [settled_generator]
        exact generator_eq.symm ▸ differs
  · have still_awaits : (action.perform state.promise).Awaits coroutine := by
      rcases moved with ⟨still_awaits, -⟩ | ⟨-, queued⟩
      · exact still_awaits
      · have := (unqueued awaiter data_eq).2
        omega
    rcases advanced.ends (unqueued awaiter data_eq).1 with ⟨unregistered, awaits_iff⟩
    have after_awaits := (awaits_iff coroutine).mpr still_awaits
    have after_stopping := advanced.stopping_eq.trans stopping_eq
    rcases settle_cases _ advanced.promise advanced.stage
        (distinct_of after_stopping (generator_eq.symm ▸ differs)) with
      ⟨-, -, -, -, -, -, -, -, -, outcome⟩
    rcases outcome with ⟨-, settle_eq⟩ | ⟨⟨other, stopping, running⟩, -⟩
    · rw [State.follow, settle_eq]
      refine ⟨advanced.promise, advanced.stage, .awaiting coroutine after_stopping
        (advanced.stopReady_eq.trans not_ready) (advanced.unread_eq.trans read) after_awaits ?_⟩
      simp [unregistered]
    · obtain rfl := Option.some.inj (after_stopping.symm.trans stopping)
      rw [after_awaits] at running
      simp at running

/-- When `stopWatch()` is ready, the generator is not resumed any more. -/
theorem follow_ready (invariant : state.Invariant)
    {action : MultiPromise.Action FileEvent QueueFault} (enabled : action.Enabled state.promise)
    (is_foreign : action.IsForeign state.promise.generator)
    (not_await : ∀ handle, action ≠ .coAwait handle) {coroutine : Handle}
    (stopping_eq : state.stopping = some coroutine) (is_ready : state.stopReady = true)
    (outcome : state.unread = false ∧ state.data = none ∨
      state.unread = true ∧ state.data.isSome = true ∧
        state.promise.runtime.status state.promise.generator = .waiting .atYield ∧
        state.promise.runtime.pending state.promise.generator = 0) :
    (state.follow action).Invariant := by
  have differs : coroutine ≠ state.promise.generator := invariant.distinct coroutine stopping_eq
  rcases invariant.stage.advance invariant.promise enabled is_foreign with
    ⟨after, advance_eq, stage, generator_eq⟩ | ⟨resumed, awaiter, data_eq, -, -⟩
  · rw [advance_eq] at stage
    rw [State.follow, advance_eq]
    rcases settle_cases { state with promise := action.perform state.promise } after stage
        (distinct_of stopping_eq (generator_eq.symm ▸ differs)) with
      ⟨promise, settled, settled_generator, data_eq, still_stopping, unread_eq, -, status_eq,
        pending_eq, settled_ready⟩
    have still_ready : ({ state with promise := action.perform state.promise } :
        State).settle.stopReady = true := by
      rcases settled_ready with ⟨-, settle_eq⟩ | ⟨-, now_ready⟩
      · rw [settle_eq]
        exact is_ready
      · exact now_ready
    have still_distinct : coroutine ≠ ({ state with promise := action.perform state.promise } :
        State).settle.promise.generator := by
      rw [settled_generator]
      exact generator_eq.symm ▸ differs
    refine ⟨promise, settled, ?_⟩
    rcases outcome with ⟨read, unregistered⟩ | ⟨unread, registered, parked, unqueued⟩
    · exact .ready coroutine (still_stopping.trans stopping_eq) still_distinct still_ready
        (unread_eq.trans read) (data_eq.trans unregistered)
    · rcases invariant.promise.waiting_cases enabled is_foreign not_await parked with
        ⟨still_parked, same_pending⟩ | ⟨-, queued⟩
      · refine .stuck coroutine (still_stopping.trans stopping_eq) still_distinct still_ready
          (unread_eq.trans unread) (data_eq.symm ▸ registered) ?_ ?_
        · rw [settled_generator]
          refine status_eq.trans ?_
          dsimp only
          rw [generator_eq]
          exact still_parked
        · rw [settled_generator]
          refine pending_eq.trans ?_
          dsimp only
          rw [generator_eq]
          exact same_pending.trans unqueued
      · omega
  · rcases outcome with ⟨-, unregistered⟩ | ⟨-, -, parked, unqueued⟩
    · simp [unregistered] at data_eq
    · rcases invariant.promise.waiting_cases enabled is_foreign not_await parked with
        ⟨still_parked, -⟩ | ⟨-, queued⟩
      · rw [resumed.2] at still_parked
        simp at still_parked
      · omega

theorem follow (invariant : state.Invariant)
    {action : MultiPromise.Action FileEvent QueueFault}
    (enabled : (Action.follow action).Enabled state) : (state.follow action).Invariant := by
  rcases enabled with ⟨enabled, is_foreign, owned⟩
  have not_await : ∀ coroutine, state.stopping = some coroutine →
      ∀ handle, action ≠ .coAwait handle := by
    intro coroutine stopping_eq handle is_await
    simp [stopping_eq] at owned
    exact owned handle is_await
  cases invariant.stopping with
  | active stopping_eq not_ready going =>
      rcases going with ⟨awaiter, data_eq, going⟩
      exact invariant.follow_active enabled is_foreign stopping_eq not_ready data_eq going
  | awaiting coroutine stopping_eq not_ready read awaits unqueued =>
      exact invariant.follow_awaiting enabled is_foreign (not_await coroutine stopping_eq)
        stopping_eq not_ready read awaits unqueued
  | ready coroutine stopping_eq _ is_ready read unregistered =>
      exact invariant.follow_ready enabled is_foreign (not_await coroutine stopping_eq) stopping_eq
        is_ready (.inl ⟨read, unregistered⟩)
  | stuck coroutine stopping_eq _ is_ready unread registered parked unqueued =>
      exact invariant.follow_ready enabled is_foreign (not_await coroutine stopping_eq) stopping_eq
        is_ready (.inr ⟨unread, registered, parked, unqueued⟩)

theorem schedule_stopping (invariant : state.Invariant) {awaiter : FsWatchAwaiter}
    (changed : FsWatchAwaiter) (data_eq : state.data = some awaiter)
    (handle_eq : changed.handle = awaiter.handle)
    (stopped_eq : changed.stopped = awaiter.stopped) (accepted : List FileEvent) :
    (({ state with accepted } : State).schedule changed).Stopping := by
  rcases schedule_spec invariant.stage data_eq handle_eq accepted with
    ⟨generator_eq, -, status_eq, pending_eq, ⟨scheduled, found, kept, -⟩, stopping_eq, ready_eq,
      unread_eq, -⟩
  cases invariant.stopping with
  | active none_eq not_ready going =>
      rcases going with ⟨_, same, going⟩
      obtain rfl := Option.some.inj (data_eq.symm.trans same)
      exact .active (stopping_eq.trans none_eq) (ready_eq.trans not_ready)
        ⟨scheduled, found, kept.trans (stopped_eq.trans going)⟩
  | awaiting coroutine some_eq not_ready read awaits unqueued =>
      refine .awaiting coroutine (stopping_eq.trans some_eq) (ready_eq.trans not_ready)
        (unread_eq.trans read) ((congrFun status_eq coroutine).trans awaits) fun _ same => ?_
      obtain rfl := Option.some.inj (found.symm.trans same)
      rcases unqueued awaiter data_eq with ⟨stopped, unqueued⟩
      refine ⟨kept.trans (stopped_eq.trans stopped),
        (pending_eq coroutine (.inr ?_)).trans unqueued⟩
      rw [awaits]
      simp
  | ready _ _ _ _ _ unregistered => simp [data_eq] at unregistered
  | stuck coroutine some_eq distinct is_ready unread registered parked unqueued =>
      refine .stuck coroutine (stopping_eq.trans some_eq) (generator_eq ▸ distinct)
        (ready_eq.trans is_ready) (unread_eq.trans unread) (by simp [found]) ?_ ?_
      · rw [generator_eq, status_eq]
        exact parked
      · rw [generator_eq, pending_eq _ (.inr (by simp [parked]))]
        exact unqueued

/-- An arrival is queued, or there is no space: then an event is dropped, and an error is thrown. -/
theorem onFsWatcherEvent_cases (invariant : state.Invariant) {awaiter : FsWatchAwaiter}
    (data_eq : state.data = some awaiter) (path : String) (events : ℕ) (status : Int) :
    awaiter.events.toList.length < FsWatchAwaiter.defaultCapacity ∧
        (∃ queue : BoundedQueue FileEvent,
          queue.toList = awaiter.events.toList ++ [.arrived path events status] ∧
          queue.capacity = awaiter.events.capacity ∧
          state.onFsWatcherEvent path events status =
            ({ state with accepted := state.accepted ++ [.arrived path events status] } :
              State).schedule { awaiter with events := queue }) ∨
      FsWatchAwaiter.defaultCapacity ≤ awaiter.events.toList.length ∧ status = 0 ∧
        state.onFsWatcherEvent path events status = state ∨
      FsWatchAwaiter.defaultCapacity ≤ awaiter.events.toList.length ∧ status ≠ 0 ∧
        state.onFsWatcherEvent path events status =
          { state with escaped := some (.thrown (.ofStatus UV_EBUSY "queue is full")) } := by
  have capacity : awaiter.events.capacity = FsWatchAwaiter.defaultCapacity := by
    cases invariant.stage with
    | inAwaiter _ found _ _ _ capacity | yielding _ found _ _ _ capacity =>
        obtain rfl := Option.some.inj (data_eq.symm.trans found)
        exact capacity
    | ended found => simp [data_eq] at found
  have space_iff : awaiter.events.hasSpace = true ↔
      awaiter.events.size < FsWatchAwaiter.defaultCapacity := by
    rw [BoundedQueue.hasSpace_iff, capacity, BoundedQueue.size_eq_length]
  rw [← BoundedQueue.size_eq_length]
  simp only [State.onFsWatcherEvent, data_eq]
  rcases awaiter.add_cases path events status with
    ⟨space, queue, add_eq, contents, capacity_eq⟩ | ⟨full, no_error, add_eq⟩ |
      ⟨full, error, add_eq⟩
  · left
    rw [add_eq, if_pos (space_iff.mp space)]
    exact ⟨space_iff.mp space, queue, contents, capacity_eq, rfl⟩
  · right; left
    have not_less : ¬awaiter.events.size < FsWatchAwaiter.defaultCapacity :=
      space_iff.not.mp (by simp [full])
    refine ⟨Nat.not_lt.mp not_less, no_error, ?_⟩
    -- The queue is not empty, so nobody is registered.
    have unregistered : awaiter.handle = none := by
      cases invariant.stage with
      | inAwaiter _ found _ _ registered =>
          obtain rfl := Option.some.inj (data_eq.symm.trans found)
          rcases registered with ⟨-, -, not_ready⟩ | ⟨unregistered, -⟩
          · have empty : awaiter.events.empty = true := by
              simpa using (Bool.or_eq_false_iff.mp not_ready).2
            rw [BoundedQueue.empty_iff] at empty
            rw [BoundedQueue.size_eq_length, empty] at not_less
            exact absurd (by decide) not_less
          · exact unregistered
      | yielding _ found _ _ unregistered =>
          obtain rfl := Option.some.inj (data_eq.symm.trans found)
          exact unregistered
      | ended found => simp [data_eq] at found
    rw [add_eq, if_neg not_less]
    simp only [State.schedule, unregistered, ← data_eq]
  · right; right
    have not_less : ¬awaiter.events.size < FsWatchAwaiter.defaultCapacity :=
      space_iff.not.mp (by simp [full])
    rw [add_eq, if_neg not_less]
    exact ⟨Nat.not_lt.mp not_less, error, rfl⟩

theorem onFsWatcherEvent (invariant : state.Invariant) (path : String) (events : ℕ)
    (status : Int) : (state.onFsWatcherEvent path events status).Invariant := by
  rcases data_eq : state.data with _ | awaiter
  · simp only [State.onFsWatcherEvent, data_eq]
    exact invariant
  · rcases invariant.onFsWatcherEvent_cases data_eq path events status with
      ⟨-, queue, contents, capacity_eq, after_eq⟩ | ⟨-, -, after_eq⟩ | ⟨-, -, after_eq⟩
    · have ready : ({ awaiter with events := queue } : FsWatchAwaiter).awaitReady = true := by
        have nonempty : queue.empty = false := by
          rw [← Bool.not_eq_true, BoundedQueue.empty_iff, contents]
          simp
        simp [FsWatchAwaiter.awaitReady, nonempty]
      rcases invariant.stage.schedule invariant.promise data_eq
          (show ({ awaiter with events := queue } : FsWatchAwaiter).handle = awaiter.handle
            from rfl)
          ready capacity_eq
          (state.accepted ++ [.arrived path events status])
          (fun accounted => by rw [accounted, contents, List.append_assoc]) with ⟨promise, stage⟩
      rw [after_eq]
      exact ⟨promise, stage,
        invariant.schedule_stopping { awaiter with events := queue } data_eq rfl rfl _⟩
    · rw [after_eq]
      exact invariant
    · rw [after_eq]
      refine ⟨invariant.promise, invariant.stage.keep rfl rfl rfl rfl rfl rfl rfl fun _ => rfl, ?_⟩
      cases invariant.stopping with
      | active stopping_eq not_ready going => exact .active stopping_eq not_ready going
      | awaiting coroutine stopping_eq not_ready read awaits unqueued =>
          exact .awaiting coroutine stopping_eq not_ready read awaits unqueued
      | ready coroutine stopping_eq distinct is_ready read unregistered =>
          exact .ready coroutine stopping_eq distinct is_ready read unregistered
      | stuck coroutine stopping_eq distinct is_ready unread registered parked unqueued =>
          exact .stuck coroutine stopping_eq distinct is_ready unread registered parked unqueued

/-- `stopWatch()` obtains an unread value, and is ready at once. -/
theorem awaitEnd_unread (promise : state.promise.Invariant) (stage : state.Stage)
    {awaiter : FsWatchAwaiter} (data_eq : state.data = some awaiter) {coroutine : Handle}
    (stopping_eq : state.stopping = some coroutine) (unread_eq : state.unread = true)
    (filled : state.promise.core.slot.isSome = true)
    (enabled : (MultiPromise.Action.coAwait coroutine :
      MultiPromise.Action FileEvent QueueFault).Enabled state.promise) :
    (state.follow (.coAwait coroutine)).Invariant := by
  have distinct : coroutine ≠ state.promise.generator := enabled.1
  have open_ := stage.open_ promise data_eq
  have finish_eq : state.promise.coAwait coroutine = state.promise.finishAwait :=
    MultiPromise.State.coAwait_of_ready ((promise.ready_iff_slot open_).trans filled)
  have runtime_eq : (state.promise.coAwait coroutine).runtime = state.promise.runtime := by
    rw [finish_eq]
    rfl
  rcases promise.parked_of_slot open_ filled with ⟨parked, unqueued⟩
  rcases stage.advance promise enabled trivial with
    ⟨after, advance_eq, after_stage, generator_eq⟩ | ⟨resumed, -⟩
  · rw [advance_eq] at after_stage
    rw [State.follow, advance_eq]
    have running : (state.promise.coAwait coroutine).runtime.status coroutine = .running := by
      rw [runtime_eq]
      exact enabled.2.1
    change (state.promise.coAwait coroutine).generator = _ at generator_eq
    change ({ state with promise := state.promise.coAwait coroutine } : State).settle.Invariant
    rcases settle_cases { state with promise := state.promise.coAwait coroutine } after
        after_stage (distinct_of stopping_eq (generator_eq.symm ▸ distinct)) with
      ⟨promise, settled, settled_generator, still_registered, still_stopping, still_unread, -,
        status_eq, pending_eq, ⟨not_running, -⟩ | ⟨-, is_ready⟩⟩
    · exact absurd running (not_running coroutine stopping_eq)
    · refine ⟨promise, settled, .stuck coroutine (still_stopping.trans stopping_eq) ?_ is_ready
        (still_unread.trans unread_eq) ?_ ?_ ?_⟩
      · rw [settled_generator, generator_eq]
        exact distinct
      · rw [still_registered]
        exact Option.isSome_iff_exists.mpr ⟨awaiter, data_eq⟩
      · rw [settled_generator, status_eq, generator_eq, runtime_eq]
        exact parked
      · rw [settled_generator, pending_eq, generator_eq, runtime_eq]
        exact unqueued
  · have running : state.promise.runtime.status state.promise.generator = .running :=
      runtime_eq ▸ resumed.2
    simp [parked] at running

/-- `stopWatch()` waits for the generator, which may be the next one in the scheduler queue. -/
theorem awaitEnd_read (promise : state.promise.Invariant) (stage : state.Stage)
    {awaiter : FsWatchAwaiter} (data_eq : state.data = some awaiter)
    (stopped : awaiter.stopped = true) {coroutine : Handle}
    (stopping_eq : state.stopping = some coroutine) (not_ready : state.stopReady = false)
    (read : state.unread = false) (empty : state.promise.core.slot.isSome = false)
    (enabled : (MultiPromise.Action.coAwait coroutine :
      MultiPromise.Action FileEvent QueueFault).Enabled state.promise) :
    (state.follow (.coAwait coroutine)).Invariant := by
  rcases promise.coAwait_status enabled with ⟨ready, -⟩ | ⟨awaits, unqueued⟩
  · rw [promise.ready_iff_slot (stage.open_ promise data_eq), empty] at ready
    simp at ready
  · rcases stage.advance promise enabled trivial with
      ⟨after, advance_eq, after_stage, -⟩ | ⟨-, _, found, advanced, -⟩
    · rw [advance_eq] at after_stage
      have settle_eq :
          ({ state with promise := state.promise.coAwait coroutine } : State).settle =
          { state with promise := state.promise.coAwait coroutine } :=
        settle_of_awaits stopping_eq awaits
      rw [State.follow, advance_eq]
      refine settle_eq.symm ▸ ⟨after, after_stage,
        .awaiting coroutine stopping_eq not_ready read awaits ?_⟩
      intro _ found
      obtain rfl := Option.some.inj (data_eq.symm.trans found)
      exact ⟨stopped, unqueued⟩
    · obtain rfl := Option.some.inj (data_eq.symm.trans found)
      rcases advanced.ends stopped with ⟨unregistered, awaits_iff⟩
      have still_stopping := advanced.stopping_eq.trans stopping_eq
      have still_awaits := (awaits_iff coroutine).mpr awaits
      rw [State.follow, settle_of_awaits still_stopping still_awaits]
      refine ⟨advanced.promise, advanced.stage, .awaiting coroutine still_stopping
        (advanced.stopReady_eq.trans not_ready) (advanced.unread_eq.trans read)
        still_awaits ?_⟩
      simp [unregistered]

theorem awaitEnd (promise : state.promise.Invariant) (stage : state.Stage)
    {awaiter : FsWatchAwaiter} (data_eq : state.data = some awaiter)
    (stopped : awaiter.stopped = true) {coroutine : Handle}
    (stopping_eq : state.stopping = some coroutine) (not_ready : state.stopReady = false)
    (unread_eq : state.unread = state.promise.core.slot.isSome)
    (enabled : (MultiPromise.Action.coAwait coroutine :
      MultiPromise.Action FileEvent QueueFault).Enabled state.promise) :
    (state.follow (.coAwait coroutine)).Invariant := by
  cases unread : state.promise.core.slot.isSome with
  | true =>
      exact awaitEnd_unread promise stage data_eq stopping_eq (unread_eq.trans unread) unread
        enabled
  | false =>
      exact awaitEnd_read promise stage data_eq stopped stopping_eq not_ready
        (unread_eq.trans unread) unread enabled

theorem stopWatch (invariant : state.Invariant) {coroutine : Handle}
    (enabled : (Action.stopWatch coroutine).Enabled state) :
    (state.stopWatch coroutine).Invariant := by
  rcases enabled with ⟨registered, none_eq, not_generator, running, nobody⟩
  obtain ⟨awaiter, data_eq⟩ := Option.isSome_iff_exists.mp registered
  have not_ready : state.stopReady = false := by
    cases invariant.stopping with
    | active _ not_ready => exact not_ready
    | awaiting _ some_eq | ready _ some_eq | stuck _ some_eq => simp [none_eq] at some_eq
  let changed : FsWatchAwaiter := { awaiter with stopped := true }
  rcases invariant.stage.schedule invariant.promise data_eq (show changed.handle = _ from rfl) rfl
    rfl state.accepted id with ⟨promise, stage⟩
  rcases schedule_spec invariant.stage data_eq (show changed.handle = _ from rfl) state.accepted
    with ⟨generator_eq, core_eq, status_eq, -, ⟨scheduled, found, stopped, -⟩, -, ready_eq, -⟩
  have called : ({ state.schedule changed with
      stopping := some coroutine
      unread := state.promise.core.slot.isSome } : State).Stage :=
    stage.keep rfl rfl rfl rfl rfl rfl rfl fun _ => rfl
  simp only [State.stopWatch, data_eq]
  refine awaitEnd (by exact promise) called found stopped rfl (ready_eq.trans not_ready) ?_
    ⟨?_, ?_, ?_⟩
  · exact congrArg (·.slot.isSome) core_eq.symm
  · exact generator_eq.symm ▸ not_generator
  · exact (congrFun status_eq coroutine).trans running
  · exact fun other awaits => nobody other ((congrFun status_eq other).symm.trans awaits)

theorem watch {runtime : Runtime MultiPromise.Point} {generator : Handle}
    {escaped : Option QueueFault}
    (promise : (MultiPromise.State.started runtime generator :
      MultiPromise.State FileEvent QueueFault).Invariant)
    (running : runtime.status generator = .running) :
    (({ promise := .started runtime generator, escaped } : State).await .create).Invariant := by
  have empty : FsWatchAwaiter.create.events.toList = [] :=
    BoundedQueue.toList_create FsWatchAwaiter.defaultCapacity (by decide)
  have started : ({ promise := .started runtime generator, escaped } : State).Running .create :=
    ⟨promise, running, rfl, by rw [empty]; rfl⟩
  have advanced := started.await
  exact ⟨advanced.promise, advanced.stage,
    .active advanced.stopping_eq advanced.stopReady_eq (advanced.continues rfl)⟩

theorem step (invariant : state.Invariant) {action : Action} (enabled : action.Enabled state) :
    (action.perform state).Invariant := by
  cases action with
  | watch generator =>
      rcases enabled with ⟨-, ended, running, nobody⟩
      exact watch (invariant.promise.restarted ended nobody running) running
  | onFsWatcherEvent path events status => exact invariant.onFsWatcherEvent path events status
  | stopWatch coroutine => exact invariant.stopWatch enabled
  | follow action => exact invariant.follow enabled

end Invariant

theorem invariant_of_reachable {state : State} (reached : system.Reachable state) :
    state.Invariant := by
  refine TransitionSystem.Reachable.invariant Invariant ?_ ?_ reached
  · rintro _ ⟨generator, rfl⟩
    exact .watch (MultiPromise.State.initial_invariant generator) rfl
  · intro before action invariant enabled
    exact invariant.step enabled

/-- `watch()` can be called again, and the `FsWatch` can be dropped. -/
structure WatchEnded (state : State) : Prop where
  unregistered : state.data = none
  watchable : state.watchError = none
  droppable : state.dropAsserts = true

/-- `stopWatch()` has ended the watch when it is ready, if and only if there was no unread value
when it was called. -/
theorem watchEnded_iff_read {state : State} (reached : system.Reachable state)
    (ready : state.stopReady = true) : state.WatchEnded ↔ state.unread = false := by
  cases (invariant_of_reachable reached).stopping with
  | active _ not_ready | awaiting _ _ not_ready => simp [ready] at not_ready
  | ready _ _ _ _ read unregistered =>
      have watchable : state.watchError = none := by simp [State.watchError, unregistered]
      have droppable : state.dropAsserts = true := by simp [State.dropAsserts, unregistered]
      exact ⟨fun _ => read, fun _ => ⟨unregistered, watchable, droppable⟩⟩
  | stuck _ _ _ _ unread registered =>
      constructor
      · intro ended
        simp [ended.unregistered] at registered
      · intro read
        simp [read] at unread

/-- `stopWatch()` is called while the generator waits for an event. -/
theorem watchEnded_while_waiting :
    (([.stopWatch 1, .follow .resumeNext] : List Action).foldl Action.perform
      (({ promise := .initial 0 } : State).watch 0)).WatchEnded := by
  have start : system.Reachable (({ promise := .initial 0 } : State).watch 0) := .start ⟨0, rfl⟩
  have stopping := start.step (Action.stopWatch 1) ⟨rfl, rfl, by decide, rfl,
    (invariant_of_reachable start).promise.nobody_awaits rfl rfl⟩ trivial
  have reached := stopping.step (Action.follow .resumeNext) ⟨trivial, trivial, nofun⟩ trivial
  exact (watchEnded_iff_read reached rfl).mpr rfl

/-- An event arrives and is yielded, and nobody reads it before `stopWatch()` is called. -/
theorem stopWatch_with_unread : ∃ state : State, system.Reachable state ∧
    state.stopReady = true ∧ ¬state.WatchEnded ∧ state.data.isSome = true ∧
    state.watchError = some (.ofStatus UV_EBUSY "FsWatch::watch() is already active!") := by
  have start : system.Reachable (({ promise := .initial 0 } : State).watch 0) := .start ⟨0, rfl⟩
  have arrived := start.step (Action.onFsWatcherEvent "file" 1 0) trivial trivial
  have yielded := arrived.step (Action.follow .resumeNext) ⟨trivial, trivial, nofun⟩ trivial
  have reached := yielded.step (Action.stopWatch 1) ⟨rfl, rfl, by decide, rfl,
    (invariant_of_reachable yielded).promise.nobody_awaits rfl rfl⟩ trivial
  exact ⟨_, reached, rfl, (fun ended => nomatch ended.unregistered), rfl, rfl⟩

end State

end Uvco.FsWatch
