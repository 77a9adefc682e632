import Uvco.FsWatch.Watch

/-!
# The stages of a watch

The generator of a watch is suspended in its awaiter, suspended at `co_yield`, or has
ended. What has arrived is yielded in order, up to what is in the queue.
-/

namespace Uvco.FsWatch

namespace State

/-- Where the generator is, and what it has not yielded yet. -/
inductive Stage (state : State) : Prop where
  | inAwaiter (awaiter : FsWatchAwaiter) (data_eq : state.data = some awaiter)
      (position : state.atYield = false)
      (status : state.promise.runtime.status state.promise.generator = .elsewhere)
      (registered : awaiter.handle = some state.promise.generator ∧
          state.promise.runtime.pending state.promise.generator = 0 ∧
          awaiter.awaitReady = false ∨
        awaiter.handle = none ∧
          state.promise.runtime.pending state.promise.generator = 1 ∧ awaiter.awaitReady = true)
      (capacity : awaiter.events.capacity = FsWatchAwaiter.defaultCapacity)
      (accounted : state.accepted = state.promise.yielded ++ awaiter.events.toList)
  | yielding (awaiter : FsWatchAwaiter) (data_eq : state.data = some awaiter)
      (position : state.atYield = true)
      (status : state.promise.runtime.status state.promise.generator = .waiting .atYield)
      (unregistered : awaiter.handle = none)
      (capacity : awaiter.events.capacity = FsWatchAwaiter.defaultCapacity)
      (accounted : state.accepted = state.promise.yielded ++ awaiter.events.toList)
  | ended (data_eq : state.data = none) (ended_eq : state.promise.ended = some .returned)
      (accounted : state.promise.yielded <+: state.accepted)

/-- The generator runs, with this awaiter. -/
structure Running (state : State) (awaiter : FsWatchAwaiter) : Prop where
  promise : state.promise.Invariant
  status : state.promise.runtime.status state.promise.generator = .running
  capacity : awaiter.events.capacity = FsWatchAwaiter.defaultCapacity
  accounted : state.accepted = state.promise.yielded ++ awaiter.events.toList

/-- What the generator has kept as it was when it is suspended again. -/
structure Advanced (awaiter : FsWatchAwaiter) (before after : State) : Prop where
  promise : after.promise.Invariant
  stage : after.Stage
  generator_eq : after.promise.generator = before.promise.generator
  stopping_eq : after.stopping = before.stopping
  stopReady_eq : after.stopReady = before.stopReady
  unread_eq : after.unread = before.unread
  escaped_eq : after.escaped = before.escaped
  /-- A stopped watch ends, and its consumer goes on waiting until it is resumed. -/
  ends : awaiter.stopped = true → after.data = none ∧
    ∀ handle, after.promise.Awaits handle ↔ before.promise.Awaits handle
  /-- A watch that is not stopped goes on. -/
  continues : awaiter.stopped = false → ∃ awaiter, after.data = some awaiter ∧
    awaiter.stopped = false

namespace Running

variable {state : State} {awaiter : FsWatchAwaiter}

theorem resumed (running : state.Running awaiter) (ready : awaiter.awaitReady = true) :
    Advanced awaiter state (state.resumed awaiter) := by
  have promise := running.promise
  unfold State.resumed
  split
  · rename_i stopped
    rcases promise.finish_spec .returned running.status with
      ⟨finished, generator_eq, yielded_eq, ended_eq, -⟩
    refine ⟨finished, .ended rfl ended_eq ?_, generator_eq, rfl, rfl, rfl, rfl, ?_, ?_⟩
    · change (state.promise.finish .returned).yielded <+: state.accepted
      rw [yielded_eq, running.accounted]
      exact List.prefix_append _ _
    · exact fun _ => ⟨rfl, promise.finish_awaits_iff .returned running.status⟩
    · exact fun not_stopped => absurd stopped (by simp [not_stopped])
  · rename_i not_stopped
    have nonempty : awaiter.events.empty = false := by
      simpa [FsWatchAwaiter.awaitReady, not_stopped] using ready
    rcases BoundedQueue.get_spec nonempty with ⟨event, events, get_eq, contents, capacity_eq⟩
    rcases promise.yield_spec event running.status with
      ⟨parked, generator_eq, yielded_eq, -, status_eq⟩
    simp only [get_eq]
    refine ⟨parked, ?_, generator_eq, rfl, rfl, rfl, rfl, ?_, ?_⟩
    · refine .yielding _ rfl rfl ?_ rfl (capacity_eq.trans running.capacity) ?_
      · dsimp only
        rw [generator_eq]
        exact status_eq
      · dsimp only
        rw [yielded_eq, running.accounted, contents, List.append_assoc]
        rfl
    · exact fun stopped => absurd stopped not_stopped
    · exact fun still => ⟨_, rfl, still⟩

theorem await (running : state.Running awaiter) :
    Advanced awaiter state (state.await awaiter) := by
  unfold State.await
  split
  · rename_i ready
    exact running.resumed ready
  · rename_i not_ready
    have enabled : (MultiPromise.Action.other (.suspend state.promise.generator)).Enabled
        state.promise := ⟨running.status, by simp⟩
    have not_stopped : awaiter.stopped = false := by
      by_contra stopped
      simp [FsWatchAwaiter.awaitReady, stopped] at not_ready
    refine ⟨running.promise.step enabled, ?_, rfl, rfl, rfl, rfl, rfl, ?_, ?_⟩
    · refine .inAwaiter _ rfl rfl (Runtime.setStatus_status_self _) (.inl ⟨rfl, ?_, ?_⟩)
        running.capacity running.accounted
      · exact running.promise.consistent.pending_of_running running.status
      · exact Bool.eq_false_iff.mpr not_ready
    · exact fun stopped => by simp [not_stopped] at stopped
    · exact fun _ => ⟨_, rfl, not_stopped⟩

end Running

theorem Stage.keep {before after : State} (stage : before.Stage)
    (data_eq : after.data = before.data) (atYield_eq : after.atYield = before.atYield)
    (accepted_eq : after.accepted = before.accepted)
    (generator_eq : after.promise.generator = before.promise.generator)
    (yielded_eq : after.promise.yielded = before.promise.yielded)
    (ended_eq : after.promise.ended = before.promise.ended)
    (status_eq : after.promise.runtime.status before.promise.generator =
      before.promise.runtime.status before.promise.generator)
    (pending_eq : before.promise.runtime.status before.promise.generator = .elsewhere →
      after.promise.runtime.pending before.promise.generator =
        before.promise.runtime.pending before.promise.generator) : after.Stage := by
  rw [← generator_eq] at status_eq pending_eq
  cases stage with
  | inAwaiter awaiter found position status registered capacity accounted =>
      rw [generator_eq] at status_eq pending_eq
      refine .inAwaiter awaiter (data_eq.trans found) (atYield_eq.trans position) ?_ ?_ capacity ?_
      · rw [generator_eq, status_eq]
        exact status
      · rw [generator_eq, pending_eq status]
        exact registered
      · rw [accepted_eq, yielded_eq]
        exact accounted
  | yielding awaiter found position status unregistered capacity accounted =>
      rw [generator_eq] at status_eq
      refine .yielding awaiter (data_eq.trans found) (atYield_eq.trans position) ?_ unregistered
        capacity ?_
      · rw [generator_eq, status_eq]
        exact status
      · rw [accepted_eq, yielded_eq]
        exact accounted
  | ended found was_ended accounted =>
      refine .ended (data_eq.trans found) (ended_eq.trans was_ended) ?_
      rw [accepted_eq, yielded_eq]
      exact accounted

theorem Stage.resumed {state : State} (stage : state.Stage)
    {promise : MultiPromise.State FileEvent QueueFault} (promise_invariant : promise.Invariant)
    (yielded_eq : promise.yielded = state.promise.yielded)
    (running : promise.runtime.status promise.generator = .running)
    (open_ : state.promise.ended = none)
    (was_suspended : state.promise.runtime.status state.promise.generator = .elsewhere ∧
        0 < state.promise.runtime.pending state.promise.generator ∨
      state.promise.runtime.status state.promise.generator = .waiting .atYield) :
    ∃ awaiter, state.data = some awaiter ∧
      Advanced awaiter { state with promise } ({ state with promise } : State).proceed := by
  cases stage with
  | inAwaiter awaiter data_eq position status registered capacity accounted =>
      have ready : awaiter.awaitReady = true := by
        rcases registered with ⟨-, unqueued, -⟩ | ⟨-, -, ready⟩
        · rcases was_suspended with ⟨-, queued⟩ | at_yield
          · omega
          · simp [status] at at_yield
        · exact ready
      refine ⟨awaiter, data_eq, ?_⟩
      simp only [State.proceed, data_eq, position, Bool.false_eq_true, if_false]
      exact Running.resumed ⟨promise_invariant, running, capacity, yielded_eq ▸ accounted⟩ ready
  | yielding awaiter data_eq position status unregistered capacity accounted =>
      refine ⟨awaiter, data_eq, ?_⟩
      simp only [State.proceed, data_eq, position, if_true]
      exact Running.await ⟨promise_invariant, running, capacity, yielded_eq ▸ accounted⟩
  | ended _ ended_eq => simp [ended_eq] at open_

/-- A foreign step leaves the generator where it is, or resumes it. -/
theorem Stage.advance {state : State} (stage : state.Stage) (promise : state.promise.Invariant)
    {action : MultiPromise.Action FileEvent QueueFault} (enabled : action.Enabled state.promise)
    (is_foreign : action.IsForeign state.promise.generator) :
    ((action.perform state.promise).Invariant ∧
        state.advance action = { state with promise := action.perform state.promise } ∧
        (state.advance action).Stage ∧
        (action.perform state.promise).generator = state.promise.generator) ∨
      state.promise.Resumed (action.perform state.promise) ∧
        ∃ awaiter, state.data = some awaiter ∧
          Advanced awaiter { state with promise := action.perform state.promise }
            (state.advance action) ∧
          (state.advance action).promise.generator = state.promise.generator := by
  rcases promise.follow_cases enabled is_foreign with
    ⟨after, generator_eq, yielded_eq, ended_eq, ⟨not_resumed, status_eq, pending_eq⟩ |
      ⟨resumed, open_, was_suspended⟩⟩
  · left
    simp only [State.advance, if_neg not_resumed]
    refine ⟨after, trivial, ?_, generator_eq⟩
    exact stage.keep rfl rfl rfl generator_eq yielded_eq ended_eq status_eq pending_eq
  · right
    rcases stage.resumed after yielded_eq (generator_eq ▸ resumed.2) open_ was_suspended with
      ⟨awaiter, data_eq, advanced⟩
    simp only [State.advance, if_pos resumed]
    exact ⟨resumed, awaiter, data_eq, advanced, advanced.generator_eq.trans generator_eq⟩

theorem Stage.schedule {state : State} (stage : state.Stage) (promise : state.promise.Invariant)
    {awaiter changed : FsWatchAwaiter} (data_eq : state.data = some awaiter)
    (handle_eq : changed.handle = awaiter.handle) (ready : changed.awaitReady = true)
    (capacity_eq : changed.events.capacity = awaiter.events.capacity)
    (accepted : List FileEvent)
    (accounted : state.accepted = state.promise.yielded ++ awaiter.events.toList →
      accepted = state.promise.yielded ++ changed.events.toList) :
    (({ state with accepted } : State).schedule changed).promise.Invariant ∧
      (({ state with accepted } : State).schedule changed).Stage := by
  cases stage with
  | inAwaiter _ found position status registered capacity was_accounted =>
      obtain rfl := Option.some.inj (data_eq.symm.trans found)
      rcases registered with ⟨registered, unqueued, -⟩ | ⟨unregistered, queued, -⟩
      · have enabled : (MultiPromise.Action.other (.wake state.promise.generator)).Enabled
            state.promise := ⟨⟨status, unqueued⟩, by simp⟩
        simp only [State.schedule, handle_eq, registered]
        refine ⟨promise.step enabled, .inAwaiter _ rfl position status (.inr ⟨rfl, ?_, ready⟩)
          (capacity_eq.trans capacity) (accounted was_accounted)⟩
        exact Runtime.pending_enqueue_self.trans (by rw [unqueued])
      · simp only [State.schedule, handle_eq, unregistered]
        exact ⟨promise, .inAwaiter _ rfl position status
          (.inr ⟨handle_eq.trans unregistered, queued, ready⟩) (capacity_eq.trans capacity)
          (accounted was_accounted)⟩
  | yielding _ found position status unregistered capacity was_accounted =>
      obtain rfl := Option.some.inj (data_eq.symm.trans found)
      simp only [State.schedule, handle_eq, unregistered]
      exact ⟨promise, .yielding _ rfl position status (handle_eq.trans unregistered)
        (capacity_eq.trans capacity) (accounted was_accounted)⟩
  | ended found => simp [data_eq] at found

theorem Stage.open_ {state : State} (stage : state.Stage) (promise : state.promise.Invariant)
    {awaiter : FsWatchAwaiter} (data_eq : state.data = some awaiter) :
    state.promise.ended = none := by
  refine promise.open_of_not_done ?_
  cases stage with
  | inAwaiter _ _ _ status | yielding _ _ _ status => simp [status]
  | ended found => simp [data_eq] at found

theorem schedule_spec {state : State} (stage : state.Stage) {awaiter changed : FsWatchAwaiter}
    (data_eq : state.data = some awaiter) (handle_eq : changed.handle = awaiter.handle)
    (accepted : List FileEvent) :
    let after := ({ state with accepted } : State).schedule changed
    after.promise.generator = state.promise.generator ∧
      after.promise.core = state.promise.core ∧
      after.promise.runtime.status = state.promise.runtime.status ∧
      (∀ handle, handle ≠ state.promise.generator ∨
          state.promise.runtime.status handle ≠ .elsewhere →
        after.promise.runtime.pending handle = state.promise.runtime.pending handle) ∧
      (∃ scheduled, after.data = some scheduled ∧ scheduled.stopped = changed.stopped ∧
        scheduled.events = changed.events) ∧
      after.stopping = state.stopping ∧ after.stopReady = state.stopReady ∧
      after.unread = state.unread ∧ after.escaped = state.escaped := by
  dsimp only
  have unscheduled : changed.handle = none →
      ({ state with accepted } : State).schedule changed =
        { state with accepted, data := some changed } := by
    intro unregistered
    simp only [State.schedule, unregistered]
  cases stage with
  | inAwaiter _ found _ status registered =>
      obtain rfl := Option.some.inj (data_eq.symm.trans found)
      rcases registered with ⟨registered, -⟩ | ⟨unregistered, -⟩
      · have scheduled_eq : ({ state with accepted } : State).schedule changed = { state with
            accepted
            promise := (MultiPromise.Action.other (.wake state.promise.generator)).perform
              state.promise
            data := some { changed with handle := none } } := by
          simp only [State.schedule, handle_eq, registered]
        rw [scheduled_eq]
        refine ⟨rfl, rfl, rfl, ?_, ⟨_, rfl, rfl, rfl⟩, rfl, rfl, rfl, rfl⟩
        intro handle unaffected
        refine Runtime.pending_enqueue_of_ne ?_
        rintro rfl
        rcases unaffected with differs | not_elsewhere
        · exact differs rfl
        · exact not_elsewhere status
      · rw [unscheduled (handle_eq.trans unregistered)]
        exact ⟨rfl, rfl, rfl, fun _ _ => rfl, ⟨_, rfl, rfl, rfl⟩, rfl, rfl, rfl, rfl⟩
  | yielding _ found _ _ unregistered =>
      obtain rfl := Option.some.inj (data_eq.symm.trans found)
      rw [unscheduled (handle_eq.trans unregistered)]
      exact ⟨rfl, rfl, rfl, fun _ _ => rfl, ⟨_, rfl, rfl, rfl⟩, rfl, rfl, rfl, rfl⟩
  | ended found => simp [data_eq] at found

end State

end Uvco.FsWatch
