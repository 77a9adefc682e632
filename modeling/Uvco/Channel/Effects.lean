import Uvco.Channel.Consistency

/-!
# What a step does to items, slots and wakeups

For each side of a channel three quantities matter: how many items (for
readers) or free slots (for writers) are available, how many coroutines of that
side were woken and still wait in the scheduler queue, and whether anybody is
registered in the waiter queue. `Effect` lists everything one step can do to
them; `step_effect` proves the list complete. Both invariants about wakeups are
derived from it.
-/

namespace Uvco.Channel

variable {T : Type}

/-- What `put` throws. -/
def queueIsFull : QueueFault :=
  .thrown (.ofStatus UV_EBUSY "queue is full")

/-- What `get` throws. -/
def queueIsEmpty : QueueFault :=
  .thrown (.ofStatus UV_EAGAIN "queue is empty")

/-- The coroutine ended because the item queue was full or empty. -/
def Point.Failed : Point T → Prop
  | .finished (.error fault) => fault = queueIsFull ∨ fault = queueIsEmpty
  | _ => False

namespace State

/-- The items a reader can take, or the slots a writer can fill. -/
def available (state : State T) : Side → ℕ
  | .reader => state.channel.queue.size
  | .writer => state.channel.queue.capacity - state.channel.queue.size

/-- The entry is a coroutine that was suspended in a `ChannelAwaiter_` of this side. -/
def wokenAt (state : State T) (side : Side) (entry : Option Handle) : Bool :=
  entry.any fun handle => state.waitsAt handle == some side

/-- The coroutines of a side that were woken and still wait in the scheduler queue. -/
def woken (state : State T) (side : Side) : ℕ :=
  state.resumable.countP (state.wokenAt side)

/-- No `BOOST_VERIFY` failed, and no coroutine ended with a full or an empty queue. -/
def Clean (state : State T) : Prop :=
  state.verified = true ∧ ∀ handle point, state.frame handle = some point → ¬point.Failed

theorem available_reader_pos (state : State T) :
    0 < state.available .reader ↔ state.channel.queue.empty = false := by
  simp only [available, Ring.empty, beq_eq_false_iff_ne, ne_eq]
  omega

theorem available_writer_pos (state : State T) :
    0 < state.available .writer ↔ state.channel.queue.hasSpace = true := by
  simp only [available, Ring.hasSpace, decide_eq_true_eq]
  omega

theorem woken_congr {before after : State T} {side : Side}
    (resumable_eq : after.resumable = before.resumable)
    (frame_eq : ∀ handle, some handle ∈ before.resumable →
      after.frame handle = before.frame handle) :
    after.woken side = before.woken side := by
  unfold woken
  rw [resumable_eq]
  apply List.countP_congr
  intro entry entry_mem
  cases entry with
  | none => simp [wokenAt]
  | some handle => simp [wokenAt, waitsAt, frame_eq handle entry_mem]

theorem woken_setFrame {state : State T} {handle : Handle} {point : Point T} {side : Side}
    (not_queued : some handle ∉ state.resumable) :
    (state.setFrame handle point).woken side = state.woken side := by
  refine woken_congr rfl ?_
  intro other queued
  have differs : other ≠ handle := fun same => not_queued (same ▸ queued)
  simp [setFrame, differs]

theorem woken_enqueue (state : State T) (handle : Handle) (side : Side) :
    ({ state with loop := state.loop.enqueue handle } : State T).woken side =
      state.woken side + if state.waitsAt handle = some side then 1 else 0 := by
  simp only [woken, resumable, Loop.enqueue_scheduler, Scheduler.enqueue, List.countP_append,
    List.countP_singleton]
  simp only [wokenAt, Option.any_some, beq_iff_eq]
  rfl

/-- Waking a side: nobody is left there, or one more coroutine of it is woken. -/
theorem woken_awake {state : State T} {current : Option Handle}
    (consistent : state.Consistent current) (side : Side) :
    (((¬∃ handle, some handle ∈ (state.awake side).registered side) ∧
          (state.awake side).woken side = state.woken side) ∨
        ((∃ handle, some handle ∈ state.registered side) ∧
          (state.awake side).woken side = state.woken side + 1)) ∧
      (state.awake side).woken side.opposite = state.woken side.opposite := by
  rcases state.awake_cases side with ⟨none_live, loop_eq, registered_eq⟩ |
    ⟨skipped, handle, rest, registered_before, -, loop_eq, registered_eq⟩
  · have same : ∀ other, (state.awake side).woken other = state.woken other := by
      intro other
      exact woken_congr (by rw [resumable, loop_eq]) (fun _ _ => rfl)
    exact ⟨.inl ⟨by simp [registered_eq], same side⟩, same _⟩
  · have was_registered : some handle ∈ state.registered side := by simp [registered_before]
    have waits := (consistent.registered side handle was_registered).2.1
    have enqueued : ∀ other, (state.awake side).woken other =
        state.woken other + if state.waitsAt handle = some other then 1 else 0 := by
      intro other
      rw [← woken_enqueue]
      exact woken_congr (by rw [resumable, loop_eq]) (fun _ _ => rfl)
    refine ⟨.inr ⟨⟨handle, was_registered⟩, by simp [enqueued, waits]⟩, ?_⟩
    cases side <;> simp [enqueued, waits, Side.opposite]

theorem not_wokenAt_of_done {state : State T} {handle : Handle}
    (done : state.done handle = true) (side : Side) :
    state.wokenAt side (some handle) = false := by
  cases frame_eq : state.frame handle with
  | none => simp [State.done, frame_eq] at done
  | some point =>
      cases point <;> simp_all [State.done, Point.isFinished, wokenAt, waitsAt, Point.waitsAt]

theorem countP_wokenAt_eq_zero {state : State T} {entries : List (Option Handle)}
    (all_done : ∀ handle, some handle ∈ entries → state.done handle = true) (side : Side) :
    entries.countP (state.wokenAt side) = 0 := by
  rw [List.countP_eq_zero]
  intro entry entry_mem
  cases entry with
  | none => simp [wokenAt]
  | some handle => simp [not_wokenAt_of_done (all_done handle entry_mem)]

theorem woken_handOut {state : State T} {loop : Loop} {handle : Handle}
    {skipped : List (Option Handle)}
    (popped : state.resumable = skipped ++ some handle :: loop.scheduler.resumable)
    (skipped_done : ∀ other, some other ∈ skipped → state.done other = true) (side : Side) :
    state.woken side = ({ state with loop } : State T).woken side +
      if state.waitsAt handle = some side then 1 else 0 := by
  unfold woken
  rw [popped, List.countP_append, countP_wokenAt_eq_zero skipped_done, List.countP_cons,
    Nat.zero_add]
  simp only [wokenAt, Option.any_some, beq_iff_eq]
  rfl

theorem woken_drained {state : State T} {loop : Loop} (empty : loop.scheduler.resumable = [])
    (all_done : ∀ handle, some handle ∈ state.resumable → state.done handle = true)
    (side : Side) :
    ({ state with loop } : State T).woken side = state.woken side := by
  rw [woken, woken, countP_wokenAt_eq_zero all_done]
  simp [resumable, empty]

theorem countP_cancel (entries : List (Option Handle)) (counts : Option Handle → Bool)
    (none_not_counted : counts none = false) (cancelled : Handle) :
    entries.countP counts =
      (entries.map fun entry => if entry = some cancelled then none else entry).countP counts +
        if counts (some cancelled) = true then entries.count (some cancelled) else 0 := by
  induction entries with
  | nil => simp
  | cons entry rest ih =>
      rw [List.countP_cons, List.map_cons, List.countP_cons, List.count_cons, ih]
      by_cases hit : entry = some cancelled
      · subst hit
        by_cases counted : counts (some cancelled) = true <;> simp [counted, none_not_counted]
        omega
      · simp only [hit, if_false, beq_iff_eq, Nat.add_zero]
        omega

theorem woken_drop {state : State T} (consistent : state.Consistent none) (dropped : Handle)
    (side : Side) :
    state.woken side = (state.drop dropped).woken side +
      if state.waitsAt dropped = some side ∧ some dropped ∈ state.resumable then 1 else 0 := by
  have after_eq : (state.drop dropped).woken side =
      (state.drop dropped).resumable.countP (state.wokenAt side) := by
    apply List.countP_congr
    intro entry entry_mem
    cases entry with
    | none => simp [wokenAt]
    | some handle =>
        have differs : handle ≠ dropped := by
          rintro rfl
          have := consistent.drop_count handle handle
          rw [if_pos rfl, List.count_eq_zero] at this
          exact this entry_mem
        simp [wokenAt, waitsAt, Consistent.drop_frame, differs]
  rw [after_eq, consistent.drop_resumable, woken,
    countP_cancel state.resumable (state.wokenAt side) (by simp [wokenAt]) dropped]
  congr 1
  by_cases waits : state.waitsAt dropped = some side
  · have not_other : state.frame dropped ≠ some .other := by
      intro other
      simp [waitsAt, other, Point.waitsAt] at waits
    have once := consistent.once dropped not_other
    by_cases queued : some dropped ∈ state.resumable
    · have positive := List.count_pos_iff.mpr queued
      simp only [wokenAt, Option.any_some, waits, beq_self_eq_true, if_true, queued, and_self]
      omega
    · simp [wokenAt, waits, queued, List.count_eq_zero.mpr queued]
  · simp [wokenAt, waits]

/-- A coroutine of `side` took what it needs and thereby served the opposite side, where the
next waiter was woken; `used` is the number of wakeups of its own side this used up. -/
structure Takes (before after : State T) (side : Side) (used : ℕ) : Prop where
  available : after.available side + 1 = before.available side
  woken : after.woken side + used = before.woken side
  registered : ∀ handle, some handle ∈ after.registered side →
    some handle ∈ before.registered side
  gives : after.available side.opposite = before.available side.opposite + 1
  wakes : ((¬∃ handle, some handle ∈ after.registered side.opposite) ∧
      after.woken side.opposite = before.woken side.opposite) ∨
    ((∃ handle, some handle ∈ before.registered side.opposite) ∧
      after.woken side.opposite = before.woken side.opposite + 1)

theorem Clean.setFrame {state : State T} (clean : state.Clean) {handle : Handle}
    {point : Point T} (not_failed : ¬point.Failed) : (state.setFrame handle point).Clean := by
  refine ⟨clean.1, ?_⟩
  intro other otherPoint frame_eq
  by_cases same : other = handle
  · subst same
    simp only [State.setFrame, Function.update_self, Option.some.injEq] at frame_eq
    exact frame_eq ▸ not_failed
  · exact clean.2 other otherPoint (by simpa [State.setFrame, same] using frame_eq)

/-- Replacing the item queue by one that moved an item from one side to the other, and then
waking the opposite side. -/
theorem takes_of_exchange {state : State T} {handle : Handle} (changed : State T)
    (point : Point T) (side : Side) (consistent : state.Consistent (some handle))
    (frame_eq : changed.frame = state.frame) (next_eq : changed.next = state.next)
    (loop_eq : changed.loop = state.loop)
    (registered_eq : ∀ other, changed.registered other = state.registered other)
    (takes : changed.available side + 1 = state.available side)
    (gives : changed.available side.opposite = state.available side.opposite + 1) :
    ((changed.awake side.opposite).setFrame handle point).Consistent none ∧
      Takes state ((changed.awake side.opposite).setFrame handle point) side 0 := by
  have changed_consistent : changed.Consistent (some handle) :=
    consistent.congr frame_eq next_eq (by rw [resumable, loop_eq]) registered_eq
  have awake_consistent := changed_consistent.awake side.opposite
  have not_queued := awake_consistent.current_not_queued
  have changed_woken : ∀ other, changed.woken other = state.woken other :=
    fun other => woken_congr (by rw [resumable, loop_eq]) (fun _ _ => by rw [frame_eq])
  have awake_available : ∀ other, ((changed.awake side.opposite).setFrame handle point).available
      other = changed.available other := by
    intro other
    cases side <;> cases other <;> rfl
  have opposite_ne : side.opposite ≠ side := by cases side <;> simp [Side.opposite]
  have opposite_opposite : side.opposite.opposite = side := by cases side <;> rfl
  rcases woken_awake changed_consistent side.opposite with ⟨wakes, woken_same⟩
  refine ⟨awake_consistent.setFrame point, ?_⟩
  constructor
  · rw [awake_available]
    exact takes
  · rw [woken_setFrame not_queued, Nat.add_zero, ← changed_woken side]
    rw [opposite_opposite] at woken_same
    exact woken_same
  · intro other registered
    rw [registered_setFrame, registered_awake_of_ne _ opposite_ne, registered_eq] at registered
    exact registered
  · rw [awake_available]
    exact gives
  · simpa only [registered_setFrame, woken_setFrame not_queued, registered_eq, changed_woken]
      using wakes

/-! ## What the operations come to -/

theorem insert_of_full {state : State T} (full : state.channel.queue.hasSpace = false)
    (handle : Handle) (value : T) :
    state.insert handle value = state.finish handle (.error queueIsFull) := by
  rw [insert, BoundedQueue.put_full full]
  rfl

theorem insert_of_put {state : State T} {value : T} {queue : BoundedQueue T}
    (put_eq : state.channel.queue.put value = .ok queue) (handle : Handle) :
    state.insert handle value = (({ state with
      channel := { state.channel with queue }
      committed := state.committed ++ [value] } : State T).awake .reader).setFrame handle
        (.finished (.ok none)) := by
  rw [insert, put_eq]
  rfl

theorem remove_of_empty {state : State T} (isEmpty : state.channel.queue.empty = true)
    (handle : Handle) (point : T → Point T) :
    state.remove handle point = state.finish handle (.error queueIsEmpty) := by
  rw [remove, BoundedQueue.get_empty isEmpty]
  rfl

theorem remove_of_get {state : State T} {item : T} {queue : BoundedQueue T}
    (get_eq : state.channel.queue.get = .ok (item, queue)) (handle : Handle)
    (point : T → Point T) :
    state.remove handle point = (({ state with
      channel := { state.channel with queue }
      taken := state.taken ++ [item] } : State T).awake .writer).setFrame handle (point item) := by
  rw [remove, get_eq]
  rfl

theorem suspend_of_put {state : State T} {handle : Handle} {side : Side}
    {waiting : BoundedQueue (Option Handle)}
    (space : (state.channel.waiting side).hasSpace = true)
    (put_eq : (state.channel.waiting side).put (some handle) = .ok waiting) (point : Point T) :
    state.suspend handle side point = (state.setWaiting side waiting).setFrame handle point := by
  simp [suspend, ChannelAwaiter.awaitSuspend, space, put_eq]

theorem put_of_full {state : State T} (full : state.channel.queue.hasSpace = false)
    (handle : Handle) (value : T) :
    state.put handle value = state.suspend handle .writer (.putWaiting value) := by
  simp [put, full]

theorem put_of_space {state : State T} (space : state.channel.queue.hasSpace = true)
    (handle : Handle) (value : T) : state.put handle value = state.insert handle value := by
  simp [put, space]

theorem perform_resumeNext {state : State T} {next : Option Handle} {loop : Loop}
    (popped : state.loop.getNext state.done = (next, loop)) :
    Action.perform state .resumeNext =
      next.elim { state with loop } ({ state with loop } : State T).resume := by
  cases next <;> simp [Action.perform, resumeNext, popped]

/-! ## What they do -/

/-- `queue_.put()`, `awake_reader()` and `co_return` in a running `put()`. -/
theorem insert_spec {state : State T} {handle : Handle}
    (consistent : state.Consistent (some handle)) (value : T) :
    (state.available .writer = 0 ∧
        state.insert handle value = state.finish handle (.error queueIsFull)) ∨
      (0 < state.available .writer ∧ (state.insert handle value).Consistent none ∧
        Takes state (state.insert handle value) .writer 0 ∧
        (state.Clean → (state.insert handle value).Clean)) := by
  cases space : state.channel.queue.hasSpace with
  | false =>
      left
      refine ⟨?_, insert_of_full space handle value⟩
      have := state.available_writer_pos
      simp only [space, Bool.false_eq_true, iff_false] at this
      omega
  | true =>
      right
      rcases BoundedQueue.put_spec space value with ⟨queue, put_eq, contents, capacity_eq⟩
      have size_eq : queue.size = state.channel.queue.size + 1 := by
        rw [BoundedQueue.size_eq_length, contents, BoundedQueue.size_eq_length,
          List.length_append, List.length_singleton]
      have size_lt : state.channel.queue.size < state.channel.queue.capacity := by
        simpa [Ring.hasSpace] using space
      rw [insert_of_put put_eq]
      have exchange := takes_of_exchange { state with
          channel := { state.channel with queue }
          committed := state.committed ++ [value] } (.finished (.ok none)) .writer
        consistent rfl rfl rfl (fun other => by cases other <;> rfl)
        (by simp only [available, size_eq, capacity_eq]; omega)
        (by simp only [available, Side.opposite, size_eq])
      refine ⟨by simp only [available]; omega, exchange.1, exchange.2, ?_⟩
      intro clean
      exact Clean.setFrame clean (by simp [Point.Failed])

/-- `queue_.get()`, `awake_writer()` and what follows in a running `get()` or `getAll()`. -/
theorem remove_spec {state : State T} {handle : Handle}
    (consistent : state.Consistent (some handle)) {point : T → Point T}
    (not_failed : ∀ item, ¬(point item).Failed) :
    (state.available .reader = 0 ∧
        state.remove handle point = state.finish handle (.error queueIsEmpty)) ∨
      (0 < state.available .reader ∧ (state.remove handle point).Consistent none ∧
        Takes state (state.remove handle point) .reader 0 ∧
        (state.Clean → (state.remove handle point).Clean)) := by
  have positive := state.available_reader_pos
  cases isEmpty : state.channel.queue.empty with
  | true =>
      left
      refine ⟨?_, remove_of_empty isEmpty handle point⟩
      simp only [isEmpty, Bool.true_eq_false, iff_false] at positive
      omega
  | false =>
      right
      rcases BoundedQueue.get_spec isEmpty with ⟨item, queue, get_eq, contents, capacity_eq⟩
      have size_eq : state.channel.queue.size = queue.size + 1 := by
        rw [BoundedQueue.size_eq_length, contents, BoundedQueue.size_eq_length, List.length_cons]
      have size_le := state.channel.queue.wellFormed.size_le
      rw [remove_of_get get_eq]
      have exchange := takes_of_exchange { state with
          channel := { state.channel with queue }
          taken := state.taken ++ [item] } (point item) .reader
        consistent rfl rfl rfl (fun other => by cases other <;> rfl)
        (by simp only [available, size_eq])
        (by simp only [available, Side.opposite, size_eq, capacity_eq] at size_le ⊢; omega)
      refine ⟨positive.mpr isEmpty, exchange.1, exchange.2, ?_⟩
      intro clean
      exact Clean.setFrame clean (not_failed item)

/-- `co_await awaiter` in a running coroutine: it is registered, or refused with an exception. -/
theorem suspend_spec {state : State T} {handle : Handle}
    (consistent : state.Consistent (some handle)) {side : Side} {point : Point T}
    (waits : point.waitsAt = some side) :
    (state.suspend handle side point).Consistent none ∧
      (∀ other, (state.suspend handle side point).woken other = state.woken other) ∧
      (∀ other, (state.suspend handle side point).available other = state.available other) ∧
      (∀ waiting, some waiting ∈ (state.suspend handle side point).registered side.opposite →
        some waiting ∈ state.registered side.opposite) ∧
      (state.Clean → (state.suspend handle side point).Clean) := by
  have not_queued := consistent.current_not_queued
  have point_not_failed : ¬point.Failed := by cases point <;> simp_all [Point.Failed, Point.waitsAt]
  cases space : (state.channel.waiting side).hasSpace with
  | false =>
      have unfolded : state.suspend handle side point = state.setFrame handle (.finished (.error
          (.thrown (.ofStatus UV_EBUSY
            "too many coroutines waiting for reading/writing a channel")))) := by
        simp [suspend, ChannelAwaiter.awaitSuspend, space, finish]
      rw [unfolded]
      refine ⟨consistent.setFrame _, fun other => woken_setFrame not_queued, fun other => ?_,
        fun waiting registered => registered, fun clean => clean.setFrame ?_⟩
      · cases other <;> rfl
      · simp [Point.Failed, queueIsFull, queueIsEmpty]
  | true =>
      rcases BoundedQueue.put_spec space (some handle) with ⟨waiting, put_eq, contents, -⟩
      rw [suspend_of_put space put_eq]
      refine ⟨consistent.register waits contents, fun other => woken_setFrame not_queued,
        fun other => ?_, fun waiting registered => ?_, fun clean => ?_⟩
      · cases side <;> cases other <;> rfl
      · have opposite_ne : side ≠ side.opposite := by cases side <;> simp [Side.opposite]
        simpa [opposite_ne] using registered
      · have registered_clean : (state.setWaiting side waiting).Clean := clean
        exact registered_clean.setFrame point_not_failed

/-- The action takes an item or a slot without having waited for it. -/
def TakesDirectly (state : State T) (action : Action T) (side : Side) : Prop :=
  0 < state.available side ∧
    match action, side with
    | .put _, .writer | .get, .reader | .getAll, .reader => True
    | .resumeNext, .reader =>
        ∃ handle, (state.loop.getNext state.done).1 = some handle ∧
          (state.frame handle).any (fun point => point matches .yielded ..)
    | _, _ => False

/-- The action drops a coroutine that was woken and did not run yet. -/
def DropsWoken (state : State T) (action : Action T) (side : Side) : Prop :=
  match action with
  | .drop handle => state.waitsAt handle = some side ∧ some handle ∈ state.resumable
  | _ => False

/-- Everything that one step can do to a channel. -/
inductive Effect (before : State T) (action : Action T) (after : State T) : Prop where
  /-- Nothing is taken and nobody is woken. -/
  | idle (available : ∀ side, after.available side = before.available side)
      (woken : ∀ side, after.woken side = before.woken side)
      (registered : ∀ side handle, some handle ∈ after.registered side →
        some handle ∈ before.registered side)
      (clean : before.Clean → after.Clean)
  /-- A coroutine finds nothing available and registers. -/
  | waits (side : Side) (nothing : before.available side = 0)
      (available : ∀ side, after.available side = before.available side)
      (woken : ∀ side, after.woken side = before.woken side)
      (registered : ∀ handle, some handle ∈ after.registered side.opposite →
        some handle ∈ before.registered side.opposite)
      (clean : before.Clean → after.Clean)
  /-- A coroutine takes an item or a slot at once. -/
  | takes (side : Side) (direct : before.TakesDirectly action side)
      (takes : Takes before after side 0) (clean : before.Clean → after.Clean)
  /-- A woken coroutine runs and takes the item or slot it waited for. -/
  | resumed (side : Side) (takes : Takes before after side 1)
      (clean : before.Clean → after.Clean)
  /-- A woken coroutine runs and finds nothing. -/
  | failed (side : Side) (nothing : before.available side = 0)
      (available : ∀ side, after.available side = before.available side)
      (woken : after.woken side + 1 = before.woken side)
      (otherWoken : after.woken side.opposite = before.woken side.opposite)
      (registered : ∀ side handle, some handle ∈ after.registered side →
        some handle ∈ before.registered side)
  /-- A woken coroutine is dropped. -/
  | dropped (side : Side) (drops : before.DropsWoken action side)
      (available : ∀ side, after.available side = before.available side)
      (woken : after.woken side + 1 = before.woken side)
      (otherWoken : after.woken side.opposite = before.woken side.opposite)
      (registered : ∀ side handle, some handle ∈ after.registered side →
        some handle ∈ before.registered side)
      (clean : before.Clean → after.Clean)

/-- A woken coroutine of a side that runs on: it takes what it was woken for, or fails. -/
theorem resumed_effect {state woken after : State T} {action : Action T} {handle : Handle}
    {side : Side} {outcome : Except QueueFault (Option T)}
    (consistent : woken.Consistent (some handle))
    (available_eq : ∀ other, woken.available other = state.available other)
    (registered_eq : ∀ other, woken.registered other = state.registered other)
    (woken_eq : state.woken side = woken.woken side + 1)
    (otherWoken_eq : state.woken side.opposite = woken.woken side.opposite)
    (clean : 0 < state.available side → state.Clean → woken.Clean)
    (spec : (woken.available side = 0 ∧ after = woken.finish handle outcome) ∨
      (0 < woken.available side ∧ after.Consistent none ∧ Takes woken after side 0 ∧
        (woken.Clean → after.Clean))) :
    after.Consistent none ∧ Effect state action after := by
  rcases spec with ⟨nothing, rfl⟩ | ⟨something, after_consistent, takes, after_clean⟩
  · refine ⟨consistent.setFrame _, .failed side (available_eq side ▸ nothing) ?_ ?_ ?_ ?_⟩
    · intro other
      rw [← available_eq]
      cases other <;> rfl
    · rw [woken_eq, finish, woken_setFrame consistent.current_not_queued]
    · rw [otherWoken_eq, finish, woken_setFrame consistent.current_not_queued]
    · intro other waiting registered
      rwa [finish, registered_setFrame, registered_eq] at registered
  · refine ⟨after_consistent, .resumed side ?_ (fun before =>
      after_clean (clean (available_eq side ▸ something) before))⟩
    constructor
    · rw [takes.available, available_eq]
    · rw [woken_eq, ← takes.woken]
    · intro waiting registered
      rw [← registered_eq]
      exact takes.registered waiting registered
    · rw [takes.gives, available_eq]
    · simpa only [registered_eq, otherWoken_eq] using takes.wakes

/-- A coroutine that has not waited: it takes an item or a slot at once, or registers. -/
theorem direct_effect {state running after : State T} {action : Action T} {handle : Handle}
    {side : Side} {point : Point T} (consistent : running.Consistent (some handle))
    (available_eq : ∀ other, running.available other = state.available other)
    (registered_eq : ∀ other, running.registered other = state.registered other)
    (woken_eq : ∀ other, running.woken other = state.woken other)
    (clean : state.Clean → running.Clean)
    (direct : 0 < state.available side → state.TakesDirectly action side)
    (waits : point.waitsAt = some side)
    (spec : (running.available side = 0 ∧ after = running.suspend handle side point) ∨
      (0 < running.available side ∧ after.Consistent none ∧ Takes running after side 0 ∧
        (running.Clean → after.Clean))) :
    after.Consistent none ∧ Effect state action after := by
  rcases spec with ⟨nothing, rfl⟩ | ⟨something, after_consistent, takes, after_clean⟩
  · rcases suspend_spec consistent waits with
      ⟨after_consistent, after_woken, after_available, after_registered, after_clean⟩
    refine ⟨after_consistent, .waits side (available_eq side ▸ nothing) ?_ ?_ ?_ ?_⟩
    · exact fun other => (after_available other).trans (available_eq other)
    · exact fun other => (after_woken other).trans (woken_eq other)
    · exact fun waiting registered => registered_eq _ ▸ after_registered waiting registered
    · exact fun before => after_clean (clean before)
  · refine ⟨after_consistent, .takes side (direct (available_eq side ▸ something)) ?_
      (fun before => after_clean (clean before))⟩
    constructor
    · rw [takes.available, available_eq]
    · rw [takes.woken, woken_eq]
    · intro waiting registered
      rw [← registered_eq]
      exact takes.registered waiting registered
    · rw [takes.gives, available_eq]
    · simpa only [registered_eq, woken_eq] using takes.wakes

theorem put_cases {state : State T} {handle : Handle}
    (consistent : state.Consistent (some handle)) (value : T) :
    (state.available .writer = 0 ∧
        state.put handle value = state.suspend handle .writer (.putWaiting value)) ∨
      (0 < state.available .writer ∧ (state.put handle value).Consistent none ∧
        Takes state (state.put handle value) .writer 0 ∧
        (state.Clean → (state.put handle value).Clean)) := by
  have positive := state.available_writer_pos
  cases space : state.channel.queue.hasSpace with
  | false =>
      simp only [space, Bool.false_eq_true, iff_false] at positive
      exact .inl ⟨by omega, put_of_full space handle value⟩
  | true =>
      rw [put_of_space space]
      have something := positive.mpr space
      exact .inr ((insert_spec consistent value).resolve_left (fun full => by omega))

/-- `get()` and one turn of `getAll()` differ only in their suspension points. -/
theorem read_cases {state : State T} {handle : Handle}
    (consistent : state.Consistent (some handle)) (waiting : Point T) (point : T → Point T)
    (not_failed : ∀ item, ¬(point item).Failed) {after : State T}
    (after_eq : after = if state.channel.queue.empty then state.suspend handle .reader waiting
      else state.remove handle point) :
    (state.available .reader = 0 ∧ after = state.suspend handle .reader waiting) ∨
      (0 < state.available .reader ∧ after.Consistent none ∧
        Takes state after .reader 0 ∧ (state.Clean → after.Clean)) := by
  have positive := state.available_reader_pos
  cases isEmpty : state.channel.queue.empty with
  | true =>
      simp only [isEmpty, Bool.true_eq_false, iff_false] at positive
      exact .inl ⟨by omega, by simp [after_eq, isEmpty]⟩
  | false =>
      have unfolded : after = state.remove handle point := by simp [after_eq, isEmpty]
      rw [unfolded]
      have something := positive.mpr isEmpty
      exact .inr ((remove_spec consistent not_failed).resolve_left (fun nothing => by omega))

/-- The state of a resumed waiter after its `BOOST_VERIFY` and the destructor of its awaiter. -/
def awaited (state : State T) (handle : Handle) (side : Side) (check : Bool) : State T :=
  (state.verify check).destroyAwaiter handle side

theorem awaited_spec {state : State T} {handle : Handle} (side : Side) (check : Bool)
    (consistent : state.Consistent (some handle)) :
    (state.awaited handle side check).Consistent (some handle) ∧
      (∀ other, (state.awaited handle side check).available other = state.available other) ∧
      (∀ other, (state.awaited handle side check).registered other = state.registered other) ∧
      (∀ other, (state.awaited handle side check).woken other = state.woken other) ∧
      (check = true → state.Clean → (state.awaited handle side check).Clean) := by
  have verified_consistent : (state.verify check).Consistent (some handle) :=
    consistent.congr rfl rfl rfl (fun _ => rfl)
  have registered_eq : ∀ other, (state.awaited handle side check).registered other =
      state.registered other :=
    fun other => verified_consistent.destroyAwaiter_registered side other
  refine ⟨consistent.congr rfl rfl rfl registered_eq, fun other => ?_, registered_eq,
    fun other => rfl, ?_⟩
  · cases side <;> cases other <;> rfl
  · intro checked clean
    refine ⟨?_, clean.2⟩
    change (state.verified && check) = true
    rw [clean.1, checked]
    rfl

theorem getResumed_effect {state after : State T} {action : Action T} {loop : Loop}
    {handle : Handle} {skipped : List (Option Handle)} (point : T → Point T)
    (consistent : state.Consistent none)
    (resumable_eq : state.resumable = skipped ++ some handle :: loop.scheduler.resumable)
    (skipped_done : ∀ other, some other ∈ skipped → state.done other = true)
    (not_other : state.frame handle ≠ some .other) (waits : state.waitsAt handle = some .reader)
    (not_failed : ∀ item, ¬(point item).Failed)
    (after_eq : after = ({ state with loop } : State T).getResumed handle point) :
    after.Consistent none ∧ Effect state action after := by
  have running := consistent.handOut resumable_eq not_other
  have woken_before := woken_handOut resumable_eq skipped_done
  rcases awaited_spec .reader (ChannelAwaiter.awaitResume state.channel.queue) running with
    ⟨awaited, available_eq, registered_eq, woken_eq, clean⟩
  rw [after_eq]
  refine resumed_effect awaited available_eq registered_eq ?_ ?_ ?_
    (remove_spec awaited not_failed)
  · rw [woken_before, woken_eq, waits]
    rfl
  · rw [woken_before, woken_eq, waits]
    rfl
  · intro something before
    refine clean ?_ before
    rw [ChannelAwaiter.awaitResume, (available_reader_pos state).mp something]
    rfl

/-- A coroutine that the scheduler hands out runs to its next suspension point. -/
theorem resume_effect {state : State T} {loop : Loop} {handle : Handle}
    (consistent : state.Consistent none)
    (popped : state.loop.getNext state.done = (some handle, loop)) :
    (({ state with loop } : State T).resume handle).Consistent none ∧
      Effect state .resumeNext (({ state with loop } : State T).resume handle) := by
  rcases Loop.getNext_some popped with ⟨skipped, resumable_eq, live, skipped_done⟩
  have was_queued : some handle ∈ state.resumable := by simp [resumable, resumable_eq]
  rcases (consistent.queued handle was_queued).2 with ⟨point, frame_eq, resumable⟩
  have woken_before := woken_handOut resumable_eq skipped_done
  have waits_eq : state.waitsAt handle = point.waitsAt := by simp [waitsAt, frame_eq]
  cases point with
  | putWaiting value =>
      have running := consistent.handOut resumable_eq (by simp [frame_eq])
      rcases awaited_spec .writer state.channel.queue.hasSpace running with
        ⟨awaited, available_eq, registered_eq, woken_eq, clean⟩
      have unfolded : ({ state with loop } : State T).resume handle =
          (({ state with loop } : State T).awaited handle .writer
            state.channel.queue.hasSpace).insert handle value := by
        simp only [resume, frame_eq]
        rfl
      rw [unfolded]
      refine resumed_effect awaited available_eq registered_eq ?_ ?_ ?_ (insert_spec awaited value)
      · rw [woken_before, woken_eq, waits_eq]
        rfl
      · rw [woken_before, woken_eq, waits_eq]
        rfl
      · exact fun something before => clean ((available_writer_pos state).mp something) before
  | getWaiting =>
      exact getResumed_effect returned consistent resumable_eq skipped_done (by simp [frame_eq])
        (by rw [waits_eq]; rfl) (by simp [returned, Point.Failed])
        (by simp only [resume, frame_eq])
  | getAllWaiting =>
      exact getResumed_effect yielding consistent resumable_eq skipped_done (by simp [frame_eq])
        (by rw [waits_eq]; rfl) (by simp [yielding, Point.Failed])
        (by simp only [resume, frame_eq])
  | yielded item suspended =>
      have running := consistent.handOut resumable_eq (by simp [frame_eq])
      have unfolded : ({ state with loop } : State T).resume handle =
          ({ state with loop } : State T).getAll handle := by
        simp only [resume, frame_eq]
      rw [unfolded]
      refine direct_effect running (fun other => ?_) (fun _ => rfl) (fun other => ?_) id ?_ rfl
        (read_cases running .getAllWaiting yielding (by simp [yielding, Point.Failed]) rfl)
      · cases other <;> rfl
      · rw [woken_before other, waits_eq]
        simp [Point.waitsAt]
      · intro something
        exact ⟨something, handle, by rw [popped], by simp [frame_eq]⟩
  | finished outcome => simp [Point.Resumable] at resumable
  | other =>
      have unfolded : ({ state with loop } : State T).resume handle = { state with loop } := by
        simp only [resume, frame_eq]
      rw [unfolded]
      refine ⟨consistent.dequeue ?_, .idle (fun other => ?_) (fun other => ?_)
        (fun _ _ registered => registered) id⟩
      · rw [State.resumable, resumable_eq]
        exact (List.sublist_cons_self _ _).trans (List.sublist_append_right _ _)
      · cases other <;> rfl
      · rw [woken_before other, waits_eq]
        simp [Point.waitsAt]

theorem enqueue_effect {state : State T} {handle : Handle} {point : Point T}
    (action : Action T) (consistent : state.Consistent none)
    (frame_eq : state.frame handle = some point)
    (not_waiting : point.waitsAt = none) (resumable : point.Resumable)
    (once : point = .other ∨ some handle ∉ state.resumable) :
    ({ state with loop := state.loop.enqueue handle } : State T).Consistent none ∧
      Effect state action { state with loop := state.loop.enqueue handle } := by
  have waits_eq : state.waitsAt handle = none := by simp [waitsAt, frame_eq, not_waiting]
  constructor
  · constructor
    · exact consistent.fresh
    · simp
    · intro other queued
      rw [State.resumable, Loop.enqueue_scheduler, Scheduler.mem_enqueue] at queued
      rcases queued with older | rfl
      · exact consistent.queued other older
      · exact ⟨by simp, point, frame_eq, resumable⟩
    · intro other not_other
      have before := consistent.once other not_other
      rw [State.resumable, Loop.enqueue_scheduler]
      have after := Scheduler.pending_enqueue state.loop.scheduler handle other
      simp only [Scheduler.pending] at after
      rw [after]
      split
      · rename_i same
        subst same
        rcases once with is_other | absent
        · exact absurd (is_other ▸ frame_eq) not_other
        · simp [List.count_eq_zero.mpr absent]
      · exact before
    · intro side other registered
      rcases consistent.registered side other registered with ⟨not_current, waits, absent⟩
      refine ⟨not_current, waits, ?_⟩
      rw [State.resumable, Loop.enqueue_scheduler, Scheduler.mem_enqueue]
      rintro (older | rfl)
      · exact absent older
      · change state.waitsAt other = some side at waits
        simp [waits_eq] at waits
    · exact consistent.registered_once
  · refine .idle (fun side => ?_) (fun side => ?_) (fun _ _ registered => registered) id
    · cases side <;> rfl
    · rw [woken_enqueue, waits_eq]
      simp

theorem next_effect {state : State T} {handle : Handle} (consistent : state.Consistent none)
    (enabled : (Action.next handle).Enabled state) :
    (Action.perform state (.next handle)).Consistent none ∧
      Effect state (.next handle) (Action.perform state (.next handle)) := by
  rcases enabled with ⟨item, frame_eq⟩
  have not_queued : some handle ∉ state.resumable := by
    intro queued
    rcases (consistent.queued handle queued).2 with ⟨point, same, resumable⟩
    rw [frame_eq, Option.some.injEq] at same
    subst same
    exact resumable
  have not_registered : ∀ side, some handle ∉ state.registered side := by
    intro side registered
    have waits := (consistent.registered side handle registered).2.1
    simp [waitsAt, frame_eq, Point.waitsAt] at waits
  -- The frame is marked as no longer suspended before the handle is enqueued.
  have marked : (state.setFrame handle (.yielded item false)).Consistent none := by
    apply Consistent.setFrame
    constructor
    · exact consistent.fresh
    · rintro other same
      exact Option.some.inj same ▸ consistent.lt_next frame_eq
    · intro other queued
      exact ⟨fun same => not_queued (Option.some.inj same ▸ queued),
        (consistent.queued other queued).2⟩
    · exact consistent.once
    · intro side other registered
      exact ⟨fun same => not_registered side (Option.some.inj same ▸ registered),
        (consistent.registered side other registered).2⟩
    · exact consistent.registered_once
  have unfolded : Action.perform state (.next handle) =
      { state.setFrame handle (.yielded item false) with loop := state.loop.enqueue handle } := by
    simp only [Action.perform, frame_eq]
    rfl
  rw [unfolded]
  have marked_frame : (state.setFrame handle (.yielded item false)).frame handle =
      some (.yielded item false) := by
    simp [setFrame]
  have enqueued := enqueue_effect (.next handle) marked marked_frame rfl trivial (.inr not_queued)
  refine ⟨enqueued.1, .idle (fun side => ?_) (fun side => ?_) (fun _ _ registered => registered)
    (fun clean => ?_)⟩
  · cases side <;> rfl
  · have added := woken_enqueue (state.setFrame handle (.yielded item false)) handle side
    rw [woken_setFrame not_queued, waitsAt_setFrame_self] at added
    exact added.trans (by simp [Point.waitsAt])
  · exact Clean.setFrame clean (by simp [Point.Failed])

theorem drop_effect {state : State T} (consistent : state.Consistent none) (dropped : Handle) :
    (Action.perform state (.drop dropped)).Consistent none ∧
      Effect state (.drop dropped) (Action.perform state (.drop dropped)) := by
  change (state.drop dropped).Consistent none ∧
    Effect state (.drop dropped) (state.drop dropped)
  have queue_eq : (state.drop dropped).channel.queue = state.channel.queue := by
    unfold State.drop destroy
    split <;> dsimp only <;> split <;> (try rfl) <;> rename_i side _ <;> cases side <;> rfl
  have verified_eq : (state.drop dropped).verified = state.verified := by
    unfold State.drop destroy
    split <;> dsimp only <;> split <;> rfl
  have available_eq : ∀ side, (state.drop dropped).available side = state.available side := by
    intro side
    cases side <;> simp only [available, queue_eq]
  have registered_before : ∀ side handle, some handle ∈ (state.drop dropped).registered side →
      some handle ∈ state.registered side := by
    intro side handle registered
    rw [consistent.drop_registered, List.mem_map] at registered
    rcases registered with ⟨entry, entry_mem, entry_eq⟩
    split at entry_eq
    · simp at entry_eq
    · exact entry_eq ▸ entry_mem
  have clean : state.Clean → (state.drop dropped).Clean := by
    intro clean
    refine ⟨verified_eq ▸ clean.1, ?_⟩
    intro handle point frame_eq
    rw [Consistent.drop_frame] at frame_eq
    by_cases same : handle = dropped
    · simp [same] at frame_eq
    · exact clean.2 handle point (by simpa [same] using frame_eq)
  refine ⟨consistent.drop dropped, ?_⟩
  have woken_before := woken_drop consistent dropped
  by_cases woken : ∃ side, state.waitsAt dropped = some side ∧ some dropped ∈ state.resumable
  · rcases woken with ⟨side, waits, queued⟩
    refine .dropped side ⟨waits, queued⟩ available_eq ?_ ?_ registered_before clean
    · rw [woken_before side, if_pos ⟨waits, queued⟩]
    · rw [woken_before side.opposite, if_neg, Nat.add_zero]
      rintro ⟨waits_opposite, -⟩
      rw [waits, Option.some.injEq] at waits_opposite
      cases side <;> simp [Side.opposite] at waits_opposite
  · refine .idle available_eq (fun side => ?_) registered_before clean
    rw [woken_before side, if_neg, Nat.add_zero]
    exact fun both => woken ⟨side, both⟩

/-- One step keeps the state consistent and has one of the listed effects. -/
theorem step_effect {state : State T} {action : Action T} (consistent : state.Consistent none)
    (enabled : action.Enabled state) :
    (action.perform state).Consistent none ∧ Effect state action (action.perform state) := by
  have running := consistent.call
  cases action with
  | put value =>
      refine direct_effect running (fun other => ?_) (fun _ => rfl) (fun _ => rfl) id ?_ rfl
        (put_cases running value)
      · cases other <;> rfl
      · exact fun something => ⟨something, trivial⟩
  | get =>
      refine direct_effect running (fun other => ?_) (fun _ => rfl) (fun _ => rfl) id ?_ rfl
        (read_cases running .getWaiting returned (by simp [returned, Point.Failed]) rfl)
      · cases other <;> rfl
      · exact fun something => ⟨something, trivial⟩
  | getAll =>
      refine direct_effect running (fun other => ?_) (fun _ => rfl) (fun _ => rfl) id ?_ rfl
        (read_cases running .getAllWaiting yielding (by simp [yielding, Point.Failed]) rfl)
      · cases other <;> rfl
      · exact fun something => ⟨something, trivial⟩
  | next handle => exact next_effect consistent enabled
  | resumeNext =>
      rcases popped : state.loop.getNext state.done with ⟨_ | handle, loop⟩
      · rcases Loop.getNext_none popped with ⟨empty, all_done⟩
        rw [perform_resumeNext popped]
        refine ⟨consistent.dequeue (by rw [empty]; exact List.nil_sublist _),
          .idle (fun side => ?_) (fun side => ?_) (fun _ _ registered => registered) id⟩
        · cases side <;> rfl
        · exact woken_drained empty all_done side
      · rw [perform_resumeNext popped]
        exact resume_effect consistent popped
  | drop handle => exact drop_effect consistent handle
  | spawnOther =>
      refine ⟨running.setFrame .other, .idle (fun side => ?_) (fun side => ?_)
        (fun _ _ registered => registered) (fun clean => ?_)⟩
      · cases side <;> rfl
      · exact woken_setFrame running.current_not_queued
      · have running_clean : ({ state with next := state.next + 1 } : State T).Clean := clean
        exact running_clean.setFrame (by simp [Point.Failed])
  | enqueueOther handle =>
      have is_other : state.frame handle = some .other := by
        simp only [Action.Enabled, Option.any_eq_true] at enabled
        rcases enabled with ⟨point, frame_eq, is_other⟩
        cases point <;> simp_all
      exact enqueue_effect _ consistent is_other rfl trivial (.inl rfl)

end State

end Uvco.Channel
