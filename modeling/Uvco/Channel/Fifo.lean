import Uvco.Channel.Wakeup
import Uvco.Library.Fifo

/-!
# Channels are bounded FIFO queues

What a program sees of a channel is the queue of values between `put()` and
`get()`. `State.fifo` reads that queue, with its history, off the state of a
channel; a step of the channel is then a put, a take or nothing at all on it,
whatever happens to waiters, tombstones, wakeups and dropped promises. `Transfer`
says which coroutine moves an item, and that it succeeds by the same step.
-/

namespace Uvco.Channel

variable {T : Type}

/-- What a coroutine of the channel was called for. -/
inductive Purpose (T : Type) where
  | put (value : T)
  | get
  | getAll

/-- What a coroutine that has not finished is after. -/
def Point.purpose : Point T → Option (Purpose T)
  | .putWaiting value => some (.put value)
  | .getWaiting => some .get
  | .getAllWaiting | .yielded .. => some .getAll
  | .finished _ | .other => none

/-- `put()` or `get()` returned, or `getAll()` yielded an item. -/
def Point.Succeeded : Point T → Prop
  | .finished (.ok _) | .yielded _ true => True
  | _ => False

namespace State

/-- The values in the item queue, the oldest first. -/
def contents (state : State T) : List T :=
  state.channel.queue.toList

/-- The bounded buffer that a channel implements. -/
def fifo (state : State T) : Fifo T where
  capacity := state.channel.queue.capacity
  held := state.contents
  accepted := state.committed
  delivered := state.taken

/-- The channel coroutine that an action runs. -/
def runs (state : State T) : Action T → Option (Handle × Purpose T)
  | .put value => some (state.next, .put value)
  | .get => some (state.next, .get)
  | .getAll => some (state.next, .getAll)
  | .resumeNext => do
      let handle ← (state.loop.getNext state.done).1
      let purpose ← (state.frame handle).bind Point.purpose
      return (handle, purpose)
  | .next _ | .drop _ | .spawnOther | .enqueueOther _ => none

/-- Only the frame of one coroutine changes; it is now suspended, or has ended, at `point`. -/
def Reaches (before : State T) (handle : Handle) (point : Point T) (after : State T) : Prop :=
  after.frame = Function.update before.frame handle (some point)

/-- What one step does with the values of the channel, and who does it. -/
inductive Transfer (before : State T) (action : Action T) (after : State T) : Prop where
  /-- No value moves, and no coroutine succeeds. -/
  | nothing (fifo_eq : after.fifo = before.fifo)
      (nobody : ∀ handle point, after.frame handle = some point →
        before.frame handle = some point ∨ ¬point.Succeeded)
  | put (handle : Handle) (value : T) (runs : before.runs action = some (handle, .put value))
      (space : before.contents.length < before.channel.queue.capacity)
      (reaches : before.Reaches handle (.finished (.ok none)) after)
      (fifo_eq : after.fifo = before.fifo.put value)
  | get (handle : Handle) (item : T) (runs : before.runs action = some (handle, .get))
      (oldest : before.contents.head? = some item)
      (reaches : before.Reaches handle (returned item) after)
      (fifo_eq : after.fifo = before.fifo.take)
  | getAll (handle : Handle) (item : T) (runs : before.runs action = some (handle, .getAll))
      (oldest : before.contents.head? = some item)
      (reaches : before.Reaches handle (yielding item) after)
      (fifo_eq : after.fifo = before.fifo.take)

@[simp]
theorem fifo_awake (state : State T) (side : Side) : (state.awake side).fifo = state.fifo := by
  cases side <;> rfl

@[simp]
theorem fifo_setFrame (state : State T) (handle : Handle) (point : Point T) :
    (state.setFrame handle point).fifo = state.fifo := rfl

@[simp]
theorem fifo_destroyAwaiter (state : State T) (handle : Handle) (side : Side) :
    (state.destroyAwaiter handle side).fifo = state.fifo := by
  cases side <;> rfl

theorem fifo_drop (state : State T) (dropped : Handle) :
    (state.drop dropped).fifo = state.fifo := by
  unfold State.drop destroy
  split <;> dsimp only <;> split <;> first | rfl | exact fifo_destroyAwaiter ..

/-- `queue_.put()` in a running `put()`. -/
theorem insert_transfer (state : State T) (handle : Handle) (value : T) :
    (state.channel.queue.hasSpace = false ∧
        state.Reaches handle (.finished (.error queueIsFull)) (state.insert handle value) ∧
        (state.insert handle value).fifo = state.fifo) ∨
      (state.contents.length < state.channel.queue.capacity ∧
        state.Reaches handle (.finished (.ok none)) (state.insert handle value) ∧
        (state.insert handle value).fifo = state.fifo.put value) := by
  cases space : state.channel.queue.hasSpace with
  | false =>
      left
      rw [insert_of_full space]
      exact ⟨rfl, rfl, rfl⟩
  | true =>
      right
      rcases BoundedQueue.put_spec space value with ⟨queue, put_eq, contents_eq, capacity_eq⟩
      rw [insert_of_put put_eq]
      refine ⟨(state.channel.queue.hasSpace_iff).mp space, rfl, ?_⟩
      rw [fifo_setFrame, fifo_awake]
      simp only [fifo, contents, Fifo.put, contents_eq, capacity_eq]

/-- `queue_.get()` in a running `get()` or `getAll()`. -/
theorem remove_transfer (state : State T) (handle : Handle) (point : T → Point T) :
    (state.channel.queue.empty = true ∧
        state.Reaches handle (.finished (.error queueIsEmpty)) (state.remove handle point) ∧
        (state.remove handle point).fifo = state.fifo) ∨
      ∃ item, state.contents.head? = some item ∧
        state.Reaches handle (point item) (state.remove handle point) ∧
        (state.remove handle point).fifo = state.fifo.take := by
  cases isEmpty : state.channel.queue.empty with
  | true =>
      left
      rw [remove_of_empty isEmpty]
      exact ⟨rfl, rfl, rfl⟩
  | false =>
      right
      rcases BoundedQueue.get_spec isEmpty with ⟨item, queue, get_eq, contents_eq, capacity_eq⟩
      rw [remove_of_get get_eq]
      refine ⟨item, by rw [contents, contents_eq, List.head?_cons], rfl, ?_⟩
      rw [fifo_setFrame, fifo_awake]
      simp only [fifo, contents, Fifo.take, contents_eq, capacity_eq, List.head?_cons,
        List.tail_cons, Option.toList_some]

/-- `co_await awaiter`: the coroutine waits, or ends with an exception. -/
theorem suspend_transfer (state : State T) (handle : Handle) {side : Side} {point : Point T}
    (waits : point.waitsAt = some side) :
    ∃ reached : Point T, ¬reached.Succeeded ∧
      state.Reaches handle reached (state.suspend handle side point) ∧
      (state.suspend handle side point).fifo = state.fifo := by
  cases suspended : ChannelAwaiter.awaitSuspend (state.channel.waiting side) handle with
  | ok waiting =>
      refine ⟨point, ?_, ?_, ?_⟩
      · cases point <;> simp_all [Point.Succeeded, Point.waitsAt]
      · simp only [suspend, suspended]
        rfl
      · simp only [suspend, suspended]
        cases side <;> rfl
  | error fault =>
      refine ⟨.finished (.error fault), by simp [Point.Succeeded], ?_, ?_⟩
      · simp only [suspend, suspended]
        rfl
      · simp only [suspend, suspended]
        rfl

section Step

/-! A step runs one coroutine from `running`, which differs from the state before the step only
in the scheduler queue, in the waiter queues and in what `BOOST_VERIFY` recorded. -/

variable {before running after : State T} {action : Action T} {handle : Handle}
  (frame_eq : running.frame = before.frame) (fifo_eq : running.fifo = before.fifo)

include frame_eq fifo_eq

theorem Transfer.of_reaches (handle : Handle) {point : Point T}
    (reaches : running.Reaches handle point after)
    (unsuccessful : ¬point.Succeeded) (kept : after.fifo = running.fifo) :
    Transfer before action after := by
  refine .nothing (kept.trans fifo_eq) ?_
  intro other reached at_reached
  rw [reaches, frame_eq] at at_reached
  by_cases same : other = handle
  · subst same
    rw [Function.update_self, Option.some.injEq] at at_reached
    subst at_reached
    exact .inr unsuccessful
  · rw [Function.update_of_ne same] at at_reached
    exact .inl at_reached

theorem Transfer.of_suspend {side : Side} {point : Point T} (waits : point.waitsAt = some side) :
    Transfer before action (running.suspend handle side point) := by
  rcases running.suspend_transfer handle waits with ⟨reached, unsuccessful, reaches, kept⟩
  exact .of_reaches frame_eq fifo_eq handle reaches unsuccessful kept

theorem Transfer.of_insert {value : T} (runs : before.runs action = some (handle, .put value)) :
    Transfer before action (running.insert handle value) := by
  rcases running.insert_transfer handle value with ⟨-, reaches, kept⟩ | ⟨space, reaches, moved⟩
  · exact .of_reaches frame_eq fifo_eq handle reaches (by simp [Point.Succeeded]) kept
  · refine .put handle value runs ?_ ?_ ?_
    · change running.fifo.held.length < running.fifo.capacity at space
      rwa [fifo_eq] at space
    · rw [Reaches, ← frame_eq]
      exact reaches
    · rw [moved, fifo_eq]

theorem Transfer.of_remove {point : T → Point T}
    (runs : before.runs action = some (handle, .get) ∧ point = returned ∨
      before.runs action = some (handle, .getAll) ∧ point = yielding) :
    Transfer before action (running.remove handle point) := by
  rcases running.remove_transfer handle point with
    ⟨-, reaches, kept⟩ | ⟨item, oldest, reaches, moved⟩
  · exact .of_reaches frame_eq fifo_eq handle reaches (by simp [Point.Succeeded]) kept
  · have first : before.contents.head? = some item := by
      change running.fifo.held.head? = some item at oldest
      rwa [fifo_eq] at oldest
    rw [Reaches, frame_eq] at reaches
    rw [fifo_eq] at moved
    rcases runs with ⟨runs, rfl⟩ | ⟨runs, rfl⟩
    · exact .get handle item runs first reaches moved
    · exact .getAll handle item runs first reaches moved

theorem Transfer.of_put {value : T} (runs : before.runs action = some (handle, .put value)) :
    Transfer before action (running.put handle value) := by
  unfold State.put
  split
  · exact .of_suspend frame_eq fifo_eq rfl
  · exact .of_insert frame_eq fifo_eq runs

theorem Transfer.of_get (runs : before.runs action = some (handle, .get)) :
    Transfer before action (running.get handle) := by
  unfold State.get
  split
  · exact .of_suspend frame_eq fifo_eq rfl
  · exact .of_remove frame_eq fifo_eq (.inl ⟨runs, rfl⟩)

theorem Transfer.of_getAll (runs : before.runs action = some (handle, .getAll)) :
    Transfer before action (running.getAll handle) := by
  unfold State.getAll
  split
  · exact .of_suspend frame_eq fifo_eq rfl
  · exact .of_remove frame_eq fifo_eq (.inr ⟨runs, rfl⟩)

end Step

theorem resume_transfer {state : State T} {loop : Loop} {handle : Handle}
    (popped : state.loop.getNext state.done = (some handle, loop)) :
    Transfer state .resumeNext (({ state with loop } : State T).resume handle) := by
  have runs_of : ∀ point purpose, state.frame handle = some point →
      point.purpose = some purpose → state.runs .resumeNext = some (handle, purpose) := by
    intro point purpose frame_eq purpose_eq
    simp [State.runs, popped, frame_eq, purpose_eq]
  have awaited_fifo : ∀ side check, (({ state with loop } : State T).awaited handle side
      check).fifo = state.fifo := by
    intro side check
    exact fifo_destroyAwaiter _ handle side
  have unchanged : Transfer state .resumeNext { state with loop } :=
    .nothing rfl (fun _ _ at_point => .inl at_point)
  cases frame_eq : state.frame handle with
  | none =>
      simp only [resume, frame_eq]
      exact unchanged
  | some point =>
      have runs := runs_of point
      simp only [resume, frame_eq]
      cases point with
      | putWaiting value =>
          change Transfer state .resumeNext
            ((({ state with loop } : State T).awaited handle .writer _).insert handle value)
          apply Transfer.of_insert
          · rfl
          · exact awaited_fifo .writer _
          · exact runs _ frame_eq rfl
      | getWaiting =>
          change Transfer state .resumeNext
            ((({ state with loop } : State T).awaited handle .reader _).remove handle returned)
          apply Transfer.of_remove
          · rfl
          · exact awaited_fifo .reader _
          · exact .inl ⟨runs _ frame_eq rfl, rfl⟩
      | getAllWaiting =>
          change Transfer state .resumeNext
            ((({ state with loop } : State T).awaited handle .reader _).remove handle yielding)
          apply Transfer.of_remove
          · rfl
          · exact awaited_fifo .reader _
          · exact .inr ⟨runs _ frame_eq rfl, rfl⟩
      | yielded item suspended => exact .of_getAll rfl rfl (runs _ frame_eq rfl)
      | finished outcome => exact unchanged
      | other => exact unchanged

/-- Every step moves at most one value, on behalf of a coroutine that thereby succeeds. -/
theorem step_transfer {state : State T} {action : Action T} (enabled : action.Enabled state) :
    Transfer state action (action.perform state) := by
  cases action with
  | put value =>
      change Transfer state _ (({ state with next := state.next + 1 } : State T).put _ value)
      apply Transfer.of_put <;> rfl
  | get =>
      change Transfer state _ (({ state with next := state.next + 1 } : State T).get _)
      apply Transfer.of_get <;> rfl
  | getAll =>
      change Transfer state _ (({ state with next := state.next + 1 } : State T).getAll _)
      apply Transfer.of_getAll <;> rfl
  | next handle =>
      rcases enabled with ⟨item, frame_eq⟩
      have unfolded : Action.perform state (.next handle) =
          ({ state with loop := state.loop.enqueue handle } : State T).setFrame handle
            (.yielded item false) := by
        simp only [Action.perform, frame_eq]
      rw [unfolded]
      exact .of_reaches rfl rfl handle rfl (by simp [Point.Succeeded]) rfl
  | resumeNext =>
      rcases popped : state.loop.getNext state.done with ⟨_ | handle, loop⟩
      · rw [perform_resumeNext popped]
        exact .nothing rfl (fun _ _ at_point => .inl at_point)
      · rw [perform_resumeNext popped]
        exact resume_transfer popped
  | drop dropped =>
      refine .nothing (state.fifo_drop dropped) ?_
      intro other point at_point
      change (state.drop dropped).frame other = some point at at_point
      rw [Consistent.drop_frame] at at_point
      by_cases same : other = dropped
      · simp [same] at at_point
      · exact .inl (by simpa [same] using at_point)
  | spawnOther =>
      exact .of_reaches rfl rfl state.next rfl (by simp [Point.Succeeded]) rfl
  | enqueueOther handle => exact .nothing rfl (fun _ _ at_point => .inl at_point)

/-- On the buffer, a step is a put, a take or nothing. -/
theorem Transfer.simulated {before after : State T} {action : Action T}
    (transfer : Transfer before action after) :
    after.fifo = before.fifo ∨ ∃ step, (Fifo.system T).Enabled before.fifo step ∧
      after.fifo = (Fifo.system T).perform before.fifo step := by
  cases transfer with
  | nothing fifo_eq _ => exact .inl fifo_eq
  | put handle value _ space _ fifo_eq => exact .inr ⟨.put value, space, fifo_eq⟩
  | get handle item _ oldest _ fifo_eq | getAll handle item _ oldest _ fifo_eq =>
      refine .inr ⟨.take, ?_, fifo_eq⟩
      intro empty
      have head_eq : before.fifo.held.head? = some item := oldest
      simp [empty] at head_eq

/-- A channel implements a bounded first-in-first-out buffer. -/
theorem fifo_reachable {state : State T} (reached : (system T).Reachable state) :
    (Fifo.system T).Reachable state.fifo := by
  refine TransitionSystem.ReachableVia.simulate fifo ?_ ?_ reached
  · rintro _ ⟨capacity, maxWaiters, capacity_lt, maxWaiters_lt, rfl⟩
    exact ⟨BoundedQueue.toList_create capacity capacity_lt, rfl, rfl⟩
  · intro state action _ enabled _
    exact (step_transfer enabled).simulated

/-- The step moves no value. -/
def Unmoved (before after : State T) : Prop :=
  after.contents = before.contents ∧ after.committed = before.committed ∧
    after.taken = before.taken

/-- What a program may rely on in one state of a channel and in the next step from it. -/
structure BoundedFifo (state : State T) : Prop where
  order : state.taken ++ state.contents = state.committed
  bounded : state.contents.length ≤ state.channel.queue.capacity
  capacity : ∀ action : Action T, action.Enabled state →
    (action.perform state).channel.queue.capacity = state.channel.queue.capacity
  transfer : ∀ action : Action T, action.Enabled state →
    Transfer state action (action.perform state)
  throws : ∀ (action : Action T) handle fault, action.Enabled state →
    state.frame handle ≠ some (.finished (.error fault)) →
    (action.perform state).frame handle = some (.finished (.error fault)) →
    state.Unmoved (action.perform state)
  dropped : ∀ handle, (Action.drop handle).Enabled state →
    state.Unmoved (Action.perform state (.drop handle))
  put_at_once : ∀ value, state.contents.length < state.channel.queue.capacity →
    state.Reaches state.next (.finished (.ok none)) (Action.perform state (.put value))
  get_at_once : ∀ item, state.contents.head? = some item →
    state.Reaches state.next (returned item) (Action.perform state .get)
  getAll_at_once : ∀ item, state.contents.head? = some item →
    state.Reaches state.next (yielding item) (Action.perform state .getAll)

theorem Unmoved.of_fifo {before after : State T} (fifo_eq : after.fifo = before.fifo) :
    before.Unmoved after :=
  ⟨congrArg Fifo.held fifo_eq, congrArg Fifo.accepted fifo_eq, congrArg Fifo.delivered fifo_eq⟩

/-- A frame that changed is the one of the coroutine that ran. -/
theorem Reaches.eq_of_changed {before after : State T} {handle other : Handle}
    {point reached : Point T} (reaches : before.Reaches handle point after)
    (changed : before.frame other ≠ some reached) (at_reached : after.frame other = some reached) :
    reached = point := by
  rw [reaches] at at_reached
  by_cases same : other = handle
  · subst same
    rw [Function.update_self, Option.some.injEq] at at_reached
    exact at_reached.symm
  · rw [Function.update_of_ne same] at at_reached
    exact absurd at_reached changed

/-- The step in which a coroutine throws moves no value. -/
theorem Transfer.unmoved_of_error {before after : State T} {action : Action T}
    (transfer : Transfer before action after) {handle : Handle} {fault : QueueFault}
    (changed : before.frame handle ≠ some (.finished (.error fault)))
    (thrown : after.frame handle = some (.finished (.error fault))) : before.Unmoved after := by
  cases transfer with
  | nothing fifo_eq _ => exact .of_fifo fifo_eq
  | put _ _ _ _ reaches _ =>
      have success := reaches.eq_of_changed changed thrown
      simp at success
  | get _ _ _ _ reaches _ | getAll _ _ _ _ reaches _ =>
      have success := reaches.eq_of_changed changed thrown
      simp [returned, yielding] at success

theorem Transfer.capacity_eq {before after : State T} {action : Action T}
    (transfer : Transfer before action after) :
    after.channel.queue.capacity = before.channel.queue.capacity := by
  cases transfer with
  | nothing fifo_eq _ | put _ _ _ _ _ fifo_eq | get _ _ _ _ _ fifo_eq | getAll _ _ _ _ _ fifo_eq =>
      exact congrArg Fifo.capacity fifo_eq

theorem put_reaches (state : State T) (handle : Handle) (value : T)
    (space : state.contents.length < state.channel.queue.capacity) :
    state.Reaches handle (.finished (.ok none)) (state.put handle value) := by
  have hasSpace := (state.channel.queue.hasSpace_iff).mpr space
  rw [put_of_space hasSpace]
  rcases state.insert_transfer handle value with ⟨full, -⟩ | ⟨-, reaches, -⟩
  · simp [hasSpace] at full
  · exact reaches

theorem remove_reaches (state : State T) (handle : Handle) (point : T → Point T) {item : T}
    (oldest : state.contents.head? = some item) :
    state.channel.queue.empty = false ∧
      state.Reaches handle (point item) (state.remove handle point) := by
  have nonempty : state.channel.queue.empty = false := by
    rw [Bool.eq_false_iff, Ne, BoundedQueue.empty_iff]
    intro empty
    simp [contents, empty] at oldest
  refine ⟨nonempty, ?_⟩
  rcases state.remove_transfer handle point with ⟨empty, -⟩ | ⟨first, first_eq, reaches, -⟩
  · simp [nonempty] at empty
  · rw [oldest, Option.some.injEq] at first_eq
    rw [first_eq]
    exact reaches

/-- In every run a channel is a bounded first-in-first-out queue: the values taken out, followed
by those in the queue, are the values put in; whoever throws or is dropped moves nothing; and
nobody suspends who could proceed. -/
theorem boundedFifo_of_reachable {state : State T} (reached : (system T).Reachable state) :
    state.BoundedFifo := by
  rcases Fifo.delivered_append_held (fifo_reachable reached) with ⟨order, bounded⟩
  constructor
  · exact order
  · exact bounded
  · intro action enabled
    exact (step_transfer enabled).capacity_eq
  · intro action enabled
    exact step_transfer enabled
  · intro action handle fault enabled changed thrown
    exact (step_transfer enabled).unmoved_of_error changed thrown
  · intro handle _
    exact .of_fifo (state.fifo_drop handle)
  · intro value space
    exact put_reaches { state with next := state.next + 1 } state.next value space
  · intro item oldest
    rcases remove_reaches { state with next := state.next + 1 } state.next returned
      oldest with ⟨nonempty, reaches⟩
    have unfolded : Action.perform state .get =
        ({ state with next := state.next + 1 } : State T).remove state.next returned := by
      simp only [Action.perform, call, State.get, nonempty, Bool.false_eq_true, if_false]
    rw [unfolded]
    exact reaches
  · intro item oldest
    rcases remove_reaches { state with next := state.next + 1 } state.next yielding
      oldest with ⟨nonempty, reaches⟩
    have unfolded : Action.perform state .getAll =
        ({ state with next := state.next + 1 } : State T).remove state.next yielding := by
      simp only [Action.perform, call, State.getAll, nonempty, Bool.false_eq_true, if_false]
    rw [unfolded]
    exact reaches

/-- Two values go through a queue of capacity one: the second `put()` waits until the first
value is taken. -/
theorem boundedFifo_capacity_one :
    (([.put 7, .put 8, .get, .resumeNext] : List (Action ℕ)).foldl Action.perform
      (initial 1 16 (by decide) (by decide))).BoundedFifo := by
  have start : (system ℕ).Reachable (initial 1 16 (by decide) (by decide)) :=
    .start ⟨1, 16, by decide, by decide, rfl⟩
  have first := start.step (Action.put 7) trivial trivial
  have second := first.step (Action.put 8) trivial trivial
  have taken := second.step Action.get trivial trivial
  exact boundedFifo_of_reachable (taken.step Action.resumeNext trivial trivial)

end State

end Uvco.Channel
