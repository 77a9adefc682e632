import Uvco.Channel.Wakeup

/-!
# The limit on channel waiters

`ChannelAwaiter_` refuses to suspend, with `UV_EBUSY`, once its waiter queue is
full. A wait that was cancelled leaves a null entry in that queue, which is
only removed when a waker passes over it, so the length of the queue and the
number of coroutines that wait are not the same. This file compares the two in
every state that the programs around a channel reach.

`Bounded` is what the comparison needs of the history of the channel: the
waiter queues keep their capacity, and a side with something available never
has a full waiter queue.
-/

namespace Uvco.Channel

variable {T : Type}

/-- The coroutine ended with a `UvcoException` whose status is `UV_EBUSY`. -/
def Point.isBusy : Point T → Bool
  | .finished (.error (.thrown exception)) => exception.status == some UV_EBUSY
  | _ => false

theorem Point.not_isBusy_of_waitsAt {point : Point T} {side : Side}
    (waits : point.waitsAt = some side) : point.isBusy = false := by
  cases point <;> simp_all [Point.waitsAt, Point.isBusy]

namespace State

/-- `await_suspend` has thrown `UV_EBUSY`. -/
def refused (state : State T) (handle : Handle) : Bool :=
  (state.frame handle).any Point.isBusy

/-- The live coroutines that are registered as waiting on a side. -/
def liveWaiters (state : State T) (side : Side) : ℕ :=
  (state.registered side).countP fun entry =>
    entry.any fun handle => state.waitsAt handle == some side

/-- The action lets a coroutine ask for an item or a slot for which it has not waited: a call
of `put()`, `get()` or `getAll()`, or the next turn of a resumed `getAll()`. -/
def Asks (state : State T) (action : Action T) (handle : Handle) (side : Side) : Prop :=
  match action, side with
  | .put _, .writer | .get, .reader | .getAll, .reader => handle = state.next
  | .resumeNext, .reader =>
      (state.loop.getNext state.done).1 = some handle ∧
        (state.frame handle).any (fun point => point matches .yielded ..)
  | _, _ => False

/-- The action resumes a coroutine that has waited on a side. -/
def ResumesWaiter (state : State T) (action : Action T) (handle : Handle) (side : Side) : Prop :=
  action = .resumeNext ∧ (state.loop.getNext state.done).1 = some handle ∧
    state.waitsAt handle = some side

/-- Whoever asks is refused with `UV_EBUSY` if and only if `maxWaiters` live coroutines wait on
that side, and whoever has waited ends with `UV_EBUSY` only then. -/
def LimitCountsLive (state : State T) (action : Action T) (maxWaiters : ℕ) : Prop :=
  (∀ handle side, state.Asks action handle side →
      ((action.perform state).refused handle = true ↔ state.liveWaiters side = maxWaiters)) ∧
    ∀ handle side, state.ResumesWaiter action handle side →
      (action.perform state).refused handle = true → state.liveWaiters side = maxWaiters

/-- The waiter queue is full, and no entry of it was cancelled. -/
def FullOfLive (state : State T) (side : Side) : Prop :=
  (state.channel.waiting side).hasSpace = false ∧ none ∉ state.registered side

/-- Whoever asks finds a free place in the waiter queue or has to wait while live coroutines
take up all places, and a resumed `put()` finds a free slot, or such a waiter queue. -/
def NoTombstoneInTheWay (state : State T) (action : Action T) : Prop :=
  (∀ handle side, state.Asks action handle side →
      (state.channel.waiting side).hasSpace = true ∨
        (state.FullOfLive side ∧ state.available side = 0)) ∧
    ∀ handle, state.ResumesWaiter action handle .writer →
      state.channel.queue.hasSpace = true ∨ state.FullOfLive .writer

/-! ## The waiter queues along a run -/

/-- The capacity of the waiting queues stays, and there is room below the limit. -/
structure Bounded (maxWaiters : ℕ) (state : State T) : Prop where
  capacity : ∀ side, (state.channel.waiting side).capacity = maxWaiters
  room : ∀ side, 0 < state.available side → 0 < maxWaiters →
    (state.registered side).length < maxWaiters

theorem awakeFrom_capacity (turns : ℕ) (waiting : BoundedQueue (Option Handle)) (loop : Loop) :
    (awakeFrom turns waiting loop).1.capacity = waiting.capacity := by
  induction turns generalizing waiting with
  | zero => rfl
  | succ turns ih =>
      cases isEmpty : waiting.empty with
      | true => simp [awakeFrom, isEmpty]
      | false =>
          rcases BoundedQueue.get_spec isEmpty with ⟨entry, rest, get_eq, -, capacity_eq⟩
          cases entry with
          | none => simpa [awakeFrom, isEmpty, get_eq, capacity_eq] using ih rest
          | some handle => simpa [awakeFrom, isEmpty, get_eq] using capacity_eq

theorem awake_capacity (state : State T) (side other : Side) :
    ((state.awake side).channel.waiting other).capacity =
      (state.channel.waiting other).capacity := by
  cases side <;> cases other <;> first | rfl | exact awakeFrom_capacity _ _ _

/-- Waking a side with a registered entry makes its waiter queue shorter. -/
theorem registered_awake_length (state : State T) (side : Side) :
    (state.awake side).registered side = [] ∨
      ((state.awake side).registered side).length < (state.registered side).length := by
  rcases state.awake_cases side with ⟨-, -, nothing⟩ |
    ⟨skipped, handle, rest, before, -, -, after⟩
  · exact .inl nothing
  · right
    rw [before, after, List.length_append, List.length_cons]
    omega

namespace Bounded

variable {maxWaiters : ℕ} {state : State T}

theorem registered_length (bounded : state.Bounded maxWaiters) (side : Side) :
    (state.registered side).length ≤ maxWaiters := by
  rw [← bounded.capacity side]
  exact (state.channel.waiting side).length_le_capacity

theorem hasSpace_iff (bounded : state.Bounded maxWaiters) (side : Side) :
    (state.channel.waiting side).hasSpace = true ↔
      (state.registered side).length < maxWaiters := by
  rw [← bounded.capacity side]
  exact (state.channel.waiting side).hasSpace_iff

/-- Only the waiter queues and the number of items matter. -/
theorem congr {after : State T} (bounded : state.Bounded maxWaiters)
    (waiting_eq : ∀ side, (after.channel.waiting side).capacity =
      (state.channel.waiting side).capacity)
    (length_eq : ∀ side, (after.registered side).length = (state.registered side).length)
    (available_eq : ∀ side, after.available side = state.available side) :
    after.Bounded maxWaiters := by
  constructor
  · intro side
    rw [waiting_eq, bounded.capacity]
  · intro side something
    rw [length_eq]
    exact bounded.room side (available_eq side ▸ something)

theorem withFrame (bounded : state.Bounded maxWaiters) (frame : Handle → Option (Point T)) :
    ({ state with frame } : State T).Bounded maxWaiters :=
  bounded.congr (fun _ => rfl) (fun _ => rfl) (fun side => by cases side <;> rfl)

theorem setFrame (bounded : state.Bounded maxWaiters) (handle : Handle) (point : Point T) :
    (state.setFrame handle point).Bounded maxWaiters :=
  bounded.withFrame _

theorem withLoop (bounded : state.Bounded maxWaiters) (loop : Loop) :
    ({ state with loop } : State T).Bounded maxWaiters :=
  bounded.congr (fun _ => rfl) (fun _ => rfl) (fun side => by cases side <;> rfl)

theorem destroyAwaiter (bounded : state.Bounded maxWaiters) (handle : Handle) (side : Side) :
    (state.destroyAwaiter handle side).Bounded maxWaiters := by
  apply bounded.congr
  · intro other
    cases side <;> cases other <;> first | rfl | exact (BoundedQueue.forEach_spec _ _).2
  · intro other
    rw [registered_destroyAwaiter]
    split
    · exact List.length_map _
    · rfl
  · intro other
    cases side <;> cases other <;> rfl

/-- One side takes what is available to it, and the opposite side is woken. -/
theorem exchange (bounded : state.Bounded maxWaiters) {changed : State T} {side : Side}
    (waiting_eq : ∀ other, changed.channel.waiting other = state.channel.waiting other)
    (something : 0 < state.available side) :
    (changed.awake side.opposite).Bounded maxWaiters := by
  have registered_eq : ∀ other, changed.registered other = state.registered other := by
    intro other
    rw [State.registered, State.registered, waiting_eq]
  constructor
  · intro other
    rw [awake_capacity, waiting_eq, bounded.capacity]
  · intro other _ positive
    by_cases same : other = side
    · have opposite_ne : side.opposite ≠ side := by cases side <;> simp [Side.opposite]
      rw [same, registered_awake_of_ne _ opposite_ne, registered_eq]
      exact bounded.room side something positive
    · obtain rfl := Side.eq_opposite same
      have before := bounded.registered_length side.opposite
      rcases changed.registered_awake_length side.opposite with nothing | shorter
      · rw [nothing]
        exact positive
      · rw [registered_eq] at shorter
        omega

theorem suspend (bounded : state.Bounded maxWaiters) (handle : Handle) {side : Side}
    (nothing : state.available side = 0) (point : Point T) :
    (state.suspend handle side point).Bounded maxWaiters := by
  cases space : (state.channel.waiting side).hasSpace with
  | false =>
      rw [State.suspend, ChannelAwaiter.awaitSuspend, space]
      exact bounded.setFrame handle _
  | true =>
      rcases BoundedQueue.put_spec space (some handle) with ⟨waiting, put_eq, -, capacity_eq⟩
      have available_eq : ∀ other, (state.setWaiting side waiting).available other =
          state.available other := by
        intro other
        cases side <;> cases other <;> rfl
      rw [suspend_of_put space put_eq]
      apply setFrame
      constructor
      · intro other
        rw [← bounded.capacity other]
        cases side <;> cases other <;> first | rfl | exact capacity_eq
      · intro other something positive
        rw [available_eq] at something
        have differs : side ≠ other := by
          rintro rfl
          omega
        rw [registered_setWaiting, if_neg differs]
        exact bounded.room other something positive

theorem insert (bounded : state.Bounded maxWaiters) (handle : Handle) (value : T) :
    (state.insert handle value).Bounded maxWaiters := by
  cases space : state.channel.queue.hasSpace with
  | false =>
      rw [insert_of_full space]
      exact bounded.setFrame handle _
  | true =>
      rcases BoundedQueue.put_spec space value with ⟨queue, put_eq, -, -⟩
      rw [insert_of_put put_eq]
      apply setFrame
      exact bounded.exchange (fun other => by cases other <;> rfl)
        (state.available_writer_pos.mpr space)

theorem remove (bounded : state.Bounded maxWaiters) (handle : Handle) (point : T → Point T) :
    (state.remove handle point).Bounded maxWaiters := by
  cases isEmpty : state.channel.queue.empty with
  | true =>
      rw [remove_of_empty isEmpty]
      exact bounded.setFrame handle _
  | false =>
      rcases BoundedQueue.get_spec isEmpty with ⟨item, queue, get_eq, -, -⟩
      rw [remove_of_get get_eq]
      apply setFrame
      exact bounded.exchange (fun other => by cases other <;> rfl)
        (state.available_reader_pos.mpr isEmpty)

theorem put (bounded : state.Bounded maxWaiters) (handle : Handle) (value : T) :
    (state.put handle value).Bounded maxWaiters := by
  have positive := state.available_writer_pos
  cases space : state.channel.queue.hasSpace with
  | false =>
      rw [put_of_full space]
      simp only [space, Bool.false_eq_true, iff_false] at positive
      exact bounded.suspend handle (by omega) _
  | true =>
      rw [put_of_space space]
      exact bounded.insert handle value

/-- `get()` and one turn of `getAll()`. -/
theorem read (bounded : state.Bounded maxWaiters) (handle : Handle) (waiting : Point T)
    (point : T → Point T) :
    (if state.channel.queue.empty then state.suspend handle .reader waiting
      else state.remove handle point).Bounded maxWaiters := by
  have positive := state.available_reader_pos
  cases isEmpty : state.channel.queue.empty with
  | true =>
      simp only [isEmpty, Bool.true_eq_false, iff_false] at positive
      rw [if_pos rfl]
      exact bounded.suspend handle (by omega) waiting
  | false =>
      rw [if_neg (by simp)]
      exact bounded.remove handle point

theorem verify (bounded : state.Bounded maxWaiters) (check : Bool) :
    (state.verify check).Bounded maxWaiters :=
  bounded.congr (fun _ => rfl) (fun _ => rfl) (fun side => by cases side <;> rfl)

theorem resume (bounded : state.Bounded maxWaiters) (handle : Handle) :
    (state.resume handle).Bounded maxWaiters := by
  unfold State.resume
  split
  · exact ((bounded.verify _).destroyAwaiter handle .writer).insert handle _
  · exact ((bounded.verify _).destroyAwaiter handle .reader).remove handle _
  · exact ((bounded.verify _).destroyAwaiter handle .reader).remove handle _
  · exact bounded.read handle .getAllWaiting yielding
  all_goals exact bounded

theorem destroy (bounded : state.Bounded maxWaiters) (handle : Handle) :
    (state.destroy handle).Bounded maxWaiters := by
  unfold State.destroy
  split
  · exact (bounded.destroyAwaiter handle _).withFrame _
  · exact bounded.withFrame _

theorem call (bounded : state.Bounded maxWaiters) :
    ({ state with next := state.next + 1 } : State T).Bounded maxWaiters :=
  bounded.congr (fun _ => rfl) (fun _ => rfl) (fun side => by cases side <;> rfl)

theorem perform (bounded : state.Bounded maxWaiters) (action : Action T) :
    (action.perform state).Bounded maxWaiters := by
  cases action with
  | put value => exact bounded.call.put state.next value
  | get => exact bounded.call.read state.next .getWaiting returned
  | getAll => exact bounded.call.read state.next .getAllWaiting yielding
  | next handle =>
      simp only [Action.perform]
      split
      · exact (bounded.withLoop _).setFrame handle _
      · exact bounded
  | resumeNext =>
      simp only [Action.perform, State.resumeNext]
      split
      · exact (bounded.withLoop _).resume _
      · exact bounded.withLoop _
  | drop handle =>
      simp only [Action.perform, State.drop]
      split
      · exact bounded.destroy handle
      · exact (bounded.withLoop _).destroy handle
  | spawnOther => exact bounded.call.setFrame state.next .other
  | enqueueOther handle => exact bounded.withLoop _

end Bounded

theorem initial_bounded (capacity maxWaiters : ℕ) (capacity_lt : capacity < 2 ^ 32)
    (maxWaiters_lt : maxWaiters < 2 ^ 32) :
    (initial capacity maxWaiters capacity_lt maxWaiters_lt : State T).Bounded maxWaiters := by
  constructor
  · intro side
    cases side <;> rfl
  · intro side _ positive
    cases side <;> exact positive

/-! ## Who is refused -/

theorem refused_setFrame (state : State T) (handle : Handle) (point : Point T) :
    (state.setFrame handle point).refused handle = point.isBusy := by
  simp [refused, setFrame]

theorem suspend_refused (state : State T) (handle : Handle) {side : Side} {point : Point T}
    (waits : point.waitsAt = some side) :
    (state.suspend handle side point).refused handle =
      !(state.channel.waiting side).hasSpace := by
  cases space : (state.channel.waiting side).hasSpace with
  | false =>
      rw [suspend, ChannelAwaiter.awaitSuspend, space]
      exact refused_setFrame _ _ _
  | true =>
      rcases BoundedQueue.put_spec space (some handle) with ⟨waiting, put_eq, -, -⟩
      rw [suspend_of_put space put_eq, refused_setFrame]
      exact Point.not_isBusy_of_waitsAt waits

theorem insert_refused (state : State T) (handle : Handle) (value : T) :
    (state.insert handle value).refused handle = !state.channel.queue.hasSpace := by
  cases space : state.channel.queue.hasSpace with
  | false =>
      rw [insert_of_full space]
      exact refused_setFrame _ _ _
  | true =>
      rcases BoundedQueue.put_spec space value with ⟨queue, put_eq, -, -⟩
      rw [insert_of_put put_eq]
      exact refused_setFrame _ _ _

theorem remove_refused (state : State T) (handle : Handle) {point : T → Point T}
    (not_busy : ∀ item, (point item).isBusy = false) :
    (state.remove handle point).refused handle = false := by
  cases isEmpty : state.channel.queue.empty with
  | true =>
      rw [remove_of_empty isEmpty]
      exact refused_setFrame _ _ _
  | false =>
      rcases BoundedQueue.get_spec isEmpty with ⟨item, queue, get_eq, -, -⟩
      rw [remove_of_get get_eq]
      exact (refused_setFrame _ _ _).trans (not_busy item)

theorem put_refused (state : State T) (handle : Handle) (value : T) :
    (state.put handle value).refused handle = true ↔
      state.available .writer = 0 ∧ (state.channel.waiting .writer).hasSpace = false := by
  have positive := state.available_writer_pos
  cases space : state.channel.queue.hasSpace with
  | false =>
      simp only [space, Bool.false_eq_true, iff_false, Nat.not_lt, Nat.le_zero] at positive
      rw [put_of_full space, suspend_refused state handle rfl]
      simp [positive]
  | true =>
      have something := positive.mpr space
      rw [put_of_space space, insert_refused, space]
      simp only [Bool.not_true, Bool.false_eq_true, false_iff]
      omega

theorem read_refused (state : State T) (handle : Handle) {waiting : Point T}
    {point : T → Point T} (waits : waiting.waitsAt = some .reader)
    (not_busy : ∀ item, (point item).isBusy = false) :
    (if state.channel.queue.empty then state.suspend handle .reader waiting
      else state.remove handle point).refused handle = true ↔
      state.available .reader = 0 ∧ (state.channel.waiting .reader).hasSpace = false := by
  have positive := state.available_reader_pos
  cases isEmpty : state.channel.queue.empty with
  | true =>
      simp only [isEmpty, Bool.true_eq_false, iff_false, Nat.not_lt, Nat.le_zero] at positive
      rw [if_pos rfl, suspend_refused state handle waits]
      simp [positive]
  | false =>
      have something := positive.mpr isEmpty
      rw [if_neg (by simp), remove_refused state handle not_busy]
      simp only [Bool.false_eq_true, false_iff]
      omega

/-- Whoever asks is refused if nothing is available and the waiter queue is full. -/
theorem Asks.refused_iff {state : State T} {action : Action T} {handle : Handle} {side : Side}
    (asks : state.Asks action handle side) :
    (action.perform state).refused handle = true ↔
      state.available side = 0 ∧ (state.channel.waiting side).hasSpace = false := by
  unfold Asks at asks
  split at asks
  · subst asks
    exact put_refused _ _ _
  · subst asks
    exact read_refused _ _ rfl (fun _ => rfl)
  · subst asks
    exact read_refused _ _ rfl (fun _ => rfl)
  · rcases asks with ⟨popped, yielded⟩
    have unfolded : Action.perform state .resumeNext =
        ({ state with loop := (state.loop.getNext state.done).2 } : State T).getAll handle := by
      simp only [Action.perform, resumeNext, popped, resume]
      cases frame_eq : state.frame handle with
      | none => simp [frame_eq] at yielded
      | some point => cases point <;> simp_all
    rw [unfolded]
    exact read_refused _ _ rfl (fun _ => rfl)
  · exact asks.elim

/-- A resumed waiter ends with `UV_EBUSY` if it is a `put()` that finds no free slot. -/
theorem ResumesWaiter.refused_iff {state : State T} {action : Action T} {handle : Handle}
    {side : Side} (resumes : state.ResumesWaiter action handle side) :
    (action.perform state).refused handle = true ↔
      side = .writer ∧ state.channel.queue.hasSpace = false := by
  rcases resumes with ⟨rfl, popped, waits⟩
  rcases Option.bind_eq_some_iff.mp waits with ⟨point, frame_eq, point_waits⟩
  have unfolded : Action.perform state .resumeNext =
      ({ state with loop := (state.loop.getNext state.done).2 } : State T).resume handle := by
    simp only [Action.perform, resumeNext, popped]
  rw [unfolded]
  cases point with
  | putWaiting value =>
      obtain rfl : Side.writer = side := Option.some.inj point_waits
      simp only [resume, frame_eq, putResumed, insert_refused]
      change (!state.channel.queue.hasSpace) = true ↔ _
      simp
  | getWaiting | getAllWaiting =>
      obtain rfl : Side.reader = side := Option.some.inj point_waits
      simp only [resume, frame_eq, getResumed]
      rw [remove_refused _ _ (fun _ => rfl)]
      simp
  | yielded item suspended => simp [Point.waitsAt] at point_waits
  | finished outcome => simp [Point.waitsAt] at point_waits
  | other => simp [Point.waitsAt] at point_waits

/-- The live waiters take up the whole limit if the waiter queue is full without a tombstone. -/
theorem liveWaiters_eq_iff {state : State T} {maxWaiters : ℕ} (consistent : state.Consistent none)
    (bounded : state.Bounded maxWaiters) (side : Side) :
    state.liveWaiters side = maxWaiters ↔
      (state.channel.waiting side).hasSpace = false ∧ none ∉ state.registered side := by
  have at_most := bounded.registered_length side
  have space_iff := bounded.hasSpace_iff side
  have live_le : state.liveWaiters side ≤ (state.registered side).length := List.countP_le_length
  have all_live : state.liveWaiters side = (state.registered side).length ↔
      none ∉ state.registered side := by
    rw [liveWaiters, List.countP_eq_length]
    constructor
    · intro live tombstone
      simpa using live none tombstone
    · intro no_tombstone entry entry_mem
      cases entry with
      | none => exact absurd entry_mem no_tombstone
      | some handle => simp [(consistent.registered side handle entry_mem).2.1]
  rw [← Bool.not_eq_true, space_iff, ← all_live]
  omega

/-- The waiter limit counts live waiters in a step of any run from a new channel if and only
if no cancelled wait stands in the way there. -/
theorem limitCountsLive_iff {capacity maxWaiters : ℕ} {capacity_lt : capacity < 2 ^ 32}
    {maxWaiters_lt : maxWaiters < 2 ^ 32} {state : State T}
    (steps : (system T).Steps (initial capacity maxWaiters capacity_lt maxWaiters_lt) state)
    (action : Action T) :
    state.LimitCountsLive action maxWaiters ↔ state.NoTombstoneInTheWay action := by
  have invariant : state.Consistent none ∧ state.Bounded maxWaiters := by
    refine TransitionSystem.StepsVia.preserve
      (fun state => state.Consistent none ∧ state.Bounded maxWaiters) ?_ steps
      ⟨initial_consistent capacity maxWaiters capacity_lt maxWaiters_lt,
        initial_bounded capacity maxWaiters capacity_lt maxWaiters_lt⟩
    rintro before action ⟨consistent, bounded⟩ enabled -
    exact ⟨(step_effect consistent enabled).1, bounded.perform action⟩
  rcases invariant with ⟨consistent, bounded⟩
  have live_iff := liveWaiters_eq_iff consistent bounded
  unfold LimitCountsLive NoTombstoneInTheWay FullOfLive
  constructor
  · rintro ⟨asking, resumed⟩
    refine ⟨fun handle side asks => ?_, fun handle resumes => ?_⟩
    · have claimed := asking handle side asks
      rw [asks.refused_iff, live_iff] at claimed
      cases space : (state.channel.waiting side).hasSpace with
      | true => exact .inl rfl
      | false =>
          have not_short := mt (bounded.hasSpace_iff side).mpr (by simp [space])
          -- Something is available behind a full waiter queue only if nobody may wait at all.
          have nothing : state.available side = 0 := by
            by_contra something
            have nobody_may := mt (bounded.room side (Nat.pos_of_ne_zero something)) not_short
            have nobody : state.registered side = [] := by
              apply List.length_eq_zero_iff.mp
              have := bounded.registered_length side
              omega
            exact something (claimed.mpr ⟨space, by simp [nobody]⟩).1
          exact .inr ⟨⟨rfl, (claimed.mp ⟨nothing, space⟩).2⟩, nothing⟩
    · have claimed := resumed handle .writer resumes
      rw [resumes.refused_iff, live_iff] at claimed
      cases space : state.channel.queue.hasSpace with
      | true => exact .inl rfl
      | false => exact .inr (claimed ⟨rfl, space⟩)
  · rintro ⟨asking, resumed⟩
    refine ⟨fun handle side asks => ?_, fun handle side resumes refused => ?_⟩
    · rw [asks.refused_iff, live_iff]
      rcases asking handle side asks with space | ⟨⟨full, no_tombstone⟩, nothing⟩
      · simp [space]
      · simp [full, no_tombstone, nothing]
    · rw [resumes.refused_iff] at refused
      rcases refused with ⟨rfl, no_slot⟩
      rw [live_iff]
      rcases resumed handle resumes with space | full
      · simp [no_slot] at space
      · exact full

/-- One `get()` waits, and the only place is taken by a live coroutine. -/
theorem limitCountsLive_one_waiter :
    ((Action.get : Action ℕ).perform (initial 2 1 (by decide) (by decide))).LimitCountsLive .get
      1 := by
  have steps : (system ℕ).Steps (initial 2 1 (by decide) (by decide))
      ((Action.get : Action ℕ).perform (initial 2 1 (by decide) (by decide))) :=
    .single ⟨.get, trivial, trivial, rfl⟩
  rw [limitCountsLive_iff steps]
  refine ⟨?_, ?_⟩
  · rintro handle (_ | _) asks
    · exact .inr ⟨⟨by decide, by decide⟩, by decide⟩
    · exact asks.elim
  · rintro handle ⟨same, -⟩
    simp at same

/-- The only `get()` that waited was cancelled, nobody waits, and still the next `get()` is
refused with `UV_EBUSY`. -/
theorem cancelled_waiter_counts :
    ¬∀ (capacity maxWaiters : ℕ) (capacity_lt : capacity < 2 ^ 32)
      (maxWaiters_lt : maxWaiters < 2 ^ 32) (state : State ℕ) (action : Action ℕ),
      (system ℕ).Steps (initial capacity maxWaiters capacity_lt maxWaiters_lt) state →
      state.LimitCountsLive action maxWaiters := by
  intro counts_live
  have waiting : (system ℕ).Steps (initial 2 1 (by decide) (by decide))
      ((Action.get : Action ℕ).perform (initial 2 1 (by decide) (by decide))) :=
    .single ⟨.get, trivial, trivial, rfl⟩
  have cancelled := waiting.tail ⟨.drop 0, by decide, trivial, rfl⟩
  have refused := ((counts_live 2 1 _ _ _ .get cancelled).1 1 .reader rfl).mp (by decide)
  exact absurd refused (by decide)

end State

end Uvco.Channel
