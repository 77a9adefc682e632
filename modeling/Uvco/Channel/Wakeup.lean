import Uvco.Channel.Effects

/-!
# Wakeups of channel waiters

Two properties of `uvco/channel.h` under arbitrary interleavings.

*No lost wakeup*: when no woken coroutine is left in the scheduler queue, nobody
is registered who could proceed. The code keeps this up as long as no woken
coroutine is dropped with the item or slot it was woken for still there: the
destructor of the awaiter clears the registration, but does not pass the wakeup
on to the next waiter.

*A woken waiter succeeds*: it finds the item or the slot it was woken for. The
code keeps this up as long as nobody takes, without waiting, an item or a slot
that a woken coroutine is on its way to.
-/

namespace Uvco.Channel

variable {T : Type}

namespace State

theorem initial_consistent (capacity maxWaiters : ℕ) (capacity_lt : capacity < 2 ^ 32)
    (maxWaiters_lt : maxWaiters < 2 ^ 32) :
    (initial capacity maxWaiters capacity_lt maxWaiters_lt : State T).Consistent none := by
  have nobody : ∀ side, (initial capacity maxWaiters capacity_lt maxWaiters_lt :
      State T).registered side = [] := by
    intro side
    cases side <;> rfl
  constructor
  · exact fun _ _ => rfl
  · simp
  · simp [initial, resumable]
  · simp [initial, resumable]
  · simp [nobody]
  · simp [nobody]

/-- Between two steps of a run, the waiter queues, the scheduler queue and the frames agree. -/
theorem consistent_of_reachable {Allowed : State T → Action T → Prop} {state : State T}
    (reached : (system T).ReachableVia Allowed state) : state.Consistent none := by
  refine TransitionSystem.ReachableVia.invariant (fun state => state.Consistent none) ?_ ?_ reached
  · rintro _ ⟨capacity, maxWaiters, capacity_lt, maxWaiters_lt, rfl⟩
    exact initial_consistent capacity maxWaiters capacity_lt maxWaiters_lt
  · exact fun _ _ consistent enabled _ => (step_effect consistent enabled).1

/-! ## Lost wakeups -/

/-- Nobody that this channel has woken waits in the scheduler queue. -/
def NoneWoken (state : State T) : Prop :=
  ∀ handle, some handle ∈ state.resumable → state.waitsAt handle = none

/-- A live coroutine is registered in the waiter queue of a side. -/
def LiveWaiter (state : State T) (side : Side) : Prop :=
  ∃ handle, some handle ∈ state.registered side ∧ state.waitsAt handle = some side

/-- Once every woken coroutine has run, nobody who could proceed is left waiting. -/
def NoLostWakeup (state : State T) : Prop :=
  state.NoneWoken →
    ¬(state.channel.queue.empty = false ∧ state.LiveWaiter .reader) ∧
      ¬(state.channel.queue.hasSpace = true ∧ state.LiveWaiter .writer)

/-- A woken coroutine is dropped only if nobody else of its side is registered, or if what it
was woken for is gone already. -/
def WakeupNotDropped (state : State T) (action : Action T) : Prop :=
  ∀ side, state.DropsWoken action side →
    ¬state.LiveWaiter side ∨ state.available side < state.woken side

/-- If somebody is registered, a woken coroutine is on its way to everything available. -/
def Served (state : State T) (side : Side) : Prop :=
  (∃ handle, some handle ∈ state.registered side) → state.available side ≤ state.woken side

theorem Takes.served {before after : State T} {side : Side} {used : ℕ}
    (takes : Takes before after side used) (at_most_one : used ≤ 1)
    (served : ∀ side, before.Served side) : ∀ side, after.Served side := by
  intro target
  rintro ⟨handle, registered⟩
  by_cases same : target = side
  · subst same
    have before_served := served target ⟨handle, takes.registered handle registered⟩
    have available := takes.available
    have woken := takes.woken
    omega
  · obtain rfl := Side.eq_opposite same
    rcases takes.wakes with ⟨nobody, -⟩ | ⟨somebody, woken⟩
    · exact absurd ⟨handle, registered⟩ nobody
    · have before_served := served _ somebody
      rw [takes.gives, woken]
      omega

theorem Effect.served {before after : State T} {action : Action T}
    (effect : Effect before action after) (consistent : before.Consistent none)
    (allowed : before.WakeupNotDropped action) (served : ∀ side, before.Served side) :
    ∀ side, after.Served side := by
  intro target
  rintro ⟨handle, registered⟩
  cases effect with
  | idle available woken registered_before _ =>
      rw [available, woken]
      exact served target ⟨handle, registered_before target handle registered⟩
  | waits side nothing available woken registered_before _ =>
      rw [available, woken]
      by_cases same : target = side
      · rw [same, nothing]
        exact Nat.zero_le _
      · obtain rfl := Side.eq_opposite same
        exact served _ ⟨handle, registered_before handle registered⟩
  | takes side _ takes _ =>
      exact takes.served (Nat.zero_le 1) served target ⟨handle, registered⟩
  | resumed side takes _ =>
      exact takes.served (Nat.le_refl 1) served target ⟨handle, registered⟩
  | failed side nothing available woken otherWoken registered_before =>
      have before_served := served target ⟨handle, registered_before target handle registered⟩
      rw [available]
      by_cases same : target = side
      · rw [same, nothing]
        exact Nat.zero_le _
      · obtain rfl := Side.eq_opposite same
        rw [otherWoken]
        exact before_served
  | dropped side drops available woken otherWoken registered_before _ =>
      have was_registered := registered_before target handle registered
      have before_served := served target ⟨handle, was_registered⟩
      rw [available]
      by_cases same : target = side
      · subst same
        have waits := (consistent.registered target handle was_registered).2.1
        rcases allowed target drops with nobody | gone
        · exact absurd ⟨handle, was_registered, waits⟩ nobody
        · omega
      · obtain rfl := Side.eq_opposite same
        rw [otherWoken]
        exact before_served

theorem noLostWakeup_of_served {state : State T} (served : ∀ side, state.Served side) :
    state.NoLostWakeup := by
  intro none_woken
  have nobody : ∀ side, state.woken side = 0 := by
    intro side
    rw [woken, List.countP_eq_zero]
    intro entry entry_mem
    cases entry with
    | none => simp [wokenAt]
    | some handle => simp [wokenAt, none_woken handle entry_mem]
  constructor
  · rintro ⟨nonempty, handle, registered, -⟩
    have := served .reader ⟨handle, registered⟩
    rw [nobody] at this
    have := (available_reader_pos state).mpr nonempty
    omega
  · rintro ⟨space, handle, registered, -⟩
    have := served .writer ⟨handle, registered⟩
    rw [nobody] at this
    have := (available_writer_pos state).mpr space
    omega

/-- As long as no wakeup is dropped, none is lost. -/
theorem noLostWakeup_of_reachableVia {state : State T}
    (reached : (system T).ReachableVia WakeupNotDropped state) : state.NoLostWakeup := by
  have invariant : state.Consistent none ∧ ∀ side, state.Served side := by
    refine TransitionSystem.ReachableVia.invariant
      (fun state => state.Consistent none ∧ ∀ side, state.Served side) ?_ ?_ reached
    · rintro _ ⟨capacity, maxWaiters, capacity_lt, maxWaiters_lt, rfl⟩
      refine ⟨initial_consistent capacity maxWaiters capacity_lt maxWaiters_lt, ?_⟩
      rintro side ⟨handle, registered⟩
      cases side <;> simp [State.registered, initial, create, waiting] at registered
    · rintro before action ⟨consistent, served⟩ enabled allowed
      rcases step_effect consistent enabled with ⟨after_consistent, effect⟩
      exact ⟨after_consistent, effect.served consistent allowed served⟩
  exact noLostWakeup_of_served invariant.2

/-- Two readers wait, the first is woken by a `put()` and runs: the second goes on waiting on
an empty queue. -/
theorem noLostWakeup_two_readers :
    (([.get, .get, .put 7, .resumeNext] : List (Action ℕ)).foldl Action.perform
      (initial 2 16 (by decide) (by decide))).NoLostWakeup := by
  have start : (system ℕ).ReachableVia WakeupNotDropped
      (initial 2 16 (by decide) (by decide)) := .start ⟨2, 16, by decide, by decide, rfl⟩
  have first_reader := start.step Action.get trivial (fun _ drops => drops.elim)
  have second_reader := first_reader.step Action.get trivial (fun _ drops => drops.elim)
  have inserted := second_reader.step (Action.put 7) trivial (fun _ drops => drops.elim)
  exact noLostWakeup_of_reachableVia
    (inserted.step Action.resumeNext trivial (fun _ drops => drops.elim))

/-- Two readers wait, a `put()` wakes the first, and its promise is dropped before it runs: the
second stays registered although the item is there, and nobody is left to wake it. -/
theorem lostWakeup_of_dropped_reader :
    ¬∀ state, (system ℕ).Reachable state → 1 ≤ state.channel.queue.capacity →
      state.NoLostWakeup := by
  intro never_lost
  obtain ⟨state, reached, capacity, nobody_queued, nonempty, registered, waits⟩ :=
    (system ℕ).exists_reachableVia_of_replay (fun _ _ => True)
      [.get, .get, .put 7, .drop 0]
      (fun state : State ℕ => 1 ≤ state.channel.queue.capacity ∧ state.resumable = [none] ∧
        state.channel.queue.empty = false ∧ state.registered .reader = [some 1] ∧
        state.waitsAt 1 = some .reader)
      (.start ⟨2, 16, by decide, by decide, rfl⟩) (by decide)
  have none_woken : state.NoneWoken := by
    intro handle queued
    simp [nobody_queued] at queued
  exact (never_lost state reached capacity none_woken).1 ⟨nonempty, 1, by simp [registered], waits⟩

/-! ## Woken waiters -/

/-- The coroutine that the scheduler is about to resume finds what it waited for. -/
def ResumedFinds (state : State T) : Prop :=
  ∀ handle loop, state.loop.getNext state.done = (some handle, loop) →
    (state.waitsAt handle = some .reader → state.channel.queue.empty = false) ∧
      (state.waitsAt handle = some .writer → state.channel.queue.hasSpace = true)

/-- Woken waiters succeed: the next one will, and none has failed so far. -/
def WokenSucceed (state : State T) : Prop :=
  state.ResumedFinds ∧ state.Clean

/-- Nobody takes, without waiting, what a woken coroutine is on its way to. -/
def NotTakenOver (state : State T) (action : Action T) : Prop :=
  ∀ side, state.TakesDirectly action side → state.woken side < state.available side

/-- There is an item or a slot for every woken coroutine. -/
def Reserved (state : State T) (side : Side) : Prop :=
  state.woken side ≤ state.available side

theorem Takes.reserved {before after : State T} {side : Side} {used : ℕ}
    (takes : Takes before after side used)
    (enough : before.woken side < before.available side + used)
    (reserved : ∀ side, before.Reserved side) : ∀ side, after.Reserved side := by
  intro target
  have before_reserved := reserved target
  unfold Reserved at before_reserved ⊢
  by_cases same : target = side
  · subst same
    have available := takes.available
    have woken := takes.woken
    omega
  · obtain rfl := Side.eq_opposite same
    rw [takes.gives]
    rcases takes.wakes with ⟨-, woken⟩ | ⟨-, woken⟩ <;> omega

theorem Effect.reserved {before after : State T} {action : Action T}
    (effect : Effect before action after) (allowed : before.NotTakenOver action)
    (reserved : ∀ side, before.Reserved side) (clean : before.Clean) :
    (∀ side, after.Reserved side) ∧ after.Clean := by
  cases effect with
  | idle available woken _ after_clean | waits _ _ available woken _ after_clean =>
      refine ⟨fun target => ?_, after_clean clean⟩
      rw [Reserved, available, woken]
      exact reserved target
  | takes side direct takes after_clean =>
      exact ⟨takes.reserved (allowed side direct) reserved, after_clean clean⟩
  | resumed side takes after_clean =>
      exact ⟨takes.reserved (Nat.lt_succ_of_le (reserved side)) reserved, after_clean clean⟩
  | failed side nothing _ woken _ _ =>
      -- A coroutine was woken, but nothing is reserved for it.
      have before_reserved := reserved side
      rw [Reserved, nothing] at before_reserved
      omega
  | dropped side _ available woken otherWoken _ after_clean =>
      refine ⟨fun target => ?_, after_clean clean⟩
      have before_reserved := reserved target
      rw [Reserved] at before_reserved ⊢
      rw [available]
      by_cases same : target = side
      · subst same
        omega
      · obtain rfl := Side.eq_opposite same
        omega

theorem woken_pos_of_getNext {state : State T} {handle : Handle} {loop : Loop} {side : Side}
    (popped : state.loop.getNext state.done = (some handle, loop))
    (waits : state.waitsAt handle = some side) : 0 < state.woken side := by
  rcases Loop.getNext_some popped with ⟨skipped, resumable_eq, -, skipped_done⟩
  rw [woken_handOut resumable_eq skipped_done, if_pos waits]
  exact Nat.succ_pos _

/-- As long as nobody takes over what woken coroutines wait for, they succeed. -/
theorem wokenSucceed_of_reachableVia {state : State T}
    (reached : (system T).ReachableVia NotTakenOver state) : state.WokenSucceed := by
  have invariant : state.Consistent none ∧ (∀ side, state.Reserved side) ∧ state.Clean := by
    refine TransitionSystem.ReachableVia.invariant
      (fun state => state.Consistent none ∧ (∀ side, state.Reserved side) ∧ state.Clean)
      ?_ ?_ reached
    · rintro _ ⟨capacity, maxWaiters, capacity_lt, maxWaiters_lt, rfl⟩
      refine ⟨initial_consistent capacity maxWaiters capacity_lt maxWaiters_lt, ?_, rfl, ?_⟩
      · intro side
        simp [Reserved, woken, initial, resumable]
      · simp [initial]
    · rintro before action ⟨consistent, reserved, clean⟩ enabled allowed
      rcases step_effect consistent enabled with ⟨after_consistent, effect⟩
      exact ⟨after_consistent, effect.reserved allowed reserved clean⟩
  rcases invariant with ⟨-, reserved, clean⟩
  refine ⟨fun handle loop popped => ⟨fun waits => ?_, fun waits => ?_⟩, clean⟩
  · exact (available_reader_pos state).mp
      (Nat.lt_of_lt_of_le (woken_pos_of_getNext popped waits) (reserved .reader))
  · exact (available_writer_pos state).mp
      (Nat.lt_of_lt_of_le (woken_pos_of_getNext popped waits) (reserved .writer))

/-- A `get()` waits, is woken by a `put()` and runs before anybody else. -/
theorem wokenSucceed_one_reader :
    (([.get, .put 7, .resumeNext] : List (Action ℕ)).foldl Action.perform
      (initial 2 16 (by decide) (by decide))).WokenSucceed := by
  have start : (system ℕ).ReachableVia NotTakenOver
      (initial 2 16 (by decide) (by decide)) := .start ⟨2, 16, by decide, by decide, rfl⟩
  have reader := start.step Action.get trivial (by
    rintro (_ | _) ⟨available, takes⟩
    · exact absurd available (by decide)
    · exact takes.elim)
  have inserted := reader.step (Action.put 7) trivial (by
    rintro (_ | _) ⟨available, takes⟩
    · exact takes.elim
    · decide)
  refine wokenSucceed_of_reachableVia (inserted.step Action.resumeNext trivial ?_)
  rintro (_ | _) ⟨available, takes⟩
  · rcases takes with ⟨handle, popped, yielded⟩
    obtain rfl : handle = 0 := Option.some.inj (popped.symm.trans (by decide))
    exact absurd yielded (by decide)
  · exact takes.elim

/-- A `get()` is woken by a `put()`, but before it runs another `get()` takes the item without
waiting: the woken one finds an empty queue. -/
theorem woken_reader_fails :
    ¬∀ state, (system ℕ).Reachable state → state.WokenSucceed := by
  intro always
  obtain ⟨state, reached, not_verified⟩ :=
    (system ℕ).exists_reachableVia_of_replay (fun _ _ => True)
      [.get, .put 7, .get, .resumeNext]
      (fun state : State ℕ => state.verified = false)
      (.start ⟨2, 16, by decide, by decide, rfl⟩) (by decide)
  have verified := (always state reached).2.1
  simp [not_verified] at verified

end State

end Uvco.Channel
