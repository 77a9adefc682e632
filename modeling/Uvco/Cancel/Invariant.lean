import Uvco.Cancel.Entries

/-!
# What holds between the steps of coroutines that own coroutines

The invariant has three parts. `Scheduled` ties the entries of every coroutine to
its status and to the call stack, `FramesValid` is about the contents of frames, and
`Owned` about who holds which promise: a promise is in one place, and a coroutine
that awaits a promise holds it.

Every step keeps the invariant. The steps that destroy coroutines follow in the
next file.
-/

namespace Uvco.Cancel.World

variable {T E : Type} {world : World T E} {handle : Handle}

/-- Entries, status and call stack agree. -/
structure Scheduled (world : World T E) : Prop where
  sound : ∀ handle, world.SoundAt handle
  suspended_live : ∀ handle, (world.runtime.status handle).isSuspended = true →
    (world.frame handle).isSome = true
  running : ∀ handle ∈ world.stack, world.runtime.status handle = .running ∧
    (world.frame handle).isSome = true
  stack_nodup : world.stack.Nodup

/-- What the frames contain. -/
structure FramesValid (world : World T E) : Prop where
  valid : ∀ handle frame, world.frame handle = some frame → frame.core.Valid
  ended : ∀ handle frame, world.frame handle = some frame → frame.core.state = .finished →
    world.runtime.status handle = .done
  not_closed : ∀ handle frame timer, world.frame handle = some frame → frame.timer = some timer →
    timer.closed = false
  armed : ∀ handle ∈ world.armed, ((world.frame handle).bind Frame.timer).isSome = true
  fresh : ∀ handle, world.next ≤ handle → world.frame handle = none

/-- Who holds which promise. -/
structure Owned (world : World T E) : Prop where
  awaited : ∀ handle producer, world.runtime.status handle = .waiting (.promise producer) →
    producer ∈ world.children handle
  live : ∀ place, ∀ promise ∈ world.held place, (world.frame promise).isSome = true
  holder_live : ∀ place holder, world.held place ≠ [] → place.frame = some holder →
    (world.frame holder).isSome = true
  nodup : ∀ place, (world.held place).Nodup
  unique : ∀ ⦃place other promise⦄, promise ∈ world.held place → promise ∈ world.held other →
    place = other
  destroyed_gone : ∀ handle ∈ world.destroyed, handle < world.next ∧ world.frame handle = none
  destroyed_nodup : world.destroyed.Nodup

/-- What holds in every world between two actions. -/
structure Invariant (world : World T E) : Prop where
  scheduled : world.Scheduled
  framesValid : world.FramesValid
  owned : world.Owned

theorem Scheduled.consistent (scheduled : world.Scheduled) : world.runtime.Consistent := by
  constructor
  · intro handle queued
    have expected := (scheduled.sound handle).expected .queue queued
    cases status_eq : world.runtime.status handle with
    | waiting awaiter | elsewhere => rfl
    | running | done => simp [status_eq, Expects] at expected
  · intro handle _
    have once := (scheduled.sound handle).once (.core 0) (by simp)
    simp only [entries] at once
    omega

theorem mem_of_head {running : Handle} (top : world.stack.head? = some running) :
    world.stack = running :: world.stack.tail :=
  List.eq_cons_of_mem_head? top

theorem Scheduled.top (scheduled : world.Scheduled) (top : world.stack.head? = some handle) :
    world.runtime.status handle = .running ∧ (world.frame handle).isSome = true ∧
      ∀ source, world.entries source handle = 0 := by
  rcases scheduled.running handle (List.mem_of_mem_head? top) with ⟨running, live⟩
  exact ⟨running, live, (scheduled.sound handle).absent_of_running running⟩

/-! ## Steps that change the entries of one coroutine -/

/-- Nothing but the entries of one coroutine has changed. -/
structure OnlyEntriesOf (handle : Handle) (before after : World T E) : Prop where
  status_eq : after.runtime.status = before.runtime.status
  stack_eq : after.stack = before.stack
  live : ∀ other, (before.frame other).isSome = true → (after.frame other).isSome = true
  entries_eq : ∀ other, other ≠ handle → ∀ source,
    after.entries source other = before.entries source other

theorem OnlyEntriesOf.trans {first second third : World T E}
    (front : OnlyEntriesOf handle first second) (back : OnlyEntriesOf handle second third) :
    OnlyEntriesOf handle first third where
  status_eq := back.status_eq.trans front.status_eq
  stack_eq := back.stack_eq.trans front.stack_eq
  live other was_live := back.live other (front.live other was_live)
  entries_eq other differs source :=
    (back.entries_eq other differs source).trans (front.entries_eq other differs source)

theorem live_modifyFrame (changed other : Handle) (update : Frame T E → Frame T E) :
    ((world.modifyFrame changed update).frame other).isSome = (world.frame other).isSome := by
  by_cases same : other = changed
  · subst same
    simp [modifyFrame]
  · simp [modifyFrame, same]

theorem onlyEntriesOf_modifyFrame (changed : Handle) (update : Frame T E → Frame T E)
    (entries_eq : ∀ other, other ≠ handle → ∀ source,
      (world.modifyFrame changed update).entries source other = world.entries source other) :
    OnlyEntriesOf handle world (world.modifyFrame changed update) :=
  ⟨rfl, rfl, fun other was_live => (live_modifyFrame changed other update).trans was_live,
    entries_eq⟩

@[simp]
theorem entries_leave (leaving other : Handle) (status : Status Awaiter) (source : Source) :
    (world.leave leaving status).entries source other = world.entries source other := by
  cases source <;> rfl

@[simp]
theorem entries_enter (entering other : Handle) (source : Source) :
    (world.enter entering).entries source other = world.entries source other := by
  cases source <;> rfl

/-- A coroutine that was registered or enqueued, but still has its status. -/
theorem Scheduled.update (scheduled : world.Scheduled) {after : World T E}
    (only : OnlyEntriesOf handle world after) (sound : after.SoundAt handle) :
    after.Scheduled := by
  refine ⟨?_, ?_, ?_, only.stack_eq ▸ scheduled.stack_nodup⟩
  · intro other
    by_cases same : other = handle
    · exact same ▸ sound
    · exact (scheduled.sound other).congr (congrFun only.status_eq other)
        (only.entries_eq other same)
  · intro other suspended
    rw [only.status_eq] at suspended
    exact only.live other (scheduled.suspended_live other suspended)
  · intro other on_stack
    rw [only.stack_eq] at on_stack
    rcases scheduled.running other on_stack with ⟨running, live⟩
    exact ⟨only.status_eq ▸ running, only.live other live⟩

/-- The running coroutine leaves the stack, registered as its new status demands. -/
theorem Scheduled.leave (scheduled : world.Scheduled) (top : world.stack.head? = some handle)
    {registered : World T E} (only : OnlyEntriesOf handle world registered)
    {status : Status Awaiter}
    (sound : Sound status handle fun source => registered.entries source handle) :
    (registered.leave handle status).Scheduled := by
  have stack_eq := mem_of_head top
  have nodup := scheduled.stack_nodup
  rw [stack_eq, List.nodup_cons] at nodup
  refine ⟨?_, ?_, ?_, ?_⟩
  · intro other
    by_cases same : other = handle
    · subst same
      unfold SoundAt
      rw [show (registered.leave other status).runtime.status other = status from
        Runtime.setStatus_status_self status]
      exact sound.congr (entries_leave other other status)
    · refine (scheduled.sound other).congr ?_ ?_
      · simp [World.leave, Runtime.setStatus, same, only.status_eq]
      · simpa using only.entries_eq other same
  · intro other suspended
    refine only.live other ?_
    by_cases same : other = handle
    · subst same
      exact (scheduled.top top).2.1
    · simp only [World.leave, Runtime.setStatus_status_of_ne _ same, only.status_eq] at suspended
      exact scheduled.suspended_live other suspended
  · intro other on_stack
    change other ∈ registered.stack.tail at on_stack
    rw [only.stack_eq] at on_stack
    have differs : other ≠ handle := fun same => nodup.1 (same ▸ on_stack)
    rcases scheduled.running other (List.mem_of_mem_tail on_stack) with ⟨running, live⟩
    refine ⟨?_, only.live other live⟩
    change (registered.runtime.setStatus handle status).status other = .running
    rw [Runtime.setStatus_status_of_ne _ differs, only.status_eq]
    exact running
  · change registered.stack.tail.Nodup
    rw [only.stack_eq]
    exact nodup.2

theorem Scheduled.enter (scheduled : world.Scheduled) (not_running : handle ∉ world.stack)
    {dequeued : World T E} (only : OnlyEntriesOf handle world dequeued)
    (live : (dequeued.frame handle).isSome = true)
    (absent : ∀ source, dequeued.entries source handle = 0) :
    (dequeued.enter handle).Scheduled := by
  refine ⟨?_, ?_, ?_, ?_⟩
  · intro other
    by_cases same : other = handle
    · subst same
      exact .of_absent (by simpa using absent)
    · refine (scheduled.sound other).congr ?_ ?_
      · simp [World.enter, Runtime.setStatus, same, only.status_eq]
      · simpa using only.entries_eq other same
  · intro other suspended
    by_cases same : other = handle
    · exact same ▸ live
    · simp only [World.enter, Runtime.setStatus_status_of_ne _ same, only.status_eq] at suspended
      exact only.live other (scheduled.suspended_live other suspended)
  · intro other on_stack
    change (dequeued.runtime.setStatus handle .running).status other = .running ∧
      (dequeued.frame other).isSome = true
    by_cases same : other = handle
    · subst same
      exact ⟨Runtime.setStatus_status_self _, live⟩
    · change other ∈ handle :: dequeued.stack at on_stack
      rw [only.stack_eq] at on_stack
      rcases scheduled.running other (List.mem_of_ne_of_mem same on_stack) with ⟨running, was_live⟩
      rw [Runtime.setStatus_status_of_ne _ same, only.status_eq]
      exact ⟨running, only.live other was_live⟩
  · change (handle :: dequeued.stack).Nodup
    rw [only.stack_eq, List.nodup_cons]
    exact ⟨not_running, scheduled.stack_nodup⟩

theorem Scheduled.not_running (scheduled : world.Scheduled)
    (suspended : (world.runtime.status handle).isSuspended = true) : handle ∉ world.stack := by
  intro on_stack
  simp [(scheduled.running handle on_stack).1, Status.isSuspended] at suspended

/-! ## Steps that change frames -/

theorem FramesValid.congr (framesValid : world.FramesValid) {after : World T E}
    (frame_eq : after.frame = world.frame) (armed_eq : after.armed = world.armed)
    (next_eq : after.next = world.next)
    (ended : ∀ handle frame, world.frame handle = some frame → frame.core.state = .finished →
      world.runtime.status handle = .done → after.runtime.status handle = .done) :
    after.FramesValid := by
  constructor
  · simpa only [frame_eq] using framesValid.valid
  · intro handle frame found finished
    rw [frame_eq] at found
    exact ended handle frame found finished (framesValid.ended handle frame found finished)
  · simpa only [frame_eq] using framesValid.not_closed
  · simpa only [frame_eq, armed_eq] using framesValid.armed
  · simpa only [frame_eq, next_eq] using framesValid.fresh

theorem FramesValid.unended (framesValid : world.FramesValid)
    (not_done : world.runtime.status handle ≠ .done) {frame : Frame T E}
    (found : world.frame handle = some frame) : frame.core.state ≠ .finished :=
  fun finished => not_done (framesValid.ended handle frame found finished)

theorem FramesValid.leave (framesValid : world.FramesValid)
    (unended : ∀ frame, world.frame handle = some frame → frame.core.state ≠ .finished)
    (status : Status Awaiter) : (world.leave handle status).FramesValid := by
  refine framesValid.congr rfl rfl rfl ?_
  intro other frame found finished done
  have differs : other ≠ handle := by
    rintro rfl
    exact unended frame found finished
  change (world.runtime.setStatus handle status).status other = .done
  rw [Runtime.setStatus_status_of_ne _ differs]
  exact done

theorem FramesValid.enter (framesValid : world.FramesValid)
    (unended : ∀ frame, world.frame handle = some frame → frame.core.state ≠ .finished) :
    (world.enter handle).FramesValid :=
  (framesValid.leave unended .running).congr rfl rfl rfl fun _ _ _ _ done => done

theorem FramesValid.modifyFrame (framesValid : world.FramesValid) (changed : Handle)
    (update : Frame T E → Frame T E)
    (valid : ∀ frame, world.frame changed = some frame → (update frame).core.Valid)
    (ended : ∀ frame, world.frame changed = some frame →
      (update frame).core.state = .finished → world.runtime.status changed = .done)
    (not_closed : ∀ frame timer, world.frame changed = some frame →
      (update frame).timer = some timer → timer.closed = false)
    (has_timer : changed ∈ world.armed → ∀ frame, world.frame changed = some frame →
      frame.timer.isSome = true → (update frame).timer.isSome = true) :
    (world.modifyFrame changed update).FramesValid := by
  have found_cases : ∀ handle frame, (world.modifyFrame changed update).frame handle = some frame →
      (handle = changed ∧ ∃ before, world.frame changed = some before ∧ frame = update before) ∨
        (handle ≠ changed ∧ world.frame handle = some frame) := by
    intro handle frame found
    by_cases same : handle = changed
    · subst same
      simp only [World.modifyFrame, Function.update_self, Option.map_eq_some_iff] at found
      rcases found with ⟨before, found, rfl⟩
      exact .inl ⟨rfl, before, found, rfl⟩
    · exact .inr ⟨same, by simpa [World.modifyFrame, same] using found⟩
  constructor
  · intro handle frame found
    rcases found_cases handle frame found with ⟨rfl, before, was, rfl⟩ | ⟨-, was⟩
    · exact valid before was
    · exact framesValid.valid handle frame was
  · intro handle frame found finished
    rcases found_cases handle frame found with ⟨rfl, before, was, rfl⟩ | ⟨-, was⟩
    · exact ended before was finished
    · exact framesValid.ended handle frame was finished
  · intro handle frame timer found has
    rcases found_cases handle frame found with ⟨rfl, before, was, rfl⟩ | ⟨-, was⟩
    · exact not_closed before timer was has
    · exact framesValid.not_closed handle frame timer was has
  · intro handle is_armed
    have before := framesValid.armed handle is_armed
    by_cases same : handle = changed
    · subst same
      cases found : world.frame handle with
      | none => simp [found] at before
      | some frame =>
          simp only [found, Option.bind_some] at before
          simpa [World.modifyFrame, found] using has_timer is_armed frame found before
    · simpa [World.modifyFrame, same] using before
  · intro handle is_fresh
    have before := framesValid.fresh handle is_fresh
    by_cases same : handle = changed
    · subst same
      simp [World.modifyFrame, before]
    · simpa [World.modifyFrame, same] using before

theorem FramesValid.disarm (framesValid : world.FramesValid) {armed : List Handle}
    (fewer : ∀ handle ∈ armed, handle ∈ world.armed) :
    ({ world with armed } : World T E).FramesValid where
  valid := framesValid.valid
  ended := framesValid.ended
  not_closed := framesValid.not_closed
  armed handle is_armed := framesValid.armed handle (fewer handle is_armed)
  fresh := framesValid.fresh

/-! ## Steps that leave the promises where they are -/

/-- A coroutine may start to await a promise that it holds. -/
theorem Owned.congr (owned : world.Owned) {after : World T E} (held_eq : after.held = world.held)
    (live_eq : ∀ handle, (after.frame handle).isSome = (world.frame handle).isSome)
    (next_eq : after.next = world.next) (destroyed_eq : after.destroyed = world.destroyed)
    (awaited : ∀ handle producer, after.runtime.status handle = .waiting (.promise producer) →
      world.runtime.status handle = .waiting (.promise producer) ∨
        producer ∈ world.children handle) : after.Owned := by
  have children_eq : after.children = world.children := by
    funext handle
    simp [children, held_eq]
  constructor
  · intro handle producer waits
    rw [children_eq]
    rcases awaited handle producer waits with before | holds
    · exact owned.awaited handle producer before
    · exact holds
  · simpa only [held_eq, live_eq] using owned.live
  · simpa only [held_eq, live_eq] using owned.holder_live
  · simpa only [held_eq] using owned.nodup
  · simpa only [held_eq] using owned.unique
  · intro handle gone
    rw [destroyed_eq] at gone
    rcases owned.destroyed_gone handle gone with ⟨used, no_frame⟩
    rw [next_eq]
    refine ⟨used, Option.not_isSome_iff_eq_none.mp ?_⟩
    rw [live_eq, no_frame]
    simp
  · simpa only [destroyed_eq] using owned.destroyed_nodup

theorem Owned.leave (owned : world.Owned) (status : Status Awaiter)
    (awaited : ∀ producer, status = .waiting (.promise producer) →
      producer ∈ world.children handle) : (world.leave handle status).Owned := by
  refine owned.congr rfl (fun _ => rfl) rfl rfl ?_
  intro other producer waits
  change (world.runtime.setStatus handle status).status other = _ at waits
  by_cases same : other = handle
  · subst same
    rw [Runtime.setStatus_status_self] at waits
    exact .inr (awaited producer waits)
  · rw [Runtime.setStatus_status_of_ne _ same] at waits
    exact .inl waits

theorem Owned.enter (owned : world.Owned) : (world.enter handle).Owned :=
  (owned.leave .running (by simp)).congr rfl (fun _ => rfl) rfl rfl fun _ _ waits => .inl waits

theorem Owned.modifyFrame (owned : world.Owned) (changed : Handle)
    (update : Frame T E → Frame T E) : (world.modifyFrame changed update).Owned :=
  owned.congr rfl (fun handle => live_modifyFrame changed handle update) rfl rfl
    fun _ _ waits => .inl waits

end Uvco.Cancel.World
