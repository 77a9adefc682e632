import Uvco.Cancel.Invariant

/-!
# Resuming and calling coroutines, and moving promises

These steps keep the invariant: `getNext` takes a handle out of the scheduler queue
and puts the coroutine onto the stack, a call puts a new coroutine there, and promises
move between the places of running code.
-/

namespace Uvco.Cancel.World

variable {T E : Type} {world : World T E} {handle : Handle}

theorem entries_setRuntime {runtime : Runtime Awaiter} {source : Source}
    (not_queue : source ≠ .queue) (handle : Handle) :
    ({ world with runtime } : World T E).entries source handle = world.entries source handle := by
  cases source with
  | queue => exact absurd rfl not_queue
  | waiters channel side | timer frame | core producer => rfl

/-! ## Resuming -/

/-- A coroutine that `getNext` hands out is in no source any more. -/
theorem Scheduled.dequeue (scheduled : world.Scheduled) {runtime : Runtime Awaiter}
    (popped : world.runtime.getNext = (some handle, runtime)) :
    OnlyEntriesOf handle world { world with runtime } ∧
      (∀ source, ({ world with runtime } : World T E).entries source handle = 0) ∧
      runtime.status = world.runtime.status ∧
      (world.runtime.status handle).isSuspended = true := by
  rcases scheduled.consistent.getNext_some popped with
    ⟨status_eq, suspended, next_pending, other_pending⟩
  have sound := scheduled.sound handle
  have queued : 0 < world.entries .queue handle := by
    change 0 < world.runtime.pending handle
    omega
  refine ⟨⟨status_eq, rfl, fun _ live => live, ?_⟩, ?_, status_eq, suspended⟩
  · intro other differs source
    by_cases is_queue : source = .queue
    · subst is_queue
      exact other_pending other differs
    · exact entries_setRuntime is_queue other
  · intro source
    by_cases is_queue : source = .queue
    · subst is_queue
      have once := sound.once (.core 0) (by simp)
      change runtime.pending handle = 0
      change world.runtime.pending handle + _ ≤ 1 at once
      omega
    · rw [entries_setRuntime is_queue]
      exact sound.absent_of_queued queued source is_queue

/-- `await_resume` takes no entry of another coroutine away. -/
theorem awaitResume_spec (framesValid : world.FramesValid)
    (own_timer : ∀ other, world.timerHandle handle = some other → other = handle)
    (absent : ∀ source, world.entries source handle = 0) (awaiter : Awaiter) :
    OnlyEntriesOf handle world (world.awaitResume handle awaiter) ∧
      (∀ source, (world.awaitResume handle awaiter).entries source handle = 0) ∧
      (world.awaitResume handle awaiter).FramesValid := by
  cases awaiter with
  | yield => exact ⟨⟨rfl, rfl, fun _ live => live, fun _ _ _ => rfl⟩, absent, framesValid⟩
  | channel channel side =>
      refine ⟨⟨rfl, rfl, fun _ live => live, ?_⟩, ?_,
        framesValid.congr rfl rfl rfl fun _ _ _ _ done => done⟩
      · intro other differs source
        simp [awaitResume, entries_destroyChannelAwaiter, differs]
      · intro source
        simp [awaitResume, entries_destroyChannelAwaiter, absent]
  | sleep =>
      have no_timer : (world.awaitResume handle .sleep).timerHandle handle = none := by
        rw [awaitResume, timerHandle_modifyFrame]
        cases world.frame handle with
        | none => rfl
        | some frame => cases timer_eq : frame.timer <;> simp [timer_eq, TimerAwaiter.awaitResume]
      have same_core : (world.awaitResume handle .sleep).waitingHandle handle =
          world.waitingHandle handle := by
        rw [awaitResume, waitingHandle_modifyFrame]
        rfl
      have others : ∀ other source, source ≠ .timer handle →
          (world.awaitResume handle .sleep).entries source other = world.entries source other := by
        intro other source not_timer
        by_cases is_core : source = .core handle
        · simp [is_core, entries, same_core]
        · exact entries_modifyFrame_of_ne handle _ not_timer is_core
      refine ⟨onlyEntriesOf_modifyFrame handle _ ?_, ?_,
        framesValid.modifyFrame handle _ ?_ ?_ ?_ ?_⟩
      · intro other differs source
        by_cases is_timer : source = .timer handle
        · subst is_timer
          have not_registered : world.timerHandle handle ≠ some other :=
            fun registered => differs (own_timer other registered)
          change ((world.awaitResume handle .sleep).timerHandle handle).toList.count other =
            (world.timerHandle handle).toList.count other
          have not_counted : (world.timerHandle handle).toList.count other = 0 :=
            List.count_eq_zero.mpr (by simpa using not_registered)
          rw [no_timer, not_counted]
          rfl
        · exact others other source is_timer
      · intro source
        by_cases is_timer : source = .timer handle
        · simp [is_timer, entries, no_timer]
        · exact (others handle source is_timer).trans (absent source)
      · exact fun frame found => framesValid.valid handle frame found
      · exact fun frame found finished => framesValid.ended handle frame found finished
      · intro frame timer found has
        rcases Option.map_eq_some_iff.mp has with ⟨before, has_before, rfl⟩
        exact framesValid.not_closed handle frame before found has_before
      · intro _ frame _ has
        simpa using has
  | promise producer =>
      have entries_eq : ∀ other source, (world.awaitResume handle (.promise producer)).entries
          source other = world.entries source other := by
        intro other source
        refine entries_modifyFrame producer _ ?_ ?_ source
        · rw [timerHandle_modifyFrame]
          rfl
        · rw [waitingHandle_modifyFrame, waitingHandle]
          cases found : world.frame producer with
          | none => rfl
          | some frame => exact (framesValid.valid producer frame found).awaitResume_any.2.1
      refine ⟨onlyEntriesOf_modifyFrame producer _ fun other _ => entries_eq other,
        fun source => (entries_eq handle source).trans (absent source),
        framesValid.modifyFrame producer _ ?_ ?_ ?_ ?_⟩
      · exact fun frame found => (framesValid.valid producer frame found).awaitResume_any.1
      · intro frame found finished
        have valid := framesValid.valid producer frame found
        exact framesValid.ended producer frame found (valid.awaitResume_any.2.2.symm.trans finished)
      · exact fun frame timer found has => framesValid.not_closed producer frame timer found has
      · exact fun _ _ _ has => has

theorem Owned.awaitResume (owned : world.Owned) (awaiter : Awaiter) :
    (world.awaitResume handle awaiter).Owned := by
  cases awaiter with
  | yield => exact owned
  | channel channel side => exact owned.congr rfl (fun _ => rfl) rfl rfl fun _ _ waits => .inl waits
  | sleep => exact owned.modifyFrame handle _
  | promise producer => exact owned.modifyFrame producer _

theorem Invariant.resumeNext (invariant : world.Invariant) : world.resumeNext.Invariant := by
  rcases invariant with ⟨scheduled, framesValid, owned⟩
  unfold World.resumeNext
  rcases popped : world.runtime.getNext with ⟨_ | handle, runtime⟩
  · rcases scheduled.consistent.resume_nothing popped with ⟨-, unchanged⟩
    have status_eq : runtime.status = world.runtime.status :=
      funext fun other => (unchanged other).1
    have entries_eq : ∀ other source,
        ({ world with runtime } : World T E).entries source other = world.entries source other := by
      intro other source
      by_cases is_queue : source = .queue
      · subst is_queue
        exact (unchanged other).2
      · exact entries_setRuntime is_queue other
    have only : OnlyEntriesOf 0 world { world with runtime } :=
      ⟨status_eq, rfl, fun _ live => live, fun other _ => entries_eq other⟩
    refine ⟨scheduled.update only ((scheduled.sound 0).congr (congrFun status_eq 0) (entries_eq 0)),
      framesValid.congr rfl rfl rfl ?_, owned.congr rfl (fun _ => rfl) rfl rfl ?_⟩
    · exact fun other _ _ _ done => (congrFun status_eq other).trans done
    · exact fun other producer waits => .inl ((congrFun status_eq other).symm.trans waits)
  · rcases scheduled.dequeue popped with ⟨only, absent, status_eq, suspended⟩
    have frames_dequeued : ({ world with runtime } : World T E).FramesValid :=
      framesValid.congr rfl rfl rfl fun other _ _ _ done => (congrFun status_eq other).trans done
    have owned_dequeued : ({ world with runtime } : World T E).Owned :=
      owned.congr rfl (fun _ => rfl) rfl rfl
        fun other producer waits => .inl ((congrFun status_eq other).symm.trans waits)
    have not_running := scheduled.not_running suspended
    have live := scheduled.suspended_live handle suspended
    simp only [World.resume]
    cases handle_status : runtime.status handle with
    | running | done =>
        simp [← congrFun status_eq handle, handle_status, Status.isSuspended] at suspended
    | elsewhere =>
        have not_done : ({ world with runtime } : World T E).runtime.status handle ≠ .done := by
          simp [handle_status]
        exact ⟨scheduled.enter not_running only live absent,
          frames_dequeued.enter fun _ => frames_dequeued.unended not_done, owned_dequeued.enter⟩
    | waiting awaiter =>
        have own_timer : ∀ other,
            ({ world with runtime } : World T E).timerHandle handle = some other →
            other = handle :=
          fun other registered => ((scheduled.sound other).eq_of_timerHandle registered).1
        rcases awaitResume_spec frames_dequeued own_timer absent awaiter with
          ⟨only_resumed, absent_resumed, frames_resumed⟩
        have not_done : (({ world with runtime } : World T E).awaitResume handle
            awaiter).runtime.status handle ≠ .done := by
          rw [only_resumed.status_eq]
          simp [handle_status]
        exact ⟨scheduled.enter not_running (only.trans only_resumed)
            (only_resumed.live handle live) absent_resumed,
          frames_resumed.enter fun _ => frames_resumed.unended not_done,
          (owned_dequeued.awaitResume awaiter).enter⟩

/-! ## Calling a coroutine and moving promises -/

theorem Scheduled.absent_of_dead (scheduled : world.Scheduled)
    (dead : world.frame handle = none) (source : Source) : world.entries source handle = 0 := by
  by_contra present
  have expected := (scheduled.sound handle).expected source (Nat.pos_of_ne_zero present)
  have live := scheduled.suspended_live handle
  cases status_eq : world.runtime.status handle with
  | waiting awaiter | elsewhere => simp [status_eq, Status.isSuspended, dead] at live
  | running | done => simp [status_eq, Expects] at expected

theorem mem_held_store {place other : Place} {promise stored : Handle} :
    promise ∈ (world.store place stored).held other ↔
      promise ∈ world.held other ∨ (other = place ∧ promise = stored) := by
  by_cases same : other = place
  · subst same
    simp [store, or_comm]
  · simp [store, same]

theorem Owned.store (owned : world.Owned) {place : Place} {promise : Handle}
    (unheld : ∀ other, promise ∉ world.held other) (live : (world.frame promise).isSome = true)
    (holder_live : ∀ holder, place.frame = some holder → (world.frame holder).isSome = true) :
    (world.store place promise).Owned := by
  refine ⟨?_, ?_, ?_, ?_, ?_, owned.destroyed_gone, owned.destroyed_nodup⟩
  · intro handle producer waits
    have holds := owned.awaited handle producer waits
    simp only [children, List.mem_append] at holds
    simp only [children, List.mem_append, mem_held_store]
    exact holds.imp .inl .inl
  · intro other stored stored_mem
    rcases mem_held_store.mp stored_mem with older | ⟨-, rfl⟩
    · exact owned.live other stored older
    · exact live
  · intro other holder nonempty holder_eq
    by_cases same : other = place
    · exact holder_live holder (same ▸ holder_eq)
    · refine owned.holder_live other holder ?_ holder_eq
      simpa [World.store, same] using nonempty
  · intro other
    by_cases same : other = place
    · subst same
      simpa [World.store] using ⟨unheld other, owned.nodup other⟩
    · simpa [World.store, same] using owned.nodup other
  · intro first second stored in_first in_second
    rcases mem_held_store.mp in_first with first_older | ⟨rfl, rfl⟩
    · rcases mem_held_store.mp in_second with second_older | ⟨rfl, rfl⟩
      · exact owned.unique first_older second_older
      · exact absurd first_older (unheld first)
    · rcases mem_held_store.mp in_second with second_older | ⟨rfl, -⟩
      · exact absurd second_older (unheld second)
      · rfl

theorem Owned.mem_held_take (owned : world.Owned) {place other : Place} {promise taken : Handle} :
    promise ∈ (world.take place taken).held other ↔
      promise ∈ world.held other ∧ (other = place → promise ≠ taken) := by
  by_cases same : other = place
  · subst same
    simp [take, (owned.nodup other).mem_erase_iff, and_comm]
  · simp [take, same]

/-- A promise is taken out of its place, which belongs to a coroutine that does not wait. -/
theorem Owned.take (owned : world.Owned) {place : Place} (promise : Handle)
    (not_waiting : ∀ holder, place.frame = some holder →
      world.runtime.status holder = .running) : (world.take place promise).Owned := by
  refine ⟨?_, ?_, ?_, ?_, ?_, owned.destroyed_gone, owned.destroyed_nodup⟩
  · intro handle producer waits
    have holds := owned.awaited handle producer waits
    have elsewhere : ∀ other : Place, other.frame = some handle → other ≠ place := by
      rintro other other_frame rfl
      have running := not_waiting handle other_frame
      change world.runtime.status handle = _ at waits
      simp [running] at waits
    simp only [children, List.mem_append] at holds
    simp only [children, List.mem_append, owned.mem_held_take]
    exact holds.imp (fun held => ⟨held, fun same => absurd same (elsewhere _ rfl)⟩)
      (fun held => ⟨held, fun same => absurd same (elsewhere _ rfl)⟩)
  · intro other kept kept_mem
    exact owned.live other kept (owned.mem_held_take.mp kept_mem).1
  · intro other holder nonempty holder_eq
    refine owned.holder_live other holder ?_ holder_eq
    rintro empty
    rcases List.exists_mem_of_ne_nil _ nonempty with ⟨kept, kept_mem⟩
    simpa [empty] using (owned.mem_held_take.mp kept_mem).1
  · intro other
    by_cases same : other = place
    · subst same
      simpa [World.take] using (owned.nodup other).erase promise
    · simpa [World.take, same] using owned.nodup other
  · intro first second kept in_first in_second
    exact owned.unique (owned.mem_held_take.mp in_first).1 (owned.mem_held_take.mp in_second).1

theorem Owned.unheld_take (owned : world.Owned) {place : Place} {promise : Handle}
    (holds : promise ∈ world.held place) (other : Place) :
    promise ∉ (world.take place promise).held other := by
  intro still_held
  rcases owned.mem_held_take.mp still_held with ⟨in_other, differs⟩
  exact differs (owned.unique in_other holds) rfl

theorem Invariant.take (invariant : world.Invariant) {place : Place} (promise : Handle)
    (accessible : world.Accessible place) : (world.take place promise).Invariant where
  scheduled :=
    ⟨invariant.scheduled.sound, invariant.scheduled.suspended_live, invariant.scheduled.running,
      invariant.scheduled.stack_nodup⟩
  framesValid := invariant.framesValid.congr rfl rfl rfl fun _ _ _ _ done => done
  owned := invariant.owned.take promise fun holder holder_eq =>
    (invariant.scheduled.running holder (accessible holder holder_eq)).1

theorem Invariant.store (invariant : world.Invariant) {place : Place} {promise : Handle}
    (unheld : ∀ other, promise ∉ world.held other) (live : (world.frame promise).isSome = true)
    (accessible : world.Accessible place) : (world.store place promise).Invariant where
  scheduled :=
    ⟨invariant.scheduled.sound, invariant.scheduled.suspended_live, invariant.scheduled.running,
      invariant.scheduled.stack_nodup⟩
  framesValid := invariant.framesValid.congr rfl rfl rfl fun _ _ _ _ done => done
  owned := invariant.owned.store unheld live fun holder holder_eq =>
    (invariant.scheduled.running holder (accessible holder holder_eq)).2

theorem Invariant.move (invariant : world.Invariant) {promise : Handle} {source target : Place}
    (holds : promise ∈ world.held source) (source_accessible : world.Accessible source)
    (target_accessible : world.Accessible target) :
    ((world.take source promise).store target promise).Invariant :=
  (invariant.take promise source_accessible).store (invariant.owned.unheld_take holds)
    (invariant.owned.live source promise holds) target_accessible

theorem newCore_spec (handle : Handle) (void : Bool) :
    (newCore handle void : Member T E).Valid ∧
      (newCore handle void : Member T E).waitingHandle = none ∧
      (newCore handle void : Member T E).state = .init := by
  cases void with
  | false => exact ⟨⟨rfl, fun _ => rfl, by simp [newCore, Member.waitingHandle, Member.state,
      PromiseCore.setRunning]⟩, rfl, rfl⟩
  | true => exact ⟨⟨rfl, fun _ => rfl, by simp [newCore, Member.waitingHandle, Member.state,
      VoidCore.setRunning]⟩, rfl, rfl⟩

theorem FramesValid.allocate (framesValid : world.FramesValid) (void : Bool) :
    (world.allocate void).FramesValid := by
  have found_cases : ∀ handle frame, (world.allocate void).frame handle = some frame →
      frame = { core := newCore world.next void } ∨ world.frame handle = some frame := by
    intro handle frame found
    by_cases same : handle = world.next
    · subst same
      simp only [World.allocate, Function.update_self, Option.some.injEq] at found
      exact .inl found.symm
    · exact .inr (by simpa [World.allocate, same] using found)
  rcases newCore_spec (T := T) (E := E) world.next void with ⟨valid, -, is_init⟩
  constructor
  · intro handle frame found
    rcases found_cases handle frame found with rfl | older
    · exact valid
    · exact framesValid.valid handle frame older
  · intro handle frame found finished
    rcases found_cases handle frame found with rfl | older
    · simp [is_init] at finished
    · exact framesValid.ended handle frame older finished
  · intro handle frame timer found has
    rcases found_cases handle frame found with rfl | older
    · simp at has
    · exact framesValid.not_closed handle frame timer older has
  · intro handle is_armed
    have has_timer := framesValid.armed handle is_armed
    have differs : handle ≠ world.next := by
      rintro rfl
      simp [framesValid.fresh world.next (Nat.le_refl _)] at has_timer
    simpa [World.allocate, differs] using has_timer
  · intro handle is_fresh
    have beyond : world.next < handle := is_fresh
    have differs : handle ≠ world.next := Nat.ne_of_gt beyond
    simpa [World.allocate, differs] using framesValid.fresh handle (Nat.le_of_lt beyond)

theorem live_allocate {void : Bool} (was_live : (world.frame handle).isSome = true) :
    ((world.allocate void).frame handle).isSome = true := by
  by_cases same : handle = world.next
  · subst same
    simp [allocate]
  · simpa [allocate, same] using was_live

theorem Owned.allocate (owned : world.Owned) (void : Bool) : (world.allocate void).Owned where
  awaited := owned.awaited
  live place promise holds := live_allocate (owned.live place promise holds)
  holder_live place holder nonempty holder_eq :=
    live_allocate (owned.holder_live place holder nonempty holder_eq)
  nodup := owned.nodup
  unique := owned.unique
  destroyed_gone := by
    intro handle gone
    rcases owned.destroyed_gone handle gone with ⟨used, no_frame⟩
    have differs : handle ≠ world.next := Nat.ne_of_lt used
    exact ⟨Nat.lt_succ_of_lt used, by simpa [World.allocate, differs] using no_frame⟩
  destroyed_nodup := owned.destroyed_nodup

theorem entries_allocate (fresh : world.frame world.next = none) (void : Bool) (source : Source)
    (handle : Handle) :
    (world.allocate void).entries source handle = world.entries source handle := by
  cases source with
  | queue | waiters channel side => rfl
  | timer frame =>
      by_cases same : frame = world.next
      · subst same
        simp [entries, timerHandle, allocate, fresh]
      · simp [entries, timerHandle, allocate, same]
  | core producer =>
      by_cases same : producer = world.next
      · subst same
        simp [entries, waitingHandle, allocate, fresh, newCore_spec]
      · simp [entries, waitingHandle, allocate, same]

theorem Invariant.call (invariant : world.Invariant) (void : Bool) :
    (world.call void).Invariant := by
  rcases invariant with ⟨scheduled, framesValid, owned⟩
  have fresh := framesValid.fresh world.next (Nat.le_refl _)
  have not_running : world.next ∉ world.stack := by
    intro on_stack
    simpa [fresh] using (scheduled.running world.next on_stack).2
  have only : OnlyEntriesOf world.next world
      ((world.allocate void).store world.caller world.next) := by
    refine ⟨rfl, rfl, fun _ was_live => live_allocate was_live, ?_⟩
    intro other _ source
    refine Eq.trans ?_ (entries_allocate fresh void source other)
    cases source <;> rfl
  have absent : ∀ source,
      ((world.allocate void).store world.caller world.next).entries source world.next = 0 := by
    intro source
    refine Eq.trans ?_ ((entries_allocate fresh void source world.next).trans
      (scheduled.absent_of_dead fresh source))
    cases source <;> rfl
  have new_live : ((world.allocate void).frame world.next).isSome = true := by
    simp [allocate]
  have caller_live : ∀ holder, world.caller.frame = some holder →
      ((world.allocate void).frame holder).isSome = true := by
    intro holder holder_eq
    refine live_allocate (scheduled.running holder ?_).2
    cases stack_eq : world.stack with
    | nil => simp [caller, stack_eq, Place.frame] at holder_eq
    | cons running rest =>
        simp only [caller, stack_eq, Place.frame, Option.some.injEq] at holder_eq
        simp [holder_eq]
  have unheld : ∀ place, world.next ∉ world.held place := by
    intro place holds
    simpa [fresh] using owned.live place world.next holds
  have unended : ∀ frame, (world.allocate void).frame world.next = some frame →
      frame.core.state ≠ .finished := by
    intro frame found
    simp only [allocate, Function.update_self, Option.some.injEq] at found
    subst found
    simp [newCore_spec]
  have stored_frames : ((world.allocate void).store world.caller world.next).FramesValid :=
    (framesValid.allocate void).congr rfl rfl rfl fun _ _ _ _ done => done
  exact ⟨scheduled.enter not_running only new_live absent, stored_frames.enter unended,
    ((owned.allocate void).store unheld new_live caller_live).enter⟩

end Uvco.Cancel.World
