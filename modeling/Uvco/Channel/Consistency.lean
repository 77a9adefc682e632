import Uvco.Channel.Basic

/-!
# Waiter queues, scheduler queue and frames agree

`Consistent` ties the three places that hold coroutine handles together: a
non-null entry of a waiter queue is a coroutine suspended on that side and not
yet woken, an entry of the scheduler queue is a coroutine that may be resumed,
and neither holds a coroutine twice. While a coroutine runs on the stack
(`current`), nothing refers to it.

The lemmas follow the operations that the coroutines are made of: registering,
waking the next waiter, being handed out by the scheduler, ending at a new
suspension point, and being dropped.
-/

namespace Uvco.Channel

variable {T : Type}

/-- The scheduler may hold the handle of a coroutine suspended at this point. -/
def Point.Resumable : Point T → Prop
  | .putWaiting _ | .getWaiting | .getAllWaiting | .yielded _ false | .other => True
  | .yielded _ true | .finished _ => False

theorem Point.Resumable.of_waitsAt {point : Point T} {side : Side}
    (waits : point.waitsAt = some side) : point.Resumable := by
  cases point <;> simp_all [Point.waitsAt, Point.Resumable]

namespace State

/-- The handles that the scheduler will resume, in this order. -/
abbrev resumable (state : State T) : List (Option Handle) :=
  state.loop.scheduler.resumable

/-- The contents of the waiter queue of a side, tombstones included. -/
def registered (state : State T) (side : Side) : List (Option Handle) :=
  (state.channel.waiting side).toList

/-- The side on which the coroutine behind a handle waits. -/
def waitsAt (state : State T) (handle : Handle) : Option Side :=
  (state.frame handle).bind Point.waitsAt

/-- Wake the first live waiter of a side. -/
def awake (state : State T) (side : Side) : State T :=
  let (channel, loop) := state.channel.awake side state.loop
  { state with channel, loop }

@[simp]
theorem registered_setWaiting (state : State T) (side other : Side)
    (waiting : BoundedQueue (Option Handle)) :
    (state.setWaiting side waiting).registered other =
      if side = other then waiting.toList else state.registered other := by
  cases side <;> cases other <;> rfl

@[simp]
theorem registered_setFrame (state : State T) (handle : Handle) (point : Point T) (side : Side) :
    (state.setFrame handle point).registered side = state.registered side := rfl

@[simp]
theorem registered_destroyAwaiter (state : State T) (handle : Handle) (side other : Side) :
    (state.destroyAwaiter handle side).registered other =
      if side = other then
        (state.registered other).map fun entry => if entry = some handle then none else entry
      else state.registered other := by
  by_cases same : side = other
  · subst same
    rw [destroyAwaiter, registered_setWaiting, if_pos rfl, if_pos rfl, ChannelAwaiter.destroy,
      BoundedQueue.toList_forEach]
    rfl
  · simp [destroyAwaiter, same]

@[simp]
theorem waitsAt_setFrame_self (state : State T) (handle : Handle) (point : Point T) :
    (state.setFrame handle point).waitsAt handle = point.waitsAt := by
  simp [waitsAt, setFrame]

theorem waitsAt_setFrame_of_ne (state : State T) {handle other : Handle} (point : Point T)
    (differs : other ≠ handle) :
    (state.setFrame handle point).waitsAt other = state.waitsAt other := by
  simp [waitsAt, setFrame, differs]

/-- The loop of `awake_reader` pops tombstones up to the first live waiter. -/
theorem awakeFrom_spec (turns : ℕ) (waiting : BoundedQueue (Option Handle)) (loop : Loop)
    (enough : waiting.toList.length ≤ turns) :
    ((∀ handle, some handle ∉ waiting.toList) ∧ (awakeFrom turns waiting loop).2 = loop ∧
        (awakeFrom turns waiting loop).1.toList = []) ∨
      ∃ skipped handle rest, waiting.toList = skipped ++ some handle :: rest ∧
        (∀ entry ∈ skipped, entry = none) ∧
        (awakeFrom turns waiting loop).2 = loop.enqueue handle ∧
        (awakeFrom turns waiting loop).1.toList = rest := by
  induction turns generalizing waiting with
  | zero =>
      have nothing : waiting.toList = [] := List.length_eq_zero_iff.mp (by omega)
      left
      simp [awakeFrom, nothing]
  | succ turns ih =>
      cases isEmpty : waiting.empty with
      | true =>
          left
          have nothing := (waiting.empty_iff).mp isEmpty
          simp [awakeFrom, isEmpty, nothing]
      | false =>
          rcases BoundedQueue.get_spec isEmpty with ⟨entry, rest, get_eq, contents, -⟩
          have shorter : rest.toList.length ≤ turns := by
            rw [contents, List.length_cons] at enough
            omega
          rcases entry with _ | handle
          · have unfolded : awakeFrom (turns + 1) waiting loop = awakeFrom turns rest loop := by
              simp [awakeFrom, isEmpty, get_eq]
            rw [unfolded, contents]
            rcases ih rest shorter with ⟨none_live, loop_eq, rest_eq⟩ |
              ⟨skipped, handle, behind, rest_eq, skipped_null, loop_eq, behind_eq⟩
            · exact .inl ⟨by simpa using none_live, loop_eq, rest_eq⟩
            · refine .inr ⟨none :: skipped, handle, behind, by rw [rest_eq]; rfl, ?_, loop_eq,
                behind_eq⟩
              simpa using skipped_null
          · right
            exact ⟨[], handle, rest.toList, by rw [contents]; rfl, by simp,
              by simp [awakeFrom, isEmpty, get_eq], by simp [awakeFrom, isEmpty, get_eq]⟩

/-- Waking a side: either nobody is registered there, or the first live waiter moves on
to the scheduler queue. -/
theorem awake_cases (state : State T) (side : Side) :
    ((∀ handle, some handle ∉ state.registered side) ∧ (state.awake side).loop = state.loop ∧
        (state.awake side).registered side = []) ∨
      ∃ skipped handle rest, state.registered side = skipped ++ some handle :: rest ∧
        (∀ entry ∈ skipped, entry = none) ∧
        (state.awake side).loop = state.loop.enqueue handle ∧
        (state.awake side).registered side = rest := by
  have after_registered : (state.awake side).registered side =
      (awakeFrom (state.channel.waiting side).size (state.channel.waiting side)
        state.loop).1.toList := by
    cases side <;> rfl
  rw [after_registered]
  exact awakeFrom_spec _ _ _ (Nat.le_of_eq (BoundedQueue.size_eq_length _).symm)

theorem registered_awake_of_ne (state : State T) {side other : Side} (differs : side ≠ other) :
    (state.awake side).registered other = state.registered other := by
  cases side <;> cases other <;> first | rfl | exact absurd rfl differs

/-- The handles held by the channel, the scheduler and the frame table agree; nothing refers
to the running coroutine `current`. -/
structure Consistent (state : State T) (current : Option Handle) : Prop where
  fresh : ∀ handle, state.next ≤ handle → state.frame handle = none
  current_lt : ∀ handle, current = some handle → handle < state.next
  queued : ∀ handle, some handle ∈ state.resumable → current ≠ some handle ∧
    ∃ point, state.frame handle = some point ∧ point.Resumable
  once : ∀ handle, state.frame handle ≠ some .other → state.resumable.count (some handle) ≤ 1
  registered : ∀ side handle, some handle ∈ state.registered side →
    current ≠ some handle ∧ state.waitsAt handle = some side ∧ some handle ∉ state.resumable
  registered_once : ∀ side handle, (state.registered side).count (some handle) ≤ 1

namespace Consistent

variable {state : State T} {current : Option Handle} {handle : Handle}

theorem current_not_queued (consistent : state.Consistent (some handle)) :
    some handle ∉ state.resumable :=
  fun queued => (consistent.queued handle queued).1 rfl

theorem current_not_registered (consistent : state.Consistent (some handle)) (side : Side) :
    some handle ∉ state.registered side :=
  fun registered => (consistent.registered side handle registered).1 rfl

/-- The components other than queues, frames and fresh addresses do not matter. -/
theorem congr {after : State T} (consistent : state.Consistent current)
    (frame_eq : after.frame = state.frame) (next_eq : after.next = state.next)
    (resumable_eq : after.resumable = state.resumable)
    (registered_eq : ∀ side, after.registered side = state.registered side) :
    after.Consistent current := by
  constructor
  · simpa only [frame_eq, next_eq] using consistent.fresh
  · simpa only [next_eq] using consistent.current_lt
  · simpa only [frame_eq, resumable_eq] using consistent.queued
  · simpa only [frame_eq, resumable_eq] using consistent.once
  · simpa only [waitsAt, frame_eq, resumable_eq, registered_eq] using consistent.registered
  · simpa only [registered_eq] using consistent.registered_once

theorem setFrame (consistent : state.Consistent (some handle)) (point : Point T) :
    (state.setFrame handle point).Consistent none := by
  have not_queued := consistent.current_not_queued
  constructor
  · intro other other_ge
    have differs : other ≠ handle := by
      rintro rfl
      exact Nat.not_lt.mpr other_ge (consistent.current_lt other rfl)
    simpa [State.setFrame, differs] using consistent.fresh other other_ge
  · simp
  · intro other queued
    have differs : other ≠ handle := fun same => not_queued (same ▸ queued)
    simpa [State.setFrame, differs] using (consistent.queued other queued).2
  · intro other not_other
    by_cases same : other = handle
    · subst same
      exact Nat.le_succ_of_le (Nat.le_of_eq (List.count_eq_zero.mpr not_queued))
    · exact consistent.once other (by simpa [State.setFrame, same] using not_other)
  · intro side other registered
    rcases consistent.registered side other registered with ⟨is_current, waits, not_resumable⟩
    have differs : other ≠ handle := fun same => is_current (by rw [same])
    exact ⟨by simp, by rw [waitsAt_setFrame_of_ne _ _ differs]; exact waits, not_resumable⟩
  · exact consistent.registered_once

/-- The running coroutine suspends on a side and is appended to its waiter queue. -/
theorem register (consistent : state.Consistent (some handle)) {side : Side} {point : Point T}
    (waits : point.waitsAt = some side) {waiting : BoundedQueue (Option Handle)}
    (appended : waiting.toList = state.registered side ++ [some handle]) :
    ((state.setWaiting side waiting).setFrame handle point).Consistent none := by
  have suspended := consistent.setFrame point
  have not_queued := consistent.current_not_queued
  constructor
  · exact suspended.fresh
  · exact suspended.current_lt
  · exact suspended.queued
  · exact suspended.once
  · intro otherSide other registered
    have cases_of_mem : some other ∈ state.registered otherSide ∨
        (side = otherSide ∧ other = handle) := by
      simp only [registered_setFrame, registered_setWaiting] at registered
      split at registered
      · rename_i same
        subst same
        rw [appended] at registered
        simpa using registered
      · exact .inl registered
    rcases cases_of_mem with older | ⟨rfl, rfl⟩
    · exact suspended.registered otherSide other older
    · refine ⟨by simp, ?_, not_queued⟩
      rw [waitsAt_setFrame_self]
      exact waits
  · intro otherSide other
    simp only [registered_setFrame, registered_setWaiting]
    split
    · rename_i same
      subst same
      have absent := List.count_eq_zero.mpr (consistent.current_not_registered side)
      have older := consistent.registered_once side other
      rw [appended, List.count_append, List.count_singleton]
      by_cases newest : other = handle
      · subst newest
        simp [absent]
      · simpa [newest, Ne.symm newest] using older
    · exact consistent.registered_once otherSide other

theorem awake (consistent : state.Consistent current) (side : Side) :
    (state.awake side).Consistent current := by
  rcases state.awake_cases side with ⟨none_live, loop_eq, registered_eq⟩ |
    ⟨skipped, woken, rest, registered_before, skipped_null, loop_eq, registered_eq⟩
  · -- Only tombstones were popped.
    have unchanged : ∀ other woken, some woken ∈ (state.awake side).registered other →
        some woken ∈ state.registered other := by
      intro other woken registered
      by_cases same : side = other
      · subst same
        simp [registered_eq] at registered
      · rwa [registered_awake_of_ne _ same] at registered
    constructor
    · exact consistent.fresh
    · exact consistent.current_lt
    · rw [resumable, loop_eq]
      exact consistent.queued
    · rw [resumable, loop_eq]
      exact consistent.once
    · intro other handle registered
      rw [resumable, loop_eq]
      exact consistent.registered other handle (unchanged other handle registered)
    · intro other handle
      by_cases same : side = other
      · subst same
        simp [registered_eq]
      · rw [registered_awake_of_ne _ same]
        exact consistent.registered_once other handle
  · have woken_registered : some woken ∈ state.registered side := by simp [registered_before]
    rcases consistent.registered side woken woken_registered with
      ⟨not_current, waits, not_queued⟩
    have woken_gone : some woken ∉ rest := by
      have := consistent.registered_once side woken
      rw [registered_before, List.count_append, List.count_cons_self] at this
      exact List.count_eq_zero.mp (by omega)
    have resumable_eq : (state.awake side).resumable = state.resumable ++ [some woken] := by
      simp [resumable, loop_eq, Scheduler.enqueue]
    have unchanged : ∀ other handle, some handle ∈ (state.awake side).registered other →
        some handle ∈ state.registered other ∧ handle ≠ woken := by
      intro other handle registered
      by_cases same : side = other
      · subst same
        rw [registered_eq] at registered
        exact ⟨by simp [registered_before, registered], fun same => woken_gone (same ▸ registered)⟩
      · rw [registered_awake_of_ne _ same] at registered
        refine ⟨registered, ?_⟩
        rintro rfl
        have := (consistent.registered other handle registered).2.1
        rw [waits] at this
        exact same (Option.some.inj this)
    constructor
    · exact consistent.fresh
    · exact consistent.current_lt
    · intro handle queued
      rw [resumable_eq, List.mem_append, List.mem_singleton] at queued
      rcases queued with older | newest
      · exact consistent.queued handle older
      · obtain rfl := Option.some.inj newest
        rcases Option.bind_eq_some_iff.mp waits with ⟨point, frame_eq, point_waits⟩
        exact ⟨not_current, point, frame_eq, .of_waitsAt point_waits⟩
    · intro handle not_other
      have before := consistent.once handle not_other
      rw [resumable_eq, List.count_append, List.count_singleton]
      by_cases newest : handle = woken
      · subst newest
        simp [List.count_eq_zero.mpr not_queued]
      · simpa [newest, Ne.symm newest] using before
    · intro other handle registered
      rcases unchanged other handle registered with ⟨before, differs⟩
      rcases consistent.registered other handle before with ⟨is_current, waits_there, absent⟩
      refine ⟨is_current, waits_there, ?_⟩
      rw [resumable_eq]
      simp [absent, differs]
    · intro other handle
      by_cases same : side = other
      · subst same
        have before := consistent.registered_once side handle
        rw [registered_before, List.count_append, List.count_cons] at before
        rw [registered_eq]
        omega
      · rw [registered_awake_of_ne _ same]
        exact consistent.registered_once other handle

theorem dequeue (consistent : state.Consistent none) {loop : Loop}
    (remaining : loop.scheduler.resumable.Sublist state.resumable) :
    ({ state with loop } : State T).Consistent none := by
  constructor
  · exact consistent.fresh
  · simp
  · intro handle queued
    exact consistent.queued handle (remaining.subset queued)
  · intro handle not_other
    exact Nat.le_trans (remaining.count_le _) (consistent.once handle not_other)
  · intro side handle registered
    rcases consistent.registered side handle registered with ⟨not_current, waits, not_queued⟩
    exact ⟨not_current, waits, fun queued => not_queued (remaining.subset queued)⟩
  · exact consistent.registered_once

theorem lt_next (consistent : state.Consistent current) {point : Point T}
    (exists_frame : state.frame handle = some point) : handle < state.next := by
  by_contra beyond
  have := consistent.fresh handle (Nat.not_lt.mp beyond)
  simp [this] at exists_frame

/-- The scheduler hands out a coroutine: it runs, and nothing refers to it any more. -/
theorem handOut (consistent : state.Consistent none) {loop : Loop}
    {skipped : List (Option Handle)}
    (popped : state.resumable = skipped ++ some handle :: loop.scheduler.resumable)
    (not_other : state.frame handle ≠ some .other) :
    ({ state with loop } : State T).Consistent (some handle) := by
  have remaining : loop.scheduler.resumable.Sublist state.resumable := by
    rw [popped]
    exact (List.sublist_cons_self _ _).trans (List.sublist_append_right _ _)
  have was_queued : some handle ∈ state.resumable := by simp [popped]
  have not_queued : some handle ∉ loop.scheduler.resumable := by
    have := consistent.once handle not_other
    rw [popped, List.count_append, List.count_cons_self] at this
    exact List.count_eq_zero.mp (by omega)
  have dequeued := consistent.dequeue remaining
  constructor
  · exact dequeued.fresh
  · rintro other same
    obtain rfl := Option.some.inj same
    rcases (consistent.queued handle was_queued).2 with ⟨point, frame_eq, -⟩
    exact consistent.lt_next frame_eq
  · intro other queued
    refine ⟨fun same => not_queued (Option.some.inj same ▸ queued), ?_⟩
    exact (dequeued.queued other queued).2
  · exact dequeued.once
  · intro side other registered
    rcases dequeued.registered side other registered with ⟨-, waits, absent⟩
    refine ⟨fun same => ?_, waits, absent⟩
    exact (consistent.registered side other registered).2.2 (Option.some.inj same ▸ was_queued)
  · exact dequeued.registered_once

theorem call (consistent : state.Consistent none) :
    ({ state with next := state.next + 1 } : State T).Consistent (some state.next) := by
  have unused : ∀ handle point, state.frame handle = some point →
      some state.next ≠ some handle := by
    intro handle point frame_eq same
    exact Nat.lt_irrefl _ (Option.some.inj same ▸ consistent.lt_next frame_eq)
  constructor
  · intro handle handle_ge
    exact consistent.fresh handle (Nat.le_of_succ_le handle_ge)
  · rintro handle same
    obtain rfl := Option.some.inj same
    exact Nat.lt_succ_self _
  · intro handle queued
    rcases (consistent.queued handle queued).2 with ⟨point, frame_eq, resumable⟩
    exact ⟨unused handle point frame_eq, point, frame_eq, resumable⟩
  · exact consistent.once
  · intro side handle registered
    rcases consistent.registered side handle registered with ⟨-, waits, absent⟩
    rcases Option.bind_eq_some_iff.mp waits with ⟨point, frame_eq, -⟩
    exact ⟨unused handle point frame_eq, waits, absent⟩
  · exact consistent.registered_once

/-- The destructor of the awaiter finds nothing once its coroutine was woken. -/
theorem destroyAwaiter_registered (consistent : state.Consistent (some handle))
    (side other : Side) :
    (state.destroyAwaiter handle side).registered other = state.registered other := by
  rw [registered_destroyAwaiter]
  split
  · have absent := consistent.current_not_registered other
    rw [List.map_congr_left (g := id), List.map_id]
    intro entry entry_mem
    have differs : entry ≠ some handle := fun same => absent (same ▸ entry_mem)
    simp [differs]
  · rfl

theorem not_queued_of_done (consistent : state.Consistent none) (done : state.done handle = true) :
    some handle ∉ state.resumable := by
  intro queued
  rcases (consistent.queued handle queued).2 with ⟨point, frame_eq, resumable⟩
  cases point <;> simp_all [State.done, Point.isFinished, Point.Resumable]

theorem drop_resumable (consistent : state.Consistent none) (dropped : Handle) :
    (state.drop dropped).resumable =
      state.resumable.map fun entry => if entry = some dropped then none else entry := by
  have destroy_loop : ∀ before : State T, (before.destroy dropped).loop = before.loop := by
    intro before
    unfold destroy
    cases (before.frame dropped).bind Point.waitsAt <;> rfl
  unfold drop resumable
  split
  · rename_i done
    rw [destroy_loop, List.map_congr_left (g := id), List.map_id]
    intro entry entry_mem
    have differs : entry ≠ some dropped :=
      fun same => consistent.not_queued_of_done done (same ▸ entry_mem)
    simp [differs]
  · rw [destroy_loop]
    rfl

theorem drop_count (consistent : state.Consistent none) (dropped handle : Handle) :
    (state.drop dropped).resumable.count (some handle) =
      if handle = dropped then 0 else state.resumable.count (some handle) := by
  rw [consistent.drop_resumable]
  exact Scheduler.pending_cancel state.loop.scheduler dropped handle

theorem drop_registered (consistent : state.Consistent none) (dropped : Handle) (side : Side) :
    (state.drop dropped).registered side =
      (state.registered side).map fun entry => if entry = some dropped then none else entry := by
  have unregistered : ∀ other, (state.waitsAt dropped ≠ some other) →
      (state.registered other).map (fun entry => if entry = some dropped then none else entry) =
        state.registered other := by
    intro other not_waiting
    rw [List.map_congr_left (g := id), List.map_id]
    intro entry entry_mem
    have differs : entry ≠ some dropped := by
      rintro rfl
      exact not_waiting (consistent.registered other dropped entry_mem).2.1
    simp [differs]
  have destroy_registered : ∀ before : State T, before.frame = state.frame →
      before.channel = state.channel → (before.destroy dropped).registered side =
        (state.registered side).map fun entry => if entry = some dropped then none else entry := by
    intro before frame_eq channel_eq
    have registered_eq : before.registered side = state.registered side := by
      rw [State.registered, State.registered, channel_eq]
    cases waits : state.waitsAt dropped with
    | none =>
        rw [unregistered side (by simp [waits]), ← registered_eq]
        simp only [destroy, frame_eq]
        rw [waitsAt] at waits
        rw [waits]
        rfl
    | some other =>
        have destroyed : (before.destroy dropped).registered side =
            (before.destroyAwaiter dropped other).registered side := by
          simp only [destroy, frame_eq]
          rw [waitsAt] at waits
          rw [waits]
          rfl
        rw [destroyed, registered_destroyAwaiter, registered_eq]
        split
        · rfl
        · rename_i differs
          exact (unregistered side (by rw [waits]; simpa using differs)).symm
  unfold drop
  split
  · exact destroy_registered state rfl rfl
  · exact destroy_registered _ rfl rfl

theorem drop_frame (state : State T) (dropped : Handle) :
    (state.drop dropped).frame = Function.update state.frame dropped none := by
  have destroy_frame : ∀ before : State T, before.frame = state.frame →
      (before.destroy dropped).frame = Function.update state.frame dropped none := by
    intro before frame_eq
    unfold destroy
    cases (before.frame dropped).bind Point.waitsAt <;> simp [destroyAwaiter, setWaiting, frame_eq]
  unfold drop
  split
  · exact destroy_frame state rfl
  · exact destroy_frame _ rfl

theorem drop_next (state : State T) (dropped : Handle) :
    (state.drop dropped).next = state.next := by
  unfold drop destroy
  split <;> dsimp only <;> split <;> rfl

theorem drop (consistent : state.Consistent none) (dropped : Handle) :
    (state.drop dropped).Consistent none := by
  have queued_before : ∀ handle, some handle ∈ (state.drop dropped).resumable →
      handle ≠ dropped ∧ some handle ∈ state.resumable := by
    intro handle queued
    have positive := List.count_pos_iff.mpr queued
    rw [consistent.drop_count] at positive
    split at positive
    · omega
    · exact ⟨‹_›, List.count_pos_iff.mp positive⟩
  have registered_before : ∀ side handle, some handle ∈ (state.drop dropped).registered side →
      handle ≠ dropped ∧ some handle ∈ state.registered side := by
    intro side handle registered
    rw [consistent.drop_registered, List.mem_map] at registered
    rcases registered with ⟨entry, entry_mem, entry_eq⟩
    split at entry_eq
    · simp at entry_eq
    · rename_i differs
      subst entry_eq
      exact ⟨fun same => differs (by rw [same]), entry_mem⟩
  constructor
  · intro handle handle_ge
    rw [drop_next] at handle_ge
    rw [drop_frame]
    by_cases same : handle = dropped
    · simp [same]
    · simpa [same] using consistent.fresh handle handle_ge
  · simp
  · intro handle queued
    rcases queued_before handle queued with ⟨differs, before⟩
    rw [drop_frame]
    simpa [differs] using consistent.queued handle before
  · intro handle not_other
    rw [consistent.drop_count]
    split
    · omega
    · rename_i differs
      rw [drop_frame] at not_other
      exact consistent.once handle (by simpa [differs] using not_other)
  · intro side handle registered
    rcases registered_before side handle registered with ⟨differs, before⟩
    rcases consistent.registered side handle before with ⟨-, waits, absent⟩
    refine ⟨by simp, ?_, fun queued => absent (queued_before handle queued).2⟩
    simpa [waitsAt, drop_frame, differs] using waits
  · intro side handle
    rw [consistent.drop_registered]
    have shrinks : ((state.registered side).map fun entry =>
        if entry = some dropped then none else entry).count (some handle) ≤
          (state.registered side).count (some handle) := by
      rw [List.count_eq_countP, List.countP_map, List.count_eq_countP]
      apply List.countP_mono_left
      intro entry _ counted
      by_cases hit : entry = some dropped <;> simp_all
    exact Nat.le_trans shrinks (consistent.registered_once side handle)

end Consistent

end State

end Uvco.Channel
