import Uvco.Cancel.World
import Uvco.Channel.Consistency

/-!
# Where the handle of a coroutine is

A coroutine runs again only if its handle is in the scheduler queue, in the waiter
queue of a channel, in the awaiter of a timer, or in the core of a promise. These
are the sources of handles, and `entries` counts the handle of a coroutine in each
of them. `Sound` says what its suspension point allows: a suspended coroutine is in
the scheduler queue or in the source its awaiter registered it with, at most once
and not in both; nothing holds the handle of a coroutine that runs or has ended.
-/

namespace Uvco.Cancel

variable {T E : Type}

/-- What can hold the handle of a coroutine. -/
inductive Source where
  /-- The scheduler queue. -/
  | queue
  /-- A waiter queue of a channel. -/
  | waiters (channel : ℕ) (side : Side)
  /-- `handle_` of the `TimerAwaiter` in a frame. -/
  | timer (frame : Handle)
  /-- `waitingHandle_` of the core of a promise. -/
  | core (producer : Handle)
deriving DecidableEq

/-- Where an awaiter registers the coroutine. -/
def Awaiter.source (handle : Handle) : Awaiter → Source
  | .yield => .queue
  | .channel index side => .waiters index side
  | .sleep => .timer handle
  | .promise producer => .core producer

/-- The source may hold the handle of a coroutine with this status. -/
def Expects (status : Status Awaiter) (handle : Handle) (source : Source) : Prop :=
  match status with
  | .waiting awaiter => source = .queue ∨ source = awaiter.source handle
  | .elsewhere => source = .queue
  | .running | .done => False

/-- The entries of a coroutine agree with its status. -/
structure Sound (status : Status Awaiter) (handle : Handle) (entries : Source → ℕ) : Prop where
  expected : ∀ source, 0 < entries source → Expects status handle source
  once : ∀ source, source ≠ .queue → entries .queue + entries source ≤ 1

namespace Sound

variable {status : Status Awaiter} {handle : Handle} {entries after : Source → ℕ}

theorem of_absent (absent : ∀ source, entries source = 0) : Sound status handle entries := by
  constructor
  · intro source present
    simp [absent source] at present
  · simp [absent]

theorem congr (sound : Sound status handle entries)
    (entries_eq : ∀ source, after source = entries source) : Sound status handle after := by
  have same : after = entries := funext entries_eq
  rwa [same]

theorem absent_of_running (sound : Sound .running handle entries) (source : Source) :
    entries source = 0 :=
  Nat.eq_zero_of_not_pos (sound.expected source)

theorem absent_of_done (sound : Sound .done handle entries) (source : Source) :
    entries source = 0 :=
  Nat.eq_zero_of_not_pos (sound.expected source)

theorem register (source : Source) (expects : Expects status handle source)
    (registered : entries source = 1) (absent : ∀ other, other ≠ source → entries other = 0) :
    Sound status handle entries := by
  constructor
  · intro other present
    by_cases same : other = source
    · exact same ▸ expects
    · simp [absent other same] at present
  · intro other not_queue
    by_cases same : source = .queue
    · rw [absent other (same ▸ not_queue)]
      exact Nat.le_of_eq (same ▸ registered)
    · rw [absent .queue (Ne.symm same), Nat.zero_add]
      by_cases same : other = source
      · exact Nat.le_of_eq (same ▸ registered)
      · simp [absent other same]

theorem absent_of_queued (sound : Sound status handle entries) (queued : 0 < entries .queue)
    (source : Source) (not_queue : source ≠ .queue) : entries source = 0 := by
  have once := sound.once source not_queue
  omega

theorem absent_of_registered (sound : Sound status handle entries) {source : Source}
    (not_queue : source ≠ .queue) (registered : 0 < entries source) :
    entries source = 1 ∧ ∀ other, other ≠ source → entries other = 0 := by
  have once := sound.once source not_queue
  refine ⟨by omega, fun other differs => ?_⟩
  by_cases other_queue : other = .queue
  · rw [other_queue]
    omega
  · by_contra present
    have other_expected := sound.expected other (Nat.pos_of_ne_zero present)
    have source_expected := sound.expected source registered
    cases status with
    | waiting awaiter =>
        rcases source_expected with is_queue | source_eq
        · exact not_queue is_queue
        · rcases other_expected with is_queue | other_eq
          · exact other_queue is_queue
          · exact differs (other_eq.trans source_eq.symm)
    | elsewhere => exact not_queue source_expected
    | running | done => exact source_expected

theorem wake (sound : Sound status handle entries) {source : Source}
    (not_queue : source ≠ .queue) (registered : 0 < entries source)
    (queued : after .queue = entries .queue + 1) (removed : after source = entries source - 1)
    (kept : ∀ other, other ≠ .queue → other ≠ source → after other = entries other) :
    Sound status handle after := by
  rcases sound.absent_of_registered not_queue registered with ⟨single, absent⟩
  have expects_queue : Expects status handle .queue := by
    have source_expected := sound.expected source registered
    cases status with
    | waiting awaiter => exact .inl rfl
    | elsewhere => rfl
    | running | done => exact source_expected
  refine register .queue expects_queue ?_ ?_
  · rw [queued, absent .queue (Ne.symm not_queue)]
  · intro other differs
    by_cases same : other = source
    · rw [same, removed, single]
    · rw [kept other differs same, absent other same]

end Sound

namespace World

variable (world : World T E) (handle : Handle)

/-- The handle in the `TimerAwaiter` of a frame. -/
def timerHandle : Option Handle :=
  ((world.frame handle).bind Frame.timer).bind TimerAwaiter.handle

/-- The coroutine that is registered in the promise of this one. -/
def waitingHandle : Option Handle :=
  (world.frame handle).bind fun frame => frame.core.waitingHandle

/-- The entries of one waiting queue of a channel, in order. -/
def registered (channel : ℕ) (side : Side) : List (Option Handle) :=
  ((world.channels channel).waiting side).toList

/-- How often a source holds the handle of a coroutine. -/
def entries (source : Source) (handle : Handle) : ℕ :=
  match source with
  | .queue => world.runtime.pending handle
  | .waiters channel side => (world.registered channel side).count (some handle)
  | .timer frame => (world.timerHandle frame).toList.count handle
  | .core producer => (world.waitingHandle producer).toList.count handle

/-- The entries of a coroutine agree with its status. -/
def SoundAt : Prop :=
  Sound (world.runtime.status handle) handle fun source => world.entries source handle

variable {world handle}

theorem SoundAt.congr {after : World T E} (sound : world.SoundAt handle)
    (status_eq : after.runtime.status handle = world.runtime.status handle)
    (entries_eq : ∀ source, after.entries source handle = world.entries source handle) :
    after.SoundAt handle := by
  unfold SoundAt
  rw [status_eq]
  exact Sound.congr sound entries_eq

theorem SoundAt.absent_of_running (sound : world.SoundAt handle)
    (running : world.runtime.status handle = .running) (source : Source) :
    world.entries source handle = 0 := by
  unfold SoundAt at sound
  rw [running] at sound
  exact sound.absent_of_running source

theorem SoundAt.eq_of_timerHandle {frame : Handle} (sound : world.SoundAt handle)
    (registered : world.timerHandle frame = some handle) :
    handle = frame ∧ world.runtime.status handle = .waiting .sleep := by
  have expected := sound.expected (.timer frame) (by simp [entries, registered])
  cases status_eq : world.runtime.status handle with
  | waiting awaiter => cases awaiter <;> simp_all [Expects, Awaiter.source]
  | elsewhere | running | done => simp [status_eq, Expects] at expected

theorem SoundAt.awaits_of_waitingHandle {producer : Handle} (sound : world.SoundAt handle)
    (registered : world.waitingHandle producer = some handle) :
    world.runtime.status handle = .waiting (.promise producer) := by
  have expected := sound.expected (.core producer) (by simp [entries, registered])
  cases status_eq : world.runtime.status handle with
  | waiting awaiter => cases awaiter <;> simp_all [Expects, Awaiter.source]
  | elsewhere | running | done => simp [status_eq, Expects] at expected

theorem SoundAt.waits_of_registered {channel : ℕ} {side : Side} (sound : world.SoundAt handle)
    (registered : some handle ∈ world.registered channel side) :
    world.runtime.status handle = .waiting (.channel channel side) := by
  have expected := sound.expected (.waiters channel side) (List.count_pos_iff.mpr registered)
  cases status_eq : world.runtime.status handle with
  | waiting awaiter => cases awaiter <;> simp_all [Expects, Awaiter.source]
  | elsewhere | running | done => simp [status_eq, Expects] at expected

/-! ## What the operations do to the sources -/

@[simp]
theorem registered_setWaiting (channel : ℕ) (side : Side) (waiting : BoundedQueue (Option Handle))
    (other : ℕ) (otherSide : Side) :
    (world.setWaiting channel side waiting).registered other otherSide =
      if other = channel ∧ otherSide = side then waiting.toList
      else world.registered other otherSide := by
  by_cases same : other = channel
  · subst same
    cases side <;> cases otherSide <;> simp [registered, setWaiting, Channel.setWaiting,
      Channel.waiting]
  · simp [registered, setWaiting, same]

theorem count_destroy (waiting : BoundedQueue (Option Handle)) (removed handle : Handle) :
    (ChannelAwaiter.destroy waiting removed).toList.count (some handle) =
      if handle = removed then 0 else waiting.toList.count (some handle) := by
  have same_map : (ChannelAwaiter.destroy waiting removed).toList =
      (({ resumable := waiting.toList } : Scheduler).cancel removed).resumable := by
    rw [ChannelAwaiter.destroy, BoundedQueue.toList_forEach]
    rfl
  rw [same_map]
  exact Scheduler.pending_cancel _ removed handle

theorem entries_destroyChannelAwaiter (removed : Handle) (channel : ℕ) (side : Side)
    (source : Source) :
    (world.destroyChannelAwaiter removed channel side).entries source handle =
      if source = .waiters channel side ∧ handle = removed then 0
      else world.entries source handle := by
  cases source with
  | queue | timer frame | core producer => simp [entries, destroyChannelAwaiter, setWaiting,
      timerHandle, waitingHandle]
  | waiters other otherSide =>
      simp only [entries, destroyChannelAwaiter, registered_setWaiting]
      by_cases same : other = channel ∧ otherSide = side
      · rcases same with ⟨rfl, rfl⟩
        simp [count_destroy, registered]
      · rw [if_neg same, if_neg]
        rintro ⟨source_eq, -⟩
        exact same (by simpa using source_eq)

/-- Changing a frame affects only what its timer and its core hold. -/
theorem entries_modifyFrame_of_ne (changed : Handle) (update : Frame T E → Frame T E)
    {source : Source} (not_timer : source ≠ .timer changed) (not_core : source ≠ .core changed) :
    (world.modifyFrame changed update).entries source handle = world.entries source handle := by
  cases source with
  | queue | waiters channel side => rfl
  | timer frame =>
      have differs : frame ≠ changed := fun same => not_timer (by rw [same])
      simp [entries, timerHandle, modifyFrame, differs]
  | core producer =>
      have differs : producer ≠ changed := fun same => not_core (by rw [same])
      simp [entries, waitingHandle, modifyFrame, differs]

theorem timerHandle_modifyFrame (changed : Handle) (update : Frame T E → Frame T E) :
    (world.modifyFrame changed update).timerHandle changed =
      ((world.frame changed).bind fun frame => (update frame).timer).bind
        TimerAwaiter.handle := by
  cases frame_eq : world.frame changed <;> simp [timerHandle, modifyFrame, frame_eq]

theorem waitingHandle_modifyFrame (changed : Handle) (update : Frame T E → Frame T E) :
    (world.modifyFrame changed update).waitingHandle changed =
      (world.frame changed).bind fun frame => (update frame).core.waitingHandle := by
  cases frame_eq : world.frame changed <;> simp [waitingHandle, modifyFrame, frame_eq]

theorem entries_modifyFrame (changed : Handle) (update : Frame T E → Frame T E)
    (same_timer : (world.modifyFrame changed update).timerHandle changed =
      world.timerHandle changed)
    (same_core : (world.modifyFrame changed update).waitingHandle changed =
      world.waitingHandle changed) (source : Source) :
    (world.modifyFrame changed update).entries source handle = world.entries source handle := by
  by_cases is_timer : source = .timer changed
  · simp [is_timer, entries, same_timer]
  · by_cases is_core : source = .core changed
    · simp [is_core, entries, same_core]
    · exact entries_modifyFrame_of_ne changed update is_timer is_core

end World

end Uvco.Cancel
