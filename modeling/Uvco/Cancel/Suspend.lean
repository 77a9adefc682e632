import Uvco.Cancel.Steps

/-!
# Suspending and waking coroutines

A step that suspends moves the running coroutine from the stack into one source of
handles, and a step that wakes a coroutine moves its handle from there into the
scheduler queue. Both keep the invariant.
-/

namespace Uvco.Cancel.World

variable {T E : Type} {world : World T E} {handle : Handle}

/-! ## Suspending -/

theorem Scheduled.unended_top (scheduled : world.Scheduled) (framesValid : world.FramesValid)
    (top : world.stack.head? = some handle) {frame : Frame T E}
    (found : world.frame handle = some frame) : frame.core.state ≠ .finished :=
  framesValid.unended (by simp [(scheduled.top top).1]) found

theorem entries_enqueue (enqueued : Handle) (source : Source) (handle : Handle) :
    ({ world with runtime := world.runtime.enqueue enqueued } : World T E).entries source handle =
      world.entries source handle + if source = .queue ∧ handle = enqueued then 1 else 0 := by
  by_cases is_queue : source = .queue
  · subst is_queue
    by_cases same : handle = enqueued
    · subst same
      simp [entries]
    · simp [entries, same, Runtime.pending_enqueue_of_ne same]
  · rw [entries_setRuntime is_queue]
    simp [is_queue]

theorem onlyEntriesOf_enqueue (enqueued : Handle) :
    OnlyEntriesOf enqueued world { world with runtime := world.runtime.enqueue enqueued } := by
  refine ⟨rfl, rfl, fun _ live => live, ?_⟩
  intro other differs source
  simp [entries_enqueue, differs]

theorem Invariant.yield (invariant : world.Invariant) (top : world.stack.head? = some handle) :
    (world.yield handle).Invariant := by
  rcases invariant with ⟨scheduled, framesValid, owned⟩
  have absent := (scheduled.top top).2.2
  have registered : Sound (.waiting .yield) handle fun source => ({ world with
      runtime := world.runtime.enqueue handle } : World T E).entries source handle := by
    refine .register .queue (.inl rfl) ?_ ?_
    · simp [entries_enqueue, absent]
    · intro other differs
      simp [entries_enqueue, absent, differs]
  have enqueued_frames : ({ world with
      runtime := world.runtime.enqueue handle } : World T E).FramesValid :=
    framesValid.congr rfl rfl rfl fun _ _ _ _ done => done
  have enqueued_owned : ({ world with
      runtime := world.runtime.enqueue handle } : World T E).Owned :=
    owned.congr rfl (fun _ => rfl) rfl rfl fun _ _ waits => .inl waits
  exact ⟨scheduled.leave top (onlyEntriesOf_enqueue handle) registered,
    enqueued_frames.leave (fun _ => scheduled.unended_top framesValid top) _,
    enqueued_owned.leave _ (by simp)⟩

theorem entries_append {channel : ℕ} {side : Side} {waiting : BoundedQueue (Option Handle)}
    {appended : Handle}
    (contents : waiting.toList = world.registered channel side ++ [some appended])
    (source : Source) (handle : Handle) :
    (world.setWaiting channel side waiting).entries source handle =
      world.entries source handle +
        if source = .waiters channel side ∧ handle = appended then 1 else 0 := by
  cases source with
  | queue | timer frame | core producer => rfl
  | waiters other otherSide =>
      simp only [entries, registered_setWaiting, Source.waiters.injEq]
      by_cases same : other = channel ∧ otherSide = side
      · rcases same with ⟨rfl, rfl⟩
        by_cases is_appended : handle = appended
        · simp [contents, is_appended]
        · simp [contents, is_appended, Ne.symm is_appended]
      · simp [same]

theorem Invariant.awaitChannel (invariant : world.Invariant)
    (top : world.stack.head? = some handle) (channel : ℕ) (side : Side) :
    (world.awaitChannel handle channel side).Invariant := by
  unfold World.awaitChannel
  cases space : ((world.channels channel).waiting side).hasSpace with
  | false =>
      simp only [ChannelAwaiter.awaitSuspend, space, Bool.not_false, if_true]
      exact invariant
  | true =>
      rcases BoundedQueue.put_spec space (some handle) with ⟨waiting, put_eq, contents, -⟩
      simp only [ChannelAwaiter.awaitSuspend, space, Bool.not_true, Bool.false_eq_true, if_false,
        put_eq]
      rcases invariant with ⟨scheduled, framesValid, owned⟩
      have absent := (scheduled.top top).2.2
      have entries_eq : ∀ source other,
          (world.setWaiting channel side waiting).entries source other =
            world.entries source other +
              if source = .waiters channel side ∧ other = handle then 1 else 0 :=
        entries_append contents
      have only : OnlyEntriesOf handle world (world.setWaiting channel side waiting) := by
        refine ⟨rfl, rfl, fun _ live => live, ?_⟩
        intro other differs source
        simp [entries_eq, differs]
      have registered : Sound (.waiting (.channel channel side)) handle fun source =>
          (world.setWaiting channel side waiting).entries source handle := by
        refine .register (.waiters channel side) (.inr rfl) ?_ ?_
        · simp [entries_eq, absent]
        · intro other differs
          simp [entries_eq, absent, differs]
      have waiting_frames : (world.setWaiting channel side waiting).FramesValid :=
        framesValid.congr rfl rfl rfl fun _ _ _ _ done => done
      have waiting_owned : (world.setWaiting channel side waiting).Owned :=
        owned.congr rfl (fun _ => rfl) rfl rfl fun _ _ waits => .inl waits
      exact ⟨scheduled.leave top only registered,
        waiting_frames.leave (fun _ => scheduled.unended_top framesValid top) _,
        waiting_owned.leave _ (by simp)⟩

theorem Invariant.suspendElsewhere (invariant : world.Invariant)
    (top : world.stack.head? = some handle) : (world.leave handle .elsewhere).Invariant := by
  rcases invariant with ⟨scheduled, framesValid, owned⟩
  have only : OnlyEntriesOf handle world world :=
    ⟨rfl, rfl, fun _ live => live, fun _ _ _ => rfl⟩
  exact ⟨scheduled.leave top only (.of_absent (scheduled.top top).2.2),
    framesValid.leave (fun _ => scheduled.unended_top framesValid top) _,
    owned.leave _ (by simp)⟩

/-- Timer and core of a frame are all that a change of the timer can affect. -/
theorem entries_setTimer_of_ne (changed : Handle) (timer : TimerAwaiter) {source : Source}
    (not_timer : source ≠ .timer changed) (handle : Handle) :
    (world.setTimer changed timer).entries source handle = world.entries source handle := by
  by_cases is_core : source = .core changed
  · subst is_core
    simp only [entries, setTimer, waitingHandle_modifyFrame]
    rfl
  · exact entries_modifyFrame_of_ne changed _ not_timer is_core

theorem entries_setTimer {changed : Handle} (live : (world.frame changed).isSome = true)
    (timer : TimerAwaiter) (handle : Handle) :
    (world.setTimer changed timer).entries (.timer changed) handle =
      timer.handle.toList.count handle := by
  rcases Option.isSome_iff_exists.mp live with ⟨frame, found⟩
  simp [entries, setTimer, timerHandle_modifyFrame, found]

theorem FramesValid.setTimer (framesValid : world.FramesValid) (changed : Handle)
    {timer : TimerAwaiter} (not_closed : timer.closed = false) :
    (world.setTimer changed timer).FramesValid := by
  refine framesValid.modifyFrame changed _ ?_ ?_ ?_ ?_
  · exact fun frame found => framesValid.valid changed frame found
  · exact fun frame found finished => framesValid.ended changed frame found finished
  · intro frame other _ has
    rw [← Option.some.inj has]
    exact not_closed
  · exact fun _ _ _ _ => rfl

theorem Scheduled.timer_of_other (scheduled : world.Scheduled) {other : Handle}
    (differs : other ≠ handle) : world.entries (.timer handle) other = 0 := by
  refine List.count_eq_zero.mpr fun registered => differs ?_
  exact ((scheduled.sound other).eq_of_timerHandle (by simpa using registered)).1

theorem Invariant.startTimer (invariant : world.Invariant)
    (top : world.stack.head? = some handle)
    (no_timer : (world.frame handle).bind Frame.timer = none) :
    (world.startTimer handle).Invariant := by
  rcases invariant with ⟨scheduled, framesValid, owned⟩
  rcases scheduled.top top with ⟨-, live, absent⟩
  have set_frames := framesValid.setTimer handle (show ({} : TimerAwaiter).closed = false from rfl)
  have entries_eq : ∀ other source, (world.startTimer handle).entries source other =
      world.entries source other := by
    intro other source
    have same : (world.startTimer handle).entries source other =
        (world.setTimer handle {}).entries source other := by
      cases source <;> rfl
    rw [same]
    by_cases is_timer : source = .timer handle
    · subst is_timer
      rw [entries_setTimer live]
      simp [entries, timerHandle, no_timer]
    · exact entries_setTimer_of_ne handle {} is_timer other
  have only : OnlyEntriesOf handle world (world.startTimer handle) :=
    ⟨rfl, rfl, fun other was_live => (live_modifyFrame handle other _).trans was_live,
      fun other _ => entries_eq other⟩
  refine ⟨scheduled.update only ((scheduled.sound handle).congr rfl (entries_eq handle)), ?_, ?_⟩
  · refine ⟨set_frames.valid, set_frames.ended, set_frames.not_closed, ?_, set_frames.fresh⟩
    intro other is_armed
    rcases List.mem_cons.mp is_armed with rfl | older
    · rcases Option.isSome_iff_exists.mp live with ⟨frame, found⟩
      simp [World.startTimer, TimerAwaiter.create, World.setTimer, modifyFrame, found]
    · exact set_frames.armed other older
  · exact owned.congr rfl (fun other => live_modifyFrame handle other _) rfl rfl
      fun _ _ waits => .inl waits

theorem Invariant.awaitTimer (invariant : world.Invariant)
    (top : world.stack.head? = some handle) : (world.awaitTimer handle).Invariant := by
  unfold World.awaitTimer
  cases has : (world.frame handle).bind Frame.timer with
  | none => exact invariant
  | some timer =>
      rcases invariant with ⟨scheduled, framesValid, owned⟩
      rcases scheduled.top top with ⟨-, live, absent⟩
      rcases Option.isSome_iff_exists.mp live with ⟨frame, found⟩
      have has_timer : frame.timer = some timer := by simpa [found] using has
      have not_closed : (timer.awaitSuspend handle).closed = false :=
        framesValid.not_closed handle frame timer found has_timer
      have only : OnlyEntriesOf handle world
          (world.setTimer handle (timer.awaitSuspend handle)) := by
        refine onlyEntriesOf_modifyFrame handle _ ?_
        intro other differs source
        by_cases is_timer : source = .timer handle
        · subst is_timer
          rw [scheduled.timer_of_other differs]
          refine (entries_setTimer live _ other).trans ?_
          simp [TimerAwaiter.awaitSuspend, Ne.symm differs]
        · exact entries_setTimer_of_ne handle _ is_timer other
      have registered : Sound (.waiting .sleep) handle fun source =>
          (world.setTimer handle (timer.awaitSuspend handle)).entries source handle := by
        refine .register (.timer handle) (.inr rfl) ?_ ?_
        · refine (entries_setTimer live _ handle).trans ?_
          simp [TimerAwaiter.awaitSuspend]
        · intro other differs
          exact (entries_setTimer_of_ne handle _ differs handle).trans (absent other)
      have set_frames := framesValid.setTimer handle not_closed
      refine Invariant.resumeNext ⟨scheduled.leave top only registered,
        set_frames.leave ?_ _, (owned.modifyFrame handle _).leave _ (by simp)⟩
      exact fun _ => set_frames.unended (by
        change world.runtime.status handle ≠ .done
        simp [(scheduled.top top).1])

/-! ## Awaiting a promise -/

theorem setCore_awaitResume (handle : Handle) {producer : Handle} {frame : Frame T E}
    (found : world.frame producer = some frame) :
    world.setCore producer frame.core.awaitResume =
      world.awaitResume handle (.promise producer) := by
  simp [setCore, awaitResume, modifyFrame, found]

theorem entries_setCore_of_ne (changed : Handle) (core : Member T E) {source : Source}
    (not_core : source ≠ .core changed) (handle : Handle) :
    (world.setCore changed core).entries source handle = world.entries source handle := by
  by_cases is_timer : source = .timer changed
  · subst is_timer
    simp only [entries, setCore, timerHandle_modifyFrame]
    rfl
  · exact entries_modifyFrame_of_ne changed _ is_timer not_core

theorem entries_setCore {changed : Handle} (live : (world.frame changed).isSome = true)
    (core : Member T E) (handle : Handle) :
    (world.setCore changed core).entries (.core changed) handle =
      core.waitingHandle.toList.count handle := by
  rcases Option.isSome_iff_exists.mp live with ⟨frame, found⟩
  simp [entries, setCore, waitingHandle_modifyFrame, found]

theorem FramesValid.setCore (framesValid : world.FramesValid) (producer : Handle)
    {core : Member T E} (valid : core.Valid) (unended : core.state ≠ .finished) :
    (world.setCore producer core).FramesValid := by
  refine framesValid.modifyFrame producer _ ?_ ?_ ?_ ?_
  · exact fun _ _ => valid
  · exact fun _ _ finished => absurd finished unended
  · exact fun frame timer found has => framesValid.not_closed producer frame timer found has
  · exact fun _ _ _ has => has

theorem Invariant.awaitPromise (invariant : world.Invariant)
    (top : world.stack.head? = some handle) {producer : Handle}
    (holds : producer ∈ world.children handle) :
    (world.awaitPromise handle producer).Invariant := by
  unfold World.awaitPromise
  cases found : world.frame producer with
  | none => exact invariant
  | some frame =>
      rcases invariant with ⟨scheduled, framesValid, owned⟩
      rcases scheduled.top top with ⟨running, -, absent⟩
      have valid := framesValid.valid producer frame found
      simp only
      split
      · -- The result is there, and the coroutine goes on with it.
        have own_timer : ∀ other, world.timerHandle handle = some other → other = handle :=
          fun other registered => ((scheduled.sound other).eq_of_timerHandle registered).1
        rcases awaitResume_spec framesValid own_timer absent (.promise producer) with
          ⟨only, still_absent, resumed_frames⟩
        rw [setCore_awaitResume handle found]
        exact ⟨scheduled.update only (.of_absent still_absent), resumed_frames,
          owned.awaitResume _⟩
      · by_cases is_init : frame.core.state = .init
        · rcases valid.setHandle handle is_init with
            ⟨core, set_eq, core_valid, core_waiting, core_state⟩
          rw [Member.awaitSuspend_eq_setHandle, set_eq]
          have live : (world.frame producer).isSome = true := by simp [found]
          have nobody : world.waitingHandle producer = none := by
            simp [waitingHandle, found, valid.nobody, is_init]
          have only : OnlyEntriesOf handle world (world.setCore producer core) := by
            refine onlyEntriesOf_modifyFrame producer _ ?_
            intro other differs source
            by_cases is_core : source = .core producer
            · subst is_core
              refine (entries_setCore live core other).trans ?_
              simp [entries, core_waiting, nobody, Ne.symm differs]
            · exact entries_setCore_of_ne producer core is_core other
          have registered : Sound (.waiting (.promise producer)) handle fun source =>
              (world.setCore producer core).entries source handle := by
            refine .register (.core producer) (.inr rfl) ?_ ?_
            · simp [entries_setCore live, core_waiting]
            · intro other differs
              exact (entries_setCore_of_ne producer core differs handle).trans (absent other)
          have set_frames := framesValid.setCore producer core_valid
            (by simp [core_state])
          refine Invariant.resumeNext ⟨scheduled.leave top only registered,
            set_frames.leave ?_ _, (owned.modifyFrame producer _).leave _ ?_⟩
          · exact fun _ => set_frames.unended (by
              change world.runtime.status handle ≠ .done
              simp [running])
          · intro awaited waits
            rw [Status.waiting.injEq, Awaiter.promise.injEq] at waits
            exact waits ▸ holds
        · rw [Member.awaitSuspend_eq_setHandle, Member.setHandle_of_not_init handle is_init]
          exact ⟨scheduled, framesValid, owned⟩

/-! ## Waking -/

/-- The entries of a registered coroutine that is moved to the scheduler queue. -/
structure Woken (handle : Handle) (source : Source) (before after : World T E) : Prop where
  status_eq : after.runtime.status = before.runtime.status
  stack_eq : after.stack = before.stack
  live : ∀ other, (before.frame other).isSome = true → (after.frame other).isSome = true
  registered : 0 < before.entries source handle
  entries_eq : ∀ other place, after.entries place other +
    (if place = source ∧ other = handle then 1 else 0) =
      before.entries place other + if place = .queue ∧ other = handle then 1 else 0

theorem Scheduled.wake (scheduled : world.Scheduled) (handle : Handle) (source : Source)
    {after : World T E} (not_queue : source ≠ .queue)
    (woken : Woken handle source world after) : after.Scheduled := by
  have only : OnlyEntriesOf handle world after := by
    refine ⟨woken.status_eq, woken.stack_eq, woken.live, ?_⟩
    intro other differs place
    simpa [differs] using woken.entries_eq other place
  refine scheduled.update only ?_
  unfold SoundAt
  rw [woken.status_eq]
  refine (scheduled.sound handle).wake not_queue woken.registered ?_ ?_ ?_
  · simpa [Ne.symm not_queue] using woken.entries_eq handle .queue
  · have moved := woken.entries_eq handle source
    simp only [and_self, if_true, not_queue, false_and, if_false, Nat.add_zero] at moved
    omega
  · intro other other_queue differs
    simpa [differs, other_queue] using woken.entries_eq handle other

theorem Invariant.wakeElsewhere (invariant : world.Invariant)
    (suspended : world.runtime.status handle = .elsewhere)
    (not_queued : world.runtime.pending handle = 0) :
    ({ world with runtime := world.runtime.enqueue handle } : World T E).Invariant := by
  rcases invariant with ⟨scheduled, framesValid, owned⟩
  have absent : ∀ source, world.entries source handle = 0 := by
    intro source
    by_contra present
    have expected := (scheduled.sound handle).expected source (Nat.pos_of_ne_zero present)
    rw [suspended] at expected
    rw [show source = .queue from expected] at present
    exact present not_queued
  refine ⟨scheduled.update (onlyEntriesOf_enqueue handle) ?_,
    framesValid.congr rfl rfl rfl fun _ _ _ _ done => done,
    owned.congr rfl (fun _ => rfl) rfl rfl fun _ _ waits => .inl waits⟩
  refine .register .queue ?_ ?_ ?_
  · change Expects (world.runtime.status handle) handle .queue
    rw [suspended]
    rfl
  · simp [entries_enqueue, absent]
  · intro other differs
    simp [entries_enqueue, absent, differs]

theorem Invariant.timerDone (invariant : world.Invariant) :
    (world.timerDone handle).Invariant := by
  unfold World.timerDone
  cases has : (world.frame handle).bind Frame.timer with
  | none => exact invariant
  | some timer =>
      rcases invariant with ⟨scheduled, framesValid, owned⟩
      rcases Option.bind_eq_some_iff.mp has with ⟨frame, found, has_timer⟩
      have live : (world.frame handle).isSome = true := by simp [found]
      rcases timer.onSingleTimerDone_spec handle (uvTimerStop world.armed handle)
        world.runtime.loop with ⟨no_handle, closed_eq, fewer, loop_eq⟩
      rcases fired : timer.onSingleTimerDone handle (uvTimerStop world.armed handle)
        world.runtime.loop with ⟨after, armed, loop⟩
      simp only [fired] at no_handle closed_eq fewer loop_eq ⊢
      have not_closed : after.closed = false :=
        closed_eq.trans (framesValid.not_closed handle frame timer found has_timer)
      have registered_eq : world.timerHandle handle = timer.handle := by
        simp [timerHandle, found, has_timer]
      have fired_frames : (({ world with armed } : World T E).setTimer handle after).FramesValid :=
        (framesValid.disarm fun other is_armed =>
          (TimerAwaiter.mem_uvTimerStop.mp (fewer other is_armed)).1).setTimer handle not_closed
      refine ⟨?_, fired_frames.congr rfl rfl rfl fun _ _ _ _ done => done,
        (owned.modifyFrame handle _).congr rfl (fun _ => rfl) rfl rfl fun _ _ waits => .inl waits⟩
      cases handle_eq : timer.handle with
      | none =>
          rw [handle_eq] at registered_eq loop_eq
          have entries_eq : ∀ other source, (({ world with
              armed, runtime := { world.runtime with loop } } : World T E).setTimer handle
              after).entries source other = world.entries source other := by
            intro other source
            by_cases is_timer : source = .timer handle
            · subst is_timer
              refine Eq.trans (entries_setTimer live after other) ?_
              simp [entries, no_handle, registered_eq]
            · rw [entries_setTimer_of_ne handle after is_timer, loop_eq]
              cases source <;> rfl
          have only : OnlyEntriesOf handle world (({ world with
              armed, runtime := { world.runtime with loop } } : World T E).setTimer handle
              after) :=
            ⟨rfl, rfl, fun other was_live => (live_modifyFrame handle other _).trans was_live,
              fun other _ => entries_eq other⟩
          exact scheduled.update only ((scheduled.sound handle).congr rfl (entries_eq handle))
      | some waiting =>
          rw [handle_eq] at registered_eq loop_eq
          have own : waiting = handle :=
            ((scheduled.sound waiting).eq_of_timerHandle registered_eq).1
          subst own
          refine scheduled.wake waiting (.timer waiting) (by simp) ⟨rfl, rfl,
            fun other was_live => (live_modifyFrame waiting other _).trans was_live, ?_, ?_⟩
          · simp [entries, registered_eq]
          · intro other place
            by_cases is_timer : place = .timer waiting
            · subst is_timer
              have removed : (({ world with
                  armed, runtime := { world.runtime with loop } } : World T E).setTimer waiting
                  after).entries (.timer waiting) other = 0 := by
                refine Eq.trans (entries_setTimer live after other) ?_
                simp [no_handle]
              rw [removed]
              by_cases same : other = waiting
              · simp [entries, registered_eq, same]
              · simp [entries, registered_eq, same, Ne.symm same]
            · rw [entries_setTimer_of_ne waiting after is_timer, loop_eq]
              refine Eq.trans ?_ (entries_enqueue waiting place other)
              simp only [is_timer, false_and, if_false, Nat.add_zero]
              cases place <;> rfl

theorem registered_awake {channel : ℕ} {changed : Channel T} (side : Side)
    (same_waiting : ∀ other, changed.waiting other = (world.channels channel).waiting other)
    (index : ℕ) (other : Side) :
    (world.awake channel changed side).registered index other =
      if index = channel ∧ other = side then
        (Channel.awakeFrom (changed.waiting side).size (changed.waiting side)
          world.runtime.loop).1.toList
      else world.registered index other := by
  by_cases same : index = channel
  · subst same
    have keeps := same_waiting other
    cases side <;> cases other <;>
      simp_all [registered, awake, Channel.awake, Channel.setWaiting, Channel.waiting]
  · simp [registered, awake, same]

theorem Invariant.awake (invariant : world.Invariant) {channel : ℕ} {changed : Channel T}
    (same_waiting : ∀ side, changed.waiting side = (world.channels channel).waiting side)
    (side : Side) : (world.awake channel changed side).Invariant := by
  rcases invariant with ⟨scheduled, framesValid, owned⟩
  refine ⟨?_, framesValid.congr rfl rfl rfl fun _ _ _ _ done => done,
    owned.congr rfl (fun _ => rfl) rfl rfl fun _ _ waits => .inl waits⟩
  have registered_eq := registered_awake side same_waiting
  have before_eq : (changed.waiting side).toList = world.registered channel side := by
    rw [same_waiting side]
    rfl
  have loop_eq : (world.awake channel changed side).runtime.loop =
      (Channel.awakeFrom (changed.waiting side).size (changed.waiting side)
        world.runtime.loop).2 := rfl
  rcases Channel.State.awakeFrom_spec (changed.waiting side).size (changed.waiting side)
    world.runtime.loop (Nat.le_of_eq (BoundedQueue.size_eq_length _).symm) with
    ⟨nobody, same_loop, emptied⟩ | ⟨skipped, first, rest, contents, skipped_null, woken, left⟩
  · have entries_eq : ∀ other source, (world.awake channel changed side).entries source other =
        world.entries source other := by
      intro other source
      cases source with
      | queue =>
          simp only [entries, Runtime.pending, loop_eq, same_loop]
      | timer frame | core producer => rfl
      | waiters index otherSide =>
          simp only [entries, registered_eq]
          by_cases same : index = channel ∧ otherSide = side
          · rcases same with ⟨rfl, rfl⟩
            have absent := nobody other
            rw [before_eq] at absent
            simp [emptied, List.count_eq_zero.mpr absent]
          · rw [if_neg same]
    have only : OnlyEntriesOf 0 world (world.awake channel changed side) :=
      ⟨rfl, rfl, fun _ live => live, fun other _ => entries_eq other⟩
    exact scheduled.update only ((scheduled.sound 0).congr rfl (entries_eq 0))
  · rw [before_eq] at contents
    have skipped_absent : ∀ other, skipped.count (some other) = 0 := by
      intro other
      refine List.count_eq_zero.mpr fun other_mem => ?_
      simpa using skipped_null _ other_mem
    refine scheduled.wake first (.waiters channel side) (by simp)
      ⟨rfl, rfl, fun _ live => live, ?_, ?_⟩
    · simp [entries, contents, skipped_absent]
    · intro other source
      cases source with
      | queue =>
          simp only [entries, Runtime.pending, loop_eq, woken]
          by_cases same : other = first
          · simp [same]
          · simp [same, Ne.symm same]
      | timer frame | core producer => rfl
      | waiters index otherSide =>
          simp only [entries, registered_eq]
          by_cases same : index = channel ∧ otherSide = side
          · rcases same with ⟨rfl, rfl⟩
            by_cases is_first : other = first
            · simp [contents, left, skipped_absent, is_first]
            · simp [contents, left, skipped_absent, is_first, Ne.symm is_first]
          · simp [same]

theorem Invariant.put (invariant : world.Invariant) (channel : ℕ) (value : T) :
    (world.put channel value).Invariant := by
  unfold World.put
  split
  · exact invariant.awake (fun side => by cases side <;> rfl) .reader
  · exact invariant

theorem Invariant.get (invariant : world.Invariant) (channel : ℕ) :
    (world.get channel).Invariant := by
  unfold World.get
  split
  · exact invariant.awake (fun side => by cases side <;> rfl) .writer
  · exact invariant

end Uvco.Cancel.World
