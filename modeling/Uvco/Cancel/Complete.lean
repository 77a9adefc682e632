import Uvco.Cancel.Destroy

/-!
# Cancellation is complete

The two steps that destroy coroutines, the end of a coroutine and the drop of a
promise, keep the invariant as well, so it holds in every reachable state. It follows
that dropping a promise destroys all coroutines in its tree, each once, and that
nothing resumes any of them afterwards.
-/

namespace Uvco.Cancel.World

variable {T E : Type} {world : World T E} {handle : Handle}

/-! ## The end of a coroutine -/

/-- A frame without timer and without promises among its local variables. -/
def emptied (world : World T E) (handle : Handle) (armed : List Handle) : World T E :=
  ({ world with armed, held := Function.update world.held (.locals handle) [] } : World T E)
    |>.modifyFrame handle fun frame => { frame with timer := none }

theorem FramesValid.leaveScope_eq (framesValid : world.FramesValid) {frame : Frame T E}
    (found : world.frame handle = some frame) :
    ∃ armed, world.leaveScope handle = world.emptied handle armed ∧
      ∀ other, other ∈ armed → other ∈ world.armed ∧ other ≠ handle := by
  have not_closed := fun timer => framesValid.not_closed handle frame timer found
  have is_timer : handle ∈ world.armed → frame.timer.isSome = true :=
    fun is_armed => by simpa [found] using framesValid.armed handle is_armed
  rcases destroyTimer_spec not_closed is_timer with ⟨armed, timer_eq, armed_iff⟩
  refine ⟨armed, ?_, fun other is_armed => (armed_iff other).mp is_armed⟩
  simp only [World.leaveScope, emptied, found, timer_eq]

/-- A running coroutine is not registered in its timer. -/
theorem Scheduled.entries_emptied (scheduled : world.Scheduled)
    (running : world.runtime.status handle = .running)
    (live : (world.frame handle).isSome = true) (armed : List Handle) (source : Source)
    (other : Handle) : (world.emptied handle armed).entries source other =
      world.entries source other := by
  have no_handle : world.timerHandle handle = none := by
    by_contra registered
    rcases Option.ne_none_iff_exists'.mp registered with ⟨other, registered⟩
    rcases (scheduled.sound other).eq_of_timerHandle registered with ⟨rfl, waits⟩
    simp [running] at waits
  rcases Option.isSome_iff_exists.mp live with ⟨frame, found⟩
  refine Eq.trans (entries_modifyFrame handle _ ?_ ?_ source) ?_
  · rw [timerHandle_modifyFrame]
    refine Eq.trans ?_ no_handle.symm
    simp [found]
  · rw [waitingHandle_modifyFrame]
    rfl
  · cases source <;> rfl

theorem mem_held_cleared {place : Place} {promise : Handle}
    (holds : promise ∈ Function.update world.held (.locals handle) [] place) :
    place ≠ .locals handle ∧ promise ∈ world.held place := by
  by_cases same : place = .locals handle
  · simp [same] at holds
  · exact ⟨same, by simpa [same] using holds⟩

/-- A coroutine that does not wait may give up its local variables. -/
theorem Owned.clear (owned : world.Owned) (running : world.runtime.status handle = .running) :
    ({ world with held := Function.update world.held (.locals handle) [] } :
      World T E).Owned := by
  refine ⟨?_, ?_, ?_, ?_, ?_, owned.destroyed_gone, owned.destroyed_nodup⟩
  · intro other producer waits
    rcases mem_children.mp (owned.awaited other producer waits) with ⟨place, place_frame, holds⟩
    refine mem_children.mpr ⟨place, place_frame, ?_⟩
    have differs : place ≠ .locals handle := by
      rintro rfl
      change world.runtime.status other = _ at waits
      rw [← Option.some.inj place_frame, running] at waits
      simp at waits
    simpa [differs] using holds
  · exact fun place promise holds => owned.live place promise (mem_held_cleared holds).2
  · intro place holder nonempty holder_eq
    rcases List.exists_mem_of_ne_nil _ nonempty with ⟨promise, holds⟩
    exact owned.holder_live place holder (List.ne_nil_of_mem (mem_held_cleared holds).2) holder_eq
  · intro place
    by_cases same : place = .locals handle
    · simp [same]
    · simpa [same] using owned.nodup place
  · intro place other promise holds also_holds
    exact owned.unique (mem_held_cleared holds).2 (mem_held_cleared also_holds).2

/-- The local variables of the running coroutine are destroyed, and the promises among them are
left without a holder. -/
theorem Invariant.leaveScope (invariant : world.Invariant)
    (top : world.stack.head? = some handle) :
    (world.leaveScope handle).Invariant ∧
      (world.leaveScope handle).Orphans (world.held (.locals handle)) := by
  rcases invariant with ⟨scheduled, framesValid, owned⟩
  rcases scheduled.top top with ⟨running, live, -⟩
  rcases Option.isSome_iff_exists.mp live with ⟨frame, found⟩
  rcases framesValid.leaveScope_eq found with ⟨armed, scope_eq, armed_before⟩
  rw [scope_eq]
  have entries_eq := scheduled.entries_emptied running live armed
  have only : OnlyEntriesOf handle world (world.emptied handle armed) :=
    ⟨rfl, rfl, fun other was_live => (live_modifyFrame handle other _).trans was_live,
      fun other _ source => entries_eq source other⟩
  have disarmed_frames : ({ world with armed } : World T E).FramesValid :=
    framesValid.disarm fun other is_armed => (armed_before other is_armed).1
  have scope_frames := disarmed_frames.modifyFrame handle
    (fun frame => { frame with timer := none })
    (fun before was => framesValid.valid handle before was)
    (fun before was finished => framesValid.ended handle before was finished)
    (by simp) (fun is_armed => absurd rfl (armed_before handle is_armed).2)
  refine ⟨⟨?_, ?_, ?_⟩, ⟨owned.nodup _, ?_, ?_⟩⟩
  · exact scheduled.update only
      ((scheduled.sound handle).congr rfl fun source => entries_eq source handle)
  · exact scope_frames.congr rfl rfl rfl fun _ _ _ _ done => done
  · exact ((owned.clear running).modifyFrame handle _).congr rfl (fun _ => rfl) rfl rfl
      fun _ _ waits => .inl waits
  · intro promise holds
    exact (live_modifyFrame handle promise _).trans (owned.live _ promise holds)
  · intro promise holds place still_holds
    rcases mem_held_cleared still_holds with ⟨differs, held⟩
    exact differs (owned.unique held holds)

/-- The core of the running coroutine is resolved, which enqueues the coroutine that waits for it,
and the coroutine leaves the stack. -/
theorem Invariant.resolve (invariant : world.Invariant) (top : world.stack.head? = some handle)
    (outcome : Outcome T E) : ((world.resolve handle outcome).leave handle .done).Invariant := by
  rcases invariant with ⟨scheduled, framesValid, owned⟩
  rcases scheduled.top top with ⟨running, live, absent⟩
  rcases Option.isSome_iff_exists.mp live with ⟨frame, found⟩
  have valid := framesValid.valid handle frame found
  have unended := scheduled.unended_top framesValid top found
  rcases valid.resolve world.runtime.loop outcome unended with
    ⟨loop_eq, core_valid, nobody, finished, -⟩
  rcases resolved : frame.core.resolve world.runtime.loop outcome with ⟨core, loop⟩
  rw [resolved] at loop_eq core_valid nobody finished
  dsimp only at loop_eq core_valid nobody finished
  have resolve_eq : world.resolve handle outcome =
      ({ world with runtime := { world.runtime with loop } } : World T E).setCore handle core := by
    simp only [World.resolve, found, resolved]
  rw [resolve_eq]
  have registered_eq : world.waitingHandle handle = frame.core.waitingHandle := by
    simp [waitingHandle, found]
  have now_live : ∀ other, (world.frame other).isSome = true →
      ((({ world with runtime := { world.runtime with loop } } : World T E).setCore handle
        core).frame other).isSome = true :=
    fun other was_live => (live_modifyFrame handle other _).trans was_live
  have removed : ∀ other, (({ world with
      runtime := { world.runtime with loop } } : World T E).setCore handle core).entries
      (.core handle) other = 0 := by
    intro other
    refine Eq.trans (entries_setCore live core other) ?_
    simp [nobody]
  have resolved_scheduled : (({ world with
      runtime := { world.runtime with loop } } : World T E).setCore handle core).Scheduled := by
    cases waiting_eq : frame.core.waitingHandle with
    | none =>
        rw [waiting_eq] at registered_eq loop_eq
        have entries_eq : ∀ other source, (({ world with
            runtime := { world.runtime with loop } } : World T E).setCore handle core).entries
            source other = world.entries source other := by
          intro other source
          by_cases is_core : source = .core handle
          · subst is_core
            rw [removed]
            simp [entries, registered_eq]
          · rw [entries_setCore_of_ne handle core is_core, loop_eq]
        exact scheduled.update ⟨rfl, rfl, now_live, fun other _ => entries_eq other⟩
          ((scheduled.sound handle).congr rfl (entries_eq handle))
    | some waiting =>
        rw [waiting_eq] at registered_eq loop_eq
        refine scheduled.wake waiting (.core handle) (by simp) ⟨rfl, rfl, now_live, ?_, ?_⟩
        · simp [entries, registered_eq]
        · intro other place
          by_cases is_core : place = .core handle
          · subst is_core
            rw [removed]
            by_cases same : other = waiting
            · simp [entries, registered_eq, same]
            · simp [entries, registered_eq, same, Ne.symm same]
          · rw [entries_setCore_of_ne handle core is_core, loop_eq]
            refine Eq.trans ?_ (entries_enqueue waiting place other)
            simp only [is_core, false_and, if_false, Nat.add_zero]
            cases place <;> rfl
  have ended_frames : ((world.leave handle .done).setCore handle core).FramesValid := by
    have left_frames := framesValid.leave (fun _ => scheduled.unended_top framesValid top) .done
    refine left_frames.modifyFrame handle _ (fun _ _ => core_valid) ?_ ?_ (fun _ _ _ has => has)
    · exact fun _ _ _ => Runtime.setStatus_status_self .done
    · exact fun before timer was has => framesValid.not_closed handle before timer was has
  have resolved_owned : (({ world with
      runtime := { world.runtime with loop } } : World T E).setCore handle core).Owned :=
    (owned.modifyFrame handle _).congr rfl (fun _ => rfl) rfl rfl fun _ _ waits => .inl waits
  refine ⟨resolved_scheduled.leave top ⟨rfl, rfl, fun _ was_live => was_live, fun _ _ _ => rfl⟩
    (.of_absent ?_), ended_frames.congr rfl rfl rfl fun _ _ _ _ done => done,
    resolved_owned.leave .done (by simp)⟩
  exact (resolved_scheduled.sound handle).absent_of_running running

theorem resolve_unchanged (world : World T E) (handle : Handle) (outcome : Outcome T E) :
    (world.resolve handle outcome).stack = world.stack ∧
      (world.resolve handle outcome).held = world.held ∧
      (world.resolve handle outcome).runtime.status = world.runtime.status ∧
      (world.resolve handle outcome).destroyed = world.destroyed ∧
      ∀ other, ((world.resolve handle outcome).frame other).isSome =
        (world.frame other).isSome := by
  unfold World.resolve
  split
  · exact ⟨rfl, rfl, rfl, rfl, fun other => live_modifyFrame handle other _⟩
  · exact ⟨rfl, rfl, rfl, rfl, fun _ => rfl⟩

theorem leaveScope_resolve {outcome : Outcome T E} :
    (world.resolve handle outcome).leaveScope handle =
      (world.leaveScope handle).resolve handle outcome := by
  cases found : world.frame handle with
  | none => simp [resolve, leaveScope, found]
  | some frame =>
      cases has : frame.timer <;>
        simp [resolve, leaveScope, setCore, modifyFrame, destroyTimer, found, has]

theorem Removed.leave {after : World T E} {nodes : List Handle}
    (removed : Removed world after nodes) (kept : handle ∉ nodes) :
    Removed (world.leave handle .done) (after.leave handle .done) nodes := by
  refine ⟨removed.frame_eq, ?_, removed.pending_eq, removed.registered_eq, removed.armed_iff,
    removed.held_of_mem, removed.held_of_not_mem, congrArg List.tail removed.stack_eq,
    removed.next_eq, removed.destroyed_eq⟩
  intro other
  by_cases same : other = handle
  · subst same
    simp [World.leave, kept]
  · simp [World.leave, Runtime.setStatus_status_of_ne _ same, removed.status_eq]

/-- At the end of a coroutine, everything but the coroutine itself can be destroyed. -/
theorem destroyable_of_leave (top : world.stack.head? = some handle)
    (running : world.runtime.status handle = .running)
    (left : (world.leave handle .done).Invariant) : world.Destroyable where
  owned := by
    refine left.owned.congr rfl (fun _ => rfl) rfl rfl ?_
    intro other producer waits
    have differs : other ≠ handle := by
      rintro rfl
      simp [running] at waits
    exact .inl ((Runtime.setStatus_status_of_ne _ differs).trans waits)
  fresh := left.framesValid.fresh
  destructible node frame not_running found := by
    have differs : node ≠ handle := by
      rintro rfl
      exact not_running (List.mem_of_mem_head? top)
    have status_eq : (world.leave handle .done).runtime.status node =
        world.runtime.status node := Runtime.setStatus_status_of_ne _ differs
    refine ⟨?_, ?_, ?_, ?_⟩
    · exact (left.scheduled.sound node).congr status_eq.symm
        fun source => (entries_leave handle node .done source).symm
    · exact fun finished => status_eq.symm.trans (left.framesValid.ended node frame found finished)
    · exact fun timer has => left.framesValid.not_closed node frame timer found has
    · intro is_armed
      simpa [World.leave, found] using left.framesValid.armed node is_armed

theorem leaveScope_unchanged (world : World T E) (handle : Handle) :
    (world.leaveScope handle).stack = world.stack ∧
      (world.leaveScope handle).destroyed = world.destroyed := by
  unfold World.leaveScope World.destroyTimer
  split
  · split <;> exact ⟨rfl, rfl⟩
  · exact ⟨rfl, rfl⟩

theorem Invariant.finish (invariant : world.Invariant) (top : world.stack.head? = some handle)
    {outcome : Outcome T E} {after : World T E}
    (finished : world.finish handle outcome = some after) :
    after.Invariant ∧ ∀ gone ∈ world.destroyed, gone ∈ after.destroyed := by
  rcases invariant.leaveScope top with ⟨scope_invariant, orphans⟩
  rcases leaveScope_unchanged world handle with ⟨scope_stack, scope_destroyed⟩
  have scope_top : (world.leaveScope handle).stack.head? = some handle := by
    rw [scope_stack]
    exact top
  cases outcome with
  | value value =>
      simp only [World.finish, leaveScope_resolve, Option.map_eq_some_iff] at finished
      rcases finished with ⟨middle, destroyed, rfl⟩
      have left := scope_invariant.resolve scope_top (.value value)
      rcases resolve_unchanged (world.leaveScope handle) handle (.value value) with
        ⟨stack_eq, held_eq, status_eq, destroyed_eq, live_eq⟩
      have resolved_top : ((world.leaveScope handle).resolve handle
          (.value value)).stack.head? = some handle := by
        rw [stack_eq]
        exact scope_top
      have running : ((world.leaveScope handle).resolve handle
          (.value value)).runtime.status handle = .running := by
        rw [status_eq]
        exact (scope_invariant.scheduled.top scope_top).1
      have resolved_orphans : ((world.leaveScope handle).resolve handle (.value value)).Orphans
          (world.held (.locals handle)) :=
        ⟨orphans.nodup, fun promise holds => (live_eq promise).trans (orphans.live promise holds),
          fun promise holds place => held_eq ▸ orphans.unheld promise holds place⟩
      rcases (destroyable_of_leave resolved_top running left).destroyPromises resolved_orphans with
        ⟨nodes, forest, nodup, live, ⟨result, result_eq, removed, removable⟩ | ⟨none_eq, -⟩⟩
      · obtain rfl : result = middle := Option.some.inj (result_eq.symm.trans destroyed)
        -- The coroutine is on the stack, so it does not destroy itself.
        have kept : handle ∉ nodes := fun gone =>
          (removable handle gone).1 (List.mem_of_mem_head? resolved_top)
        refine ⟨left.removed ⟨resolved_orphans.nodup, resolved_orphans.live,
          resolved_orphans.unheld⟩ forest nodup live ?_ (removed.leave kept), ?_⟩
        · exact fun node node_mem on_stack =>
            (removable node node_mem).1 (List.mem_of_mem_tail on_stack)
        · intro gone gone_mem
          change gone ∈ result.destroyed
          rw [removed.destroyed_eq, destroyed_eq, scope_destroyed]
          exact List.mem_append_left _ gone_mem
      · simp [none_eq] at destroyed
  | exception exception =>
      simp only [World.finish, Option.map_eq_some_iff] at finished
      rcases finished with ⟨middle, destroyed, rfl⟩
      rcases scope_invariant.destroyable.destroyPromises orphans with
        ⟨nodes, forest, nodup, live, ⟨result, result_eq, removed, removable⟩ | ⟨none_eq, -⟩⟩
      · obtain rfl : result = middle := Option.some.inj (result_eq.symm.trans destroyed)
        have result_invariant := scope_invariant.removed orphans forest nodup live
          (fun node node_mem => (removable node node_mem).1) removed
        have result_top : result.stack.head? = some handle := by
          rw [removed.stack_eq]
          exact scope_top
        refine ⟨result_invariant.resolve result_top (.exception exception), ?_⟩
        intro gone gone_mem
        change gone ∈ (result.resolve handle (.exception exception)).destroyed
        rw [(resolve_unchanged result handle (.exception exception)).2.2.2.1,
          removed.destroyed_eq, scope_destroyed]
        exact List.mem_append_left _ gone_mem
      · simp [none_eq] at destroyed

/-! ## Dropping a promise -/

theorem Invariant.orphan (invariant : world.Invariant) {place : Place} {root : Handle}
    (holds : root ∈ world.held place) : (world.take place root).Orphans [root] where
  nodup := List.nodup_singleton root
  live promise promise_mem := by
    rw [List.mem_singleton.mp promise_mem]
    exact invariant.owned.live place root holds
  unheld promise promise_mem other := by
    rw [List.mem_singleton.mp promise_mem]
    exact invariant.owned.unheld_take holds other

/-- Dropping a promise removes its tree, unless a coroutine in it must not be destroyed. -/
theorem Invariant.drop_cases (invariant : world.Invariant) {place : Place} {root : Handle}
    (holds : root ∈ world.held place) (accessible : world.Accessible place) :
    ∃ nodes, Forest (world.take place root).children [root] nodes ∧ nodes.Nodup ∧
      ((∃ after, world.drop place root = some after ∧ after.Invariant ∧
          after.destroyed = world.destroyed ++ nodes) ∨
        (world.drop place root = none ∧ ∃ node ∈ nodes, ¬world.Removable node)) := by
  have taken := invariant.take root accessible
  have orphans := invariant.orphan holds
  rcases taken.destroyable.destroyPromises orphans with
    ⟨nodes, forest, nodup, live, ⟨after, after_eq, removed, removable⟩ | ⟨none_eq, blocked⟩⟩
  · exact ⟨nodes, forest, nodup, .inl ⟨after, after_eq, taken.removed orphans forest nodup live
      (fun node node_mem => (removable node node_mem).1) removed, removed.destroyed_eq⟩⟩
  · exact ⟨nodes, forest, nodup, .inr ⟨none_eq, blocked⟩⟩

/-- The holder of a dropped promise runs, so it is not below it. -/
theorem below_take {place : Place} {root node : Handle} (accessible : world.Accessible place)
    (owned : world.Owned)
    (not_running : ∀ node, Below world.children root node → node ∉ world.stack) :
    Below (world.take place root).children root node ↔ Below world.children root node := by
  constructor
  · intro below
    refine Relation.ReflTransGen.mono ?_ root node below
    intro parent child is_child
    rcases mem_children.mp is_child with ⟨other, other_frame, holds⟩
    exact mem_children.mpr ⟨other, other_frame, (owned.mem_held_take.mp holds).1⟩
  · intro below
    induction below with
    | refl => exact .refl
    | tail above is_child ih =>
        refine ih.tail ?_
        rcases mem_children.mp is_child with ⟨other, other_frame, holds⟩
        refine mem_children.mpr ⟨other, other_frame, owned.mem_held_take.mpr ⟨holds, ?_⟩⟩
        rintro rfl
        exact absurd (accessible _ other_frame) (not_running _ above)

/-! ## Whole runs -/

theorem resumeNext_destroyed (world : World T E) :
    world.resumeNext.destroyed = world.destroyed := by
  unfold resumeNext
  split
  unfold resume
  split
  · split
    · rename_i awaiter _
      cases awaiter <;> rfl
    · rfl
    · rfl
    · rfl
  · rfl

theorem Invariant.perform (invariant : world.Invariant) {action : Action T E}
    (enabled : action.Enabled world) : (action.perform world).Invariant := by
  cases action with
  | call void => exact invariant.call void
  | yield handle => exact invariant.yield enabled
  | awaitChannel handle channel side => exact invariant.awaitChannel enabled channel side
  | put handle channel value => exact invariant.put channel value
  | get handle channel => exact invariant.get channel
  | startTimer handle => exact invariant.startTimer enabled.1 enabled.2
  | awaitTimer handle => exact invariant.awaitTimer enabled.1
  | awaitPromise handle producer => exact invariant.awaitPromise enabled.1 enabled.2
  | finish handle outcome =>
      rcases Option.isSome_iff_exists.mp enabled.2 with ⟨after, finished⟩
      simp only [Action.perform, finished, Option.getD_some]
      exact (invariant.finish enabled.1 finished).1
  | suspendElsewhere handle => exact invariant.suspendElsewhere enabled
  | wakeElsewhere handle => exact invariant.wakeElsewhere enabled.1 enabled.2
  | move promise source target => exact invariant.move enabled.1 enabled.2.1 enabled.2.2
  | drop place promise =>
      rcases invariant.drop_cases enabled.1 enabled.2.1 with
        ⟨nodes, -, -, ⟨after, dropped, after_invariant, -⟩ | ⟨none_eq, -⟩⟩
      · simp only [Action.perform, dropped, Option.getD_some]
        exact after_invariant
      · simpa [none_eq] using enabled.2.2
  | resumeNext => exact invariant.resumeNext
  | timerDone handle => exact invariant.timerDone

theorem Invariant.perform_destroyed (invariant : world.Invariant) {action : Action T E}
    (enabled : action.Enabled world) :
    ∀ gone ∈ world.destroyed, gone ∈ (action.perform world).destroyed := by
  intro gone gone_mem
  cases action with
  | call void | yield handle | suspendElsewhere handle | wakeElsewhere handle
  | move promise source target | startTimer handle => exact gone_mem
  | awaitChannel handle channel side =>
      simp only [Action.perform, World.awaitChannel]
      split <;> exact gone_mem
  | put handle channel value =>
      simp only [Action.perform, World.put]
      split <;> exact gone_mem
  | get handle channel =>
      simp only [Action.perform, World.get]
      split <;> exact gone_mem
  | awaitTimer handle =>
      simp only [Action.perform, World.awaitTimer]
      split
      · rw [resumeNext_destroyed]
        exact gone_mem
      · exact gone_mem
  | awaitPromise handle producer =>
      simp only [Action.perform, World.awaitPromise]
      split
      · split
        · exact gone_mem
        · split
          · rw [resumeNext_destroyed]
            exact gone_mem
          · exact gone_mem
      · exact gone_mem
  | finish handle outcome =>
      rcases Option.isSome_iff_exists.mp enabled.2 with ⟨after, finished⟩
      simp only [Action.perform, finished, Option.getD_some]
      exact (invariant.finish enabled.1 finished).2 gone gone_mem
  | drop place promise =>
      rcases invariant.drop_cases enabled.1 enabled.2.1 with
        ⟨nodes, -, -, ⟨after, dropped, -, destroyed_eq⟩ | ⟨none_eq, -⟩⟩
      · simp only [Action.perform, dropped, Option.getD_some, destroyed_eq]
        exact List.mem_append_left _ gone_mem
      · simpa [none_eq] using enabled.2.2
  | resumeNext =>
      simp only [Action.perform, resumeNext_destroyed]
      exact gone_mem
  | timerDone handle =>
      simp only [Action.perform, World.timerDone]
      split <;> exact gone_mem

theorem invariant_of_initial (initial : (system T E).Initial world) : world.Invariant := by
  rcases initial with ⟨channels, nobody, rfl⟩
  have absent : ∀ (source : Source) (handle : Handle),
      ({ channels } : World T E).entries source handle = 0 := by
    intro source handle
    cases source with
    | waiters channel side => simp [entries, registered, nobody]
    | queue | timer frame | core producer => rfl
  refine ⟨⟨fun handle => .of_absent fun source => absent source handle, ?_, ?_, ?_⟩,
    ⟨?_, ?_, ?_, ?_, ?_⟩, ⟨?_, ?_, ?_, ?_, ?_, ?_, ?_⟩⟩ <;> simp [Status.isSuspended]

theorem invariant_of_reachable (reached : (system T E).Reachable world) : world.Invariant :=
  TransitionSystem.Reachable.invariant Invariant (fun _ => invariant_of_initial)
    (fun _ _ invariant enabled => invariant.perform enabled) reached

/-- Nothing refers to a coroutine, it does not run, and it was destroyed once. -/
structure Cancelled (world : World T E) (handle : Handle) : Prop where
  not_queued : some handle ∉ world.runtime.loop.scheduler.resumable
  not_waiting : ∀ channel side, some handle ∉ ((world.channels channel).waiting side).toList
  not_armed : handle ∉ world.armed
  not_running : handle ∉ world.stack
  destroyed_once : world.destroyed.count handle = 1

theorem Invariant.cancelled (invariant : world.Invariant) (gone : handle ∈ world.destroyed) :
    world.Cancelled handle := by
  rcases invariant with ⟨scheduled, framesValid, owned⟩
  have dead := (owned.destroyed_gone handle gone).2
  have absent := scheduled.absent_of_dead dead
  constructor
  · exact Scheduler.pending_eq_zero.mp (absent .queue)
  · exact fun channel side => List.count_eq_zero.mp (absent (.waiters channel side))
  · intro is_armed
    simpa [dead] using framesValid.armed handle is_armed
  · intro on_stack
    simpa [dead] using (scheduled.running handle on_stack).2
  · exact List.count_eq_one_of_mem owned.destroyed_nodup gone

/-- Dropping a promise from code that runs outside its tree, when no coroutine of the tree is on the
call stack and all of them wait in one of the awaiters described here: every coroutine of the tree
is destroyed, once, and from then on nothing refers to it and it never runs again. -/
theorem cancellation_of_reachable (reached : (system T E).Reachable world) (place : Place)
    (root : Handle) (holds : root ∈ world.held place) (accessible : world.Accessible place)
    (not_running : ∀ node, Below world.children root node → node ∉ world.stack)
    (not_elsewhere : ∀ node, Below world.children root node →
      world.runtime.status node ≠ .elsewhere) :
    ∃ after nodes, world.drop place root = some after ∧
      after.destroyed = world.destroyed ++ nodes ∧ nodes.Nodup ∧
      (∀ node, node ∈ nodes ↔ Below world.children root node) ∧
      ∀ later, (system T E).Steps after later →
        ∀ node, Below world.children root node → later.Cancelled node := by
  have invariant := invariant_of_reachable reached
  rcases invariant.drop_cases holds accessible with ⟨nodes, forest, nodup, outcome⟩
  have mem_iff : ∀ node, node ∈ nodes ↔ Below world.children root node := by
    intro node
    rw [forest.mem_iff]
    simp only [List.mem_singleton, exists_eq_left]
    exact below_take accessible invariant.owned not_running
  rcases outcome with ⟨after, dropped, after_invariant, destroyed_eq⟩ |
    ⟨-, node, node_mem, blocked⟩
  · refine ⟨after, nodes, dropped, destroyed_eq, nodup, mem_iff, ?_⟩
    intro later steps node below
    have along : later.Invariant ∧ node ∈ later.destroyed := by
      refine TransitionSystem.StepsVia.preserve
        (fun state : World T E => state.Invariant ∧ node ∈ state.destroyed) ?_ steps
        ⟨after_invariant, ?_⟩
      · intro state action kept enabled _
        exact ⟨kept.1.perform enabled, kept.1.perform_destroyed enabled node kept.2⟩
      · rw [destroyed_eq]
        exact List.mem_append_right _ ((mem_iff node).mpr below)
    exact along.1.cancelled along.2
  · have below := (mem_iff node).mp node_mem
    exact absurd ⟨not_running node below, not_elsewhere node below⟩ blocked

/-- Coroutine 0 awaits 2, which waits for a channel; it also holds 1, which has ended, and 3, whose
timer has fired but which was not resumed yet. -/
theorem cancellation_four_coroutines :
    ∃ world : World ℕ Unit, (system ℕ Unit).Reachable world ∧ world.children 0 = [3, 2, 1] ∧
      ∃ after, world.drop .outside 0 = some after ∧
        ∀ later, (system ℕ Unit).Steps after later →
          ∀ node ∈ [0, 1, 2, 3], later.Cancelled node := by
  obtain ⟨world, reached, outside, stack, children, leaves, statuses⟩ :=
    (system ℕ Unit).exists_reachableVia_of_replay (fun _ _ => True)
      [.call true, .call true, .yield 1, .call true, .awaitChannel 2 0 .reader, .call true,
        .startTimer 3, .awaitTimer 3, .finish 1 (.value 0), .awaitPromise 0 2, .timerDone 3]
      (fun world : World ℕ Unit => world.held .outside = [0] ∧ world.stack = [] ∧
        world.children 0 = [3, 2, 1] ∧ [1, 2, 3].flatMap world.children = [] ∧
        [0, 1, 2, 3].map world.runtime.status = [.waiting (.promise 2), .done,
          .waiting (.channel 0 .reader), .waiting .sleep])
      (.start ⟨fun _ => .create 1 4 (by decide) (by decide), fun _ side => by cases side <;> rfl,
        rfl⟩) (by decide)
  simp only [List.map_cons, List.map_nil, List.cons.injEq] at statuses
  simp only [List.flatMap_cons, List.flatMap_nil, List.append_eq_nil_iff] at leaves
  have below_iff : ∀ node, Below world.children 0 node ↔ node ∈ [0, 1, 2, 3] := by
    intro node
    constructor
    · intro below
      induction below with
      | refl => decide
      | tail _ is_child ih =>
          simp only [List.mem_cons, List.not_mem_nil, or_false] at ih
          rcases ih with rfl | rfl | rfl | rfl
          · simp only [children, List.mem_cons, List.not_mem_nil, or_false] at is_child
            rcases is_child with rfl | rfl | rfl <;> decide
          · simp [leaves] at is_child
          · simp [leaves] at is_child
          · simp [leaves] at is_child
    · intro node_mem
      simp only [List.mem_cons, List.not_mem_nil, or_false] at node_mem
      rcases node_mem with rfl | rfl | rfl | rfl
      · exact .refl
      · exact .single (by simp [children])
      · exact .single (by simp [children])
      · exact .single (by simp [children])
  obtain ⟨after, nodes, dropped, -, -, -, cancelled⟩ :=
    cancellation_of_reachable reached .outside 0 (by simp [outside])
      (by simp [Accessible, Place.frame]) (by simp [stack])
      (by
        intro node below
        have node_mem := (below_iff node).mp below
        simp only [List.mem_cons, List.not_mem_nil, or_false] at node_mem
        rcases node_mem with rfl | rfl | rfl | rfl <;> simp [statuses])
  exact ⟨world, reached, children, after, dropped, fun later steps node node_mem =>
    cancelled later steps node ((below_iff node).mpr node_mem)⟩

end Uvco.Cancel.World
