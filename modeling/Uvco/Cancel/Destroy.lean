import Uvco.Cancel.Suspend
import Uvco.Library.Forest

/-!
# Destroying a tree of coroutines

`Removed` describes a world from which the frames of some coroutines have been
removed: nothing in it refers to them, and everything else is as it was. Destroying
promises that nobody holds any more removes the coroutines in their trees. The proof
goes over the tree: `destroyCoroutine` removes its own coroutine and then does the
same for the promises in the frame. That a coroutine cancels only itself, and only if
its promise is not finished, is enough: a finished coroutine is in no queue, and the
coroutine that a core would wake is in the tree whenever the core is.
-/

namespace Uvco.Cancel.World

variable {T E : Type} {world : World T E} {handle : Handle}

/-- The coroutines `nodes` have been removed, and nothing else has changed. -/
structure Removed (before after : World T E) (nodes : List Handle) : Prop where
  frame_eq : ∀ handle, after.frame handle = if handle ∈ nodes then none else before.frame handle
  status_eq : ∀ handle, after.runtime.status handle =
    if handle ∈ nodes then .done else before.runtime.status handle
  pending_eq : ∀ handle, after.runtime.pending handle =
    if handle ∈ nodes then 0 else before.runtime.pending handle
  registered_eq : ∀ channel side handle, (after.registered channel side).count (some handle) =
    if handle ∈ nodes then 0 else (before.registered channel side).count (some handle)
  armed_iff : ∀ handle, handle ∈ after.armed ↔ handle ∈ before.armed ∧ handle ∉ nodes
  held_of_mem : ∀ place, ∀ holder ∈ nodes, place.frame = some holder → after.held place = []
  held_of_not_mem : ∀ place, (∀ holder, place.frame = some holder → holder ∉ nodes) →
    after.held place = before.held place
  stack_eq : after.stack = before.stack
  next_eq : after.next = before.next
  destroyed_eq : after.destroyed = before.destroyed ++ nodes

theorem Removed.refl (world : World T E) : Removed world world [] := by
  constructor <;> simp

/-- The destructors of a coroutine find everything that refers to it. -/
structure Destructible (world : World T E) (handle : Handle) (frame : Frame T E) : Prop where
  sound : world.SoundAt handle
  ended : frame.core.state = .finished → world.runtime.status handle = .done
  not_closed : ∀ timer, frame.timer = some timer → timer.closed = false
  armed : handle ∈ world.armed → frame.timer.isSome = true

/-- Where a coroutine waits for a channel, its destruction clears the waiter queue; it is in no
other. -/
theorem destroyAwaiter_spec
    (own : ∀ channel side, 0 < (world.registered channel side).count (some handle) →
      world.runtime.status handle = .waiting (.channel channel side)) :
    ∃ channels, world.destroyAwaiter handle = { world with channels } ∧
      ∀ channel side other,
        (({ world with channels } : World T E).registered channel side).count (some other) =
          if other = handle then 0 else (world.registered channel side).count (some other) := by
  have absent : ∀ channel side, world.runtime.status handle ≠ .waiting (.channel channel side) →
      (world.registered channel side).count (some handle) = 0 := by
    intro channel side not_here
    by_contra present
    exact not_here (own channel side (Nat.pos_of_ne_zero present))
  have unchanged : (∀ channel side,
      world.runtime.status handle ≠ .waiting (.channel channel side)) →
      ∀ channel side other, (world.registered channel side).count (some other) =
        if other = handle then 0 else (world.registered channel side).count (some other) := by
    intro nowhere channel side other
    by_cases same : other = handle
    · rw [if_pos same, same, absent channel side (nowhere channel side)]
    · rw [if_neg same]
  cases status_eq : world.runtime.status handle with
  | running | done | elsewhere =>
      exact ⟨world.channels, by simp [destroyAwaiter, status_eq],
        unchanged (by simp [status_eq])⟩
  | waiting awaiter =>
      cases awaiter with
      | yield | sleep | promise producer =>
          exact ⟨world.channels, by simp [destroyAwaiter, status_eq],
            unchanged (by simp [status_eq])⟩
      | channel index at_side =>
          have destroyed_eq : world.destroyAwaiter handle =
              world.destroyChannelAwaiter handle index at_side := by
            simp [destroyAwaiter, status_eq]
          refine ⟨_, destroyed_eq.trans rfl, ?_⟩
          intro channel side other
          change (world.destroyChannelAwaiter handle index at_side).entries
            (.waiters channel side) other = _
          rw [entries_destroyChannelAwaiter]
          by_cases same : other = handle
          · subst same
            rw [if_pos rfl]
            by_cases here : channel = index ∧ side = at_side
            · rw [if_pos ⟨by rw [here.1, here.2], rfl⟩]
            · rw [if_neg (fun hit => here (by simpa using hit.1))]
              refine absent channel side ?_
              rw [status_eq]
              intro same_point
              exact here (by simpa [eq_comm] using same_point)
          · rw [if_neg (fun hit => same hit.2), if_neg same]
            rfl

theorem destroyTimer_spec {frame : Frame T E}
    (not_closed : ∀ timer, frame.timer = some timer → timer.closed = false)
    (armed : handle ∈ world.armed → frame.timer.isSome = true) :
    ∃ disarmed, world.destroyTimer handle frame = { world with armed := disarmed } ∧
      ∀ other, other ∈ disarmed ↔ other ∈ world.armed ∧ other ≠ handle := by
  cases has : frame.timer with
  | none =>
      refine ⟨world.armed, by simp [destroyTimer, has], ?_⟩
      intro other
      have not_armed : handle ∉ world.armed := fun is_armed => by
        simpa [has] using armed is_armed
      constructor
      · intro is_armed
        exact ⟨is_armed, fun same => not_armed (same ▸ is_armed)⟩
      · exact fun still => still.1
  | some timer =>
      exact ⟨timer.destroy handle world.armed, by simp [destroyTimer, has],
        fun other => TimerAwaiter.mem_destroy (not_closed timer has)⟩

/-- `Loop::cancel` for a coroutine that has not ended; one that has ended is in no queue. -/
theorem cancel_spec {frame : Frame T E}
    (absent : frame.core.state = .finished → world.runtime.pending handle = 0) :
    ∃ runtime : Runtime Awaiter,
      (if frame.core.state ≠ .finished then
        ({ world with runtime := world.runtime.cancel handle } : World T E)
      else world) = { world with runtime } ∧ runtime.status = world.runtime.status ∧
      ∀ other, runtime.pending other =
        if other = handle then 0 else world.runtime.pending other := by
  by_cases finished : frame.core.state = .finished
  · refine ⟨world.runtime, if_neg (by simp [finished]), rfl, ?_⟩
    intro other
    by_cases same : other = handle
    · rw [if_pos same, same, absent finished]
    · rw [if_neg same]
  · refine ⟨world.runtime.cancel handle, if_pos finished, rfl, ?_⟩
    intro other
    by_cases same : other = handle
    · rw [if_pos same, same, Runtime.pending_cancel_self]
    · rw [if_neg same, Runtime.pending_cancel_of_ne same]

/-- `Loop::cancel`, and `coroutine_.destroy()`. -/
theorem Removed.destroyFrame {before : World T E} {removed : List Handle}
    (so_far : Removed before world removed) {node : Handle} {frame : Frame T E}
    (node_new : node ∉ removed) (destructible : Destructible before node frame) :
    Removed before
      ((if frame.core.state ≠ .finished then
          { world with runtime := world.runtime.cancel node }
        else world).destroyFrame node frame) (removed ++ [node]) := by
  have absent : frame.core.state = .finished → world.runtime.pending node = 0 := by
    intro finished
    have sound := destructible.sound
    unfold SoundAt at sound
    rw [destructible.ended finished] at sound
    rw [so_far.pending_eq, if_neg node_new]
    exact sound.absent_of_done .queue
  rcases cancel_spec absent with ⟨runtime, cancelled_eq, status_eq, pending_eq⟩
  rw [cancelled_eq]
  have node_status : runtime.status node = before.runtime.status node := by
    rw [status_eq, so_far.status_eq, if_neg node_new]
  have own : ∀ channel side,
      0 < (({ world with runtime } : World T E).registered channel side).count (some node) →
      ({ world with runtime } : World T E).runtime.status node =
        .waiting (.channel channel side) := by
    intro channel side present
    have counted := so_far.registered_eq channel side node
    rw [if_neg node_new] at counted
    change 0 < (world.registered channel side).count (some node) at present
    rw [counted] at present
    exact node_status.trans
      (destructible.sound.waits_of_registered (List.count_pos_iff.mp present))
  have armed : node ∈ world.armed → frame.timer.isSome = true :=
    fun is_armed => destructible.armed ((so_far.armed_iff node).mp is_armed).1
  rcases destroyAwaiter_spec own with ⟨channels, awaiter_eq, counts⟩
  have armed_now : node ∈ ({ world with runtime, channels } : World T E).armed →
      frame.timer.isSome = true := armed
  rcases destroyTimer_spec destructible.not_closed armed_now with
    ⟨disarmed, timer_eq, disarmed_iff⟩
  have mem_iff : ∀ other, other ∈ removed ++ [node] ↔ other ∈ removed ∨ other = node := by
    simp
  unfold World.destroyFrame
  rw [awaiter_eq, timer_eq]
  constructor
  · intro other
    by_cases same : other = node
    · simp [same]
    · simp [same, so_far.frame_eq]
  · intro other
    by_cases same : other = node
    · simp [same]
    · simp [same, Runtime.setStatus_status_of_ne, status_eq, so_far.status_eq]
  · intro other
    change runtime.pending other = _
    rw [pending_eq, so_far.pending_eq]
    by_cases same : other = node <;> simp [same]
  · intro channel side other
    refine (counts channel side other).trans ?_
    change (if other = node then 0 else (world.registered channel side).count (some other)) = _
    rw [so_far.registered_eq]
    by_cases same : other = node <;> simp [same]
  · intro other
    refine (disarmed_iff other).trans ?_
    rw [so_far.armed_iff, mem_iff, not_or, and_assoc]
  · intro place holder holder_mem holder_eq
    rcases (mem_iff holder).mp holder_mem with older | rfl
    · simp [so_far.held_of_mem place holder older holder_eq]
    · simp [holder_eq]
  · intro place none_removed
    have not_node : place.frame ≠ some node := fun same =>
      none_removed node same ((mem_iff node).mpr (.inr rfl))
    have older := so_far.held_of_not_mem place fun holder holder_eq older =>
      none_removed holder holder_eq ((mem_iff holder).mpr (.inl older))
    simp [not_node, older]
  · exact so_far.stack_eq
  · exact so_far.next_eq
  · simp [so_far.destroyed_eq]

/-- The coroutine may be destroyed: it is not on the call stack, and suspended in one of the
awaiters described here, if at all. -/
def Removable (world : World T E) (node : Handle) : Prop :=
  node ∉ world.stack ∧ world.runtime.status node ≠ .elsewhere

theorem Removed.destroyCoroutine_eq {before : World T E} {removed : List Handle}
    (so_far : Removed before world removed) {root : Handle} {frame : Frame T E}
    (root_new : root ∉ removed) (found : before.frame root = some frame)
    (removable : before.Removable root) (depth : ℕ) :
    destroyCoroutine (depth + 1) world root =
      (before.children root).foldlM (destroyCoroutine depth)
        ((if frame.core.state ≠ .finished then
            { world with runtime := world.runtime.cancel root }
          else world).destroyFrame root frame) := by
  have found_now : world.frame root = some frame := by
    rw [so_far.frame_eq, if_neg root_new, found]
  have not_blocked : ¬(root ∈ world.stack ∨ world.runtime.status root = .elsewhere) := by
    rw [so_far.stack_eq, so_far.status_eq, if_neg root_new, not_or]
    exact removable
  have held_now : ∀ place : Place, place.frame = some root →
      world.held place = before.held place := by
    intro place place_frame
    refine so_far.held_of_not_mem place fun holder holder_eq => ?_
    rw [← Option.some.inj (place_frame.symm.trans holder_eq)]
    exact root_new
  have children_now : world.children root = before.children root := by
    rw [children, children, held_now _ rfl, held_now _ rfl]
  rw [destroyCoroutine, found_now]
  simp only [not_blocked, if_false, children_now]

theorem Removed.destroyCoroutine_none {before : World T E} {removed : List Handle}
    (so_far : Removed before world removed) {root : Handle} {frame : Frame T E}
    (root_new : root ∉ removed) (found : before.frame root = some frame)
    (not_removable : ¬before.Removable root) (depth : ℕ) :
    destroyCoroutine (depth + 1) world root = none := by
  have found_now : world.frame root = some frame := by
    rw [so_far.frame_eq, if_neg root_new, found]
  have blocked : root ∈ world.stack ∨ world.runtime.status root = .elsewhere := by
    rw [so_far.stack_eq, so_far.status_eq, if_neg root_new]
    by_contra not_blocked
    exact not_removable (not_or.mp not_blocked)
  rw [destroyCoroutine, found_now]
  simp only [blocked, if_true]

/-- Destroying promises removes their trees, unless a coroutine must not be destroyed. -/
theorem destroy_forest {before : World T E}
    (destructible : ∀ node frame, node ∉ before.stack → before.frame node = some frame →
      Destructible before node frame) {roots nodes : List Handle}
    (forest : Forest before.children roots nodes)
    (live : ∀ node ∈ nodes, (before.frame node).isSome = true) (nodup : nodes.Nodup) :
    ∀ (removed : List Handle) (world : World T E) (depth : ℕ), Removed before world removed →
      (∀ node ∈ nodes, node ∉ removed) → nodes.length ≤ depth →
      (∃ after, roots.foldlM (destroyCoroutine depth) world = some after ∧
          Removed before after (removed ++ nodes) ∧ ∀ node ∈ nodes, before.Removable node) ∨
        (roots.foldlM (destroyCoroutine depth) world = none ∧
          ∃ node ∈ nodes, ¬before.Removable node) := by
  induction forest with
  | nil =>
      intro removed world depth so_far _ _
      exact .inl ⟨world, rfl, by simpa using so_far, by simp⟩
  | @cons root roots below behind below_tree behind_trees below_ih behind_ih =>
      intro removed world depth so_far new enough
      simp only [List.mem_cons, List.mem_append, forall_eq_or_imp] at live new
      rw [List.nodup_cons, List.nodup_append'] at nodup
      rcases nodup with ⟨root_new, below_nodup, behind_nodup, disjoint⟩
      simp only [List.length_cons, List.length_append] at enough
      obtain ⟨depth, rfl⟩ : ∃ less, depth = less + 1 := ⟨depth - 1, by omega⟩
      rcases Option.isSome_iff_exists.mp live.1 with ⟨frame, found⟩
      by_cases removable : before.Removable root
      · have root_removed := so_far.destroyFrame new.1
          (destructible root frame removable.1 found)
        have unfolded := so_far.destroyCoroutine_eq new.1 found removable depth
        have below_new : ∀ node ∈ below, node ∉ removed ++ [root] := by
          intro node node_mem
          simp only [List.mem_append, List.mem_singleton, not_or]
          exact ⟨new.2 node (.inl node_mem), fun same =>
            root_new (List.mem_append_left _ (same ▸ node_mem))⟩
        rcases below_ih (fun node node_mem => live.2 node (.inl node_mem)) below_nodup _ _ depth
            root_removed below_new (by omega) with
          ⟨middle, below_eq, below_removed, below_removable⟩ |
          ⟨below_eq, node, node_mem, blocked⟩
        · have behind_new : ∀ node ∈ behind, node ∉ removed ++ [root] ++ below := by
            intro node node_mem
            simp only [List.mem_append, List.mem_singleton, not_or]
            exact ⟨⟨new.2 node (.inr node_mem), fun same =>
              root_new (List.mem_append_right _ (same ▸ node_mem))⟩,
              fun inside => disjoint inside node_mem⟩
          have all_eq : removed ++ [root] ++ below ++ behind =
              removed ++ root :: (below ++ behind) := by simp
          rcases behind_ih (fun node node_mem => live.2 node (.inr node_mem)) behind_nodup _ _
              (depth + 1) below_removed behind_new (by omega) with
            ⟨after, behind_eq, all_removed, behind_removable⟩ |
            ⟨behind_eq, node, node_mem, blocked⟩
          · refine .inl ⟨after, ?_, all_eq ▸ all_removed, ?_⟩
            · rw [List.foldlM_cons, unfolded, below_eq]
              exact behind_eq
            · simp only [List.mem_cons, List.mem_append, forall_eq_or_imp]
              exact ⟨removable, fun node node_mem => node_mem.elim (below_removable node)
                (behind_removable node)⟩
          · refine .inr ⟨?_, node, by simp [node_mem], blocked⟩
            rw [List.foldlM_cons, unfolded, below_eq]
            exact behind_eq
        · refine .inr ⟨?_, node, by simp [node_mem], blocked⟩
          rw [List.foldlM_cons, unfolded, below_eq]
          rfl
      · refine .inr ⟨?_, root, List.mem_cons_self, removable⟩
        rw [List.foldlM_cons, so_far.destroyCoroutine_none new.1 found removable depth]
        rfl

/-! ## The trees of promises that nobody holds -/

theorem mem_children {parent child : Handle} :
    child ∈ world.children parent ↔
      ∃ place : Place, place.frame = some parent ∧ child ∈ world.held place := by
  rw [children, List.mem_append]
  constructor
  · rintro (in_locals | in_parameters)
    · exact ⟨.locals parent, rfl, in_locals⟩
    · exact ⟨.parameters parent, rfl, in_parameters⟩
  · rintro ⟨place, place_frame, holds⟩
    cases place with
    | outside => simp [Place.frame] at place_frame
    | locals holder => exact .inl (Option.some.inj place_frame ▸ holds)
    | parameters holder => exact .inr (Option.some.inj place_frame ▸ holds)

theorem Owned.uniqueParents (owned : world.Owned) : UniqueParents world.children := by
  constructor
  · intro parent
    rw [children, List.nodup_append']
    refine ⟨owned.nodup _, owned.nodup _, ?_⟩
    intro child in_locals in_parameters
    simpa using owned.unique in_locals in_parameters
  · intro parent other child of_parent of_other
    rcases mem_children.mp of_parent with ⟨place, place_frame, holds⟩
    rcases mem_children.mp of_other with ⟨second, second_frame, also_holds⟩
    rw [owned.unique holds also_holds] at place_frame
    exact Option.some.inj (place_frame.symm.trans second_frame)

/-- Every coroutine that is not on the stack can be destroyed. -/
structure Destroyable (world : World T E) : Prop where
  owned : world.Owned
  fresh : ∀ handle, world.next ≤ handle → world.frame handle = none
  destructible : ∀ node frame, node ∉ world.stack → world.frame node = some frame →
    Destructible world node frame

theorem Invariant.destroyable (invariant : world.Invariant) : world.Destroyable where
  owned := invariant.owned
  fresh := invariant.framesValid.fresh
  destructible node frame _ found := {
    sound := invariant.scheduled.sound node
    ended := invariant.framesValid.ended node frame found
    not_closed := fun timer has => invariant.framesValid.not_closed node frame timer found has
    armed := fun is_armed => by simpa [found] using invariant.framesValid.armed node is_armed }

/-- Promises that were taken out of their places. -/
structure Orphans (world : World T E) (promises : List Handle) : Prop where
  nodup : promises.Nodup
  live : ∀ promise ∈ promises, (world.frame promise).isSome = true
  unheld : ∀ promise ∈ promises, ∀ place, promise ∉ world.held place

/-- The trees of orphaned promises are finite, and destroying the promises removes them, unless a
coroutine in them must not be destroyed. -/
theorem Destroyable.destroyPromises (destroyable : world.Destroyable) {promises : List Handle}
    (orphans : world.Orphans promises) :
    ∃ nodes, Forest world.children promises nodes ∧ nodes.Nodup ∧
      (∀ node ∈ nodes, (world.frame node).isSome = true) ∧
      ((∃ after, world.destroyPromises promises = some after ∧ Removed world after nodes ∧
          ∀ node ∈ nodes, world.Removable node) ∨
        (world.destroyPromises promises = none ∧ ∃ node ∈ nodes, ¬world.Removable node)) := by
  have below_next : ∀ handle, (world.frame handle).isSome = true → handle < world.next := by
    intro handle live
    by_contra beyond
    simp [destroyable.fresh handle (Nat.not_lt.mp beyond)] at live
  have child_live : ∀ ⦃parent child⦄, child ∈ world.children parent →
      (world.frame child).isSome = true := by
    intro parent child is_child
    rcases mem_children.mp is_child with ⟨place, -, holds⟩
    exact destroyable.owned.live place child holds
  rcases destroyable.owned.uniqueParents.exists_forest (Finset.range world.next)
      (fun parent child is_child => Finset.mem_range.mpr (below_next child (child_live is_child)))
      orphans.nodup (fun promise promise_mem parent is_child => by
        rcases mem_children.mp is_child with ⟨place, -, holds⟩
        exact orphans.unheld promise promise_mem place holds) with ⟨nodes, forest, nodup⟩
  have live : ∀ node ∈ nodes, (world.frame node).isSome = true := by
    intro node node_mem
    rcases forest.root_or_child node_mem with is_root | ⟨parent, -, is_child⟩
    · exact orphans.live node is_root
    · exact child_live is_child
  have enough : nodes.length ≤ world.next := by
    rw [← List.toFinset_card_of_nodup nodup]
    refine (Finset.card_le_card ?_).trans (Finset.card_range world.next).le
    intro node node_mem
    exact Finset.mem_range.mpr (below_next node (live node (List.mem_toFinset.mp node_mem)))
  refine ⟨nodes, forest, nodup, live, ?_⟩
  exact destroy_forest destroyable.destructible forest live nodup [] world world.next
    (.refl world) (by simp) enough

/-! ## What is left after a forest was removed -/

section Removed

variable {promises nodes : List Handle} {after : World T E}

/-- Whoever holds the promise of a removed coroutine is removed, too. -/
theorem Owned.holder_removed (owned : world.Owned) (orphans : world.Orphans promises)
    (forest : Forest world.children promises nodes) {place : Place} {promise : Handle}
    (promise_mem : promise ∈ nodes) (holds : promise ∈ world.held place) :
    ∃ holder ∈ nodes, place.frame = some holder := by
  rcases forest.root_or_child promise_mem with is_root | ⟨parent, parent_mem, is_child⟩
  · exact absurd holds (orphans.unheld promise is_root place)
  · rcases mem_children.mp is_child with ⟨other, other_frame, also_holds⟩
    exact ⟨parent, parent_mem, owned.unique holds also_holds ▸ other_frame⟩

/-- A coroutine and the promise it awaits are removed together. -/
theorem Invariant.awaited_removed (invariant : world.Invariant) (orphans : world.Orphans promises)
    (forest : Forest world.children promises nodes) {producer : Handle}
    (registered : world.waitingHandle producer = some handle) :
    producer ∈ nodes ↔ handle ∈ nodes := by
  have awaits := (invariant.scheduled.sound handle).awaits_of_waitingHandle registered
  have is_child := invariant.owned.awaited handle producer awaits
  constructor
  · intro producer_mem
    rcases mem_children.mp is_child with ⟨place, place_frame, holds⟩
    rcases invariant.owned.holder_removed orphans forest producer_mem holds with
      ⟨holder, holder_mem, same⟩
    exact Option.some.inj (same.symm.trans place_frame) ▸ holder_mem
  · exact fun handle_mem => forest.children_mem handle_mem is_child

theorem Removed.kept_of_frame (removed : Removed world after nodes) {frame : Frame T E}
    (found : after.frame handle = some frame) :
    handle ∉ nodes ∧ world.frame handle = some frame := by
  rw [removed.frame_eq] at found
  split at found
  · simp at found
  · exact ⟨‹_›, found⟩

theorem Removed.live_of_kept (removed : Removed world after nodes) (kept : handle ∉ nodes)
    (was_live : (world.frame handle).isSome = true) : (after.frame handle).isSome = true := by
  rw [removed.frame_eq, if_neg kept]
  exact was_live

theorem Removed.held_before (removed : Removed world after nodes) {place : Place}
    {promise : Handle} (holds : promise ∈ after.held place) :
    promise ∈ world.held place ∧ ∀ holder, place.frame = some holder → holder ∉ nodes := by
  have none_removed : ∀ holder, place.frame = some holder → holder ∉ nodes := by
    intro holder holder_eq holder_mem
    simp [removed.held_of_mem place holder holder_mem holder_eq] at holds
  exact ⟨removed.held_of_not_mem place none_removed ▸ holds, none_removed⟩

/-- A frame that is removed takes along what it holds, if that belongs to removed coroutines. -/
theorem count_removed {registered left : Option Handle} {holder : Handle}
    (left_eq : left = if holder ∈ nodes then none else registered)
    (together : registered = some handle → (holder ∈ nodes ↔ handle ∈ nodes)) :
    left.toList.count handle = if handle ∈ nodes then 0 else registered.toList.count handle := by
  subst left_eq
  by_cases same : registered = some handle
  · by_cases gone : handle ∈ nodes
    · simp [gone, (together same).mpr gone]
    · simp [gone, mt (together same).mp gone]
  · have absent : registered.toList.count handle = 0 :=
      List.count_eq_zero.mpr (by simpa using same)
    rw [absent, ite_self]
    split
    · rfl
    · exact absent

theorem Invariant.entries_removed (invariant : world.Invariant) (orphans : world.Orphans promises)
    (forest : Forest world.children promises nodes) (removed : Removed world after nodes)
    (source : Source) (handle : Handle) :
    after.entries source handle =
      if handle ∈ nodes then 0 else world.entries source handle := by
  cases source with
  | queue => exact removed.pending_eq handle
  | waiters channel side => exact removed.registered_eq channel side handle
  | timer frame =>
      have left_eq : after.timerHandle frame =
          if frame ∈ nodes then none else world.timerHandle frame := by
        simp only [timerHandle, removed.frame_eq]
        split <;> rfl
      refine count_removed left_eq fun registered => ?_
      rw [((invariant.scheduled.sound handle).eq_of_timerHandle registered).1]
  | core producer =>
      have left_eq : after.waitingHandle producer =
          if producer ∈ nodes then none else world.waitingHandle producer := by
        simp only [waitingHandle, removed.frame_eq]
        split <;> rfl
      exact count_removed left_eq (invariant.awaited_removed orphans forest)

theorem Scheduled.removed (scheduled : world.Scheduled) (removed : Removed world after nodes)
    (not_running : ∀ node ∈ nodes, node ∉ world.stack)
    (entries_eq : ∀ source handle, after.entries source handle =
      if handle ∈ nodes then 0 else world.entries source handle) : after.Scheduled := by
  refine ⟨?_, ?_, ?_, removed.stack_eq ▸ scheduled.stack_nodup⟩
  · intro handle
    by_cases gone : handle ∈ nodes
    · exact .of_absent (by simp [entries_eq, gone])
    · refine (scheduled.sound handle).congr ?_ (by simp [entries_eq, gone])
      rw [removed.status_eq, if_neg gone]
  · intro handle suspended
    rw [removed.status_eq] at suspended
    split at suspended
    · simp [Status.isSuspended] at suspended
    · exact removed.live_of_kept ‹_› (scheduled.suspended_live handle suspended)
  · intro handle on_stack
    rw [removed.stack_eq] at on_stack
    have kept : handle ∉ nodes := fun gone => not_running handle gone on_stack
    rcases scheduled.running handle on_stack with ⟨running, was_live⟩
    rw [removed.status_eq, if_neg kept]
    exact ⟨running, removed.live_of_kept kept was_live⟩

theorem FramesValid.removed (framesValid : world.FramesValid)
    (removed : Removed world after nodes) : after.FramesValid := by
  constructor
  · intro handle frame found
    exact framesValid.valid handle frame (removed.kept_of_frame found).2
  · intro handle frame found finished
    rcases removed.kept_of_frame found with ⟨kept, was⟩
    rw [removed.status_eq, if_neg kept]
    exact framesValid.ended handle frame was finished
  · intro handle frame timer found has
    exact framesValid.not_closed handle frame timer (removed.kept_of_frame found).2 has
  · intro handle is_armed
    rcases (removed.armed_iff handle).mp is_armed with ⟨was_armed, kept⟩
    rw [removed.frame_eq, if_neg kept]
    exact framesValid.armed handle was_armed
  · intro handle is_fresh
    rw [removed.next_eq] at is_fresh
    rw [removed.frame_eq]
    split
    · rfl
    · exact framesValid.fresh handle is_fresh

theorem Owned.removed (owned : world.Owned) (orphans : world.Orphans promises)
    (forest : Forest world.children promises nodes) (nodup : nodes.Nodup)
    (live : ∀ node ∈ nodes, (world.frame node).isSome = true)
    (fresh : ∀ handle, world.next ≤ handle → world.frame handle = none)
    (removed : Removed world after nodes) : after.Owned := by
  constructor
  · intro handle producer waits
    rw [removed.status_eq] at waits
    split at waits
    · simp at waits
    · rename_i kept
      rcases mem_children.mp (owned.awaited handle producer waits) with ⟨place, place_frame, holds⟩
      refine mem_children.mpr ⟨place, place_frame, ?_⟩
      rw [removed.held_of_not_mem place fun holder holder_eq =>
        Option.some.inj (place_frame.symm.trans holder_eq) ▸ kept]
      exact holds
  · intro place promise holds
    rcases removed.held_before holds with ⟨held, none_removed⟩
    refine removed.live_of_kept ?_ (owned.live place promise held)
    intro gone
    rcases owned.holder_removed orphans forest gone held with ⟨holder, holder_mem, holder_eq⟩
    exact none_removed holder holder_eq holder_mem
  · intro place holder nonempty holder_eq
    rcases List.exists_mem_of_ne_nil _ nonempty with ⟨promise, holds⟩
    rcases removed.held_before holds with ⟨held, none_removed⟩
    exact removed.live_of_kept (none_removed holder holder_eq)
      (owned.holder_live place holder (List.ne_nil_of_mem held) holder_eq)
  · intro place
    by_cases some_removed : ∃ holder ∈ nodes, place.frame = some holder
    · rcases some_removed with ⟨holder, holder_mem, holder_eq⟩
      rw [removed.held_of_mem place holder holder_mem holder_eq]
      exact List.nodup_nil
    · rw [removed.held_of_not_mem place fun holder holder_eq holder_mem =>
        some_removed ⟨holder, holder_mem, holder_eq⟩]
      exact owned.nodup place
  · intro place other promise holds also_holds
    exact owned.unique (removed.held_before holds).1 (removed.held_before also_holds).1
  · intro handle gone
    rw [removed.destroyed_eq, List.mem_append] at gone
    rw [removed.next_eq, removed.frame_eq]
    rcases gone with older | gone
    · rcases owned.destroyed_gone handle older with ⟨used, no_frame⟩
      exact ⟨used, by simp [no_frame]⟩
    · refine ⟨?_, if_pos gone⟩
      by_contra beyond
      simpa [fresh handle (Nat.not_lt.mp beyond)] using live handle gone
  · rw [removed.destroyed_eq, List.nodup_append']
    refine ⟨owned.destroyed_nodup, nodup, ?_⟩
    intro handle older gone
    simpa [(owned.destroyed_gone handle older).2] using live handle gone

theorem Invariant.removed (invariant : world.Invariant) (orphans : world.Orphans promises)
    (forest : Forest world.children promises nodes) (nodup : nodes.Nodup)
    (live : ∀ node ∈ nodes, (world.frame node).isSome = true)
    (not_running : ∀ node ∈ nodes, node ∉ world.stack)
    (removed : Removed world after nodes) : after.Invariant :=
  ⟨invariant.scheduled.removed removed not_running
      (invariant.entries_removed orphans forest removed),
    invariant.framesValid.removed removed,
    invariant.owned.removed orphans forest nodup live invariant.framesValid.fresh removed⟩

end Removed

end Uvco.Cancel.World
