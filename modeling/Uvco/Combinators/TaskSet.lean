import Mathlib.Algebra.Group.Nat.Defs
import Mathlib.Data.Finset.Card
import Uvco.Combinators.WaitPoint

/-!
# Task sets

This file embeds `TaskSetImpl` of `uvco/combinators.cc`. A task set wraps every
task it is given in a coroutine `wrap()`, keeps the promises of these coroutines
in a map, and removes an entry one `wrap()` later than its task finished. Whether
all tasks have finished is read off the sizes of the map and of the list of ids
that are to be removed.

`add()` evaluates `wrap()` before it inserts the promise. Control can leave it in
between: a `wrap()` that suspends hands control to the next coroutine of the loop,
and the error callback of a failed task may do anything. Calls of `add()` that
have not inserted their entry yet are kept on a stack, since they return in the
reverse order. A task counts as unfinished until its `wrap()` has ended.

Identifiers are natural numbers; the sizes are subtracted in 64 bits.
-/

namespace Uvco

/-- The difference of two values of type `size_t`. -/
def sizeSub (left right : ℕ) : ℕ :=
  (left + (2 ^ 64 - right % 2 ^ 64)) % 2 ^ 64

/-- `class TaskSetImpl`, less the wait point. -/
structure TaskSet where
  counter : ℕ := 0
  /-- The keys of `tasks_`. -/
  tasks : Finset ℕ := ∅
  doneTasks : List ℕ := []

namespace TaskSet

/-- `tasks_.size() - doneTasks_.size()`. -/
def active (taskSet : TaskSet) : ℕ :=
  sizeSub taskSet.tasks.card taskSet.doneTasks.length

/-- `empty()`: no task is active. -/
def empty (taskSet : TaskSet) : Bool :=
  0 == taskSet.active

/-- The loop that drops finished tasks. -/
def eraseDone : List ℕ → Finset ℕ → Finset ℕ
  | [], tasks => tasks
  | front :: rest, tasks => eraseDone rest (tasks.erase front)

/-- The end of `wrap()`: drop finished tasks, and mark this one for clean-up. -/
def cleanUp (taskSet : TaskSet) (taskId : ℕ) : TaskSet :=
  { taskSet with tasks := eraseDone taskSet.doneTasks taskSet.tasks, doneTasks := [taskId] }

/-- `tasks_.emplace(taskId, ...)`. -/
def insert (taskSet : TaskSet) (taskId : ℕ) : TaskSet :=
  { taskSet with tasks := Insert.insert taskId taskSet.tasks }

/-- A call of `add()` that has not inserted its entry yet. -/
structure Adding where
  taskId : ℕ
  /-- The task had finished or failed before, so that `wrap()` does not suspend. -/
  ready : Bool
deriving DecidableEq

/-- A task set with the coroutines that wait for it to be empty. -/
structure State where
  taskSet : TaskSet := {}
  /-- The wait point `onEmpty_` with the loop and the coroutines. -/
  point : WaitPoint.State := {}
  /-- The calls of `add()` in progress, the innermost first. -/
  adding : List Adding := []
  /-- The tasks whose `wrap()` has not ended. -/
  unfinished : Finset ℕ := ∅
  /-- For every release of `onEmpty()` waiters, the other tasks unfinished at that moment. -/
  releases : List (Finset ℕ) := []

namespace State

variable (state : State)

/-- `add()` up to where control leaves its `wrap()`: the coroutine suspends and hands control to
the next one, or goes on with a task that is ready. -/
def add (ready : Bool) : State :=
  let taskId := state.taskSet.counter
  { state with
    taskSet := { state.taskSet with counter := taskId + 1 }
    point := if ready then state.point else state.point.resumeNext
    adding := ⟨taskId, ready⟩ :: state.adding
    unfinished := Insert.insert taskId state.unfinished }

/-- Control returns to the innermost `add()`, which inserts the promise of its `wrap()`. -/
def insert : State :=
  match state.adding with
  | [] => state
  | innermost :: rest =>
      { state with taskSet := state.taskSet.insert innermost.taskId, adding := rest }

/-- `onEmpty_.releaseAll()` on behalf of a task that has finished. -/
def releaseAll (taskId : ℕ) : State :=
  { state with
    point := state.point.releaseAll
    releases :=
      if state.point.waitPoint.waiters.isEmpty then state.releases
      else state.releases ++ [state.unfinished.erase taskId] }

/-- Already trigger `onEmpty()` if no more tasks are left. -/
def releaseIfLast (taskId : ℕ) : State :=
  if sizeSub state.taskSet.active 1 == 0 then state.releaseAll taskId else state

/-- `wrap()` behind its `try` block, up to its end. -/
def wrapEnd (taskId : ℕ) : State :=
  { state.releaseIfLast taskId with
    taskSet := state.taskSet.cleanUp taskId
    adding := state.adding
    unfinished := state.unfinished.erase taskId }

/-- A task has finished and its `wrap()` runs to its end. A `wrap()` that never suspended
returns to its `add()`. -/
def finish (taskId : ℕ) : State :=
  if state.adding.head? = some ⟨taskId, true⟩ then (state.wrapEnd taskId).insert
  else state.wrapEnd taskId

/-- `onEmpty()` up to its suspension in the wait point. -/
def onEmpty : State :=
  if state.taskSet.empty then state else { state with point := state.point.wait }

end State

/-- What the users of a task set, its tasks and the scheduler can do next. -/
inductive Action where
  /-- `add()` is called, with a task that is ready or not. -/
  | add (ready : Bool)
  | insert
  | finish (taskId : ℕ)
  | onEmpty
  /-- The scheduler, or a coroutine that is not one of the task set's, does something. -/
  | schedule (action : WaitPoint.Action)
deriving DecidableEq

/-- What happens around the wait point besides waiting and releasing. -/
def IsScheduling : WaitPoint.Action → Prop
  | .resumeNext | .spawnOther | .enqueueOther _ => True
  | .wait | .releaseOne | .releaseAll | .drop _ => False

namespace Action

/-- A map never holds `2 ^ 64` entries. -/
def Enabled (state : State) : Action → Prop
  | .add _ | .onEmpty => True
  | .insert => (∃ taskId, state.adding.head? = some ⟨taskId, false⟩) ∧
      state.taskSet.tasks.card + 1 < 2 ^ 64
  | .finish taskId => taskId ∈ state.unfinished ∧
      (⟨taskId, true⟩ ∈ state.adding → state.adding.head? = some ⟨taskId, true⟩) ∧
      state.taskSet.tasks.card + 1 < 2 ^ 64
  | .schedule action => IsScheduling action ∧ action.Enabled state.point

/-- The state after an action. -/
def perform (state : State) : Action → State
  | .add ready => state.add ready
  | .insert => state.insert
  | .finish taskId => state.finish taskId
  | .onEmpty => state.onEmpty
  | .schedule action => { state with point := action.perform state.point }

end Action

/-- All programs around one task set. -/
def system : TransitionSystem State Action where
  Initial state := state = {}
  Enabled state action := action.Enabled state
  perform state action := action.perform state

namespace State

variable (state : State)

/-- The unfinished tasks whose `add()` has returned. -/
def inserted : Finset ℕ :=
  state.taskSet.tasks ∩ state.unfinished

/-- The set is empty exactly if all tasks have ended, and `onEmpty()` goes by that. -/
structure Exact (state : State) : Prop where
  empty_iff : state.adding = [] → (state.taskSet.empty = true ↔ state.unfinished = ∅)
  released : ∀ others ∈ state.releases, others = ∅
  all_released : state.unfinished = ∅ → state.point.released = state.point.started
  no_underflow : state.taskSet.doneTasks.length ≤ state.taskSet.tasks.card
  removable : ∀ taskId ∈ state.taskSet.tasks,
    taskId ∈ state.unfinished ∨ taskId ∈ state.taskSet.doneTasks

/-- No `wrap()` ends while another one, which ended within its own `add()`, is not inserted yet.
None releases waiters unless its task is the last one. None ends within its own `add()`, after
having been suspended there, unless another inserted task is unfinished. -/
def EndsInOrder (action : Action) : Prop :=
  ∀ taskId, action = .finish taskId →
    (∀ adding ∈ state.adding, adding.taskId ∈ state.unfinished) ∧
      (state.point.waitPoint.waiters ≠ [] → state.inserted.card = 1 →
        taskId ∈ state.taskSet.tasks ∧ state.adding = []) ∧
      (⟨taskId, false⟩ ∈ state.adding → state.inserted.Nonempty)

/-- The map, the list of ids to remove and the calls of `add()` in progress agree. -/
structure Invariant (state : State) : Prop where
  card_lt : state.taskSet.tasks.card < 2 ^ 64
  tasks_lt : ∀ taskId ∈ state.taskSet.tasks, taskId < state.taskSet.counter
  adding_lt : ∀ adding ∈ state.adding, adding.taskId < state.taskSet.counter
  adding_once : (state.adding.map Adding.taskId).Nodup
  not_inserted : ∀ adding ∈ state.adding, adding.taskId ∉ state.taskSet.tasks
  known : ∀ taskId ∈ state.unfinished,
    taskId ∈ state.taskSet.tasks ∨ taskId ∈ state.adding.map Adding.taskId
  removable : ∀ taskId ∈ state.taskSet.tasks,
    taskId ∈ state.unfinished ∨ taskId ∈ state.taskSet.doneTasks
  added : ∀ adding ∈ state.adding,
    adding.taskId ∈ state.unfinished ∨ adding.taskId ∈ state.taskSet.doneTasks
  done_once : state.taskSet.doneTasks.length ≤ 1
  done_finished : ∀ taskId ∈ state.taskSet.doneTasks, taskId ∉ state.unfinished
  done_known : ∀ taskId ∈ state.taskSet.doneTasks,
    taskId ∈ state.taskSet.tasks ∨ taskId ∈ state.adding.map Adding.taskId
  waiting : state.point.waitPoint.waiters ≠ [] → state.inserted.Nonempty
  released : ∀ others ∈ state.releases, others = ∅
  point : WaitPoint.system.ReachableVia WaitPoint.State.DropsNoWaiter state.point

/-- A task that is to be removed is inserted, or there is another entry that makes up for it. -/
def Covered (state : State) : Prop :=
  ∀ taskId ∈ state.taskSet.doneTasks, taskId ∈ state.taskSet.tasks ∨ state.inserted.Nonempty

end State

theorem sizeSub_eq {left right : ℕ} (left_lt : left < 2 ^ 64) (right_le : right ≤ left) :
    sizeSub left right = left - right := by
  unfold sizeSub
  omega

theorem sizeSub_one_eq_zero {size : ℕ} (size_lt : size < 2 ^ 64) :
    sizeSub size 1 = 0 ↔ size = 1 := by
  unfold sizeSub
  omega

namespace State

theorem card_tasks (state : State) :
    state.taskSet.tasks.card = state.inserted.card +
      (state.taskSet.tasks \ state.unfinished).card :=
  (Finset.card_inter_add_card_sdiff _ _).symm

theorem inserted_subset_add (state : State) (ready : Bool) :
    state.inserted ⊆ (state.add ready).inserted :=
  Finset.inter_subset_inter (Finset.Subset.refl _) (Finset.subset_insert ..)

theorem inserted_subset_insert (state : State) : state.inserted ⊆ state.insert.inserted := by
  unfold State.insert
  split
  · exact Finset.Subset.refl _
  · exact Finset.inter_subset_inter (Finset.subset_insert ..) (Finset.Subset.refl _)

namespace Invariant

variable {state : State}

theorem sdiff_eq_empty_of_done (invariant : state.Invariant)
    (nothing_done : ∀ taskId ∈ state.taskSet.doneTasks, taskId ∉ state.taskSet.tasks) :
    state.taskSet.tasks \ state.unfinished = ∅ := by
  rw [Finset.sdiff_eq_empty_iff_subset]
  intro taskId inserted
  rcases invariant.removable taskId inserted with unfinished | done
  · exact unfinished
  · exact absurd inserted (nothing_done taskId done)

theorem sdiff_eq_singleton_of_done (invariant : state.Invariant) {taskId : ℕ}
    (done : state.taskSet.doneTasks = [taskId]) (inserted : taskId ∈ state.taskSet.tasks) :
    state.taskSet.tasks \ state.unfinished = {taskId} := by
  ext other
  rw [Finset.mem_sdiff, Finset.mem_singleton]
  constructor
  · rintro ⟨other_inserted, finished⟩
    have other_done := (invariant.removable other other_inserted).resolve_left finished
    simpa [done] using other_done
  · rintro rfl
    exact ⟨inserted, invariant.done_finished other (by simp [done])⟩

theorem done_cases (invariant : state.Invariant) :
    state.taskSet.doneTasks = [] ∨ ∃ taskId, state.taskSet.doneTasks = [taskId] := by
  have once := invariant.done_once
  match shape : state.taskSet.doneTasks with
  | [] => exact .inl rfl
  | [taskId] => exact .inr ⟨taskId, rfl⟩
  | _ :: _ :: _ => simp [shape] at once

/-- If no `add()` in progress has a `wrap()` that ended, the difference of the sizes is the
number of inserted tasks that are unfinished. -/
theorem active_eq (invariant : state.Invariant)
    (all_unfinished : ∀ adding ∈ state.adding, adding.taskId ∈ state.unfinished) :
    state.taskSet.active = state.inserted.card := by
  have card_lt := invariant.card_lt
  have card_eq := state.card_tasks
  unfold active
  rcases invariant.done_cases with nothing | ⟨taskId, done⟩
  · have finished := invariant.sdiff_eq_empty_of_done (by simp [nothing])
    rw [finished, Finset.card_empty] at card_eq
    rw [nothing, List.length_nil, sizeSub_eq card_lt (Nat.zero_le _)]
    omega
  · have done_mem : taskId ∈ state.taskSet.doneTasks := by simp [done]
    have inserted : taskId ∈ state.taskSet.tasks := by
      rcases invariant.done_known taskId done_mem with inserted | added
      · exact inserted
      · rcases List.mem_map.mp added with ⟨adding, adding_mem, rfl⟩
        exact absurd (all_unfinished adding adding_mem) (invariant.done_finished _ done_mem)
    have finished := invariant.sdiff_eq_singleton_of_done done inserted
    rw [finished, Finset.card_singleton] at card_eq
    rw [done, List.length_singleton, sizeSub_eq card_lt (by omega)]
    omega

theorem no_underflow (invariant : state.Invariant) (covered : state.Covered) :
    state.taskSet.doneTasks.length ≤ state.taskSet.tasks.card := by
  rcases invariant.done_cases with nothing | ⟨taskId, done⟩
  · simp [nothing]
  · rw [done, List.length_singleton, Nat.one_le_iff_ne_zero, Finset.card_ne_zero]
    rcases covered taskId (by simp [done]) with inserted | ⟨other, both⟩
    · exact ⟨taskId, inserted⟩
    · exact ⟨other, (Finset.mem_inter.mp both).1⟩

/-- The clean-up leaves the entries of the unfinished tasks. -/
theorem eraseDone_eq (invariant : state.Invariant) :
    eraseDone state.taskSet.doneTasks state.taskSet.tasks = state.inserted := by
  have subset : ∀ taskId ∈ state.taskSet.tasks, taskId ∉ state.taskSet.doneTasks →
      taskId ∈ state.unfinished :=
    fun taskId inserted not_done => (invariant.removable taskId inserted).resolve_right not_done
  rcases invariant.done_cases with nothing | ⟨done, done_eq⟩
  · rw [nothing]
    simp only [eraseDone]
    ext taskId
    rw [inserted, Finset.mem_inter]
    exact ⟨fun mem => ⟨mem, subset taskId mem (by simp [nothing])⟩, fun both => both.1⟩
  · have finished := invariant.done_finished done (by simp [done_eq])
    rw [done_eq]
    simp only [eraseDone]
    ext taskId
    rw [inserted, Finset.mem_inter, Finset.mem_erase]
    constructor
    · rintro ⟨differs, mem⟩
      exact ⟨mem, subset taskId mem (by simpa [done_eq] using differs)⟩
    · rintro ⟨mem, unfinished⟩
      exact ⟨fun same => finished (same ▸ unfinished), mem⟩

theorem exact (invariant : state.Invariant) (covered : state.Covered) : state.Exact := by
  constructor
  · intro no_add
    have inserted_eq : state.inserted = state.unfinished := by
      rw [inserted, Finset.inter_eq_right]
      intro taskId unfinished
      rcases invariant.known taskId unfinished with inserted | added
      · exact inserted
      · simp [no_add] at added
    have active_eq := invariant.active_eq (by simp [no_add])
    rw [TaskSet.empty, active_eq, inserted_eq, beq_iff_eq, eq_comm, Finset.card_eq_zero]
  · exact invariant.released
  · intro all_finished
    have nobody : state.point.waitPoint.waiters = [] := by
      by_contra somebody
      rcases invariant.waiting somebody with ⟨taskId, both⟩
      have unfinished := (Finset.mem_inter.mp both).2
      simp [all_finished] at unfinished
    have order := (WaitPoint.State.consistent_of_reachableVia invariant.point).order
    rw [order, nobody, List.append_nil]
  · exact invariant.no_underflow covered
  · exact invariant.removable

theorem initially : ({} : State).Invariant := by
  constructor <;> simp
  exact .start rfl

theorem add (invariant : state.Invariant) (ready : Bool) : (state.add ready).Invariant := by
  have unused : state.taskSet.counter ∉ state.taskSet.tasks :=
    fun inserted => Nat.lt_irrefl _ (invariant.tasks_lt _ inserted)
  have waitPoint_eq : (state.add ready).point.waitPoint = state.point.waitPoint := by
    cases ready <;> simp [State.add]
  constructor
  · exact invariant.card_lt
  · exact fun taskId inserted => Nat.lt_succ_of_lt (invariant.tasks_lt taskId inserted)
  · intro adding added
    rcases List.mem_cons.mp added with rfl | older
    · exact Nat.lt_succ_self _
    · exact Nat.lt_succ_of_lt (invariant.adding_lt adding older)
  · refine List.nodup_cons.mpr ⟨?_, invariant.adding_once⟩
    intro added
    rcases List.mem_map.mp added with ⟨adding, older, same⟩
    have := invariant.adding_lt adding older
    dsimp only at same
    omega
  · intro adding added
    rcases List.mem_cons.mp added with rfl | older
    · exact unused
    · exact invariant.not_inserted adding older
  · intro taskId unfinished
    rcases Finset.mem_insert.mp unfinished with rfl | older
    · exact .inr (List.mem_cons_self ..)
    · exact (invariant.known taskId older).imp id (List.mem_cons_of_mem _)
  · exact fun taskId inserted =>
      (invariant.removable taskId inserted).imp Finset.mem_insert_of_mem id
  · intro adding added
    rcases List.mem_cons.mp added with rfl | older
    · exact .inl (Finset.mem_insert_self ..)
    · exact (invariant.added adding older).imp Finset.mem_insert_of_mem id
  · exact invariant.done_once
  · intro taskId done unfinished
    rcases Finset.mem_insert.mp unfinished with rfl | older
    · rcases invariant.done_known _ done with inserted | added
      · exact unused inserted
      · rcases List.mem_map.mp added with ⟨adding, older, same⟩
        have := invariant.adding_lt adding older
        omega
    · exact invariant.done_finished taskId done older
  · exact fun taskId done =>
      (invariant.done_known taskId done).imp id (List.mem_cons_of_mem _)
  · intro somebody
    rw [waitPoint_eq] at somebody
    exact (invariant.waiting somebody).mono (state.inserted_subset_add ready)
  · exact invariant.released
  · cases ready with
    | true => exact invariant.point
    | false => exact invariant.point.step WaitPoint.Action.resumeNext trivial (by rintro handle ⟨⟩)

theorem insert (invariant : state.Invariant) {innermost : Adding} {rest : List Adding}
    (adding_eq : state.adding = innermost :: rest)
    (space : state.taskSet.tasks.card + 1 < 2 ^ 64) : state.insert.Invariant := by
  have unfolded : state.insert =
      { state with taskSet := state.taskSet.insert innermost.taskId, adding := rest } := by
    simp [State.insert, adding_eq]
  have innermost_mem : innermost ∈ state.adding := by simp [adding_eq]
  have rest_mem : ∀ adding ∈ rest, adding ∈ state.adding := by
    intro adding older
    simp [adding_eq, older]
  have once := invariant.adding_once
  rw [adding_eq, List.map_cons, List.nodup_cons] at once
  have added_cases : ∀ taskId ∈ state.adding.map Adding.taskId,
      taskId = innermost.taskId ∨ taskId ∈ rest.map Adding.taskId := by
    intro taskId added
    simpa [adding_eq] using added
  have inserted_subset := state.inserted_subset_insert
  rw [unfolded] at inserted_subset ⊢
  constructor
  · exact Nat.lt_of_le_of_lt (Finset.card_insert_le ..) space
  · intro taskId inserted
    rcases Finset.mem_insert.mp inserted with rfl | older
    · exact invariant.adding_lt innermost innermost_mem
    · exact invariant.tasks_lt taskId older
  · exact fun adding older => invariant.adding_lt adding (rest_mem adding older)
  · exact once.2
  · intro adding older inserted
    rcases Finset.mem_insert.mp inserted with same | older_inserted
    · exact once.1 (List.mem_map.mpr ⟨adding, older, same⟩)
    · exact invariant.not_inserted adding (rest_mem adding older) older_inserted
  · intro taskId unfinished
    rcases invariant.known taskId unfinished with inserted | added
    · exact .inl (Finset.mem_insert_of_mem inserted)
    · rcases added_cases taskId added with rfl | older
      · exact .inl (Finset.mem_insert_self ..)
      · exact .inr older
  · intro taskId inserted
    rcases Finset.mem_insert.mp inserted with rfl | older
    · exact invariant.added innermost innermost_mem
    · exact invariant.removable taskId older
  · exact fun adding older => invariant.added adding (rest_mem adding older)
  · exact invariant.done_once
  · exact invariant.done_finished
  · intro taskId done
    rcases invariant.done_known taskId done with inserted | added
    · exact .inl (Finset.mem_insert_of_mem inserted)
    · rcases added_cases taskId added with rfl | older
      · exact .inl (Finset.mem_insert_self ..)
      · exact .inr older
  · exact fun somebody => (invariant.waiting somebody).mono inserted_subset
  · exact invariant.released
  · exact invariant.point

theorem wrapEnd_tasks (invariant : state.Invariant) (taskId : ℕ) :
    (state.wrapEnd taskId).taskSet.tasks = state.inserted :=
  invariant.eraseDone_eq

theorem wrapEnd_inserted (invariant : state.Invariant) (taskId : ℕ) :
    (state.wrapEnd taskId).inserted = state.inserted.erase taskId := by
  rw [State.inserted, invariant.wrapEnd_tasks]
  ext other
  simp only [State.inserted, State.wrapEnd, Finset.mem_inter, Finset.mem_erase]
  tauto

/-- A `wrap()` releases the waiters if exactly one inserted task is unfinished. -/
theorem wrapEnd_point (invariant : state.Invariant)
    (all_unfinished : ∀ adding ∈ state.adding, adding.taskId ∈ state.unfinished) (taskId : ℕ) :
    (state.inserted.card = 1 ∧
        (state.wrapEnd taskId).point = state.point.releaseAll ∧
        (state.wrapEnd taskId).releases = (state.releaseAll taskId).releases) ∨
      (state.inserted.card ≠ 1 ∧ (state.wrapEnd taskId).point = state.point ∧
        (state.wrapEnd taskId).releases = state.releases) := by
  have card_lt : state.inserted.card < 2 ^ 64 :=
    Nat.lt_of_le_of_lt (Finset.card_le_card Finset.inter_subset_left) invariant.card_lt
  have releasing : sizeSub state.taskSet.active 1 = 0 ↔ state.inserted.card = 1 := by
    rw [invariant.active_eq all_unfinished]
    exact sizeSub_one_eq_zero card_lt
  by_cases last : state.inserted.card = 1
  · left
    have released : state.releaseIfLast taskId = state.releaseAll taskId := by
      rw [releaseIfLast, releasing.mpr last]
      rfl
    simp only [State.wrapEnd, released, last, State.releaseAll, and_self]
  · right
    have kept : state.releaseIfLast taskId = state := by
      rw [releaseIfLast, if_neg]
      simpa using fun zero => last (releasing.mp zero)
    simp only [State.wrapEnd, kept, ne_eq, last, not_false_eq_true, and_self]

/-- Without an `add()` in progress, every unfinished task is inserted. -/
theorem erase_eq_empty_of_last (invariant : state.Invariant) {taskId : ℕ}
    (unfinished : taskId ∈ state.unfinished) (last : state.inserted.card = 1)
    (no_add : state.adding = []) : state.unfinished.erase taskId = ∅ := by
  rcases Finset.card_eq_one.mp last with ⟨only, inserted_eq⟩
  have is_only : ∀ other ∈ state.unfinished, other = only := by
    intro other other_unfinished
    have known := (invariant.known other other_unfinished).resolve_right (by simp [no_add])
    have both : other ∈ state.inserted := Finset.mem_inter.mpr ⟨known, other_unfinished⟩
    rw [inserted_eq] at both
    exact Finset.mem_singleton.mp both
  rw [Finset.eq_empty_iff_forall_notMem]
  intro other erased
  rcases Finset.mem_erase.mp erased with ⟨differs, other_unfinished⟩
  exact differs ((is_only other other_unfinished).trans (is_only taskId unfinished).symm)

theorem wrapEnd (invariant : state.Invariant) {taskId : ℕ}
    (unfinished : taskId ∈ state.unfinished)
    (all_unfinished : ∀ adding ∈ state.adding, adding.taskId ∈ state.unfinished)
    (releases : state.point.waitPoint.waiters ≠ [] → state.inserted.card = 1 →
      taskId ∈ state.taskSet.tasks ∧ state.adding = []) :
    (state.wrapEnd taskId).Invariant := by
  have tasks_mem : ∀ other ∈ (state.wrapEnd taskId).taskSet.tasks,
      other ∈ state.taskSet.tasks ∧ other ∈ state.unfinished := by
    intro other inserted
    rw [invariant.wrapEnd_tasks] at inserted
    exact Finset.mem_inter.mp inserted
  have erased : ∀ other ∈ state.unfinished, other ∈ state.unfinished.erase taskId ∨
      other ∈ [taskId] := by
    intro other other_unfinished
    rw [Finset.mem_erase, List.mem_singleton]
    tauto
  constructor
  · rw [invariant.wrapEnd_tasks]
    exact Nat.lt_of_le_of_lt (Finset.card_le_card Finset.inter_subset_left) invariant.card_lt
  · exact fun other inserted => invariant.tasks_lt other (tasks_mem other inserted).1
  · exact invariant.adding_lt
  · exact invariant.adding_once
  · exact fun adding added inserted =>
      invariant.not_inserted adding added (tasks_mem _ inserted).1
  · intro other other_unfinished
    have before := Finset.mem_of_mem_erase other_unfinished
    rw [invariant.wrapEnd_tasks]
    exact (invariant.known other before).imp
      (fun inserted => Finset.mem_inter.mpr ⟨inserted, before⟩) id
  · exact fun other inserted => erased other (tasks_mem other inserted).2
  · exact fun adding added => erased _ (all_unfinished adding added)
  · exact Nat.le_refl 1
  · intro other done
    rw [List.mem_singleton.mp done]
    exact Finset.notMem_erase taskId state.unfinished
  · intro other done
    rw [List.mem_singleton.mp done, invariant.wrapEnd_tasks]
    exact (invariant.known taskId unfinished).imp
      (fun inserted => Finset.mem_inter.mpr ⟨inserted, unfinished⟩) id
  · intro somebody
    rw [invariant.wrapEnd_inserted]
    rcases invariant.wrapEnd_point all_unfinished taskId with ⟨-, point_eq, -⟩ |
      ⟨not_last, point_eq, -⟩
    · rw [point_eq, WaitPoint.State.releaseAll_waiters] at somebody
      exact absurd rfl somebody
    · rw [point_eq] at somebody
      have positive := (invariant.waiting somebody).card_pos
      rw [← Finset.card_pos]
      have shrinks := Finset.pred_card_le_card_erase (s := state.inserted) (a := taskId)
      omega
  · intro others recorded
    rcases invariant.wrapEnd_point all_unfinished taskId with ⟨last, -, releases_eq⟩ |
      ⟨-, -, releases_eq⟩
    · rw [releases_eq, State.releaseAll] at recorded
      dsimp only at recorded
      split at recorded
      · exact invariant.released others recorded
      · rename_i somebody
        rcases List.mem_append.mp recorded with older | newest
        · exact invariant.released others older
        · -- The task that ends is the only unfinished one.
          rcases releases (by simpa using somebody) last with ⟨-, no_add⟩
          rw [List.mem_singleton.mp newest]
          exact invariant.erase_eq_empty_of_last unfinished last no_add
    · rw [releases_eq] at recorded
      exact invariant.released others recorded
  · rcases invariant.wrapEnd_point all_unfinished taskId with ⟨-, point_eq, -⟩ | ⟨-, point_eq, -⟩
    · rw [point_eq]
      exact invariant.point.step WaitPoint.Action.releaseAll trivial (by rintro handle ⟨⟩)
    · rw [point_eq]
      exact invariant.point

theorem finish (invariant : state.Invariant) {taskId : ℕ}
    (enabled : (Action.finish taskId).Enabled state)
    (in_order : state.EndsInOrder (.finish taskId)) :
    (state.finish taskId).Invariant ∧ (state.finish taskId).Covered := by
  rcases enabled with ⟨unfinished, innermost, space⟩
  rcases in_order taskId rfl with ⟨all_unfinished, releases, covered⟩
  have ended := invariant.wrapEnd unfinished all_unfinished releases
  unfold State.finish
  split
  · rename_i head_eq
    rcases List.head?_eq_some_iff.mp head_eq with ⟨rest, adding_eq⟩
    have ended_space : (state.wrapEnd taskId).taskSet.tasks.card + 1 < 2 ^ 64 := by
      rw [invariant.wrapEnd_tasks]
      have smaller : state.inserted.card ≤ state.taskSet.tasks.card :=
        Finset.card_le_card Finset.inter_subset_left
      omega
    refine ⟨ended.insert adding_eq ended_space, ?_⟩
    intro other done
    left
    have unfolded : (state.wrapEnd taskId).insert = { state.wrapEnd taskId with
        taskSet := (state.wrapEnd taskId).taskSet.insert taskId, adding := rest } := by
      rw [State.insert, show (state.wrapEnd taskId).adding = _ from adding_eq]
    rw [unfolded] at done ⊢
    rw [List.mem_singleton.mp done]
    exact Finset.mem_insert_self ..
  · rename_i not_innermost
    refine ⟨ended, ?_⟩
    intro other done
    rw [List.mem_singleton.mp done]
    rcases invariant.known taskId unfinished with inserted | added
    · left
      rw [invariant.wrapEnd_tasks]
      exact Finset.mem_inter.mpr ⟨inserted, unfinished⟩
    · right
      rcases List.mem_map.mp added with ⟨⟨_, ready⟩, adding_mem, rfl⟩
      have not_inserted := invariant.not_inserted _ adding_mem
      have nonempty : state.inserted.Nonempty := by
        cases ready with
        | true => exact absurd (innermost adding_mem) not_innermost
        | false => exact covered adding_mem
      rw [invariant.wrapEnd_inserted, Finset.erase_eq_of_notMem]
      · exact nonempty
      · exact fun both => not_inserted (Finset.mem_inter.mp both).1

/-- Only the wait point and the coroutines around it change. -/
theorem setPoint (invariant : state.Invariant) {point : WaitPoint.State}
    (reached : WaitPoint.system.ReachableVia WaitPoint.State.DropsNoWaiter point)
    (waiting : point.waitPoint.waiters ≠ [] → state.inserted.Nonempty) :
    ({ state with point } : State).Invariant where
  __ := invariant
  waiting := waiting
  point := reached

theorem onEmpty (invariant : state.Invariant) (covered : state.Covered) :
    state.onEmpty.Invariant ∧ state.onEmpty.Covered := by
  unfold State.onEmpty
  split
  · exact ⟨invariant, covered⟩
  · rename_i not_empty
    refine ⟨invariant.setPoint (invariant.point.step WaitPoint.Action.wait trivial
      (by rintro handle ⟨⟩)) ?_, covered⟩
    intro _
    by_contra nothing
    rw [Finset.not_nonempty_iff_eq_empty] at nothing
    -- Without unfinished entries no `wrap()` can have ended within its `add()`.
    have all_unfinished : ∀ adding ∈ state.adding, adding.taskId ∈ state.unfinished := by
      intro adding added
      refine (invariant.added adding added).resolve_right ?_
      intro done
      rcases covered adding.taskId done with inserted | ⟨other, both⟩
      · exact invariant.not_inserted adding added inserted
      · simp [nothing] at both
    apply not_empty
    rw [TaskSet.empty, invariant.active_eq all_unfinished, nothing]
    rfl

theorem schedule (invariant : state.Invariant) {action : WaitPoint.Action}
    (scheduling : IsScheduling action) (enabled : action.Enabled state.point) :
    ({ state with point := action.perform state.point } : State).Invariant := by
  have keeps : (action.perform state.point).waitPoint = state.point.waitPoint := by
    cases action with
    | resumeNext => exact state.point.resumeNext_waitPoint
    | spawnOther | enqueueOther _ => rfl
    | wait | releaseOne | releaseAll | drop _ => exact scheduling.elim
  apply invariant.setPoint
  · refine invariant.point.step action enabled ?_
    rintro handle rfl
    exact scheduling.elim
  · rw [keeps]
    exact invariant.waiting

theorem step (invariant : state.Invariant) (covered : state.Covered) {action : Action}
    (enabled : action.Enabled state) (in_order : state.EndsInOrder action) :
    (action.perform state).Invariant ∧ (action.perform state).Covered := by
  cases action with
  | add ready =>
      exact ⟨invariant.add ready, fun taskId done => (covered taskId done).imp id
        (fun others => others.mono (state.inserted_subset_add ready))⟩
  | insert =>
      rcases enabled with ⟨⟨taskId, head_eq⟩, space⟩
      rcases List.head?_eq_some_iff.mp head_eq with ⟨rest, adding_eq⟩
      refine ⟨invariant.insert adding_eq space, ?_⟩
      intro other done
      have unfolded : Action.perform state .insert =
          { state with taskSet := state.taskSet.insert taskId, adding := rest } := by
        simp [Action.perform, State.insert, adding_eq]
      rw [unfolded] at done ⊢
      exact (covered other done).imp Finset.mem_insert_of_mem
        (fun others => others.mono
          (Finset.inter_subset_inter (Finset.subset_insert ..) (Finset.Subset.refl _)))
  | finish taskId => exact invariant.finish enabled in_order
  | onEmpty => exact invariant.onEmpty covered
  | schedule action => exact ⟨invariant.schedule enabled.1 enabled.2, covered⟩

end Invariant

end State

end TaskSet

end Uvco
