import Uvco.Discard.World

/-!
# Where a generator may be

A generator whose core is finished is not in the scheduler queue, as long as promises
resolve only while the generator awaits them. This needs to know where the generator is,
and which of its sets keep it registered in which promises.
-/

namespace Uvco.Discard

variable {T U E : Type}

/-! ## The core -/

/-- `await_resume` changes nothing but the slot. -/
theorem awaitResume_core (core : MultiPromiseCore T E) :
    ∃ slot, (MultiPromiseAwaiter.awaitResume (some core)).2.getD core =
      { core with slot } := by
  unfold MultiPromiseAwaiter.awaitResume
  dsimp only
  split
  · exact ⟨core.slot, rfl⟩
  · exact ⟨none, rfl⟩
  · exact ⟨core.slot, rfl⟩

/-- `await_suspend` registers the consumer, and enqueues a generator that waits in `co_yield`. -/
theorem awaitSuspend_eq (core : MultiPromiseCore T E) (handle : Handle) (loop : Loop)
    {generator : Handle} (coroutine : core.coroutine = some generator) :
    ∃ after, MultiPromiseAwaiter.awaitSuspend core handle loop =
        ({ core.setHandle handle with suspended := false }, after) ∧
      after = if core.suspended then loop.enqueue generator else loop := by
  refine ⟨_, ?_, rfl⟩
  cases suspended : core.suspended <;>
    simp [MultiPromiseAwaiter.awaitSuspend, MultiPromiseCore.resumeGenerator,
      MultiPromiseCore.setHandle, suspended, coroutine]

/-- `PromiseCore::resume` finishes the core and enqueues the consumer, who is not the generator. -/
theorem resume_core (core : MultiPromiseCore T E) (runtime : Runtime Point) {generator : Handle}
    (consumer : core.waitingHandle ≠ some generator) :
    (core.resume runtime.loop).1 = { core with waitingHandle := none, state := .finished } ∧
      ({ runtime with loop := (core.resume runtime.loop).2 } : Runtime Point).pending generator =
        runtime.pending generator := by
  rcases core with ⟨⟨slot, coroutine, waitingHandle, coreState⟩, suspended, terminated⟩
  cases waitingHandle with
  | none => exact ⟨rfl, rfl⟩
  | some waiting =>
      refine ⟨rfl, ?_⟩
      have differs : generator ≠ waiting := by
        rintro rfl
        exact consumer rfl
      exact Runtime.pending_enqueue_of_ne differs

/-! ## The sets -/

/-- The destructor of a set leaves nobody registered in its promises, if nobody has resumed from
it. -/
theorem LocalSet.destroy_spec (localSet : LocalSet) {members : Store U E}
    (valid : ∀ index, (members index).Valid) :
    SelectSet.Changes members (localSet.destroy members) ∧
      ∀ index handle, (localSet.destroy members index).waitingHandle = some handle →
        (members index).waitingHandle = some handle ∧
          (localSet.set.resumed = false → index ∉ localSet.indices) := by
  unfold LocalSet.destroy SelectSet.destroyIn
  cases resumed : localSet.set.resumed with
  | true => exact ⟨.refl valid, fun index handle registered => ⟨registered, by simp⟩⟩
  | false =>
      simp only [Bool.not_false, if_true]
      have releases := SelectSet.releases_resetHandle (T := U) (E := E)
      refine ⟨(SelectSet.visitIn_spec releases _ valid).1, ?_⟩
      intro index handle registered
      rcases SelectSet.registered_of_visitIn releases valid registered with ⟨absent, before⟩
      exact ⟨before, fun _ => absent⟩

/-- So do the destructors of several sets. -/
theorem destroyLocals_spec (sets : List LocalSet) {members : Store U E}
    (valid : ∀ index, (members index).Valid) :
    SelectSet.Changes members (sets.foldr LocalSet.destroy members) ∧
      ∀ index handle, (sets.foldr LocalSet.destroy members index).waitingHandle = some handle →
        (members index).waitingHandle = some handle ∧
          ∀ localSet ∈ sets, localSet.set.resumed = false → index ∉ localSet.indices := by
  induction sets with
  | nil => exact ⟨.refl valid, fun index handle registered => ⟨registered, by simp⟩⟩
  | cons first rest ih =>
      rcases ih with ⟨rest_changes, rest_registered⟩
      rcases first.destroy_spec rest_changes.valid with ⟨changes, first_registered⟩
      refine ⟨rest_changes.trans changes, ?_⟩
      intro index handle registered
      rcases first_registered index handle registered with ⟨middle, first_absent⟩
      rcases rest_registered index handle middle with ⟨before, rest_absent⟩
      refine ⟨before, ?_⟩
      intro localSet localSet_mem
      rcases List.mem_cons.mp localSet_mem with rfl | older
      · exact first_absent
      · exact rest_absent localSet older

namespace State

variable {state : State T U E}

/-! ## The invariant -/

/-- A set that the generator has not resumed from refers to the promise. -/
def Keeps (state : State T U E) (index : ℕ) : Prop :=
  ∃ localSet ∈ state.sets, localSet.set.resumed = false ∧ index ∈ localSet.indices

/-- So does a set other than the one at this position. -/
def KeepsBeside (state : State T U E) (position index : ℕ) : Prop :=
  ∃ other localSet, other ≠ position ∧ state.sets[other]? = some localSet ∧
    localSet.set.resumed = false ∧ index ∈ localSet.indices

theorem Keeps.here_or_beside {index position : ℕ} {localSet : LocalSet}
    (keeps : state.Keeps index) (at_position : state.sets[position]? = some localSet) :
    localSet.set.resumed = false ∧ index ∈ localSet.indices ∨
      state.KeepsBeside position index := by
  rcases keeps with ⟨keeper, keeper_mem, keeping⟩
  rcases List.mem_iff_getElem?.mp keeper_mem with ⟨other, at_other⟩
  by_cases same : other = position
  · left
    subst same
    obtain rfl := Option.some.inj (at_other.symm.trans at_position)
    exact keeping
  · exact .inr ⟨other, keeper, same, at_other, keeping⟩

theorem KeepsBeside.keeps {index position : ℕ} (beside : state.KeepsBeside position index) :
    state.Keeps index := by
  rcases beside with ⟨other, localSet, -, at_other, keeping⟩
  exact ⟨localSet, List.mem_of_getElem? at_other, keeping⟩

/-- A change at the position does not matter. -/
theorem KeepsBeside.set {index position : ℕ} (beside : state.KeepsBeside position index)
    {after : State T U E} {localSet : LocalSet}
    (sets_eq : after.sets = state.sets.set position localSet) :
    after.KeepsBeside position index := by
  rcases beside with ⟨other, keeper, differs, at_other, keeping⟩
  refine ⟨other, keeper, differs, ?_, keeping⟩
  rw [sets_eq, List.getElem?_set_ne (Ne.symm differs)]
  exact at_other

/-- The generator is on its way to the next value. -/
def Producing (state : State T U E) : Prop :=
  state.core.suspended = false ∧ state.core.state ≠ .finished

/-- Where the generator is; if the core is finished, it is not in the scheduler queue. -/
inductive Phase (state : State T U E) : Prop where
  | running (producing : state.Producing) (status : state.status = .running)
      (not_queued : state.pending = 0)
  | elsewhere (producing : state.Producing) (status : state.status = .elsewhere)
      (at_most_once : state.pending ≤ 1)
  | selecting (producing : state.Producing) (position : ℕ)
      (status : state.status = .waiting (.selects position))
  | awaitingMember (producing : state.Producing) (index : ℕ)
      (status : state.status = .waiting (.awaitsMember index)) (at_most_once : state.pending ≤ 1)
      (resolved : state.pending ≠ 0 → (state.members index).state = .finished)
  | parked (suspended : state.core.suspended = true) (finished : state.core.state = .finished)
      (status : state.status = .waiting .atYield) (not_queued : state.pending = 0)
  | woken (producing : state.Producing) (status : state.status = .waiting .atYield)
      (at_most_once : state.pending ≤ 1)
  | ended (terminated : state.core.terminated = true) (finished : state.core.state = .finished)
      (status : state.status = .done) (not_queued : state.pending = 0)

/-- How the sets and the promises refer to the generator. -/
structure Registered (state : State T U E) : Prop where
  valid : ∀ index, (state.members index).Valid
  registered : ∀ index, (state.members index).waitingHandle = some state.generator →
    state.Keeps index ∨ state.status = .waiting (.awaitsMember index)
  idle : ∀ position localSet, state.sets[position]? = some localSet →
    localSet.set.suspended ≠ none → state.status = .waiting (.selects position)
  selecting : ∀ position, state.status = .waiting (.selects position) →
    ∃ indices, state.sets[position]? =
      some { indices, set := { suspended := some state.generator, resumed := false } }

/-- What holds until the generator is discarded. -/
structure Invariant (state : State T U E) : Prop where
  coroutine : state.core.coroutine = some state.generator
  consumer : state.core.waitingHandle ≠ some state.generator
  held : state.held = true
  none_destroyed : state.destroyed = []
  registrations : state.Registered
  phase : state.Phase

theorem Phase.congr {after : State T U E} (phase : state.Phase)
    (suspended_eq : after.core.suspended = state.core.suspended)
    (state_eq : after.core.state = state.core.state)
    (terminated_eq : after.core.terminated = state.core.terminated)
    (status_eq : after.status = state.status) (pending_eq : after.pending = state.pending)
    (still_finished : ∀ index, (state.members index).state = .finished →
      (after.members index).state = .finished) : after.Phase := by
  have producing_iff : after.Producing ↔ state.Producing := by
    rw [Producing, Producing, suspended_eq, state_eq]
  cases phase with
  | running producing status not_queued =>
      exact .running (producing_iff.mpr producing) (status_eq.trans status)
        (pending_eq.trans not_queued)
  | elsewhere producing status at_most_once =>
      exact .elsewhere (producing_iff.mpr producing) (status_eq.trans status)
        (pending_eq ▸ at_most_once)
  | selecting producing position status =>
      exact .selecting (producing_iff.mpr producing) position (status_eq.trans status)
  | awaitingMember producing index status at_most_once resolved =>
      exact .awaitingMember (producing_iff.mpr producing) index (status_eq.trans status)
        (pending_eq ▸ at_most_once) fun queued =>
          still_finished index (resolved (pending_eq ▸ queued))
  | parked suspended finished status not_queued =>
      exact .parked (suspended_eq.trans suspended) (state_eq.trans finished)
        (status_eq.trans status) (pending_eq.trans not_queued)
  | woken producing status at_most_once =>
      exact .woken (producing_iff.mpr producing) (status_eq.trans status)
        (pending_eq ▸ at_most_once)
  | ended terminated finished status not_queued =>
      exact .ended (terminated_eq.trans terminated) (state_eq.trans finished)
        (status_eq.trans status) (pending_eq.trans not_queued)

theorem Phase.of_running (phase : state.Phase) (running : state.status = .running) :
    state.Producing ∧ state.pending = 0 := by
  cases phase with
  | running producing _ not_queued => exact ⟨producing, not_queued⟩
  | elsewhere _ status | selecting _ _ status | awaitingMember _ _ status | parked _ _ status
  | woken _ status | ended _ _ status => simp [running] at status

theorem Phase.of_done (phase : state.Phase) (is_done : state.status = .done) :
    state.pending = 0 := by
  cases phase with
  | ended _ _ _ not_queued => exact not_queued
  | running _ status | elsewhere _ status | selecting _ _ status | awaitingMember _ _ status
  | parked _ _ status | woken _ status => simp [is_done] at status

/-- The generator is not its own consumer. -/
theorem Phase.not_awaiting (phase : state.Phase) : state.status ≠ .waiting .awaits := by
  cases phase with
  | running _ status | elsewhere _ status | selecting _ _ status | awaitingMember _ _ status
  | parked _ _ status | woken _ status | ended _ _ status => simp [status]

/-- A step on promises that the generator does not take part in. -/
theorem Registered.changes {after : State T U E} (registered : state.Registered)
    (changes : SelectSet.Changes state.members after.members)
    (registered_before : ∀ index, (after.members index).waitingHandle = some state.generator →
      (state.members index).waitingHandle = some state.generator)
    (generator_eq : after.generator = state.generator) (sets_eq : after.sets = state.sets)
    (status_eq : after.status = state.status) : after.Registered where
  valid := changes.valid
  registered := by
    intro index is_registered
    rw [generator_eq] at is_registered
    rw [Keeps, sets_eq, status_eq]
    exact registered.registered index (registered_before index is_registered)
  idle := by
    rw [sets_eq, status_eq]
    exact registered.idle
  selecting := by
    rw [sets_eq, status_eq, generator_eq]
    exact registered.selecting

/-- A running generator suspends at a point that is none of its own sets or promises, or goes on
from there. -/
theorem Registered.moves {after : State T U E} (registered : state.Registered)
    (generator_eq : after.generator = state.generator)
    (members_eq : after.members = state.members) (sets_eq : after.sets = state.sets)
    (not_selecting : ∀ position, state.status ≠ .waiting (.selects position))
    (not_awaiting : ∀ index, state.status ≠ .waiting (.awaitsMember index))
    (still_not_selecting : ∀ position, after.status ≠ .waiting (.selects position)) :
    after.Registered where
  valid := members_eq ▸ registered.valid
  registered := by
    intro index is_registered
    rw [members_eq, generator_eq] at is_registered
    left
    rw [Keeps, sets_eq]
    exact (registered.registered index is_registered).resolve_right (not_awaiting index)
  idle := by
    rw [sets_eq]
    intro position localSet at_position suspended
    exact absurd (registered.idle position localSet at_position suspended) (not_selecting position)
  selecting := fun position selects => absurd selects (still_not_selecting position)

namespace Invariant

/-- A step on the slot of the core and on other coroutines. -/
theorem congr (invariant : state.Invariant) {after : State T U E}
    (generator_eq : after.generator = state.generator)
    (members_eq : after.members = state.members) (sets_eq : after.sets = state.sets)
    (core_eq : ∃ slot, after.core = { state.core with slot })
    (held_eq : after.held = state.held) (destroyed_eq : after.destroyed = state.destroyed)
    (status_eq : after.status = state.status) (pending_eq : after.pending = state.pending) :
    after.Invariant := by
  rcases core_eq with ⟨slot, core_eq⟩
  have changes : SelectSet.Changes state.members after.members := by
    rw [members_eq]
    exact .refl invariant.registrations.valid
  constructor
  · rw [core_eq, generator_eq]
    exact invariant.coroutine
  · rw [core_eq, generator_eq]
    exact invariant.consumer
  · exact held_eq.trans invariant.held
  · exact destroyed_eq.trans invariant.none_destroyed
  · refine invariant.registrations.changes changes ?_ generator_eq sets_eq status_eq
    rw [members_eq]
    exact fun _ is_registered => is_registered
  · exact invariant.phase.congr (by rw [core_eq]) (by rw [core_eq]) (by rw [core_eq]) status_eq
      pending_eq changes.finished

theorem finishAwait (invariant : state.Invariant) : state.finishAwait.Invariant :=
  invariant.congr rfl rfl rfl (awaitResume_core state.core) rfl rfl rfl rfl

theorem coAwait (invariant : state.Invariant) {handle : Handle}
    (differs : handle ≠ state.generator) : (state.coAwait handle).Invariant := by
  unfold State.coAwait
  split
  · exact invariant.finishAwait
  · rename_i not_ready
    have status_eq : ∀ loop : Loop, (({ state.runtime with loop } : Runtime Point).setStatus
        handle (.waiting .awaits)).status state.generator = state.status := fun loop =>
      Runtime.setStatus_status_of_ne _ (Ne.symm differs)
    rcases awaitSuspend_eq state.core handle state.runtime.loop invariant.coroutine with
      ⟨loop, suspend_eq, loop_eq⟩
    rw [suspend_eq]
    dsimp only
    have producing : ({ state with
        core := { state.core.setHandle handle with suspended := false }
        runtime := ({ state.runtime with loop } : Runtime Point).setStatus handle
          (.waiting .awaits) } : State T U E).Producing :=
      ⟨rfl, by simp [MultiPromiseCore.setHandle]⟩
    refine ⟨invariant.coroutine, ?_, invariant.held, invariant.none_destroyed,
      invariant.registrations.changes (.refl invariant.registrations.valid)
        (fun _ is_registered => is_registered) rfl rfl (status_eq _), ?_⟩
    · simpa [MultiPromiseCore.setHandle] using differs
    · have same : state.Producing → loop = state.runtime.loop := by
        intro before
        rw [loop_eq, before.1]
        rfl
      cases invariant.phase with
      | running before status not_queued =>
          obtain rfl := same before
          exact .running producing ((status_eq _).trans status) not_queued
      | elsewhere before status at_most_once =>
          obtain rfl := same before
          exact .elsewhere producing ((status_eq _).trans status) at_most_once
      | selecting _ position status =>
          exact .selecting producing position ((status_eq _).trans status)
      | awaitingMember before index status at_most_once resolved =>
          obtain rfl := same before
          exact .awaitingMember producing index ((status_eq _).trans status) at_most_once resolved
      | woken before status at_most_once =>
          obtain rfl := same before
          exact .woken producing ((status_eq _).trans status) at_most_once
      | parked suspended _ status not_queued =>
          obtain rfl : loop = state.runtime.loop.enqueue state.generator := by
            rw [loop_eq, suspended]
            rfl
          have queued : (state.runtime.enqueue state.generator).pending state.generator = 1 :=
            Runtime.pending_enqueue_self.trans (congrArg (· + 1) not_queued)
          exact .woken producing ((status_eq _).trans status) (Nat.le_of_eq queued)
      | ended terminated =>
          simp [MultiPromiseAwaiter.awaitReady, MultiPromiseCore.isTerminated, terminated]
            at not_ready

theorem dropConsumer (invariant : state.Invariant) {handle : Handle}
    (awaits : state.runtime.status handle = .waiting .awaits) :
    (state.dropConsumer handle).Invariant := by
  have differs : state.generator ≠ handle := by
    rintro rfl
    exact invariant.phase.not_awaiting awaits
  refine invariant.congr rfl rfl rfl ⟨state.core.slot, rfl⟩ rfl rfl ?_ ?_
  · exact Runtime.setStatus_status_of_ne _ differs
  · exact Runtime.pending_cancel_of_ne differs

/-- Another coroutine moves on. -/
theorem setStatus_other (invariant : state.Invariant) {handle : Handle}
    (differs : handle ≠ state.generator) (status : Status Point) :
    ({ state with runtime := state.runtime.setStatus handle status } : State T U E).Invariant :=
  invariant.congr rfl rfl rfl ⟨state.core.slot, rfl⟩ rfl rfl
    (Runtime.setStatus_status_of_ne _ (Ne.symm differs)) rfl

theorem yield (invariant : state.Invariant) (running : state.status = .running) (value : T) :
    (state.yield value).Invariant := by
  rcases invariant.phase.of_running running with ⟨⟨not_suspended, -⟩, not_queued⟩
  have consumer : ({ state.core with slot := some (.value value) } :
      MultiPromiseCore T E).waitingHandle ≠ some state.generator := invariant.consumer
  rcases resume_core _ state.runtime consumer with ⟨core_eq, pending_eq⟩
  have not_ready : Generator.yieldReady
      (Generator.yieldValue state.core state.runtime.loop value).1 = false := by
    rw [Generator.yieldReady, Generator.yieldValue, core_eq]
    rfl
  unfold State.yield
  dsimp only
  rw [not_ready]
  simp only [Bool.false_eq_true, if_false]
  have at_yield : ∀ runtime : Runtime Point, (runtime.setStatus state.generator
      (.waiting .atYield)).status state.generator = .waiting .atYield := fun runtime =>
    Runtime.setStatus_status_self _
  refine ⟨?_, ?_, invariant.held, invariant.none_destroyed,
    invariant.registrations.moves rfl rfl rfl (by simp [running]) (by simp [running]) ?_, ?_⟩
  · simp only [State.suspend, Generator.yieldValue, core_eq, MultiPromiseCore.suspendGenerator]
    exact invariant.coroutine
  · simp [State.suspend, Generator.yieldValue, core_eq, MultiPromiseCore.suspendGenerator]
  · intro position selects
    exact absurd ((at_yield _).symm.trans selects) (by simp)
  · refine .parked rfl ?_ (at_yield _) ?_
    · simp [State.suspend, Generator.yieldValue, core_eq, MultiPromiseCore.suspendGenerator]
    · exact pending_eq.trans not_queued

theorem finish (invariant : state.Invariant) (running : state.status = .running)
    (ending : MultiPromise.Ending E) : (state.finish ending).Invariant := by
  rcases invariant.phase.of_running running with ⟨-, not_queued⟩
  rcases destroyLocals_spec state.sets invariant.registrations.valid with
    ⟨changes, still_registered⟩
  have ended : ∃ slot, (state.finish ending).core = { state.core with
      slot, waitingHandle := none, state := .finished, terminated := true } ∧
      (state.finish ending).pending = state.pending := by
    cases ending with
    | returned =>
        have consumer : state.core.setTerminated.waitingHandle ≠ some state.generator :=
          invariant.consumer
        rcases resume_core _ state.runtime consumer with ⟨core_eq, pending_eq⟩
        exact ⟨state.core.slot, core_eq, pending_eq⟩
    | threw exception =>
        have consumer : ({ state.core with slot := some (.exception exception) } :
            MultiPromiseCore T E).setTerminated.waitingHandle ≠ some state.generator :=
          invariant.consumer
        rcases resume_core _ state.runtime consumer with ⟨core_eq, pending_eq⟩
        exact ⟨some (.exception exception), core_eq, pending_eq⟩
  rcases ended with ⟨slot, core_eq, pending_eq⟩
  have done : (state.finish ending).status = .done := Runtime.setStatus_status_self _
  have nobody : ∀ index, ((state.finish ending).members index).waitingHandle ≠
      some state.generator := by
    intro index is_registered
    rcases still_registered index state.generator is_registered with ⟨before, absent⟩
    rcases invariant.registrations.registered index before with
      ⟨localSet, localSet_mem, not_resumed, index_mem⟩ | awaits
    · exact absent localSet localSet_mem not_resumed index_mem
    · simp [running] at awaits
  constructor
  · rw [core_eq]
    exact invariant.coroutine
  · rw [core_eq]
    simp
  · exact invariant.held
  · exact invariant.none_destroyed
  · refine ⟨changes.valid, fun index is_registered => absurd is_registered (nobody index), ?_, ?_⟩
    · intro position localSet at_position
      simp [State.finish, destroyLocals] at at_position
    · intro position selects
      simp [done] at selects
  · exact .ended (by rw [core_eq]) (by rw [core_eq]) done (pending_eq.trans not_queued)

theorem declare (invariant : state.Invariant) (running : state.status = .running)
    (indices : List ℕ) :
    ({ state with sets := state.sets ++ [{ indices }] } : State T U E).Invariant := by
  refine ⟨invariant.coroutine, invariant.consumer, invariant.held, invariant.none_destroyed,
    ⟨invariant.registrations.valid, ?_, ?_, ?_⟩,
    invariant.phase.congr rfl rfl rfl rfl rfl fun _ finished => finished⟩
  · intro index is_registered
    rcases invariant.registrations.registered index is_registered with
      ⟨localSet, localSet_mem, keeps⟩ | awaits
    · exact .inl ⟨localSet, List.mem_append_left _ localSet_mem, keeps⟩
    · exact .inr awaits
  · intro position localSet at_position suspended
    rw [List.getElem?_append] at at_position
    split at at_position
    · exact invariant.registrations.idle position localSet at_position suspended
    · have fresh := List.mem_singleton.mp (List.mem_of_getElem? at_position)
      simp [fresh] at suspended
  · intro position selects
    have same : state.status = .waiting (.selects position) := selects
    simp [running] at same

/-- What holds before `await_resume` of a set: the generator runs, and other sets do not remember
it. -/
structure Resuming (state : State T U E) (position : ℕ) (localSet : LocalSet) : Prop where
  coroutine : state.core.coroutine = some state.generator
  consumer : state.core.waitingHandle ≠ some state.generator
  held : state.held = true
  none_destroyed : state.destroyed = []
  producing : state.Producing
  running : state.status = .running
  at_position : state.sets[position]? = some localSet
  valid : ∀ index, (state.members index).Valid
  registered : ∀ index, (state.members index).waitingHandle = some state.generator →
    index ∈ localSet.indices ∨ state.KeepsBeside position index
  idle : ∀ other otherSet, other ≠ position → state.sets[other]? = some otherSet →
    otherSet.set.suspended = none
  queued : state.pending ≠ 0 → localSet.set.suspended = some state.generator

/-- `await_resume` of a set leaves neither a registration nor an entry in the scheduler behind. -/
theorem finishSelect {position : ℕ} {localSet : LocalSet}
    (resuming : Resuming state position localSet) : (state.finishSelect position).Invariant := by
  have releases := SelectSet.releases_check (T := U) (E := E)
  have changes := (SelectSet.visitIn_spec releases localSet.indices resuming.valid).1
  have finish_eq : ∃ loop, state.finishSelect position = { state with
      members := SelectSet.checkIn localSet.indices state.members
      sets := state.sets.set position
        { localSet with set := { suspended := none, resumed := true } }
      runtime := { state.runtime with loop } } ∧
      ({ state.runtime with loop } : Runtime Point).pending state.generator = 0 := by
    simp only [State.finishSelect, resuming.at_position, SelectSet.awaitResume_eq]
    refine ⟨_, rfl, ?_⟩
    by_cases queued : state.pending = 0
    · cases localSet.set.suspended with
      | none => exact queued
      | some suspended =>
          by_cases same : state.generator = suspended
          · rw [same]
            exact Runtime.pending_cancel_self
          · exact (Runtime.pending_cancel_of_ne same).trans queued
    · rw [resuming.queued queued]
      exact Runtime.pending_cancel_self
  rcases finish_eq with ⟨loop, finish_eq, not_queued⟩
  rw [finish_eq]
  refine ⟨resuming.coroutine, resuming.consumer, resuming.held, resuming.none_destroyed,
    ⟨changes.valid, ?_, ?_, ?_⟩, .running resuming.producing resuming.running not_queued⟩
  · intro index is_registered
    rcases SelectSet.registered_of_visitIn releases resuming.valid is_registered with
      ⟨absent, before⟩
    rcases resuming.registered index before with in_set | beside
    · exact absurd in_set absent
    · exact .inl (beside.set rfl).keeps
  · intro other otherSet at_other suspended
    dsimp only at at_other
    by_cases same : other = position
    · subst same
      rw [List.getElem?_set_self (List.getElem?_eq_some_iff.mp resuming.at_position).1] at at_other
      simp [← Option.some.inj at_other] at suspended
    · rw [List.getElem?_set_ne (Ne.symm same)] at at_other
      exact absurd (resuming.idle other otherSet same at_other) suspended
  · intro other selects
    have same : state.status = .waiting (.selects other) := selects
    simp [resuming.running] at same

/-- While the generator runs, every registration is kept by a set that nobody has resumed from. -/
theorem keeps_of_running (invariant : state.Invariant) (running : state.status = .running)
    {index : ℕ} (is_registered : (state.members index).waitingHandle = some state.generator) :
    state.Keeps index := by
  rcases invariant.registrations.registered index is_registered with keeps | awaits
  · exact keeps
  · simp [running] at awaits

theorem suspended_of_running (invariant : state.Invariant) (running : state.status = .running)
    {position : ℕ} {localSet : LocalSet} (at_position : state.sets[position]? = some localSet) :
    localSet.set.suspended = none := by
  by_contra suspended
  have selects := invariant.registrations.idle position localSet at_position suspended
  simp [running] at selects

/-- A set that is ready right away. -/
theorem resuming (invariant : state.Invariant) (running : state.status = .running) {position : ℕ}
    {localSet : LocalSet} (at_position : state.sets[position]? = some localSet)
    (set : SelectSet) :
    Resuming { state with sets := state.sets.set position { localSet with set } } position
      { localSet with set } := by
  rcases invariant.phase.of_running running with ⟨producing, not_queued⟩
  have position_lt := (List.getElem?_eq_some_iff.mp at_position).1
  refine ⟨invariant.coroutine, invariant.consumer, invariant.held, invariant.none_destroyed,
    producing, running, List.getElem?_set_self position_lt, invariant.registrations.valid, ?_,
    ?_, fun queued => absurd not_queued queued⟩
  · intro index is_registered
    have keeps := invariant.keeps_of_running running is_registered
    rcases keeps.here_or_beside at_position with here | beside
    · exact .inl here.2
    · exact .inr (beside.set rfl)
  · intro other otherSet differs at_other
    dsimp only at at_other
    rw [List.getElem?_set_ne (Ne.symm differs)] at at_other
    exact invariant.suspended_of_running running at_other

/-- The fold registers the generator in promises of the set only. -/
theorem registerIn (invariant : state.Invariant) (running : state.status = .running)
    {position : ℕ} {localSet : LocalSet} (at_position : state.sets[position]? = some localSet) :
    SelectSet.Changes state.members
        (SelectSet.registerIn state.generator localSet.indices state.members).1 ∧
      ∀ index, ((SelectSet.registerIn state.generator localSet.indices
          state.members).1 index).waitingHandle = some state.generator →
        index ∈ localSet.indices ∨ state.KeepsBeside position index := by
  rcases SelectSet.registerIn_spec state.generator localSet.indices
    invariant.registrations.valid with ⟨changes, others⟩
  refine ⟨changes, ?_⟩
  intro index is_registered
  by_cases index_mem : index ∈ localSet.indices
  · exact .inl index_mem
  · rw [others index index_mem] at is_registered
    have keeps := invariant.keeps_of_running running is_registered
    rcases keeps.here_or_beside at_position with here | beside
    · exact .inl here.2
    · exact .inr beside

theorem select (invariant : state.Invariant) (running : state.status = .running) {position : ℕ}
    (fresh : ∀ localSet ∈ state.sets[position]?, localSet.set.resumed = false) :
    (state.select position).Invariant := by
  rcases invariant.phase.of_running running with ⟨producing, not_queued⟩
  unfold State.select
  split
  · rename_i localSet at_position
    have not_resumed := fresh localSet at_position
    have position_lt := (List.getElem?_eq_some_iff.mp at_position).1
    dsimp only [SelectSet.awaitReady]
    split
    · rename_i isReady
      rw [isReady]
      exact finishSelect (invariant.resuming running at_position _)
    · rename_i not_ready
      rcases invariant.registerIn running at_position with ⟨changes, kept⟩
      split
      · rename_i members register_eq
        rw [register_eq] at changes kept
        have selects : ∀ runtime : Runtime Point, (runtime.setStatus state.generator
            (.waiting (.selects position))).status state.generator =
              .waiting (.selects position) := fun runtime => Runtime.setStatus_status_self _
        have set_eq : ({ localSet.set with
            resumed := localSet.set.resumed ||
              (localSet.indices.map state.members).any Member.ready
            suspended := some state.generator } : SelectSet) =
            { suspended := some state.generator, resumed := false } := by
          simp only [Bool.not_eq_true] at not_ready
          rw [not_resumed, not_ready]
          rfl
        rw [set_eq]
        refine ⟨invariant.coroutine, invariant.consumer, invariant.held, invariant.none_destroyed,
          ⟨changes.valid, ?_, ?_, ?_⟩, .selecting producing position (selects _)⟩
        · intro index is_registered
          left
          rcases kept index is_registered with in_set | beside
          · exact ⟨_, List.mem_of_getElem? (List.getElem?_set_self position_lt), rfl, in_set⟩
          · exact (beside.set rfl).keeps
        · intro other otherSet at_other suspended
          by_cases same : other = position
          · rw [same]
            exact selects _
          · dsimp only [suspend] at at_other
            rw [List.getElem?_set_ne (Ne.symm same)] at at_other
            exact absurd (invariant.suspended_of_running running at_other) suspended
        · intro other selects_other
          obtain rfl : position = other := by
            simpa using (selects state.runtime).symm.trans selects_other
          exact ⟨localSet.indices, List.getElem?_set_self position_lt⟩
      · rename_i members exception register_eq
        rw [register_eq] at changes kept
        refine ⟨invariant.coroutine, invariant.consumer, invariant.held, invariant.none_destroyed,
          ⟨changes.valid, ?_, invariant.registrations.idle, invariant.registrations.selecting⟩,
          .running producing running not_queued⟩
        intro index is_registered
        left
        rcases kept index is_registered with in_set | beside
        · exact ⟨localSet, List.mem_of_getElem? at_position, not_resumed, in_set⟩
        · exact beside.keeps
  · exact invariant

theorem drop (invariant : state.Invariant) (running : state.status = .running)
    (position : ℕ) : (state.drop position).Invariant := by
  rcases invariant.phase.of_running running with ⟨producing, not_queued⟩
  unfold State.drop
  split
  · rename_i localSet at_position
    rcases localSet.destroy_spec invariant.registrations.valid with ⟨changes, still_registered⟩
    refine ⟨invariant.coroutine, invariant.consumer, invariant.held, invariant.none_destroyed,
      ⟨changes.valid, ?_, ?_, ?_⟩, .running producing running not_queued⟩
    · intro index is_registered
      left
      rcases still_registered index state.generator is_registered with ⟨before, absent⟩
      have keeps := invariant.keeps_of_running running before
      rcases keeps.here_or_beside at_position with here | beside
      · exact absurd here.2 (absent here.1)
      · rcases beside with ⟨other, otherSet, differs, at_other, keeping⟩
        have otherSet_mem := List.mem_eraseIdx_iff_getElem?.mpr ⟨other, differs, at_other⟩
        exact ⟨otherSet, otherSet_mem, keeping⟩
    · intro other otherSet at_other suspended
      have otherSet_mem := List.mem_of_mem_eraseIdx (List.mem_of_getElem? at_other)
      rcases List.mem_iff_getElem?.mp otherSet_mem with ⟨before, at_before⟩
      exact absurd (invariant.suspended_of_running running at_before) suspended
    · intro other selects
      have same : state.status = .waiting (.selects other) := selects
      simp [running] at same
  · exact invariant

/-- A step on a promise that registers the generator nowhere. -/
theorem updateMember (invariant : state.Invariant) {index : ℕ} {member : Member U E}
    (valid : member.Valid)
    (finished : (state.members index).state = .finished → member.state = .finished)
    (registered : member.waitingHandle = some state.generator →
      (state.members index).waitingHandle = some state.generator) :
    ({ state with members := Function.update state.members index member } :
      State T U E).Invariant := by
  have changes := SelectSet.Changes.update invariant.registrations.valid valid finished
  refine ⟨invariant.coroutine, invariant.consumer, invariant.held, invariant.none_destroyed,
    invariant.registrations.changes changes ?_ rfl rfl rfl,
    invariant.phase.congr rfl rfl rfl rfl rfl changes.finished⟩
  intro other is_registered
  by_cases same : other = index
  · subst same
    simp only [Function.update_self] at is_registered
    exact registered is_registered
  · simp only [Function.update_of_ne same] at is_registered
    exact is_registered

theorem awaitMember (invariant : state.Invariant) (running : state.status = .running)
    (index : ℕ) : (state.awaitMember index).Invariant := by
  rcases invariant.phase.of_running running with ⟨producing, not_queued⟩
  have valid := invariant.registrations.valid index
  unfold State.awaitMember
  dsimp only
  split
  · rcases valid.awaitResume_any with ⟨after_valid, waiting_eq, state_eq⟩
    exact invariant.updateMember after_valid (fun finished => state_eq.trans finished)
      (fun registered => waiting_eq.symm.trans registered)
  · rw [Member.awaitSuspend_eq_setHandle]
    split
    · rename_i member set_eq
      rcases valid.of_setHandle set_eq with ⟨is_init, registered_valid, -, -⟩
      have not_finished : (state.members index).state ≠ .finished := by simp [is_init]
      have changes := SelectSet.Changes.update invariant.registrations.valid registered_valid
        (fun finished => absurd finished not_finished)
      have awaits : ∀ runtime : Runtime Point, (runtime.setStatus state.generator
          (.waiting (.awaitsMember index))).status state.generator =
            .waiting (.awaitsMember index) := fun runtime => Runtime.setStatus_status_self _
      refine ⟨invariant.coroutine, invariant.consumer, invariant.held, invariant.none_destroyed,
        ⟨changes.valid, ?_, ?_, ?_⟩,
        .awaitingMember producing index (awaits _)
          (Nat.le_trans (Nat.le_of_eq not_queued) (Nat.zero_le 1))
          (fun queued => absurd not_queued queued)⟩
      · intro other is_registered
        by_cases same : other = index
        · right
          rw [same]
          exact awaits _
        · left
          simp only [State.suspend, Function.update_of_ne same] at is_registered
          exact invariant.keeps_of_running running is_registered
      · intro position localSet at_position suspended
        exact absurd (invariant.suspended_of_running running at_position) suspended
      · intro position selects
        exact absurd ((awaits _).symm.trans selects) (by simp)
    · exact invariant

theorem resolve (invariant : state.Invariant) {index : ℕ} (outcome : Outcome U E)
    (unresolved : (state.members index).state ≠ .finished)
    (awaited : (state.members index).waitingHandle = some state.generator →
      state.status = .waiting (.awaitsMember index) ∨
        ∃ position, state.status = .waiting (.selects position)) :
    (state.resolve index outcome).Invariant := by
  rcases (invariant.registrations.valid index).resolve state.runtime.loop outcome unresolved with
    ⟨loop_eq, valid, nobody, finished, -⟩
  have resolved : ({ state with
      members := Function.update state.members index
        ((state.members index).resolve state.runtime.loop outcome).1 } : State T U E).Invariant :=
    invariant.updateMember valid (fun _ => finished)
      (fun registered => absurd (nobody.symm.trans registered) (by simp))
  have members_eq : (state.resolve index outcome).members =
      Function.update state.members index
        ((state.members index).resolve state.runtime.loop outcome).1 := rfl
  refine ⟨invariant.coroutine, invariant.consumer, invariant.held, invariant.none_destroyed,
    resolved.registrations.changes (.refl resolved.registrations.valid)
      (fun _ is_registered => is_registered) rfl rfl rfl, ?_⟩
  by_cases registered : (state.members index).waitingHandle = some state.generator
  · have pending_eq : (state.resolve index outcome).pending = state.pending + 1 := by
      have runtime_eq : (state.resolve index outcome).runtime =
          state.runtime.enqueue state.generator := by
        simp only [State.resolve, loop_eq, registered]
        rfl
      rw [pending, runtime_eq]
      exact Runtime.pending_enqueue_self
    rcases awaited registered with awaits | ⟨position, selects⟩
    · cases invariant.phase with
      | awaitingMember producing other status at_most_once was_resolved =>
          obtain rfl : other = index := by simpa using status.symm.trans awaits
          have not_queued : state.pending = 0 := by
            by_contra queued
            exact unresolved (was_resolved queued)
          refine .awaitingMember producing other status ?_ ?_
          · omega
          · intro _
            rw [members_eq, Function.update_self]
            exact finished
      | running _ status | elsewhere _ status | selecting _ _ status | parked _ _ status
      | woken _ status | ended _ _ status => simp [awaits] at status
    · cases invariant.phase with
      | selecting producing other status => exact .selecting producing other status
      | running _ status | elsewhere _ status | awaitingMember _ _ status | parked _ _ status
      | woken _ status | ended _ _ status => simp [selects] at status
  · refine resolved.phase.congr rfl rfl rfl rfl ?_ (fun _ was_finished => was_finished)
    change ({ state.runtime with
      loop := ((state.members index).resolve state.runtime.loop outcome).2 } :
      Runtime Point).pending state.generator = state.pending
    rw [loop_eq]
    cases waiting_eq : (state.members index).waitingHandle with
    | none => rfl
    | some waiting =>
        apply Runtime.pending_enqueue_of_ne
        rintro rfl
        exact registered waiting_eq

theorem foreign (invariant : state.Invariant) (index : ℕ) {use : ForeignUse}
    (foreign : use ≠ .setHandle state.generator) :
    ({ state with
      members := Function.update state.members index (use.apply (state.members index)) } :
      State T U E).Invariant := by
  have valid := invariant.registrations.valid index
  cases use with
  | setHandle handle =>
      cases set_eq : (state.members index).setHandle handle with
      | ok registered =>
          rcases valid.of_setHandle set_eq with ⟨is_init, registered_valid, waiting_eq, -⟩
          have applied : (ForeignUse.setHandle handle).apply (state.members index) =
              registered := by
            simp [ForeignUse.apply, set_eq]
          rw [applied]
          refine invariant.updateMember registered_valid (fun finished => ?_) (fun by_us => ?_)
          · simp [is_init] at finished
          · rw [waiting_eq, Option.some.injEq] at by_us
            exact absurd (congrArg ForeignUse.setHandle by_us) foreign
      | error exception =>
          have applied : (ForeignUse.setHandle handle).apply (state.members index) =
              state.members index := by
            simp [ForeignUse.apply, set_eq]
          rw [applied]
          exact invariant.updateMember valid (fun finished => finished)
            (fun registered => registered)
  | resetHandle =>
      rcases valid.resetHandle with ⟨after_valid, nobody, -, -⟩
      exact invariant.updateMember after_valid (SelectSet.releases_resetHandle.finished valid)
        (fun registered => absurd (nobody.symm.trans registered) (by simp))
  | awaitResume =>
      rcases valid.awaitResume_any with ⟨after_valid, waiting_eq, state_eq⟩
      exact invariant.updateMember after_valid (fun finished => state_eq.trans finished)
        (fun registered => waiting_eq.symm.trans registered)
  | unwrap =>
      rcases valid.unwrap with ⟨after_valid, waiting_eq, state_eq⟩
      exact invariant.updateMember after_valid (fun finished => state_eq.trans finished)
        (fun registered => waiting_eq.symm.trans registered)

/-- The generator suspends in, or goes on from, an awaiter that is not part of the model, or goes
on from `co_yield`. -/
theorem moves (invariant : state.Invariant) {runtime : Runtime Point}
    (not_selecting : ∀ position, state.status ≠ .waiting (.selects position))
    (not_awaiting : ∀ index, state.status ≠ .waiting (.awaitsMember index))
    (still_not_selecting : ∀ position,
      runtime.status state.generator ≠ .waiting (.selects position))
    (phase : ({ state with runtime } : State T U E).Phase) :
    ({ state with runtime } : State T U E).Invariant :=
  ⟨invariant.coroutine, invariant.consumer, invariant.held, invariant.none_destroyed,
    invariant.registrations.moves rfl rfl rfl not_selecting not_awaiting still_not_selecting,
    phase⟩

theorem resumeOther (invariant : state.Invariant) {handle : Handle}
    (differs : handle ≠ state.generator) : (state.resumeOther handle).Invariant := by
  unfold State.resumeOther
  dsimp only
  split
  · exact (invariant.setStatus_other differs _).finishAwait
  · exact invariant.setStatus_other differs _
  · exact invariant
  · exact invariant
  · exact invariant

/-- The generator goes on in `await_resume` of a set. -/
theorem resumeSelect (invariant : state.Invariant) (producing : state.Producing) {position : ℕ}
    (selects : state.status = .waiting (.selects position)) {runtime : Runtime Point}
    (runs : runtime.status state.generator = .running) :
    (({ state with runtime } : State T U E).finishSelect position).Invariant := by
  rcases invariant.registrations.selecting position selects with ⟨indices, at_position⟩
  apply finishSelect
  refine ⟨invariant.coroutine, invariant.consumer, invariant.held, invariant.none_destroyed,
    producing, runs, at_position, invariant.registrations.valid, ?_, ?_, fun _ => rfl⟩
  · intro index is_registered
    rcases invariant.registrations.registered index is_registered with keeps | awaits
    · rcases keeps.here_or_beside at_position with here | beside
      · exact .inl here.2
      · exact .inr beside
    · simp [selects] at awaits
  · intro other otherSet differs at_other
    by_contra suspended
    have also_selects := invariant.registrations.idle other otherSet at_other suspended
    rw [selects] at also_selects
    simp only [Status.waiting.injEq, Point.selects.injEq] at also_selects
    exact differs also_selects.symm

/-- The generator goes on in `await_resume` of a promise. -/
theorem resumeMember (invariant : state.Invariant) (producing : state.Producing) {index : ℕ}
    (awaits : state.status = .waiting (.awaitsMember index))
    (finished : (state.members index).state = .finished) {runtime : Runtime Point}
    (runs : runtime.status state.generator = .running)
    (not_queued : runtime.pending state.generator = 0) :
    ({ state with
      runtime
      members := Function.update state.members index (state.members index).awaitResume } :
      State T U E).Invariant := by
  have valid := invariant.registrations.valid index
  have nobody := valid.nobody (by simp [finished])
  rcases valid.awaitResume finished with ⟨after_valid, waiting_eq, after_finished⟩
  have changes : SelectSet.Changes state.members
      (Function.update state.members index (state.members index).awaitResume) :=
    .update invariant.registrations.valid after_valid (fun _ => after_finished)
  refine ⟨invariant.coroutine, invariant.consumer, invariant.held, invariant.none_destroyed,
    ⟨changes.valid, ?_, ?_, ?_⟩, .running producing runs not_queued⟩
  · intro other is_registered
    left
    by_cases same : other = index
    · subst same
      simp only [Function.update_self] at is_registered
      rw [waiting_eq, nobody] at is_registered
      simp at is_registered
    · simp only [Function.update_of_ne same] at is_registered
      rcases invariant.registrations.registered other is_registered with keeps | also_awaits
      · exact keeps
      · rw [awaits] at also_awaits
        simp only [Status.waiting.injEq, Point.awaitsMember.injEq] at also_awaits
        exact absurd also_awaits.symm same
  · intro position localSet at_position suspended
    have selects := invariant.registrations.idle position localSet at_position suspended
    simp [awaits] at selects
  · intro position selects
    exact absurd (runs.symm.trans selects) (by simp)

/-- The generator is resumed by an entry that was taken out of the queue. -/
theorem resumeGenerator (invariant : state.Invariant) {runtime : Runtime Point}
    (status_eq : runtime.status = state.runtime.status)
    (queued : state.pending = runtime.pending state.generator + 1)
    (not_done : state.status ≠ .done) :
    ({ state with runtime } : State T U E).resumeGenerator.Invariant := by
  have same_status : ({ state with runtime } : State T U E).status = state.status := by
    rw [status, status, status_eq]
  have runs : (runtime.setStatus state.generator .running).status state.generator = .running :=
    Runtime.setStatus_status_self _
  unfold State.resumeGenerator
  rw [same_status]
  cases invariant.phase with
  | running _ _ not_queued | parked _ _ _ not_queued => omega
  | ended _ _ is_done => exact absurd is_done not_done
  | elsewhere producing suspended at_most_once =>
      rw [suspended]
      refine invariant.moves (by simp [suspended]) (by simp [suspended]) (by simp) ?_
      refine .running producing runs ?_
      change runtime.pending state.generator = 0
      omega
  | woken producing at_yield at_most_once =>
      rw [at_yield]
      refine invariant.moves (by simp [at_yield]) (by simp [at_yield]) (by simp) ?_
      refine .running producing runs ?_
      change runtime.pending state.generator = 0
      omega
  | selecting producing position selects =>
      rw [selects]
      exact invariant.resumeSelect producing selects runs
  | awaitingMember producing index awaits at_most_once resolved =>
      rw [awaits]
      refine invariant.resumeMember producing awaits (resolved (by omega)) runs ?_
      change runtime.pending state.generator = 0
      omega

theorem resumeNext (invariant : state.Invariant) : state.resumeNext.Invariant := by
  unfold State.resumeNext
  rcases popped : state.runtime.getNext with ⟨_ | handle, runtime⟩
  · rcases Runtime.getNext_drained popped with ⟨status_eq, emptied, all_done⟩
    refine invariant.congr rfl rfl rfl ⟨state.core.slot, rfl⟩ rfl rfl
      (congrFun status_eq state.generator) ?_
    change runtime.pending state.generator = state.pending
    rw [emptied]
    by_cases is_done : state.status = .done
    · exact (invariant.phase.of_done is_done).symm
    · exact (all_done state.generator is_done).symm
  · rcases Runtime.getNext_popped popped with
      ⟨status_eq, not_done, popped_pending, pending_le, other_pending⟩
    dsimp only
    unfold State.resume
    split
    · rename_i same
      have same_handle : handle = state.generator := same
      subst same_handle
      exact invariant.resumeGenerator status_eq popped_pending not_done
    · rename_i differs
      have generator_differs : state.generator ≠ handle := fun same => differs same.symm
      have popped_invariant : ({ state with runtime } : State T U E).Invariant := by
        refine invariant.congr rfl rfl rfl ⟨state.core.slot, rfl⟩ rfl rfl
          (congrFun status_eq state.generator) ?_
        by_cases is_done : state.status = .done
        · have not_queued := invariant.phase.of_done is_done
          exact Nat.le_antisymm (pending_le state.generator)
            (Nat.le_trans (Nat.le_of_eq not_queued) (Nat.zero_le _))
        · exact other_pending state.generator generator_differs is_done
      exact popped_invariant.resumeOther differs

/-- A generator in an awaiter that is not part of the model is on its way to the next value. -/
theorem of_elsewhere (invariant : state.Invariant) (suspended : state.status = .elsewhere) :
    state.Producing := by
  cases invariant.phase with
  | elsewhere producing => exact producing
  | running _ status | selecting _ _ status | awaitingMember _ _ status | parked _ _ status
  | woken _ status | ended _ _ status => simp [suspended] at status

theorem other (invariant : state.Invariant) {action : Runtime.Action}
    (enabled : action.Enabled state.runtime) (not_end : action ≠ .finish state.generator) :
    ({ state with runtime := action.perform state.runtime } : State T U E).Invariant := by
  by_cases by_generator : action.subject = state.generator
  · cases action with
    | suspend handle =>
        obtain rfl : handle = state.generator := by_generator
        have running : state.status = .running := enabled
        rcases invariant.phase.of_running running with ⟨producing, not_queued⟩
        refine invariant.moves (by simp [running]) (by simp [running])
          (by simp [Runtime.Action.perform]) ?_
        refine .elsewhere producing (Runtime.setStatus_status_self _) ?_
        exact Nat.le_trans (Nat.le_of_eq not_queued) (Nat.zero_le 1)
    | wake handle =>
        obtain rfl : handle = state.generator := by_generator
        rcases enabled with ⟨suspended, not_queued⟩
        have suspended : state.status = .elsewhere := suspended
        refine invariant.moves (by simp [suspended]) (by simp [suspended]) ?_ ?_
        · intro position selects
          exact absurd (suspended.symm.trans selects) (by simp)
        · refine .elsewhere (invariant.of_elsewhere suspended) suspended ?_
          exact Nat.le_of_eq (Runtime.pending_enqueue_self.trans (by rw [not_queued]))
    | resume handle =>
        obtain rfl : handle = state.generator := by_generator
        rcases enabled with ⟨suspended, not_queued⟩
        have suspended : state.status = .elsewhere := suspended
        refine invariant.moves (by simp [suspended]) (by simp [suspended])
          (by simp [Runtime.Action.perform]) ?_
        exact .running (invariant.of_elsewhere suspended) (Runtime.setStatus_status_self _)
          not_queued
    | finish handle =>
        obtain rfl : handle = state.generator := by_generator
        exact absurd rfl not_end
  · cases action with
    | suspend handle | resume handle | finish handle =>
        exact invariant.setStatus_other by_generator _
    | wake handle =>
        exact invariant.congr rfl rfl rfl ⟨state.core.slot, rfl⟩ rfl rfl rfl
          (Runtime.pending_enqueue_of_ne (Ne.symm by_generator))

theorem step (invariant : state.Invariant) {action : Action T U E}
    (enabled : action.Enabled state) (awaited : ResolvesAwaited state action) :
    (action.perform state).Invariant := by
  cases action with
  | coAwait handle => exact invariant.coAwait enabled.1
  | dropConsumer handle => exact invariant.dropConsumer enabled
  | yield value => exact invariant.yield enabled value
  | finish ending => exact invariant.finish enabled ending
  | declare indices => exact invariant.declare enabled indices
  | select position => exact invariant.select enabled.1 enabled.2
  | drop position => exact invariant.drop enabled position
  | awaitMember index => exact invariant.awaitMember enabled index
  | resolve index outcome => exact invariant.resolve outcome enabled awaited
  | foreign index use => exact invariant.foreign index enabled
  | resumeNext => exact invariant.resumeNext
  | other action => exact invariant.other enabled.1 enabled.2

end Invariant

theorem invariant_of_reachableVia
    (reached : (system T U E).ReachableVia ResolvesAwaited state) : state.Invariant := by
  refine reached.invariant Invariant ?_ fun _ _ invariant enabled awaited =>
    invariant.step enabled awaited
  rintro _ ⟨generator, members, fresh, rfl⟩
  refine ⟨rfl, by simp, rfl, rfl, ⟨fun index => (fresh index).1, ?_, by simp, ?_⟩,
    .running ⟨rfl, by simp⟩ rfl rfl⟩
  · intro index is_registered
    exact absurd is_registered (fresh index).2
  · intro position selects
    simp [status] at selects

end State

end Uvco.Discard
