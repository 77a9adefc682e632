import Uvco.StreamServer.Listen

/-!
# What `listen()` yields

As long as no callback appends to a full `accepted_` while the generator is
suspended at `co_yield`, its iterator stays valid, and `listen()` yields the
accepted streams in the order in which they were accepted. An append to a full
`accepted_` at that moment reallocates it, and the generator goes on with an
invalid iterator.

An error ends the generator. The awaiter is a local variable of it, so whatever
was accepted behind the error is lost; only if there is no such stream, the next
call of `listen()` has all streams that are left.
-/

namespace Uvco.StreamServer

variable {Stream : Type}

namespace State

/-- What `listen()` has not visited yet. -/
def remaining (state : State Stream) : List (Accepted Stream) :=
  match state.data with
  | none => []
  | some awaiter =>
      match state.position with
      | .awaiting => awaiter.accepted.entries
      | .atYield iterator => awaiter.accepted.entries.drop (iterator.index + 1)

/-- The accepted streams are yielded in order, up to an error. -/
structure YieldsInOrder (state : State Stream) : Prop where
  never_invalid : state.invalidUse = false
  /-- While `listen()` has not ended, it has yielded or has yet to visit every accepted stream. -/
  complete : state.promise.ended = none →
    state.promise.yielded ++ streams state.remaining = streams state.collected
  /-- It ends only by an error, and has then yielded the streams accepted before the error. -/
  ends_by_error : ∀ ending, state.promise.ended = some ending →
    (∃ status, ending = .threw (listenError status) ∧ state.collected = []) ∨
      ∃ status rest, ending = .threw (acceptError status) ∧
        state.collected = state.promise.yielded.map .stream ++ .error status :: rest
  /-- Its consumers obtain what it yields. -/
  obtained : state.promise.yielded = state.promise.values ++ state.promise.inSlot
  /-- It waits for a callback only if there is nothing to visit. -/
  prompt : state.promise.ended = none → state.remaining ≠ [] →
    state.promise.runtime.status state.promise.generator = .waiting .atYield ∨
      state.promise.runtime.pending state.promise.generator = 1

/-- No callback appends to a full `accepted_` while the generator is suspended at `co_yield`. -/
def KeepsIterator (state : State Stream) : Action Stream → Prop
  | .onNewConnection .. =>
      match state.data, state.position with
      | some awaiter, .atYield _ => ¬awaiter.accepted.Full
      | some _, .awaiting | none, _ => True
  | .listen .. | .follow _ => True

/-! ## The invariant -/

/-- How far the current call of `listen()` has come. -/
inductive Stage (state : State Stream) : Prop where
  | awaiting (awaiter : ConnectionAwaiter Stream) (data_eq : state.data = some awaiter)
      (position_eq : state.position = .awaiting)
      (status : state.promise.runtime.status state.promise.generator = .elsewhere)
      (registered : awaiter.handle = some state.promise.generator ∧
          awaiter.accepted.entries = [] ∧
          state.promise.runtime.pending state.promise.generator = 0 ∨
        awaiter.handle = none ∧ state.promise.runtime.pending state.promise.generator = 1)
      (accounted : state.collected =
        state.promise.yielded.map .stream ++ awaiter.accepted.entries)
  | yielding (awaiter : ConnectionAwaiter Stream) (iterator : StdVector.Iterator)
      (data_eq : state.data = some awaiter) (position_eq : state.position = .atYield iterator)
      (status : state.promise.runtime.status state.promise.generator = .waiting .atYield)
      (unregistered : awaiter.handle = none) (valid : iterator.Valid awaiter.accepted)
      (in_range : iterator.index < awaiter.accepted.entries.length)
      (accounted : state.collected = state.promise.yielded.map .stream ++
        awaiter.accepted.entries.drop (iterator.index + 1))
  | failed (status : Int) (data_eq : state.data = none)
      (ended_eq : state.promise.ended = some (.threw (listenError status)))
      (nothing : state.collected = [] ∧ state.promise.yielded = [])
  | threw (status : Int) (rest : List (Accepted Stream)) (data_eq : state.data = none)
      (ended_eq : state.promise.ended = some (.threw (acceptError status)))
      (accounted : state.collected =
        state.promise.yielded.map .stream ++ .error status :: rest)

/-- What holds of `listen()` in every run that meets the condition. -/
structure Invariant (state : State Stream) : Prop where
  promise : state.promise.Invariant
  never_invalid : state.invalidUse = false
  stage : state.Stage

namespace Invariant

variable {state : State Stream}

theorem suspend (promise : state.promise.Invariant) (never_invalid : state.invalidUse = false)
    (running : state.promise.runtime.status state.promise.generator = .running)
    {awaiter : ConnectionAwaiter Stream} (empty : awaiter.accepted.entries = [])
    (accounted : state.collected = state.promise.yielded.map .stream) :
    (state.suspend awaiter).Invariant := by
  have enabled : (MultiPromise.Action.other (.suspend state.promise.generator)).Enabled
      state.promise := ⟨running, by simp⟩
  refine ⟨promise.step enabled, never_invalid, ?_⟩
  refine .awaiting _ rfl rfl (Runtime.setStatus_status_self _) (.inl ⟨rfl, empty, ?_⟩) ?_
  · exact promise.consistent.pending_of_running running
  · change state.collected = state.promise.yielded.map .stream ++ awaiter.accepted.entries
    rw [empty, List.append_nil]
    exact accounted

/-- The loop over `accepted_` goes on with a valid iterator. -/
theorem visit (promise : state.promise.Invariant) (never_invalid : state.invalidUse = false)
    (running : state.promise.runtime.status state.promise.generator = .running)
    {awaiter : ConnectionAwaiter Stream} {iterator : StdVector.Iterator}
    (data_eq : state.data = some awaiter) (unregistered : awaiter.handle = none)
    (valid : iterator.Valid awaiter.accepted)
    (accounted : state.collected = state.promise.yielded.map .stream ++
      awaiter.accepted.entries.drop iterator.index) :
    (state.visit iterator).Invariant := by
  simp only [State.visit, data_eq, valid, if_true]
  rcases visited : awaiter.accepted.entries[iterator.index]? with _ | entry
  · refine suspend promise never_invalid running rfl ?_
    rw [accounted, List.drop_eq_nil_of_le (List.getElem?_eq_none_iff.mp visited),
      List.append_nil]
  · rcases List.getElem?_eq_some_iff.mp visited with ⟨in_range, entry_eq⟩
    rw [List.drop_eq_getElem_cons in_range, entry_eq] at accounted
    cases entry with
    | error status =>
        rcases promise.finish_spec (.threw (acceptError status)) running with
          ⟨finished, -, yielded_eq, ended_eq, -⟩
        dsimp only
        constructor
        · exact finished
        · exact never_invalid
        · refine .threw status (awaiter.accepted.entries.drop (iterator.index + 1)) rfl ended_eq ?_
          dsimp only
          rw [yielded_eq]
          exact accounted
    | stream stream =>
        rcases promise.yield_spec stream running with
          ⟨parked, generator_eq, yielded_eq, -, status_eq⟩
        dsimp only
        refine ⟨parked, never_invalid,
          .yielding awaiter iterator rfl rfl ?_ unregistered valid in_range ?_⟩
        · dsimp only
          rw [generator_eq]
          exact status_eq
        · dsimp only
          rw [yielded_eq, accounted, List.map_append, List.append_assoc]
          rfl

/-- The generator is resumed, and goes on where it was suspended. -/
theorem follow_resumed (invariant : state.Invariant)
    {action : MultiPromise.Action Stream UvcoException}
    (enabled : (Action.follow action).Enabled state)
    (resumed : state.promise.Resumed (action.perform state.promise)) :
    ({ state with promise := action.perform state.promise } : State Stream).proceed.Invariant := by
  rcases enabled with ⟨enabled, is_foreign⟩
  have promise := invariant.promise.step enabled
  have foreign := invariant.promise.foreign enabled is_foreign
  have running := resumed.2
  rw [← foreign.generator_eq] at running
  cases invariant.stage with
  | awaiting awaiter data_eq position_eq status registered accounted =>
      have unregistered : awaiter.handle = none := by
        rcases registered with ⟨-, -, not_queued⟩ | ⟨unregistered, -⟩
        · rcases invariant.promise.undisturbed enabled is_foreign status with
            ⟨still_suspended, -⟩ | ⟨-, queued⟩
          · simp [resumed.2] at still_suspended
          · omega
        · exact unregistered
      simp only [proceed, position_eq, data_eq]
      apply visit
      · exact promise
      · exact invariant.never_invalid
      · exact running
      · rfl
      · exact unregistered
      · exact StdVector.begin_valid
      · dsimp only
        rw [foreign.yielded_eq]
        exact accounted
  | yielding awaiter iterator data_eq position_eq status unregistered valid in_range accounted =>
      simp only [proceed, position_eq]
      apply visit
      · exact promise
      · exact invariant.never_invalid
      · exact running
      · exact data_eq
      · exact unregistered
      · exact StdVector.Iterator.next_valid.mpr valid
      · dsimp only
        rw [foreign.yielded_eq]
        exact accounted
  | failed _ _ ended_eq | threw _ _ _ ended_eq =>
      have suspended := foreign.was_suspended resumed
      have done := invariant.promise.done_of_ended (by simp [ended_eq])
      simp [done, Status.isSuspended] at suspended

/-- The generator stays where it is. -/
theorem follow_stays (invariant : state.Invariant)
    {action : MultiPromise.Action Stream UvcoException}
    (enabled : (Action.follow action).Enabled state)
    (not_resumed : ¬state.promise.Resumed (action.perform state.promise)) :
    ({ state with promise := action.perform state.promise } : State Stream).Stage := by
  rcases enabled with ⟨enabled, is_foreign⟩
  have foreign := invariant.promise.foreign enabled is_foreign
  have status_eq := foreign.stays not_resumed
  rw [← foreign.generator_eq] at status_eq
  cases invariant.stage with
  | awaiting awaiter data_eq position_eq status registered accounted =>
      have pending_eq : (action.perform state.promise).runtime.pending state.promise.generator =
          state.promise.runtime.pending state.promise.generator := by
        rcases invariant.promise.undisturbed enabled is_foreign status with
          ⟨-, pending_eq⟩ | ⟨running, -⟩
        · exact pending_eq
        · exact absurd ⟨by simp [status], running⟩ not_resumed
      rw [← foreign.generator_eq] at pending_eq
      refine .awaiting awaiter data_eq position_eq ?_ ?_ ?_
      · exact status_eq.trans (foreign.generator_eq ▸ status)
      · dsimp only
        rw [pending_eq, foreign.generator_eq]
        exact registered
      · dsimp only
        rw [foreign.yielded_eq]
        exact accounted
  | yielding awaiter iterator data_eq position_eq status unregistered valid in_range accounted =>
      refine .yielding awaiter iterator data_eq position_eq ?_ unregistered valid in_range ?_
      · exact status_eq.trans (foreign.generator_eq ▸ status)
      · dsimp only
        rw [foreign.yielded_eq]
        exact accounted
  | failed status data_eq ended_eq nothing =>
      refine .failed status data_eq (foreign.ended_eq.trans ended_eq) ?_
      exact ⟨nothing.1, foreign.yielded_eq.trans nothing.2⟩
  | threw status rest data_eq ended_eq accounted =>
      refine .threw status rest data_eq (foreign.ended_eq.trans ended_eq) ?_
      dsimp only
      rw [foreign.yielded_eq]
      exact accounted

theorem follow (invariant : state.Invariant)
    {action : MultiPromise.Action Stream UvcoException}
    (enabled : (Action.follow action).Enabled state) : (state.follow action).Invariant := by
  simp only [State.follow]
  split
  · rename_i resumed
    exact invariant.follow_resumed enabled resumed
  · rename_i not_resumed
    exact ⟨invariant.promise.step enabled.1, invariant.never_invalid,
      invariant.follow_stays enabled not_resumed⟩

theorem still_accounted {collected visited left : List (Accepted Stream)}
    (accounted : collected = visited ++ left) (entry : Accepted Stream) :
    collected ++ [entry] = visited ++ (left ++ [entry]) := by
  rw [accounted, List.append_assoc]

theorem onNewConnection (invariant : state.Invariant) (status acceptStatus : Int)
    (client : Stream) (grown : ℕ)
    (allowed : state.KeepsIterator (.onNewConnection status acceptStatus client grown)) :
    (state.onNewConnection status acceptStatus client grown).Invariant := by
  unfold State.onNewConnection
  cases invariant.stage with
  | awaiting awaiter data_eq position_eq status_eq registered accounted =>
      simp only [data_eq]
      rcases registered with ⟨handle_eq, -, not_queued⟩ | ⟨handle_eq, queued⟩
      · have enabled : (MultiPromise.Action.other (.wake state.promise.generator)).Enabled
            state.promise := ⟨⟨status_eq, not_queued⟩, by simp⟩
        simp only [handle_eq]
        constructor
        · exact invariant.promise.step enabled
        · exact invariant.never_invalid
        · refine .awaiting _ rfl position_eq status_eq (.inr ⟨rfl, ?_⟩) ?_
          · exact Runtime.pending_enqueue_self.trans (by rw [not_queued])
          · rw [StdVector.entries_emplaceBack]
            exact still_accounted accounted _
      · simp only [handle_eq]
        refine ⟨invariant.promise, invariant.never_invalid,
          .awaiting _ rfl position_eq status_eq (.inr ⟨rfl, queued⟩) ?_⟩
        rw [StdVector.entries_emplaceBack]
        exact still_accounted accounted _
  | yielding awaiter iterator data_eq position_eq status_eq unregistered valid in_range accounted =>
      simp only [KeepsIterator, data_eq, position_eq] at allowed
      simp only [data_eq, unregistered]
      refine ⟨invariant.promise, invariant.never_invalid, .yielding _ iterator rfl position_eq
        status_eq rfl (valid.emplaceBack allowed _ grown) ?_ ?_⟩
      · rw [StdVector.entries_emplaceBack, List.length_append]
        exact Nat.lt_add_right _ in_range
      · rw [StdVector.entries_emplaceBack, List.drop_append_of_le_length in_range]
        exact still_accounted accounted _
  | failed _ data_eq | threw _ _ data_eq =>
      simp only [data_eq]
      exact invariant

/-- A call of `listen()` while no generator is active. -/
theorem listen {generator : Handle}
    (promise : (MultiPromise.State.started state.promise.runtime generator :
      MultiPromise.State Stream UvcoException).Invariant)
    (running : state.promise.runtime.status generator = .running) (capacity : ℕ) (status : Int) :
    (state.listen generator capacity status).Invariant := by
  simp only [State.listen]
  split
  · apply suspend
    · exact promise
    · rfl
    · exact running
    · rfl
    · rfl
  · rcases promise.finish_spec (.threw (listenError status)) running with
      ⟨finished, -, yielded_eq, ended_eq, -⟩
    constructor
    · exact finished
    · rfl
    · exact .failed status rfl ended_eq ⟨rfl, yielded_eq⟩

theorem step (invariant : state.Invariant) {action : Action Stream}
    (enabled : action.Enabled state) (allowed : state.KeepsIterator action) :
    (action.perform state).Invariant := by
  cases action with
  | listen generator capacity status =>
      rcases enabled with ⟨ended, running, nobody⟩
      exact listen (invariant.promise.restarted ended nobody running) running capacity status
  | onNewConnection status acceptStatus client grown =>
      exact invariant.onNewConnection status acceptStatus client grown allowed
  | follow action => exact invariant.follow enabled

theorem initially (initial : (system Stream).Initial state) : state.Invariant := by
  rcases initial with ⟨generator, capacity, status, rfl⟩
  apply listen
  · exact MultiPromise.State.initial_invariant generator
  · rfl

end Invariant

theorem invariant_of_reachableVia {state : State Stream}
    (reached : (system Stream).ReachableVia KeepsIterator state) : state.Invariant :=
  reached.invariant Invariant (fun _ initial => Invariant.initially initial)
    (fun _ _ invariant enabled allowed => invariant.step enabled allowed)

theorem streams_append (front back : List (Accepted Stream)) :
    streams (front ++ back) = streams front ++ streams back :=
  List.filterMap_append ..

theorem streams_map (yielded : List Stream) : streams (yielded.map .stream) = yielded := by
  rw [streams, List.filterMap_map]
  exact List.filterMap_some

theorem Invariant.yieldsInOrder {state : State Stream} (invariant : state.Invariant) :
    state.YieldsInOrder := by
  rcases invariant.promise.transported.values_eq with ⟨-, -, obtained, -⟩
  cases invariant.stage with
  | awaiting awaiter data_eq position_eq status registered accounted =>
      have open_ := invariant.promise.open_of_not_done (by simp [status])
      have remaining_eq : state.remaining = awaiter.accepted.entries := by
        simp only [remaining, data_eq, position_eq]
      refine ⟨invariant.never_invalid, ?_, by simp [open_], obtained, ?_⟩
      · intro _
        rw [accounted, streams_append, streams_map, remaining_eq]
      · intro _ left
        rcases registered with ⟨-, empty, -⟩ | ⟨-, queued⟩
        · exact absurd (remaining_eq.trans empty) left
        · exact .inr queued
  | yielding awaiter iterator data_eq position_eq status _ _ _ accounted =>
      have open_ := invariant.promise.open_of_not_done (by simp [status])
      refine ⟨invariant.never_invalid, ?_, by simp [open_], obtained, fun _ _ => .inl status⟩
      intro _
      rw [accounted, streams_append, streams_map]
      simp only [remaining, data_eq, position_eq]
  | failed status data_eq ended_eq nothing =>
      refine ⟨invariant.never_invalid, by simp [ended_eq], ?_, obtained, by simp [ended_eq]⟩
      intro ending ending_eq
      rw [ended_eq, Option.some.injEq] at ending_eq
      exact .inl ⟨status, ending_eq.symm, nothing.1⟩
  | threw status rest data_eq ended_eq accounted =>
      refine ⟨invariant.never_invalid, by simp [ended_eq], ?_, obtained, by simp [ended_eq]⟩
      intro ending ending_eq
      rw [ended_eq, Option.some.injEq] at ending_eq
      exact .inr ⟨status, rest, ending_eq.symm, accounted⟩

/-- As long as the iterator is kept, `listen()` yields every accepted stream exactly once, in order,
and uses no invalid iterator. -/
theorem yieldsInOrder_of_reachableVia {state : State Stream}
    (reached : (system Stream).ReachableVia KeepsIterator state) : state.YieldsInOrder :=
  (invariant_of_reachableVia reached).yieldsInOrder

/-- Two connections arrive one after the other, the second while the generator is suspended at
`co_yield`, and the consumer obtains both. -/
theorem yieldsInOrder_two_connections :
    (([.follow (.coAwait 1), .onNewConnection 0 0 7 8, .follow .resumeNext,
        .onNewConnection 0 0 8 8, .follow .resumeNext, .follow (.coAwait 1)] :
      List (Action ℕ)).foldl Action.perform
        (({ promise := .initial 0 } : State ℕ).listen 0 4 0)).YieldsInOrder := by
  have start : (system ℕ).ReachableVia KeepsIterator
      (({ promise := .initial 0 } : State ℕ).listen 0 4 0) := .start ⟨0, 4, 0, rfl⟩
  have awaited := start.step (Action.follow (.coAwait 1)) ⟨⟨by decide, rfl,
    (invariant_of_reachableVia start).promise.nobody_awaits rfl rfl⟩, trivial⟩ trivial
  have first := awaited.step (Action.onNewConnection 0 0 7 8) trivial trivial
  have yielded := first.step (Action.follow .resumeNext) ⟨trivial, trivial⟩ trivial
  have second := yielded.step (Action.onNewConnection 0 0 8 8) trivial
    (fun full => absurd full (by decide))
  have obtained := second.step (Action.follow .resumeNext) ⟨trivial, trivial⟩ trivial
  exact yieldsInOrder_of_reachableVia (obtained.step (Action.follow (.coAwait 1)) ⟨⟨by decide, rfl,
    (invariant_of_reachableVia obtained).promise.nobody_awaits rfl rfl⟩, trivial⟩ trivial)

/-- Four connections fill `accepted_`, a fifth one arrives while the generator is suspended at
`co_yield`, and the next `co_await` makes it use an invalid iterator. -/
theorem iterator_used_after_reallocation :
    ¬∀ state : State ℕ, (system ℕ).Reachable state → state.YieldsInOrder := by
  intro always
  have start : (system ℕ).ReachableVia KeepsIterator
      (({ promise := .initial 0 } : State ℕ).listen 0 4 0) := .start ⟨0, 4, 0, rfl⟩
  have awaited := start.step (Action.follow (.coAwait 1)) ⟨⟨by decide, rfl,
    (invariant_of_reachableVia start).promise.nobody_awaits rfl rfl⟩, trivial⟩ trivial
  have first := awaited.step (Action.onNewConnection 0 0 11 8) trivial trivial
  have second := first.step (Action.onNewConnection 0 0 12 8) trivial trivial
  have third := second.step (Action.onNewConnection 0 0 13 8) trivial trivial
  have fourth := third.step (Action.onNewConnection 0 0 14 8) trivial trivial
  have yielded := fourth.step (Action.follow .resumeNext) ⟨trivial, trivial⟩ trivial
  have obtained := yielded.step (Action.follow .resumeNext) ⟨trivial, trivial⟩ trivial
  have nobody := (invariant_of_reachableVia obtained).promise.nobody_awaits rfl rfl
  have fifth := obtained.reachable.step (Action.onNewConnection 0 0 15 8) trivial trivial
  have resumed := fifth.step (Action.follow (.coAwait 1)) ⟨⟨by decide, rfl, nobody⟩, trivial⟩
    trivial
  exact absurd (always _ resumed).never_invalid (by decide)

end State

end Uvco.StreamServer
