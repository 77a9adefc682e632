import Uvco.StreamServer.Yields

/-!
# Errors in `listen()`

A call of `listen()` that meets an error throws. The comment in the source says that
the next call processes the connections behind the error, but they were collected by
the awaiter of the call that has ended, and were destroyed with it. So nothing is
lost only if no stream stands behind the error when the generator reaches it.
-/

namespace Uvco.StreamServer

variable {Stream : Type}

namespace State

/-- Every accepted stream is yielded, by the call that accepted it or by the next one. -/
structure LosesNothing (state : State Stream) : Prop where
  /-- The streams accepted before the error have been yielded when it is thrown. -/
  before : ∀ status, state.promise.ended = some (.threw (acceptError status)) →
    ∃ rest, state.collected = state.promise.yielded.map .stream ++ .error status :: rest
  /-- The next call has yielded or has yet to visit whatever earlier calls have not yielded. -/
  next : state.promise.ended = none →
    state.earlierYielded ++ state.promise.yielded ++ streams state.remaining =
      streams (state.earlierCollected ++ state.collected)

/-- When the generator reaches an error, no accepted stream stands behind it. -/
def NothingBehindError (state : State Stream) : Action Stream → Prop
  | .follow action => state.promise.Resumed (action.perform state.promise) →
      match state.remaining with
      | .error _ :: rest => streams rest = []
      | .stream _ :: _ | [] => True
  | .listen .. | .onNewConnection .. => True

/-- The step invalidates no iterator in use, and leaves no stream behind an error. -/
def KeepsStreams (state : State Stream) (action : Action Stream) : Prop :=
  state.KeepsIterator action ∧ state.NothingBehindError action

/-- Ended calls have yielded all streams that were accepted for them. -/
structure Complete (state : State Stream) : Prop where
  earlier : state.earlierYielded = streams state.earlierCollected
  ended : state.promise.ended ≠ none → state.promise.yielded = streams state.collected

theorem Invariant.accounted {state : State Stream} (invariant : state.Invariant)
    (open_ : state.promise.ended = none) :
    state.collected = state.promise.yielded.map .stream ++ state.remaining := by
  cases invariant.stage with
  | awaiting awaiter data_eq position_eq _ _ accounted =>
      simp only [remaining, data_eq, position_eq]
      exact accounted
  | yielding awaiter iterator data_eq position_eq _ _ _ _ accounted =>
      simp only [remaining, data_eq, position_eq]
      exact accounted
  | failed _ _ ended_eq | threw _ _ _ ended_eq => simp [open_] at ended_eq

/-- The loop yields no more when it ends the generator. -/
theorem visit_keeps {state : State Stream} (promise : state.promise.Invariant)
    (running : state.promise.runtime.status state.promise.generator = .running)
    (iterator : StdVector.Iterator) :
    (state.visit iterator).collected = state.collected ∧
      (state.visit iterator).earlierCollected = state.earlierCollected ∧
      (state.visit iterator).earlierYielded = state.earlierYielded ∧
      ((state.visit iterator).promise.ended ≠ none →
        (state.visit iterator).promise.yielded = state.promise.yielded) := by
  have open_ := promise.open_of_not_done (by simp [running])
  unfold State.visit
  rcases state.data with _ | awaiter
  · exact ⟨rfl, rfl, rfl, fun _ => rfl⟩
  · dsimp only
    split
    · rcases awaiter.accepted.entries[iterator.index]? with _ | _ | stream
      · exact ⟨rfl, rfl, rfl, fun _ => rfl⟩
      · exact ⟨rfl, rfl, rfl, fun _ => (promise.finish_spec _ running).2.2.1⟩
      · refine ⟨rfl, rfl, rfl, fun ended => ?_⟩
        exact absurd (promise.yield_spec stream running).2.2.2.1 ended
    · exact ⟨rfl, rfl, rfl, fun _ => rfl⟩

theorem proceed_keeps {state : State Stream} (promise : state.promise.Invariant)
    (running : state.promise.runtime.status state.promise.generator = .running) :
    state.proceed.collected = state.collected ∧
      state.proceed.earlierCollected = state.earlierCollected ∧
      state.proceed.earlierYielded = state.earlierYielded ∧
      (state.proceed.promise.ended ≠ none →
        state.proceed.promise.yielded = state.promise.yielded) := by
  unfold proceed
  rcases state.position with _ | iterator
  · rcases data_eq : state.data with _ | awaiter
    · exact ⟨rfl, rfl, rfl, fun _ => rfl⟩
    · exact visit_keeps promise running _
  · exact visit_keeps promise running _

namespace Complete

variable {state : State Stream}

theorem follow (complete : state.Complete) (invariant : state.Invariant)
    {action : MultiPromise.Action Stream UvcoException}
    (enabled : (Action.follow action).Enabled state)
    (allowed : state.NothingBehindError (.follow action)) : (state.follow action).Complete := by
  have after_invariant := invariant.follow enabled
  rcases enabled with ⟨enabled, is_foreign⟩
  have promise := invariant.promise.step enabled
  have foreign := invariant.promise.foreign enabled is_foreign
  unfold State.follow at after_invariant ⊢
  dsimp only at after_invariant ⊢
  split at after_invariant
  · rename_i resumed
    rw [if_pos resumed]
    have running := resumed.2
    rw [← foreign.generator_eq] at running
    have was_open : state.promise.ended = none := by
      refine invariant.promise.open_of_not_done fun done => ?_
      have suspended := foreign.was_suspended resumed
      simp [done, Status.isSuspended] at suspended
    rcases proceed_keeps (show ({ state with promise := action.perform state.promise } :
        State Stream).promise.Invariant from promise) running with
      ⟨collected_eq, earlierCollected_eq, earlierYielded_eq, yielded_eq⟩
    constructor
    · rw [earlierCollected_eq, earlierYielded_eq]
      exact complete.earlier
    · intro ended
      have after_yielded := (yielded_eq ended).trans foreign.yielded_eq
      cases after_invariant.stage with
      | awaiting _ _ _ status | yielding _ _ _ _ status =>
          exact absurd (after_invariant.promise.open_of_not_done (by simp [status])) ended
      | failed _ _ _ nothing =>
          rw [nothing.1, nothing.2]
          rfl
      | threw status rest _ _ accounted =>
          -- The error was the next entry, so the rest stood behind it.
          have remaining_eq : state.remaining = .error status :: rest := by
            rw [collected_eq, after_yielded] at accounted
            exact List.append_cancel_left ((invariant.accounted was_open).symm.trans accounted)
          have behind := allowed resumed
          simp only [remaining_eq] at behind
          rw [accounted, streams_append, streams_map]
          change _ = _ ++ streams rest
          rw [behind, List.append_nil]
  · rename_i not_resumed
    rw [if_neg not_resumed]
    refine ⟨complete.earlier, fun ended => ?_⟩
    dsimp only at ended ⊢
    rw [foreign.ended_eq] at ended
    rw [foreign.yielded_eq]
    exact complete.ended ended

theorem onNewConnection (complete : state.Complete) (invariant : state.Invariant)
    (status acceptStatus : Int) (client : Stream) (grown : ℕ) :
    (state.onNewConnection status acceptStatus client grown).Complete := by
  unfold State.onNewConnection
  rcases data_eq : state.data with _ | awaiter
  · exact complete
  · have open_ : state.promise.ended = none := by
      cases invariant.stage with
      | awaiting _ _ _ status | yielding _ _ _ _ status =>
          exact invariant.promise.open_of_not_done (by simp [status])
      | failed _ no_data | threw _ _ no_data => simp [data_eq] at no_data
    dsimp only
    split
    · exact ⟨complete.earlier, fun ended => absurd open_ ended⟩
    · exact ⟨complete.earlier, fun ended => absurd open_ ended⟩

/-- `listen()` is called while nothing that was accepted for ended calls is missing. -/
theorem listen (generator : Handle) (capacity : ℕ) (status : Int)
    (earlier : state.earlierYielded ++ state.promise.yielded =
      streams (state.earlierCollected ++ state.collected)) :
    (state.listen generator capacity status).Complete := by
  unfold State.listen
  dsimp only
  split
  · refine ⟨earlier, fun ended => ?_⟩
    exact absurd rfl ended
  · exact ⟨earlier, fun _ => rfl⟩

theorem step (complete : state.Complete) (invariant : state.Invariant) {action : Action Stream}
    (enabled : action.Enabled state) (allowed : state.NothingBehindError action) :
    (action.perform state).Complete := by
  cases action with
  | listen generator capacity status =>
      refine listen generator capacity status ?_
      have ended : state.promise.ended ≠ none := Option.isSome_iff_ne_none.mp enabled.1
      rw [streams_append, complete.earlier, complete.ended ended]
  | onNewConnection status acceptStatus client grown =>
      exact complete.onNewConnection invariant status acceptStatus client grown
  | follow action => exact complete.follow invariant enabled allowed

end Complete

theorem complete_of_reachableVia {state : State Stream}
    (reached : (system Stream).ReachableVia KeepsStreams state) :
    state.Invariant ∧ state.Complete := by
  refine reached.invariant (fun state => state.Invariant ∧ state.Complete) ?_ ?_
  · intro state initial
    refine ⟨Invariant.initially initial, ?_⟩
    rcases initial with ⟨generator, capacity, status, rfl⟩
    exact Complete.listen generator capacity status rfl
  · intro state action holds enabled allowed
    exact ⟨holds.1.step enabled allowed.1, holds.2.step holds.1 enabled allowed.2⟩

/-- As long as the iterator is kept and no stream stands behind an error that the generator
reaches, no accepted stream is lost. -/
theorem losesNothing_of_reachableVia {state : State Stream}
    (reached : (system Stream).ReachableVia KeepsStreams state) : state.LosesNothing := by
  rcases complete_of_reachableVia reached with ⟨invariant, complete⟩
  have yields := invariant.yieldsInOrder
  constructor
  · intro status ended_eq
    rcases yields.ends_by_error _ ended_eq with
      ⟨failure, ending_eq, -⟩ | ⟨found, rest, ending_eq, accounted⟩
    · simp [acceptError, listenError] at ending_eq
    · obtain rfl : status = found := by simpa [acceptError] using ending_eq
      exact ⟨rest, accounted⟩
  · intro open_
    rw [streams_append, List.append_assoc, yields.complete open_, complete.earlier]

/-- A stream is accepted before an error; after the error `listen()` is called again and collects
another stream. -/
theorem losesNothing_error_last :
    (([.follow (.coAwait 1), .onNewConnection 0 0 7 8, .onNewConnection (-24) 0 0 8,
        .follow .resumeNext, .follow .resumeNext, .follow (.coAwait 1), .follow .resumeNext,
        .listen 2 4 0, .onNewConnection 0 0 8 8] : List (Action ℕ)).foldl Action.perform
      (({ promise := .initial 0 } : State ℕ).listen 0 4 0)).LosesNothing := by
  have start : (system ℕ).ReachableVia KeepsStreams
      (({ promise := .initial 0 } : State ℕ).listen 0 4 0) := .start ⟨0, 4, 0, rfl⟩
  have awaited := start.step (Action.follow (.coAwait 1)) ⟨⟨by decide, rfl,
    (complete_of_reachableVia start).1.promise.nobody_awaits rfl rfl⟩, trivial⟩
    ⟨trivial, fun _ => trivial⟩
  have accepted := awaited.step (Action.onNewConnection 0 0 7 8) trivial ⟨trivial, trivial⟩
  have failed := accepted.step (Action.onNewConnection (-24) 0 0 8) trivial ⟨trivial, trivial⟩
  have yielded := failed.step (Action.follow .resumeNext) ⟨trivial, trivial⟩
    ⟨trivial, fun _ => trivial⟩
  have obtained := yielded.step (Action.follow .resumeNext) ⟨trivial, trivial⟩
    ⟨trivial, fun _ => rfl⟩
  have threw := obtained.step (Action.follow (.coAwait 1)) ⟨⟨by decide, rfl,
    (complete_of_reachableVia obtained).1.promise.nobody_awaits rfl rfl⟩, trivial⟩
    ⟨trivial, fun _ => rfl⟩
  have handled := threw.step (Action.follow .resumeNext) ⟨trivial, trivial⟩
    ⟨trivial, fun _ => trivial⟩
  have called := handled.step (Action.listen 2 4 0) ⟨rfl, rfl,
    (complete_of_reachableVia handled).1.promise.nobody_awaits rfl rfl⟩ ⟨trivial, trivial⟩
  exact losesNothing_of_reachableVia
    (called.step (Action.onNewConnection 0 0 8 8) trivial ⟨trivial, trivial⟩)

/-- An error and behind it a stream are collected before the generator runs: the generator throws,
and the next call of `listen()` does not have the stream. -/
theorem stream_behind_error_is_lost :
    ¬∀ state : State ℕ, (system ℕ).Reachable state → state.LosesNothing := by
  intro always
  have start : (system ℕ).ReachableVia KeepsIterator
      (({ promise := .initial 0 } : State ℕ).listen 0 4 0) := .start ⟨0, 4, 0, rfl⟩
  have failed := start.step (Action.onNewConnection (-24) 0 0 8) trivial trivial
  have accepted := failed.step (Action.onNewConnection 0 0 7 8) trivial trivial
  have threw := accepted.step (Action.follow .resumeNext) ⟨trivial, trivial⟩ trivial
  have called := threw.step (Action.listen 2 4 0) ⟨rfl, rfl,
    (invariant_of_reachableVia threw).promise.nobody_awaits rfl rfl⟩ trivial
  exact absurd ((always _ called.reachable).next rfl) (by decide)

end State

end Uvco.StreamServer
