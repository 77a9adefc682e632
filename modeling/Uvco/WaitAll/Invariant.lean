import Mathlib.Data.List.Basic
import Uvco.WaitAll.Call

/-!
# What holds while `waitAll` evaluates its operands

Between two operands nobody is suspended at a point of the model. While an operand is
evaluated, its helper and `waitAll` are each in one of a few positions (`HelperAt`,
`WaiterAt`), which the slot of the helper's promise links. This file evaluates operands
from one position to the next.
-/

namespace Uvco.WaitAll

variable {T E : Type}

/-! ## Awaiting an argument -/

section

variable {member : Member T E}

theorem awaitObtained_resolve (valid : member.Valid) (loop : Loop) (outcome : Outcome T E)
    (unresolved : member.state ≠ .finished) :
    (member.resolve loop outcome).1.awaitReady = true ∧
      awaitObtained (member.resolve loop outcome).1 = replaceVoid member outcome := by
  have not_ready := valid.unresolved unresolved
  have ready_eq := valid.ready_eq
  rcases valid.resolve loop outcome unresolved with ⟨-, resolved_valid, -, -, ready⟩
  refine ⟨by rw [← resolved_valid.ready_eq, ready], ?_⟩
  cases member with
  | typed core =>
      have empty : core.slot = none := by simpa [Member.ready, PromiseCore.ready] using not_ready
      rw [Member.resolve_typed core loop outcome empty]
      cases outcome <;>
        simp [awaitObtained, PromiseAwaiter.awaitResume, PromiseCore.stale, PromiseCore.ready,
          replaceVoid]
  | void core =>
      simp only [Member.ready] at not_ready
      have no_exception : core.exception = none := by
        simpa [Member.ready, Member.awaitReady, VoidAwaiter.awaitReady, not_ready] using ready_eq
      cases outcome <;> cases waiting : core.waitingHandle <;>
        simp [Member.resolve, VoidCoroutine.returnVoid, VoidCoroutine.unhandledException,
          VoidCore.except, VoidCore.resume, waiting, awaitObtained, VoidAwaiter.awaitResume,
          VoidCore.stale, VoidCore.ready, no_exception, replaceVoid]

theorem outcomeOf_resolve (valid : member.Valid) (loop : Loop) (outcome : Outcome T E)
    (unresolved : member.state ≠ .finished) :
    outcomeOf (member.resolve loop outcome).1 = some (replaceVoid member outcome) := by
  rcases valid.resolve loop outcome unresolved with ⟨-, -, -, finished, -⟩
  rcases awaitObtained_resolve valid loop outcome unresolved with ⟨ready, obtained⟩
  rw [outcomeOf, if_pos finished, if_pos ready, obtained]

end

/-! ## The invariant -/

namespace State

/-- What no step changes, and what the ghost data mean. -/
structure Base (state : State T E) : Prop where
  consistent : state.runtime.Consistent
  helper_injective : Function.Injective state.helper
  helper_ne_waiter : ∀ index, state.helper index ≠ state.waiter
  order_perm : state.order.Perm (List.range state.members.length)
  valid : ∀ member ∈ state.members, member.Valid
  ended_iff : ∀ index member, state.members[index]? = some member →
    ((state.outcomes index).isSome = true ↔ member.state = .finished)
  taken_outcome : ∀ entry ∈ state.taken, state.outcomes entry.1 = some (.returned entry.2)

/-- Nobody is suspended at a point of the model, or awaits an argument. -/
structure Quiet (state : State T E) : Prop where
  nobody : ∀ handle point, state.runtime.status handle ≠ .waiting point
  unawaited : ∀ member ∈ state.members, member.state ≠ .waitedOn

/-- The helpers of these operands were not started. -/
def Untouched (state : State T E) (rest : List ℕ) : Prop :=
  ∀ index ∈ rest, state.runtime.status (state.helper index) = .running ∧
    ∀ member, state.members[index]? = some member → state.outcomes index = outcomeOf member

/-- `waitAll` runs, and is about to evaluate these operands. -/
structure Between (state : State T E) (rest : List ℕ) : Prop where
  base : state.Base
  quiet : state.Quiet
  running : state.runtime.status state.waiter = .running
  order_eq : state.order = state.taken.map Prod.fst ++ rest
  untouched : state.Untouched rest

/-- The helper of the operand that is being evaluated. -/
inductive HelperAt (state : State T E) (index : ℕ) (member : Member T E) : Prop where
  | waits (waiting : state.runtime.status (state.helper index) = .waiting .operand)
      (waited : member.state = .waitedOn)
      (registered : member.waitingHandle = some (state.helper index))
      (not_queued : state.runtime.pending (state.helper index) = 0)
      (empty : state.helperCore.slot = none)
  | woken (waiting : state.runtime.status (state.helper index) = .waiting .operand)
      (finished : member.state = .finished)
      (outcome : state.outcomes index = some (awaitObtained member))
      (queued : state.runtime.pending (state.helper index) = 1)
      (empty : state.helperCore.slot = none)
  | ended (obtained : Obtained (Option T) E)
      (done : state.runtime.status (state.helper index) = .done)
      (finished : member.state = .finished) (outcome : state.outcomes index = some obtained)
      (filled : state.helperCore.slot = some (helperOutcome obtained))

/-- `waitAll`, while an operand is evaluated. -/
inductive WaiterAt (state : State T E) : Prop where
  | calling (running : state.runtime.status state.waiter = .running)
      (core_eq : state.helperCore.state = .init)
      (nobody : state.helperCore.waitingHandle = none) (empty : state.helperCore.slot = none)
  | waits (waiting : state.runtime.status state.waiter = .waiting .expression)
      (registered : state.helperCore.waitingHandle = some state.waiter)
      (not_queued : state.runtime.pending state.waiter = 0) (empty : state.helperCore.slot = none)
  | behind (running : state.runtime.status state.waiter = .running)
      (filled : state.helperCore.slot.isSome = true)
  | woken (waiting : state.runtime.status state.waiter = .waiting .expression)
      (queued : state.runtime.pending state.waiter = 1)
      (filled : state.helperCore.slot.isSome = true)

/-- How far the call has got, and who waits for whom. -/
inductive Progress (state : State T E) : Prop where
  | idle (phase_eq : state.phase = .idle) (between : state.Between state.order)
  | evaluating (index : ℕ) (rest : List ℕ) (member : Member T E)
      (phase_eq : state.phase = .evaluating index rest)
      (order_eq : state.order = state.taken.map Prod.fst ++ index :: rest)
      (at_index : state.members[index]? = some member)
      (helper_at : state.HelperAt index member) (waiter_at : state.WaiterAt)
      (operand_only : ∀ handle, state.runtime.status handle = .waiting .operand →
        handle = state.helper index)
      (expression_only : ∀ handle, state.runtime.status handle = .waiting .expression →
        handle = state.waiter)
      (waited_only : ∀ other member, state.members[other]? = some member →
        member.state = .waitedOn → other = index)
      (untouched : state.Untouched rest)
  | ended (report : Report T E) (phase_eq : state.phase = .ended report) (quiet : state.Quiet)
      (expected_eq : state.expectedReport = some report)

/-- What holds of a call in every reachable state. -/
structure Invariant (state : State T E) : Prop where
  base : state.Base
  progress : state.Progress

/-! ## Steps -/

variable {state : State T E} {index : ℕ} {rest : List ℕ} {member after : Member T E}

theorem endHelper_eq (obtained : Obtained (Option T) E) (empty : state.helperCore.slot = none) :
    state.endHelper index member obtained = { state with
      members := state.members.set index member
      helperCore := { state.helperCore with
        slot := some (helperOutcome obtained)
        waitingHandle := none
        state := .finished }
      runtime := (match state.helperCore.waitingHandle with
        | some waiting => state.runtime.enqueue waiting
        | none => state.runtime).setStatus (state.helper index) .done } := by
  cases obtained <;> cases waiting : state.helperCore.waitingHandle <;>
    simp [endHelper, helperOutcome, Coroutine.complete, Coroutine.returnValue,
      Coroutine.unhandledException, PromiseCore.except, PromiseCore.resume, empty, waiting,
      Runtime.enqueue]

/-- A step that changes one argument, and does not end its coroutine. -/
theorem Base.setMember (base : state.Base) (at_index : state.members[index]? = some member)
    (after_valid : after.Valid) (same_end : after.state = .finished ↔ member.state = .finished)
    {runtime : Runtime Point} (consistent : runtime.Consistent) :
    ({ state with members := state.members.set index after, runtime } : State T E).Base := by
  refine ⟨consistent, base.helper_injective, base.helper_ne_waiter, ?_, ?_, ?_,
    base.taken_outcome⟩
  · simpa using base.order_perm
  · intro other other_mem
    rcases List.mem_or_eq_of_mem_set other_mem with before | rfl
    · exact base.valid other before
    · exact after_valid
  · intro other found other_at
    rw [List.getElem?_set] at other_at
    split at other_at
    · rename_i same
      subst same
      split at other_at
      · cases other_at
        rw [same_end]
        exact base.ended_iff index member at_index
      · cases other_at
    · exact base.ended_iff other found other_at

theorem Between.member_at (between : state.Between (index :: rest)) :
    ∃ member, state.members[index]? = some member ∧ member.Valid ∧ member.state ≠ .waitedOn := by
  have index_mem : index ∈ state.order := by
    rw [between.order_eq]
    simp
  have bound : index < state.members.length := by
    simpa using between.base.order_perm.mem_iff.mp index_mem
  have found : state.members[index]? = some state.members[index] := List.getElem?_eq_getElem bound
  have mem : state.members[index] ∈ state.members := List.getElem_mem bound
  exact ⟨_, found, between.base.valid _ mem, between.quiet.unawaited _ mem⟩

/-- The helper suspends if the coroutine of the argument has not ended, and ends otherwise. -/
theorem Between.startHelper_cases (between : state.Between (index :: rest)) :
    ∃ member, state.members[index]? = some member ∧
      ((member.state ≠ .finished ∧ ∃ registered : Member T E, registered.Valid ∧
          registered.state = .waitedOn ∧
          registered.waitingHandle = some (state.helper index) ∧
          state.startHelper index = { state with
            helperCore := { coroutine := some (state.helper index) }
            members := state.members.set index registered
            runtime := state.runtime.setStatus (state.helper index) (.waiting .operand) }) ∨
        (member.state = .finished ∧ ∃ (obtained : Obtained (Option T) E) (taken : Member T E),
          state.outcomes index = some obtained ∧ taken.Valid ∧ taken.state = .finished ∧
          state.startHelper index = { state with
            helperCore := {
              coroutine := some (state.helper index)
              slot := some (helperOutcome obtained)
              state := .finished }
            members := state.members.set index taken
            runtime := state.runtime.setStatus (state.helper index) .done })) := by
  rcases between.member_at with ⟨member, at_index, valid, not_waited⟩
  refine ⟨member, at_index, ?_⟩
  have outcome_eq := (between.untouched index List.mem_cons_self).2 member at_index
  by_cases finished : member.state = .finished
  · right
    refine ⟨finished, ?_⟩
    rw [outcomeOf, if_pos finished] at outcome_eq
    by_cases ready : member.awaitReady = true
    · rw [if_pos ready] at outcome_eq
      rcases valid.awaitResume finished with ⟨resumed_valid, -, resumed_finished⟩
      refine ⟨_, member.awaitResume, outcome_eq, resumed_valid, resumed_finished, ?_⟩
      simp only [startHelper, at_index, ready, if_true]
      rw [endHelper_eq _ rfl]
      rfl
    · rw [if_neg ready] at outcome_eq
      refine ⟨_, member, outcome_eq, valid, finished, ?_⟩
      have refused : member.awaitSuspend (state.helper index) = .error alreadyAwaited := by
        rw [Member.awaitSuspend_eq_setHandle]
        exact Member.setHandle_of_not_init _ (by simp [finished])
      simp only [startHelper, at_index, ready, refused]
      rw [if_neg (by simp), endHelper_eq _ rfl]
      rfl
  · left
    refine ⟨finished, ?_⟩
    have is_init : member.state = .init := by
      cases state_eq : member.state <;> simp_all
    have not_ready : member.awaitReady = false := by
      rw [← valid.ready_eq]
      exact valid.unresolved finished
    rcases valid.setHandle (state.helper index) is_init with
      ⟨registered, set_eq, registered_valid, registered_handle, waited⟩
    refine ⟨registered, registered_valid, waited, registered_handle, ?_⟩
    simp only [startHelper, at_index, not_ready, Member.awaitSuspend_eq_setHandle, set_eq]
    rfl

theorem Base.withPhase (base : state.Base) (helperCore : PromiseCore (Option T) (Exception E))
    (phase : Phase T E) : ({ state with helperCore, phase } : State T E).Base :=
  ⟨base.consistent, base.helper_injective, base.helper_ne_waiter, base.order_perm, base.valid,
    base.ended_iff, base.taken_outcome⟩

theorem expected_append {count : ℕ} {outcomes : ℕ → Option (Obtained (Option T) E)}
    {taken : List (ℕ × Option T)}
    (returned : ∀ entry ∈ taken, outcomes entry.1 = some (.returned entry.2)) (rest : List ℕ) :
    expected count outcomes (taken.map Prod.fst ++ rest) = expected count outcomes rest := by
  induction taken with
  | nil => rfl
  | cons entry taken ih =>
      have first := returned entry List.mem_cons_self
      have later := ih fun entry mem => returned entry (List.mem_cons_of_mem _ mem)
      simp only [List.map_cons, List.cons_append, expected, first, later]

theorem makeTuple_eq (base : state.Base) (all_taken : state.order = state.taken.map Prod.fst) :
    expected state.members.length state.outcomes [] = some (.returned state.makeTuple) := by
  rw [expected, makeTuple, Option.some.injEq, Report.returned.injEq]
  apply List.filterMap_congr
  intro index index_mem
  have in_taken : index ∈ state.taken.map Prod.fst := by
    rw [← all_taken]
    exact base.order_perm.mem_iff.mpr index_mem
  rcases List.mem_map.mp in_taken with ⟨entry, entry_mem, rfl⟩
  cases found : state.taken.lookup entry.1 with
  | none =>
      have missing := List.lookup_eq_none_iff.mp found entry entry_mem
      simp at missing
  | some value =>
      rcases List.lookup_eq_some_iff.mp found with ⟨front, back, split, -⟩
      have value_mem : (entry.1, value) ∈ state.taken := by
        rw [split]
        simp
      rw [base.taken_outcome _ value_mem, returnedValue]

theorem Quiet.finish (quiet : state.Quiet) (report : Report T E) : (state.finish report).Quiet := by
  refine ⟨fun handle point => ?_, quiet.unawaited⟩
  by_cases same : handle = state.waiter
  · simp [State.finish, same]
  · change (state.runtime.setStatus state.waiter .done).status handle ≠ _
    rw [Runtime.setStatus_status_of_ne _ same]
    exact quiet.nobody handle point

/-- `waitAll` ends with what the outcomes determine. -/
theorem Base.finish (base : state.Base) (quiet : state.Quiet)
    (running : state.runtime.status state.waiter = .running) {report : Report T E}
    (expected_eq : state.expectedReport = some report) : (state.finish report).Invariant := by
  have not_queued := base.consistent.pending_of_running running
  refine ⟨?_, .ended report rfl (quiet.finish report) expected_eq⟩
  exact ⟨base.consistent.setStatus .done not_queued, base.helper_injective, base.helper_ne_waiter,
    base.order_perm, base.valid, base.ended_iff, base.taken_outcome⟩

theorem Between.not_mem (between : state.Between (index :: rest)) :
    index ∉ rest := by
  have once : state.order.Nodup := between.base.order_perm.nodup_iff.mpr List.nodup_range
  rw [between.order_eq] at once
  exact (List.nodup_cons.mp (List.nodup_append.mp once).2.1).1

/-- What the helper of one operand does leaves the others untouched. -/
theorem Between.untouched_rest (between : state.Between (index :: rest)) (after : Member T E)
    (status : Status Point) (helperCore : PromiseCore (Option T) (Exception E))
    (phase : Phase T E) :
    ({ state with
      helperCore
      phase
      members := state.members.set index after
      runtime := state.runtime.setStatus (state.helper index) status } :
        State T E).Untouched rest := by
  intro other other_mem
  have differs : other ≠ index := ne_of_mem_of_not_mem other_mem between.not_mem
  rcases between.untouched other (List.mem_cons_of_mem _ other_mem) with ⟨running, outcome_eq⟩
  have other_helper : state.helper other ≠ state.helper index := fun same =>
    differs (between.base.helper_injective same)
  refine ⟨(Runtime.setStatus_status_of_ne _ other_helper).trans running, ?_⟩
  intro member found
  rw [List.getElem?_set_ne differs.symm] at found
  exact outcome_eq member found

theorem Between.evaluate (between : state.Between rest) : (state.evaluate rest).Invariant := by
  cases rest with
  | nil =>
      have all_taken : state.order = state.taken.map Prod.fst := by
        simpa using between.order_eq
      apply between.base.finish between.quiet between.running
      rw [expectedReport, all_taken, ← List.append_nil (state.taken.map Prod.fst),
        expected_append between.base.taken_outcome]
      exact makeTuple_eq between.base all_taken
  | cons index rest =>
      have helper_running := (between.untouched index List.mem_cons_self).1
      have helper_unqueued := between.base.consistent.pending_of_running helper_running
      have waiter_running : ∀ status, (state.runtime.setStatus (state.helper index) status).status
          state.waiter = .running := by
        intro status
        rw [Runtime.setStatus_status_of_ne _ (between.base.helper_ne_waiter index).symm]
        exact between.running
      have bound : ∀ {member : Member T E}, state.members[index]? = some member →
          index < state.members.length := fun found => (List.getElem?_eq_some_iff.mp found).1
      have only : ∀ status handle point, (state.runtime.setStatus (state.helper index)
          status).status handle = .waiting point → handle = state.helper index ∧
            status = .waiting point := by
        intro status handle point waiting
        by_cases same : handle = state.helper index
        · subst same
          simpa using waiting
        · rw [Runtime.setStatus_status_of_ne _ same] at waiting
          exact absurd waiting (between.quiet.nobody handle point)
      have waited_only : ∀ (after : Member T E) (other : ℕ) (member : Member T E),
          (state.members.set index after)[other]? = some member → member.state = .waitedOn →
            other = index := by
        intro after other member found waited
        by_contra differs
        rw [List.getElem?_set_ne (Ne.symm differs)] at found
        exact between.quiet.unawaited member (List.mem_of_getElem? found) waited
      rcases between.startHelper_cases with ⟨member, at_index, ⟨unfinished, registered,
        registered_valid, waited, registered_handle, started⟩ |
        ⟨finished, obtained, taken, outcome, taken_valid, taken_finished, started⟩⟩
      · rw [State.evaluate, started]
        have base := between.base.setMember at_index registered_valid
          (by simp [waited, unfinished])
          (between.base.consistent.setStatus (.waiting .operand) helper_unqueued)
        refine ⟨base.withPhase _ _, ?_⟩
        refine .evaluating index rest registered rfl between.order_eq
          (List.getElem?_set_self (bound at_index)) ?_ ?_ ?_ ?_ (waited_only registered)
          (between.untouched_rest registered _ _ _)
        · exact .waits (Runtime.setStatus_status_self _) waited registered_handle
            helper_unqueued rfl
        · exact .calling (waiter_running _) rfl rfl rfl
        · exact fun handle waiting => (only _ handle _ waiting).1
        · intro handle waiting
          have := (only _ handle _ waiting).2
          simp at this
      · rw [State.evaluate, started]
        have base := between.base.setMember at_index taken_valid
          (by simp [finished, taken_finished])
          (between.base.consistent.setStatus .done helper_unqueued)
        refine ⟨base.withPhase _ _, ?_⟩
        refine .evaluating index rest taken rfl between.order_eq
          (List.getElem?_set_self (bound at_index)) ?_ ?_ ?_ ?_ (waited_only taken)
          (between.untouched_rest taken _ _ _)
        · exact .ended obtained (Runtime.setStatus_status_self _) taken_finished outcome rfl
        · exact .behind (waiter_running _) rfl
        · exact fun handle waiting => (only _ handle _ waiting).1
        · intro handle waiting
          have := (only _ handle _ waiting).2
          simp at this

/-- The helper of an operand has ended, and `waitAll` runs. -/
structure Finished (state : State T E) (index : ℕ) (rest : List ℕ)
    (obtained : Obtained (Option T) E) : Prop where
  base : state.Base
  quiet : state.Quiet
  running : state.runtime.status state.waiter = .running
  order_eq : state.order = state.taken.map Prod.fst ++ index :: rest
  untouched : state.Untouched rest
  outcome : state.outcomes index = some obtained
  filled : state.helperCore.slot = some (helperOutcome obtained)

theorem Finished.expectedReport_eq {obtained : Obtained (Option T) E}
    (finished : state.Finished index rest obtained) :
    state.expectedReport = expected state.members.length state.outcomes (index :: rest) := by
  rw [expectedReport, finished.order_eq, expected_append finished.base.taken_outcome]

theorem Finished.finishOperand {obtained : Obtained (Option T) E}
    (finished : state.Finished index rest obtained) :
    (state.finishOperand index rest).Invariant := by
  have not_stale : state.helperCore.stale = false := by
    simp [PromiseCore.stale, PromiseCore.ready, finished.filled]
  have expected_eq := finished.expectedReport_eq
  simp only [expected, finished.outcome] at expected_eq
  cases obtained with
  | returned value =>
      have unfolded : state.finishOperand index rest = ({ state with
          helperCore := { state.helperCore with slot := none }
          taken := state.taken ++ [(index, value)] } : State T E).evaluate rest := by
        simp [State.finishOperand, PromiseAwaiter.awaitResume, not_stale, finished.filled,
          helperOutcome]
      rw [unfolded]
      apply Between.evaluate
      refine ⟨⟨finished.base.consistent, finished.base.helper_injective,
        finished.base.helper_ne_waiter, finished.base.order_perm, finished.base.valid,
        finished.base.ended_iff, ?_⟩, ⟨finished.quiet.nobody, finished.quiet.unawaited⟩,
        finished.running, ?_, finished.untouched⟩
      · intro entry entry_mem
        rcases List.mem_append.mp entry_mem with before | new
        · exact finished.base.taken_outcome entry before
        · rw [List.mem_singleton.mp new]
          exact finished.outcome
      · rw [finished.order_eq]
        simp
  | rethrown exception =>
      have unfolded : state.finishOperand index rest = ({ state with
          helperCore := { state.helperCore with slot := none } } : State T E).finish
            (.threw (.inl exception)) := by
        simp [State.finishOperand, PromiseAwaiter.awaitResume, not_stale, finished.filled,
          helperOutcome]
      rw [unfolded]
      have base := finished.base.withPhase { state.helperCore with slot := none } state.phase
      exact base.finish ⟨finished.quiet.nobody, finished.quiet.unawaited⟩ finished.running
        expected_eq
  | thrown exception =>
      have unfolded : state.finishOperand index rest = ({ state with
          helperCore := { state.helperCore with slot := none } } : State T E).finish
            (.threw (.inr exception)) := by
        simp [State.finishOperand, PromiseAwaiter.awaitResume, not_stale, finished.filled,
          helperOutcome]
      rw [unfolded]
      have base := finished.base.withPhase { state.helperCore with slot := none } state.phase
      exact base.finish ⟨finished.quiet.nobody, finished.quiet.unawaited⟩ finished.running
        expected_eq

end State

end Uvco.WaitAll
