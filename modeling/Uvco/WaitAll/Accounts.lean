import Uvco.WaitAll.Invariant

/-!
# What `waitAll` reports

Every step keeps the invariant, whoever acts. What a call has reported is therefore
determined by what the coroutines of its arguments have ended with.
-/

namespace Uvco.WaitAll

variable {T E : Type}

namespace State

variable {state : State T E} {index : ℕ} {rest : List ℕ} {member : Member T E}

/-- Other coroutines leave those of the call alone. -/
theorem Invariant.setRuntime (invariant : state.Invariant) {runtime : Runtime Point}
    (consistent : runtime.Consistent)
    (waiting_iff : ∀ handle point, runtime.status handle = .waiting point ↔
      state.runtime.status handle = .waiting point)
    (same : ∀ handle, (handle = state.waiter ∨ ∃ index, handle = state.helper index) →
      state.runtime.status handle ≠ .elsewhere →
        runtime.status handle = state.runtime.status handle ∧
        runtime.pending handle = state.runtime.pending handle) :
    ({ state with runtime } : State T E).Invariant := by
  have base := invariant.base
  have same_status : ∀ {handle status}, (handle = state.waiter ∨
      ∃ index, handle = state.helper index) → status ≠ .elsewhere →
      state.runtime.status handle = status → runtime.status handle = status := by
    intro handle status own known found
    rw [← found] at known
    exact (same handle own known).1.trans found
  have same_pending : ∀ {handle : Handle} {point : Point}, (handle = state.waiter ∨
      ∃ index, handle = state.helper index) → state.runtime.status handle = .waiting point →
      runtime.pending handle = state.runtime.pending handle := by
    intro handle point own waiting
    exact (same handle own (by simp [waiting])).2
  have quiet : state.Quiet → ({ state with runtime } : State T E).Quiet := fun quiet =>
    ⟨fun handle point waiting => quiet.nobody handle point ((waiting_iff _ _).mp waiting),
      quiet.unawaited⟩
  have untouched : ∀ rest, state.Untouched rest →
      ({ state with runtime } : State T E).Untouched rest := fun rest untouched index index_mem =>
    ⟨same_status (.inr ⟨index, rfl⟩) (by simp) (untouched index index_mem).1,
      (untouched index index_mem).2⟩
  have base_after : ({ state with runtime } : State T E).Base :=
    ⟨consistent, base.helper_injective, base.helper_ne_waiter, base.order_perm, base.valid,
      base.ended_iff, base.taken_outcome⟩
  refine ⟨base_after, ?_⟩
  cases invariant.progress with
  | idle phase_eq between =>
      exact .idle phase_eq ⟨base_after, quiet between.quiet,
        same_status (.inl rfl) (by simp) between.running, between.order_eq,
        untouched _ between.untouched⟩
  | ended report phase_eq quiet_before expected_eq =>
      exact .ended report phase_eq (quiet quiet_before) expected_eq
  | evaluating index rest member phase_eq order_eq at_index helper_at waiter_at operand_only
      expression_only waited_only untouched_before =>
      refine .evaluating index rest member phase_eq order_eq at_index ?_ ?_
        (fun handle waiting => operand_only handle ((waiting_iff _ _).mp waiting))
        (fun handle waiting => expression_only handle ((waiting_iff _ _).mp waiting))
        waited_only (untouched rest untouched_before)
      · cases helper_at with
        | waits waiting waited registered not_queued empty =>
            exact .waits ((waiting_iff _ _).mpr waiting) waited registered
              ((same_pending (.inr ⟨index, rfl⟩) waiting).trans not_queued) empty
        | woken waiting finished outcome queued empty =>
            exact .woken ((waiting_iff _ _).mpr waiting) finished outcome
              ((same_pending (.inr ⟨index, rfl⟩) waiting).trans queued) empty
        | ended obtained done finished outcome filled =>
            exact .ended obtained (same_status (.inr ⟨index, rfl⟩) (by simp) done) finished
              outcome filled
      · cases waiter_at with
        | calling running core_eq nobody empty =>
            exact .calling (same_status (.inl rfl) (by simp) running) core_eq nobody empty
        | waits waiting registered not_queued empty =>
            exact .waits ((waiting_iff _ _).mpr waiting) registered
              ((same_pending (.inl rfl) waiting).trans not_queued) empty
        | behind running filled =>
            exact .behind (same_status (.inl rfl) (by simp) running) filled
        | woken waiting queued filled =>
            exact .woken ((waiting_iff _ _).mpr waiting)
              ((same_pending (.inl rfl) waiting).trans queued) filled

theorem Invariant.finishOperand (invariant : state.Invariant)
    (phase_eq : state.phase = .evaluating index rest)
    (running : state.runtime.status state.waiter = .running)
    (filled : state.helperCore.slot.isSome = true) :
    (state.finishOperand index rest).Invariant := by
  cases invariant.progress with
  | idle other_phase | ended _ other_phase => simp [phase_eq] at other_phase
  | evaluating index' rest' member phase_eq' order_eq at_index helper_at _ operand_only
      expression_only waited_only untouched =>
      rw [phase_eq, Phase.evaluating.injEq] at phase_eq'
      rcases phase_eq' with ⟨rfl, rfl⟩
      cases helper_at with
      | waits _ _ _ _ empty | woken _ _ _ _ empty => simp [empty] at filled
      | ended obtained done finished outcome slot_eq =>
          suffices finished : state.Finished index rest obtained from finished.finishOperand
          refine ⟨invariant.base, ⟨?_, ?_⟩, running, order_eq, untouched, outcome, slot_eq⟩
          · rintro handle (_ | _) waiting
            · rw [operand_only handle waiting, done] at waiting
              cases waiting
            · rw [expression_only handle waiting, running] at waiting
              cases waiting
          · intro other other_mem waited
            rcases List.mem_iff_getElem?.mp other_mem with ⟨position, found⟩
            obtain rfl := waited_only position other found waited
            rw [at_index] at found
            cases found
            simp [finished] at waited

theorem Invariant.coAwait (invariant : state.Invariant)
    (enabled : (Action.coAwait : Action T E).Enabled state) : state.coAwait.Invariant := by
  rcases enabled with ⟨⟨index', rest', phase'⟩, running⟩
  have base := invariant.base
  cases invariant.progress with
  | idle phase_eq | ended _ phase_eq => simp [phase_eq] at phase'
  | evaluating index rest member phase_eq order_eq at_index helper_at waiter_at operand_only
      expression_only waited_only untouched =>
      have helper_ne := base.helper_ne_waiter
      cases waiter_at with
      | waits waiting | woken waiting => simp [running] at waiting
      | calling _ core_eq nobody empty =>
          have unfolded : state.coAwait = { state with
              helperCore := { state.helperCore with
                waitingHandle := some state.waiter
                state := .waitedOn }
              runtime := state.runtime.setStatus state.waiter (.waiting .expression) } := by
            simp [State.coAwait, phase_eq, PromiseAwaiter.awaitReady, PromiseCore.ready, empty,
              PromiseAwaiter.awaitSuspend, PromiseCore.setHandle, core_eq]
          have other_status : ∀ other ≠ state.waiter, (state.runtime.setStatus state.waiter
              (.waiting .expression)).status other = state.runtime.status other :=
            fun other differs => Runtime.setStatus_status_of_ne _ differs
          have not_queued := base.consistent.pending_of_running running
          rw [unfolded]
          refine ⟨⟨base.consistent.setStatus _ not_queued, base.helper_injective, helper_ne,
            base.order_perm, base.valid, base.ended_iff, base.taken_outcome⟩, ?_⟩
          refine .evaluating index rest member phase_eq order_eq at_index ?_ ?_ ?_ ?_ waited_only ?_
          · cases helper_at with
            | waits waiting waited registered unqueued =>
                exact .waits ((other_status _ (helper_ne index)).trans waiting) waited registered
                  unqueued empty
            | woken waiting finished outcome queued =>
                exact .woken ((other_status _ (helper_ne index)).trans waiting) finished outcome
                  queued empty
            | ended _ _ _ _ filled => simp [empty] at filled
          · exact .waits (Runtime.setStatus_status_self _) rfl not_queued empty
          · intro handle waiting
            by_cases same : handle = state.waiter
            · simp [same] at waiting
            · exact operand_only handle ((other_status handle same).symm.trans waiting)
          · intro handle waiting
            by_contra differs
            have waited := (other_status handle differs).symm.trans waiting
            exact differs (expression_only handle waited)
          · intro other other_mem
            rcases untouched other other_mem with ⟨other_running, outcome_eq⟩
            exact ⟨(other_status _ (helper_ne other)).trans other_running, outcome_eq⟩
      | behind _ filled =>
          have unfolded : state.coAwait = state.finishOperand index rest := by
            simp only [State.coAwait, phase_eq, PromiseAwaiter.awaitReady, PromiseCore.stale,
              PromiseCore.ready, filled]
            simp
          rw [unfolded]
          exact invariant.finishOperand phase_eq running filled

/-- The helper is handed out after the argument has ended, and ends. -/
theorem Invariant.resume_helper (invariant : state.Invariant) {handle : Handle}
    {runtime : Runtime Point} (popped : state.runtime.getNext = (some handle, runtime))
    (waiting : state.runtime.status handle = .waiting .operand) :
    (({ state with runtime } : State T E).resume handle).Invariant := by
  have base := invariant.base
  have consistent := base.consistent.getNext
  rw [popped] at consistent
  rcases base.consistent.getNext_some popped with ⟨status_eq, -, next_pending, other_pending⟩
  cases invariant.progress with
  | idle _ between => exact absurd waiting (between.quiet.nobody handle .operand)
  | ended _ _ quiet => exact absurd waiting (quiet.nobody handle .operand)
  | evaluating index rest member phase_eq order_eq at_index helper_at waiter_at operand_only
      expression_only waited_only untouched =>
      obtain rfl := operand_only handle waiting
      have waiter_ne := (base.helper_ne_waiter index).symm
      cases helper_at with
      | waits _ _ _ not_queued => omega
      | ended _ done => simp [done] at waiting
      | woken _ finished outcome queued empty =>
          have valid := base.valid member (List.mem_of_getElem? at_index)
          rcases valid.awaitResume finished with ⟨resumed_valid, -, resumed_finished⟩
          have unqueued : runtime.pending (state.helper index) = 0 := by omega
          let running := runtime.setStatus (state.helper index) .running
          have running_consistent : running.Consistent := consistent.setStatus .running unqueued
          have running_status : ∀ other ≠ state.helper index,
              running.status other = state.runtime.status other := by
            intro other differs
            rw [← status_eq]
            exact Runtime.setStatus_status_of_ne _ differs
          have unfolded : ({ state with runtime } : State T E).resume (state.helper index) =
              ({ state with runtime := running } : State T E).endHelper index member.awaitResume
                (awaitObtained member) := by
            simp only [State.resume, status_eq, waiting, phase_eq, at_index]
            rfl
          have still_empty : ({ state with runtime := running } : State T E).helperCore.slot =
            none := empty
          rw [unfolded, endHelper_eq _ still_empty]
          -- The waiter is enqueued if it awaits the helper already.
          have ends : ∀ woken : Runtime Point, woken.Consistent → woken.status = running.status →
              woken.pending (state.helper index) = 0 →
              ({ state with
                members := state.members.set index member.awaitResume
                helperCore := { state.helperCore with
                  slot := some (helperOutcome (awaitObtained member))
                  waitingHandle := none
                  state := .finished }
                runtime := woken.setStatus (state.helper index) .done } : State T E).WaiterAt →
              ({ state with
                members := state.members.set index member.awaitResume
                helperCore := { state.helperCore with
                  slot := some (helperOutcome (awaitObtained member))
                  waitingHandle := none
                  state := .finished }
                runtime := woken.setStatus (state.helper index) .done } :
                  State T E).Invariant := by
            intro woken woken_consistent woken_status woken_pending waiter_after
            have after_status : ∀ other ≠ state.helper index,
                (woken.setStatus (state.helper index) .done).status other =
                  state.runtime.status other := by
              intro other differs
              rw [Runtime.setStatus_status_of_ne _ differs, woken_status]
              exact running_status other differs
            have only : ∀ other point,
                (woken.setStatus (state.helper index) .done).status other = .waiting point →
                  other ≠ state.helper index ∧ state.runtime.status other = .waiting point := by
              intro other point other_waiting
              have differs : other ≠ state.helper index := by
                rintro rfl
                simp at other_waiting
              exact ⟨differs, (after_status other differs).symm.trans other_waiting⟩
            have base_after := base.setMember at_index resumed_valid
              (by simp [finished, resumed_finished])
              (woken_consistent.setStatus .done woken_pending)
            refine ⟨base_after.withPhase _ _, ?_⟩
            refine .evaluating index rest member.awaitResume phase_eq order_eq
              (List.getElem?_set_self (List.getElem?_eq_some_iff.mp at_index).1) ?_ waiter_after
              (fun other other_waiting => operand_only other (only other _ other_waiting).2)
              (fun other other_waiting => expression_only other (only other _ other_waiting).2)
              ?_ ?_
            · exact .ended (awaitObtained member) (Runtime.setStatus_status_self _)
                resumed_finished outcome rfl
            · intro other found other_at waited
              by_contra differs
              rw [List.getElem?_set_ne (Ne.symm differs)] at other_at
              exact differs (waited_only other found other_at waited)
            · intro other other_mem
              rcases untouched other other_mem with ⟨other_running, outcome_eq⟩
              have differs : state.helper other ≠ state.helper index := by
                intro same
                rw [same, waiting] at other_running
                cases other_running
              refine ⟨(after_status _ differs).trans other_running, ?_⟩
              intro found other_at
              rw [List.getElem?_set_ne (fun same => differs (by rw [same]))] at other_at
              exact outcome_eq found other_at
          cases waiter_at with
          | calling waiter_running _ nobody =>
              rw [nobody]
              refine ends running running_consistent rfl unqueued (.behind ?_ rfl)
              exact (Runtime.setStatus_status_of_ne _ waiter_ne).trans
                ((running_status _ waiter_ne).trans waiter_running)
          | waits waiter_waiting registered waiter_unqueued =>
              rw [registered]
              have still : running.status state.waiter = .waiting .expression :=
                (running_status _ waiter_ne).trans waiter_waiting
              refine ends (running.enqueue state.waiter)
                (running_consistent.enqueue_waiting still) rfl ?_ (.woken ?_ ?_ rfl)
              · exact (Runtime.pending_enqueue_of_ne waiter_ne.symm).trans unqueued
              · exact (Runtime.setStatus_status_of_ne _ waiter_ne).trans still
              · have popped_pending := other_pending state.waiter waiter_ne
                change (running.enqueue state.waiter).pending state.waiter = 1
                rw [Runtime.pending_enqueue_self]
                change runtime.pending state.waiter + 1 = 1
                omega
          | behind _ filled | woken _ _ filled => simp [empty] at filled

/-- `waitAll` is handed out after the helper has ended. -/
theorem Invariant.resume_waiter (invariant : state.Invariant) {handle : Handle}
    {runtime : Runtime Point} (popped : state.runtime.getNext = (some handle, runtime))
    (waiting : state.runtime.status handle = .waiting .expression) :
    (({ state with runtime } : State T E).resume handle).Invariant := by
  have base := invariant.base
  have consistent := base.consistent.getNext
  rw [popped] at consistent
  rcases base.consistent.getNext_some popped with ⟨status_eq, -, next_pending, other_pending⟩
  cases invariant.progress with
  | idle _ between => exact absurd waiting (between.quiet.nobody handle .expression)
  | ended _ _ quiet => exact absurd waiting (quiet.nobody handle .expression)
  | evaluating index rest member phase_eq order_eq at_index helper_at waiter_at operand_only
      expression_only waited_only untouched =>
      obtain rfl := expression_only handle waiting
      cases waiter_at with
      | calling running | behind running => simp [running] at waiting
      | waits _ _ not_queued => omega
      | woken _ queued filled =>
          have helper_ne := base.helper_ne_waiter
          have other_status : ∀ other ≠ state.waiter,
              (runtime.setStatus state.waiter .running).status other =
                state.runtime.status other := by
            intro other differs
            rw [← status_eq]
            exact Runtime.setStatus_status_of_ne _ differs
          have unfolded : ({ state with runtime } : State T E).resume state.waiter =
              ({ state with runtime := runtime.setStatus state.waiter .running } :
                State T E).finishOperand index rest := by
            simp only [State.resume, status_eq, waiting, phase_eq]
          rw [unfolded]
          have only : ∀ other point,
              (runtime.setStatus state.waiter .running).status other = .waiting point →
                state.runtime.status other = .waiting point := by
            intro other point other_waiting
            have differs : other ≠ state.waiter := by
              rintro rfl
              simp at other_waiting
            exact (other_status other differs).symm.trans other_waiting
          apply Invariant.finishOperand
          case phase_eq => exact phase_eq
          case running => exact Runtime.setStatus_status_self _
          case filled => exact filled
          have unqueued : runtime.pending state.waiter = 0 := by omega
          refine ⟨⟨consistent.setStatus .running unqueued, base.helper_injective, helper_ne,
            base.order_perm, base.valid, base.ended_iff, base.taken_outcome⟩, ?_⟩
          refine .evaluating index rest member phase_eq order_eq at_index ?_
            (.behind (Runtime.setStatus_status_self _) filled)
            (fun other other_waiting => operand_only other (only other _ other_waiting))
            (fun other other_waiting => expression_only other (only other _ other_waiting))
            waited_only ?_
          · cases helper_at with
            | waits _ _ _ _ empty | woken _ _ _ _ empty => simp [empty] at filled
            | ended obtained done finished outcome slot_eq =>
                exact .ended obtained ((other_status _ (helper_ne index)).trans done) finished
                  outcome slot_eq
          · intro other other_mem
            rcases untouched other other_mem with ⟨other_running, outcome_eq⟩
            exact ⟨(other_status _ (helper_ne other)).trans other_running, outcome_eq⟩

theorem Invariant.resumeNext (invariant : state.Invariant) : state.resumeNext.Invariant := by
  have consistent := invariant.base.consistent
  unfold State.resumeNext
  rcases popped : state.runtime.getNext with ⟨_ | handle, runtime⟩
  · rcases consistent.resume_nothing popped with ⟨after_consistent, unchanged⟩
    exact invariant.setRuntime after_consistent
      (fun handle point => by rw [(unchanged handle).1]) (fun handle _ _ => unchanged handle)
  · rcases consistent.getNext_some popped with ⟨status_eq, suspended, -, -⟩
    cases handle_status : state.runtime.status handle with
    | running | done => simp [handle_status, Status.isSuspended] at suspended
    | waiting point =>
        cases point with
        | operand => exact invariant.resume_helper popped handle_status
        | expression => exact invariant.resume_waiter popped handle_status
    | elsewhere =>
        have unrelated := consistent.resume_elsewhere popped handle_status
        have unfolded : ({ state with runtime } : State T E).resume handle =
            { state with runtime := runtime.setStatus handle .running } := by
          simp only [State.resume, status_eq, handle_status]
        dsimp only
        rw [unfolded]
        apply invariant.setRuntime unrelated.consistent unrelated.waiting_iff
        intro other _ known
        apply unrelated.unchanged other
        rintro rfl
        exact known handle_status

theorem Invariant.other (invariant : state.Invariant) {action : Runtime.Action}
    (enabled : (Action.other action : Action T E).Enabled state) :
    ({ state with runtime := action.perform state.runtime } : State T E).Invariant := by
  rcases enabled with ⟨enabled, not_waiter, not_helper⟩
  have unrelated := invariant.base.consistent.other enabled
  apply invariant.setRuntime unrelated.consistent unrelated.waiting_iff
  rintro handle own -
  apply unrelated.unchanged handle
  rcases own with rfl | ⟨index, rfl⟩
  · exact not_waiter.symm
  · exact (not_helper index).symm

/-- What is expected does not change when another coroutine ends. -/
theorem expected_update {count : ℕ} {outcomes : ℕ → Option (Obtained (Option T) E)}
    {rest : List ℕ} {report : Report T E} (open_ : outcomes index = none)
    (covered : index < count → index ∈ rest)
    (expected_eq : expected count outcomes rest = some report)
    (outcome : Option (Obtained (Option T) E)) :
    expected count (Function.update outcomes index outcome) rest = some report := by
  induction rest with
  | nil =>
      rw [← expected_eq, expected, expected, Option.some.injEq, Report.returned.injEq]
      apply List.filterMap_congr
      intro other other_mem
      have differs : other ≠ index := by
        rintro rfl
        simpa using covered (List.mem_range.mp other_mem)
      rw [Function.update_of_ne differs]
  | cons first rest ih =>
      have differs : first ≠ index := by
        rintro rfl
        simp [expected, open_] at expected_eq
      simp only [expected, Function.update_of_ne differs] at expected_eq ⊢
      cases found : outcomes first with
      | none => simp [found] at expected_eq
      | some obtained =>
          cases obtained with
          | returned value =>
              simp only [found] at expected_eq
              exact ih (fun bound => (List.mem_cons.mp (covered bound)).resolve_left
                differs.symm) expected_eq
          | rethrown exception | thrown exception => simpa [found] using expected_eq

theorem resolve_eq (at_index : state.members[index]? = some member) (outcome : Outcome T E) :
    state.resolve index outcome = { state with
      members := state.members.set index (member.resolve state.runtime.loop outcome).1
      runtime := { state.runtime with loop := (member.resolve state.runtime.loop outcome).2 }
      outcomes := Function.update state.outcomes index (some (replaceVoid member outcome)) } := by
  simp only [State.resolve, at_index]

/-- The coroutine of an argument ends; what changes besides the argument are the outcomes. -/
theorem Base.resolve (base : state.Base) (at_index : state.members[index]? = some member)
    (unresolved : member.state ≠ .finished) (outcome : Outcome T E) {runtime : Runtime Point}
    (consistent : runtime.Consistent) :
    ({ state with
      members := state.members.set index (member.resolve state.runtime.loop outcome).1
      runtime
      outcomes := Function.update state.outcomes index (some (replaceVoid member outcome)) } :
        State T E).Base := by
  have valid := base.valid member (List.mem_of_getElem? at_index)
  have still_open : state.outcomes index = none := by
    rw [← Option.not_isSome_iff_eq_none, base.ended_iff index member at_index]
    exact unresolved
  rcases valid.resolve state.runtime.loop outcome unresolved with
    ⟨-, resolved_valid, -, finished, -⟩
  refine ⟨consistent, base.helper_injective, base.helper_ne_waiter, ?_, ?_, ?_, ?_⟩
  · simpa using base.order_perm
  · intro other other_mem
    rcases List.mem_or_eq_of_mem_set other_mem with before | rfl
    · exact base.valid other before
    · exact resolved_valid
  · intro other found other_at
    by_cases same : other = index
    · subst same
      rw [List.getElem?_set_self (List.getElem?_eq_some_iff.mp at_index).1] at other_at
      cases other_at
      simp [finished]
    · rw [List.getElem?_set_ne (Ne.symm same)] at other_at
      dsimp only
      rw [Function.update_of_ne same]
      exact base.ended_iff other found other_at
  · intro entry entry_mem
    have differs : entry.1 ≠ index := by
      rintro same
      have taken := base.taken_outcome entry entry_mem
      rw [same, still_open] at taken
      cases taken
    dsimp only
    rw [Function.update_of_ne differs]
    exact base.taken_outcome entry entry_mem

theorem Untouched.resolve (untouched : state.Untouched rest) (base : state.Base)
    (at_index : state.members[index]? = some member) (unresolved : member.state ≠ .finished)
    (outcome : Outcome T E) (runtime : Runtime Point)
    (status_eq : runtime.status = state.runtime.status) :
    ({ state with
      members := state.members.set index (member.resolve state.runtime.loop outcome).1
      runtime
      outcomes := Function.update state.outcomes index (some (replaceVoid member outcome)) } :
        State T E).Untouched rest := by
  have valid := base.valid member (List.mem_of_getElem? at_index)
  intro other other_mem
  rcases untouched other other_mem with ⟨running, outcome_eq⟩
  refine ⟨by rw [← running, status_eq], ?_⟩
  intro found other_at
  by_cases same : other = index
  · subst same
    rw [List.getElem?_set_self (List.getElem?_eq_some_iff.mp at_index).1] at other_at
    cases other_at
    dsimp only
    rw [Function.update_self, outcomeOf_resolve valid _ outcome unresolved]
  · rw [List.getElem?_set_ne (Ne.symm same)] at other_at
    dsimp only
    rw [Function.update_of_ne same]
    exact outcome_eq found other_at

theorem Quiet.resolve (quiet : state.Quiet) (base : state.Base)
    (at_index : state.members[index]? = some member) (unresolved : member.state ≠ .finished)
    (outcome : Outcome T E) : (state.resolve index outcome).Quiet ∧
      (state.resolve index outcome).runtime = state.runtime := by
  have member_mem := List.mem_of_getElem? at_index
  have valid := base.valid member member_mem
  rcases valid.resolve state.runtime.loop outcome unresolved with ⟨loop_eq, -, -, finished, -⟩
  rw [valid.nobody (quiet.unawaited member member_mem)] at loop_eq
  rw [resolve_eq at_index, loop_eq]
  refine ⟨⟨quiet.nobody, ?_⟩, rfl⟩
  intro other other_mem
  rcases List.mem_or_eq_of_mem_set other_mem with before | rfl
  · exact quiet.unawaited other before
  · simp [finished]

theorem Invariant.resolve (invariant : state.Invariant) {outcome : Outcome T E}
    (enabled : (Action.resolve index outcome).Enabled state) :
    (state.resolve index outcome).Invariant := by
  rcases enabled with ⟨member, at_index, unresolved⟩
  have base := invariant.base
  have valid := base.valid member (List.mem_of_getElem? at_index)
  cases invariant.progress with
  | idle phase_eq between =>
      rcases between.quiet.resolve base at_index unresolved outcome with ⟨quiet, runtime_eq⟩
      rw [resolve_eq at_index] at quiet runtime_eq ⊢
      have base_after := base.resolve at_index unresolved outcome
        (show Runtime.Consistent _ from runtime_eq ▸ base.consistent)
      refine ⟨base_after, .idle phase_eq ⟨base_after, quiet, between.running, between.order_eq, ?_⟩⟩
      exact between.untouched.resolve base at_index unresolved outcome _ rfl
  | ended report phase_eq quiet_before expected_eq =>
      rcases quiet_before.resolve base at_index unresolved outcome with ⟨quiet, runtime_eq⟩
      rw [resolve_eq at_index] at quiet runtime_eq ⊢
      have base_after := base.resolve at_index unresolved outcome
        (show Runtime.Consistent _ from runtime_eq ▸ base.consistent)
      have still_open : state.outcomes index = none := by
        rw [← Option.not_isSome_iff_eq_none, base.ended_iff index member at_index]
        exact unresolved
      refine ⟨base_after, .ended report phase_eq quiet ?_⟩
      simp only [expectedReport, List.length_set]
      refine expected_update still_open (fun bound => ?_) expected_eq _
      exact base.order_perm.mem_iff.mpr (List.mem_range.mpr bound)
  | evaluating current rest awaited phase_eq order_eq at_current helper_at waiter_at operand_only
      expression_only waited_only untouched =>
      rcases valid.resolve state.runtime.loop outcome unresolved with
        ⟨loop_eq, -, -, finished, -⟩
      have untouched_after := untouched.resolve base at_index unresolved outcome
        { state.runtime with loop := (member.resolve state.runtime.loop outcome).2 } rfl
      have waited_after : ∀ other found,
          (state.members.set index (member.resolve state.runtime.loop outcome).1)[other]? =
            some found → found.state = .waitedOn → other = current := by
        intro other found other_at waited
        by_cases same : other = index
        · subst same
          rw [List.getElem?_set_self (List.getElem?_eq_some_iff.mp at_index).1] at other_at
          cases other_at
          simp [finished] at waited
        · rw [List.getElem?_set_ne (Ne.symm same)] at other_at
          exact waited_only other found other_at waited
      rw [resolve_eq at_index]
      by_cases same : index = current
      · subst same
        rw [at_index, Option.some.injEq] at at_current
        subst at_current
        cases helper_at with
        | woken _ already | ended _ _ already => exact absurd already unresolved
        | waits waiting _ registered not_queued empty =>
            -- The helper is enqueued.
            have runtime_eq : ({ state.runtime with
                loop := (member.resolve state.runtime.loop outcome).2 } : Runtime Point) =
                state.runtime.enqueue (state.helper index) := by
              rw [loop_eq, registered]
              rfl
            have waiter_pending : (state.runtime.enqueue (state.helper index)).pending
                state.waiter = state.runtime.pending state.waiter :=
              Runtime.pending_enqueue_of_ne (base.helper_ne_waiter index).symm
            have consistent_after : ({ state.runtime with
                loop := (member.resolve state.runtime.loop outcome).2 } :
                  Runtime Point).Consistent := by
              rw [runtime_eq]
              exact base.consistent.enqueue_waiting waiting
            have base_after := base.resolve at_index unresolved outcome consistent_after
            refine ⟨base_after, .evaluating index rest _ phase_eq order_eq
              (List.getElem?_set_self (List.getElem?_eq_some_iff.mp at_index).1) ?_ ?_ operand_only
              expression_only waited_after untouched_after⟩
            · refine .woken waiting finished ?_ ?_ empty
              · dsimp only
                rw [Function.update_self,
                  (awaitObtained_resolve valid _ outcome unresolved).2]
              · dsimp only
                rw [runtime_eq, Runtime.pending_enqueue_self, not_queued]
            · cases waiter_at with
              | calling running core_eq nobody => exact .calling running core_eq nobody empty
              | waits waiter_waiting waiter_registered waiter_unqueued =>
                  refine .waits waiter_waiting waiter_registered ?_ empty
                  dsimp only
                  rw [runtime_eq, waiter_pending, waiter_unqueued]
              | behind _ filled | woken _ _ filled => simp [empty] at filled
      · have nobody : member.waitingHandle = none :=
          valid.nobody fun waited => same (waited_only index member at_index waited)
        have runtime_eq : ({ state.runtime with
            loop := (member.resolve state.runtime.loop outcome).2 } : Runtime Point) =
            state.runtime := by
          rw [loop_eq, nobody]
        have consistent_after : ({ state.runtime with
            loop := (member.resolve state.runtime.loop outcome).2 } :
              Runtime Point).Consistent := by
          rw [runtime_eq]
          exact base.consistent
        have base_after := base.resolve at_index unresolved outcome consistent_after
        have differs : current ≠ index := Ne.symm same
        refine ⟨base_after, .evaluating current rest awaited phase_eq order_eq
          ((List.getElem?_set_ne same).trans at_current) ?_ ?_ operand_only
          expression_only waited_after untouched_after⟩
        · cases helper_at with
          | waits waiting waited registered not_queued empty =>
              refine .waits waiting waited registered ?_ empty
              dsimp only
              rw [runtime_eq, not_queued]
          | woken waiting awaited_finished awaited_outcome queued empty =>
              refine .woken waiting awaited_finished ?_ ?_ empty
              · exact (Function.update_of_ne differs _ _).trans awaited_outcome
              · dsimp only
                rw [runtime_eq, queued]
          | ended obtained done awaited_finished awaited_outcome filled =>
              exact .ended obtained done awaited_finished
                ((Function.update_of_ne differs _ _).trans awaited_outcome) filled
        · cases waiter_at with
          | calling running core_eq nobody empty => exact .calling running core_eq nobody empty
          | waits waiter_waiting waiter_registered waiter_unqueued empty =>
              refine .waits waiter_waiting waiter_registered ?_ empty
              dsimp only
              rw [runtime_eq, waiter_unqueued]
          | behind running filled => exact .behind running filled
          | woken waiter_waiting queued filled =>
              refine .woken waiter_waiting ?_ filled
              dsimp only
              rw [runtime_eq, queued]

/-! ## Runs -/

theorem initial_invariant (initial : (system T E).Initial state) : state.Invariant := by
  rcases initial with ⟨waiter, helper, order, members, helper_injective, helper_ne, order_perm,
    unawaited, rfl⟩
  have base : (initial waiter helper order members).Base := by
    refine ⟨.empty _, helper_injective, helper_ne, order_perm,
      fun member member_mem => (unawaited member member_mem).1, ?_, by simp [initial]⟩
    intro index member at_index
    change members[index]? = some member at at_index
    simp only [initial, at_index, Option.bind_some, outcomeOf]
    split <;> simp_all
  refine ⟨base, .idle rfl ⟨base, ⟨by simp [initial], fun member member_mem =>
    (unawaited member member_mem).2⟩, rfl, rfl, ?_⟩⟩
  intro index _
  refine ⟨rfl, fun member at_index => ?_⟩
  change members[index]? = some member at at_index
  simp only [initial, at_index, Option.bind_some]

theorem Invariant.perform (invariant : state.Invariant) {action : Action T E}
    (enabled : action.Enabled state) : (action.perform state).Invariant := by
  cases action with
  | call =>
      cases invariant.progress with
      | idle _ between => exact between.evaluate
      | evaluating _ _ _ phase_eq | ended _ phase_eq =>
          rw [Action.Enabled, phase_eq] at enabled
          cases enabled
  | coAwait => exact invariant.coAwait enabled
  | resolve index outcome => exact invariant.resolve enabled
  | resumeNext => exact invariant.resumeNext
  | other action => exact invariant.other enabled

theorem invariant_of_reachable (reached : (system T E).Reachable state) : state.Invariant :=
  reached.invariant State.Invariant (fun _ initial => initial_invariant initial)
    (fun _ _ invariant enabled => invariant.perform enabled)

theorem getElem?_filterMap_range {V : Type} (count : ℕ) (f : ℕ → Option V)
    (all_some : ∀ index < count, (f index).isSome = true) :
    ((List.range count).filterMap f).length = count ∧
      ∀ index < count, ((List.range count).filterMap f)[index]? = f index := by
  induction count with
  | zero => simp
  | succ count ih =>
      rcases ih fun index bound => all_some index (by omega) with ⟨length_eq, at_index⟩
      obtain ⟨last, last_eq⟩ := Option.isSome_iff_exists.mp (all_some count (by omega))
      rw [List.range_succ, List.filterMap_append]
      simp only [List.filterMap_cons, last_eq, List.filterMap_nil]
      refine ⟨by simp [length_eq], fun index bound => ?_⟩
      rcases Nat.lt_succ_iff_lt_or_eq.mp bound with before | rfl
      · rw [List.getElem?_append_left (by omega), at_index index before]
      · rw [List.getElem?_append_right (by omega), length_eq, last_eq]
        simp

theorem expected_returned {count : ℕ} {outcomes : ℕ → Option (Obtained (Option T) E)}
    {values : List (Option T)}
    (expected_eq : expected count outcomes rest = some (.returned values)) :
    (∀ index ∈ rest, ∃ value, outcomes index = some (.returned value)) ∧
      expected count outcomes [] = some (.returned values) := by
  induction rest with
  | nil => exact ⟨by simp, expected_eq⟩
  | cons first rest ih =>
      rw [expected] at expected_eq
      split at expected_eq
      · rename_i value found
        rcases ih expected_eq with ⟨later, all⟩
        exact ⟨List.forall_mem_cons.mpr ⟨⟨value, found⟩, later⟩, all⟩
      · cases expected_eq
      · cases expected_eq
      · cases expected_eq

theorem expected_threw {count : ℕ} {outcomes : ℕ → Option (Obtained (Option T) E)}
    {exception : Exception E}
    (expected_eq : expected count outcomes rest = some (.threw exception)) :
    ∃ front index back obtained, rest = front ++ index :: back ∧
      (∀ other ∈ front, ∃ value, outcomes other = some (.returned value)) ∧
      outcomes index = some obtained ∧ helperOutcome obtained = .exception exception := by
  induction rest with
  | nil => simp [expected] at expected_eq
  | cons first rest ih =>
      rw [expected] at expected_eq
      split at expected_eq
      · rename_i value found
        rcases ih expected_eq with ⟨front, index, back, obtained, rfl, returned, outcome, threw⟩
        exact ⟨first :: front, index, back, obtained, rfl,
          List.forall_mem_cons.mpr ⟨⟨value, found⟩, returned⟩, outcome, threw⟩
      · rename_i thrown found
        cases expected_eq
        exact ⟨[], first, rest, _, rfl, by simp, found, rfl⟩
      · rename_i thrown found
        cases expected_eq
        exact ⟨[], first, rest, _, rfl, by simp, found, rfl⟩
      · cases expected_eq

theorem Invariant.expected_of_report (invariant : state.Invariant) {report : Report T E}
    (report_eq : state.report = some report) : state.expectedReport = some report := by
  cases invariant.progress with
  | idle phase_eq => simp [State.report, phase_eq] at report_eq
  | evaluating _ _ _ phase_eq => simp [State.report, phase_eq] at report_eq
  | ended found phase_eq _ expected_eq =>
      rw [State.report, phase_eq, Option.some.injEq] at report_eq
      rw [expected_eq, report_eq]

theorem Invariant.accounts (invariant : state.Invariant) : state.Accounts := by
  have base := invariant.base
  constructor
  case returned =>
    intro values report_eq
    rcases expected_returned (invariant.expected_of_report report_eq) with ⟨all, values_eq⟩
    rw [expected, Option.some.injEq, Report.returned.injEq] at values_eq
    have each : ∀ index < state.members.length,
        ∃ value, state.outcomes index = some (.returned value) := fun index bound =>
      all index (base.order_perm.mem_iff.mpr (List.mem_range.mpr bound))
    have all_some : ∀ index < state.members.length,
        (returnedValue (state.outcomes index)).isSome = true := by
      intro index bound
      rcases each index bound with ⟨value, found⟩
      simp [found, returnedValue]
    rcases getElem?_filterMap_range _ _ all_some with ⟨length_eq, at_index⟩
    rw [values_eq] at length_eq at_index
    refine ⟨length_eq, fun index bound => ?_⟩
    rcases each index bound with ⟨value, found⟩
    exact ⟨value, by rw [at_index index bound, found, returnedValue], found⟩
  case threw =>
    intro exception report_eq
    exact expected_threw (invariant.expected_of_report report_eq)
  case suspended =>
    intro called no_report not_under_way
    cases invariant.progress with
    | idle phase_eq => exact absurd phase_eq called
    | ended _ phase_eq => simp [State.report, phase_eq] at no_report
    | evaluating index rest member phase_eq order_eq at_index helper_at waiter_at =>
        have under_way := fun running => not_under_way ⟨index, rest, phase_eq, running⟩
        refine ⟨state.taken.map Prod.fst, index, rest, order_eq, ?_, ?_⟩
        · intro other other_mem
          rcases List.mem_map.mp other_mem with ⟨entry, entry_mem, rfl⟩
          exact ⟨entry.2, base.taken_outcome entry entry_mem⟩
        · cases helper_at with
          | waits _ waited =>
              rw [← Option.not_isSome_iff_eq_none, base.ended_iff index member at_index, waited]
              simp
          | woken _ _ _ queued => exact (under_way (.inr (.inr (by omega)))).elim
          | ended _ _ _ _ filled =>
              exfalso
              cases waiter_at with
              | calling running | behind running => exact under_way (.inl running)
              | woken _ queued => exact under_way (.inr (.inl (by omega)))
              | waits _ _ _ empty => simp [empty] at filled

/-- Whenever the coroutines of the arguments end, and in whichever order the operands are evaluated:
`waitAll` returns the values in the order of the arguments, or throws what the first operand threw,
and no wakeup is lost. -/
theorem waitAll_accounts (reached : (system T E).Reachable state) : state.Accounts :=
  (invariant_of_reachable reached).accounts

/-- The second of two coroutines ends before the first. -/
theorem waitAll_accounts_second_first : ∃ state : State ℕ String,
    state.report = some (.returned [some 7, none]) ∧ state.Accounts := by
  have start : (system ℕ String).Reachable
      (.initial 0 (· + 1) [0, 1] [.typed {}, .void {}]) := by
    refine .start ⟨0, (· + 1), [0, 1], [.typed {}, .void {}], ?_, ?_, ?_, ?_, rfl⟩
    · exact fun first second same => Nat.succ.inj same
    · simp
    · decide
    · simp [Unawaited, Member.valid_typed, Member.valid_void, Member.state]
  have called := start.step Action.call rfl trivial
  have awaiting := called.step Action.coAwait
    (show _ ∧ _ from ⟨⟨0, [1], rfl⟩, by decide⟩) trivial
  have second := awaiting.step (Action.resolve 1 (.value 3))
    (show ∃ _, _ ∧ _ from ⟨_, rfl, by decide⟩) trivial
  have first := second.step (Action.resolve 0 (.value 7))
    (show ∃ _, _ ∧ _ from ⟨_, rfl, by decide⟩) trivial
  have helped := first.step Action.resumeNext trivial trivial
  have resumed := helped.step Action.resumeNext trivial trivial
  have ended := resumed.step Action.coAwait
    (show _ ∧ _ from ⟨⟨1, [], rfl⟩, by decide⟩) trivial
  exact ⟨_, by decide, waitAll_accounts ended⟩

end State

end Uvco.WaitAll
