import Uvco.Select.Await

/-!
# Calling `waitAny` repeatedly

This file embeds `waitAny` of `uvco/combinators.h`: it awaits a `SelectSet` of its
arguments and unwraps the promises that are ready, in order. One coroutine calls
it again and again, as its documentation suggests, until every promise has been
reported, while the producers end in any order.

`unwrap()` moves a value out of the promise, but leaves an exception in it. A
failed promise therefore stays ready and makes every later call throw again, and
the call that throws destroys the values it has unwrapped so far. What is left is
the case in which nothing else is to be reported when the failure is.

`std::variant<void>` is ill-formed, so the arguments of `waitAny` have values.
-/

namespace Uvco.WaitAny

variable {T E : Type}

/-- What a call of `waitAny` ends with. -/
inductive Report (T E : Type) where
  /-- The result vector, with the indices of the promises. -/
  | returned (results : List (ℕ × Option T))
  /-- The promise whose `unwrap()` threw, and what it threw. -/
  | threw (index : ℕ) (thrown : Obtained (Option T) E)
deriving DecidableEq

/-- The outcomes that reach the caller, with the indices of the promises. -/
def Report.delivers : Report T E → List (ℕ × Outcome T E)
  | .returned results => results.filterMap fun (index, value) =>
      value.map fun value => (index, .value value)
  | .threw index (.rethrown exception) => [(index, .exception exception)]
  | .threw _ (.returned _) | .threw _ (.thrown _) => []

/-- The loop of `waitAny` over the ready promises. -/
def collect : List ℕ → List (Member T E) → List (ℕ × Option T) → Report T E × List (Member T E)
  | [], members, results => (.returned results, members)
  | index :: rest, members, results =>
      match members[index]? with
      | some member =>
          let (obtained, member) := member.unwrap
          let members := members.set index member
          match obtained with
          | .returned value => collect rest members (results ++ [(index, value)])
          | .rethrown exception => (.threw index (.rethrown exception), members)
          | .thrown exception => (.threw index (.thrown exception), members)
      | none => collect rest members results

/-- A sequence of calls of `waitAny` with the same promises. -/
structure State (T E : Type) where
  /-- The `co_await` of the current call, or of the next one. -/
  select : Select.State T E
  /-- How the producers have ended. -/
  outcomes : ℕ → Option (Outcome T E) := fun _ => none
  /-- What the calls have ended with. -/
  reports : List (Report T E) := []

namespace State

variable (state : State T E)

/-- The outcomes that have reached the caller. -/
def delivered : List (ℕ × Outcome T E) :=
  state.reports.flatMap Report.delivers

/-- The promises that have been reported. -/
def reported : List ℕ :=
  state.delivered.map Prod.fst

/-- `waitAny` behind its `co_await`, if that has ended. The next call uses a new `SelectSet`. -/
def settle : State T E :=
  if state.select.phase = .completed then
    let (report, members) := collect state.select.result state.select.members []
    { state with
      select := state.select.restart members
      reports := state.reports ++ [report] }
  else
    state

end State

/-- What the caller, the producers and the scheduler can do next. -/
inductive Action (T E : Type) where
  | call
  | resolve (index : ℕ) (outcome : Outcome T E)
  /-- A turn of `Scheduler::runAll`. -/
  | resumeNext
  /-- A coroutine does something that does not involve the promises. -/
  | other (action : Runtime.Action)

namespace Action

/-- The caller stops when every promise has been reported. -/
def Enabled (state : State T E) : Action T E → Prop
  | .call => (Select.Action.select : Select.Action T E).Enabled state.select ∧
      ∃ index < state.select.members.length, index ∉ state.reported
  | .resolve index outcome => (Select.Action.resolve index outcome).Enabled state.select
  | .resumeNext => True
  | .other action => action.Enabled state.select.runtime

/-- The state after an action. -/
def perform (state : State T E) : Action T E → State T E
  | .call => ({ state with select := state.select.select } : State T E).settle
  | .resolve index outcome =>
      { state with
        select := state.select.resolve index outcome
        outcomes := Function.update state.outcomes index (some outcome) }
  | .resumeNext => ({ state with select := state.select.resumeNext } : State T E).settle
  | .other action =>
      { state with
        select := { state.select with runtime := action.perform state.select.runtime } }

end Action

/-- All programs that call `waitAny` repeatedly with one family of promises. -/
def system (T E : Type) : TransitionSystem (State T E) (Action T E) where
  Initial state := ∃ selector count,
    state = { select := { selector, members := List.replicate count (.typed {}) } }
  Enabled state action := action.Enabled state
  perform state action := action.perform state

namespace State

/-- The action makes the current call look at its promises. -/
def Collects (state : State T E) : Action T E → Prop
  | .call => True
  | .resumeNext => state.select.phase = .suspended ∧
      state.select.runtime.getNext.1 = some state.select.selector
  | .resolve .. | .other _ => False

/-- A call finds a failed promise only if all others have been reported. -/
def FailureIsLast (state : State T E) (action : Action T E) : Prop :=
  state.Collects action → ∀ (index : ℕ) (core : PromiseCore T E) exception,
    state.select.members[index]? = some (.typed core) → core.slot = some (.exception exception) →
    ∀ other < state.select.members.length, other ≠ index → other ∈ state.reported

end State

/-! ## Unwrapping the ready promises -/

section Collect

variable {members : List (Member T E)}

theorem ready_iff_of_profile {member : Member T E} {finished : Bool}
    {slot : Option (Outcome T E)} (profile_eq : member.profile = (true, finished, slot)) :
    member.ready = slot.isSome := by
  cases member with
  | typed core =>
      simp only [Member.profile, Prod.mk.injEq] at profile_eq
      rw [← profile_eq.2.2]
      rfl
  | void core => simp [Member.profile] at profile_eq

theorem exists_core_of_profile {member : Member T E} {finished : Bool}
    {slot : Option (Outcome T E)} (profile_eq : member.profile = (true, finished, slot)) :
    ∃ core, member = .typed core ∧ core.slot = slot ∧ (core.state == .finished) = finished := by
  cases member with
  | typed core =>
      simp only [Member.profile, Prod.mk.injEq, true_and] at profile_eq
      exact ⟨core, rfl, profile_eq.2, profile_eq.1⟩
  | void core => simp [Member.profile] at profile_eq

/-- What unwrapping a value leaves of a promise. -/
def emptied : Member T E → Member T E
  | .typed core => .typed { core with slot := none }
  | .void core => .void core

theorem unwrap_of_value {core : PromiseCore T E} {value : T}
    (slot_eq : core.slot = some (.value value)) :
    (Member.typed core).unwrap = (.returned (some value), emptied (.typed core)) := by
  simp [Member.unwrap, PromiseCore.unwrap, slot_eq, emptied]

/-- If all ready promises have values, the call returns them all and empties the promises. -/
theorem collect_values {ready : List ℕ} (results : List (ℕ × Option T)) (once : ready.Nodup)
    (all_values : ∀ index ∈ ready, ∃ core value, members[index]? = some (.typed core) ∧
      core.slot = some (.value value)) :
    ∃ values : List (ℕ × T), values.map Prod.fst = ready ∧
      (∀ entry ∈ values, ∃ core, members[entry.1]? = some (.typed core) ∧
        core.slot = some (.value entry.2)) ∧
      (collect ready members results).1 =
        .returned (results ++ values.map fun entry => (entry.1, some entry.2)) ∧
      ∀ index, (collect ready members results).2[index]? =
        if index ∈ ready then members[index]?.map emptied else members[index]? := by
  induction ready generalizing members results with
  | nil => exact ⟨[], rfl, by simp, by simp [collect], by simp [collect]⟩
  | cons index rest ih =>
      rw [List.nodup_cons] at once
      rcases all_values index List.mem_cons_self with ⟨core, value, at_index, slot_eq⟩
      -- The other promises are not touched when this one is unwrapped.
      have others : ∀ other ∈ rest, (members.set index (emptied (.typed core)))[other]? =
          members[other]? := by
        intro other other_mem
        have differs : index ≠ other := fun same => once.1 (same ▸ other_mem)
        exact List.getElem?_set_ne differs
      have rest_values : ∀ other ∈ rest, ∃ core' value',
          (members.set index (emptied (.typed core)))[other]? = some (.typed core') ∧
            core'.slot = some (.value value') := by
        intro other other_mem
        rw [others other other_mem]
        exact all_values other (List.mem_cons_of_mem _ other_mem)
      rcases ih (results ++ [(index, some value)]) once.2 rest_values with
        ⟨values, indices_eq, values_eq, report_eq, members_eq⟩
      have unfolded : collect (index :: rest) members results =
          collect rest (members.set index (emptied (.typed core)))
            (results ++ [(index, some value)]) := by
        simp [collect, at_index, unwrap_of_value slot_eq]
      refine ⟨(index, value) :: values, by simp [indices_eq], ?_, ?_, ?_⟩
      · intro entry entry_mem
        rcases List.mem_cons.mp entry_mem with rfl | older
        · exact ⟨core, at_index, slot_eq⟩
        · have entry_rest : entry.1 ∈ rest := indices_eq ▸ List.mem_map_of_mem older
          rw [← others entry.1 entry_rest]
          exact values_eq entry older
      · rw [unfolded, report_eq]
        simp
      · intro other
        rw [unfolded, members_eq other]
        by_cases same : other = index
        · subst same
          have in_range := (List.getElem?_eq_some_iff.mp at_index).1
          rw [if_neg once.1, if_pos List.mem_cons_self, at_index, List.getElem?_set_self in_range]
          rfl
        · have differs : index ≠ other := Ne.symm same
          simp [same, List.getElem?_set_ne differs]

theorem collect_length (ready : List ℕ) (members : List (Member T E))
    (results : List (ℕ × Option T)) :
    (collect ready members results).2.length = members.length := by
  induction ready generalizing members results with
  | nil => rfl
  | cons index rest ih =>
      unfold collect
      split
      · dsimp only
        split
        · rw [ih, List.length_set]
        · exact List.length_set
        · exact List.length_set
      · exact ih members results

theorem emptied_valid {member : Member T E} (valid : member.Valid) : (emptied member).Valid := by
  cases member with
  | typed core =>
      refine ⟨?_, fun _ => rfl, valid.waiting_iff⟩
      rw [emptied, Member.awaitReady_typed]
      rfl
  | void core => exact valid

theorem unwrap_keeps (member : Member T E) :
    member.unwrap.2.state = member.state ∧ (member.Valid → member.unwrap.2.Valid) := by
  cases member with
  | typed core =>
      rcases slot_eq : core.slot with _ | value | exception
      · simp [Member.unwrap, PromiseCore.unwrap, slot_eq]
      · rw [unwrap_of_value slot_eq]
        exact ⟨rfl, emptied_valid⟩
      · simp [Member.unwrap, PromiseCore.unwrap, slot_eq]
  | void core =>
      unfold Member.unwrap
      dsimp only
      split <;> exact ⟨rfl, id⟩

theorem set_unwrap_keeps {index other : ℕ} {member after : Member T E}
    (at_other : members[other]? = some member)
    (at_index : (members.set other member.unwrap.2)[index]? = some after) :
    ∃ before, members[index]? = some before ∧ after.state = before.state ∧
      (before.Valid → after.Valid) := by
  by_cases same : other = index
  · subst same
    rw [List.getElem?_set_self (List.getElem?_eq_some_iff.mp at_other).1] at at_index
    obtain rfl := Option.some.inj at_index
    exact ⟨member, at_other, unwrap_keeps member⟩
  · rw [List.getElem?_set_ne same] at at_index
    exact ⟨after, at_index, rfl, id⟩

/-- A call changes nothing but the slots of the promises. -/
theorem collect_keeps {ready : List ℕ} {results : List (ℕ × Option T)} {index : ℕ}
    {after : Member T E} (at_index : (collect ready members results).2[index]? = some after) :
    ∃ before, members[index]? = some before ∧ after.state = before.state ∧
      (before.Valid → after.Valid) := by
  induction ready generalizing members results with
  | nil => exact ⟨after, at_index, rfl, id⟩
  | cons other rest ih =>
      unfold collect at at_index
      split at at_index
      · rename_i member at_other
        dsimp only at at_index
        split at at_index
        · rcases ih at_index with ⟨between, at_between, state_eq, valid⟩
          rcases set_unwrap_keeps at_other at_between with
            ⟨before, at_before, same_state, still_valid⟩
          exact ⟨before, at_before, state_eq.trans same_state,
            fun start => valid (still_valid start)⟩
        · exact set_unwrap_keeps at_other at_index
        · exact set_unwrap_keeps at_other at_index
      · exact ih at_index

theorem collect_idle {ready : List ℕ} {results : List (ℕ × Option T)}
    (idle : ∀ member ∈ members, member.Valid ∧ member.state ≠ .waitedOn) :
    ∀ member ∈ (collect ready members results).2, member.Valid ∧ member.state ≠ .waitedOn := by
  intro member member_mem
  rcases List.mem_iff_getElem?.mp member_mem with ⟨index, at_index⟩
  rcases collect_keeps at_index with ⟨before, at_before, state_eq, valid⟩
  rcases idle before (List.mem_of_getElem? at_before) with ⟨before_valid, not_waited⟩
  exact ⟨valid before_valid, state_eq ▸ not_waited⟩

/-- A failed promise that is the only ready one makes the call throw, and is left as it is. -/
theorem collect_failure {index : ℕ} {core : PromiseCore T E} {exception : E}
    (at_index : members[index]? = some (.typed core))
    (slot_eq : core.slot = some (.exception exception)) :
    collect [index] members [] = (.threw index (.rethrown exception), members) := by
  have unwrapped : (Member.typed core).unwrap = (.rethrown exception, .typed core) := by
    simp [Member.unwrap, PromiseCore.unwrap, slot_eq]
  have kept : members.set index (.typed core) = members := by
    rcases List.getElem?_eq_some_iff.mp at_index with ⟨in_range, same⟩
    rw [← same, List.set_getElem_self]
  simp [collect, at_index, unwrapped, kept]

theorem delivers_values (values : List (ℕ × T)) :
    (Report.returned (values.map fun entry => (entry.1, some entry.2)) : Report T E).delivers =
      values.map fun entry => (entry.1, .value entry.2) := by
  simp only [Report.delivers, List.filterMap_map]
  exact congrFun List.filterMap_eq_map values

end Collect

/-! ## The invariant -/

/-- The profiles of the promises, how their producers ended, and what was delivered. A promise
that was not reported holds its outcome. A promise that was reported is empty, unless nothing is
left to be reported. -/
structure Accounted (profiles : List (Bool × Bool × Option (Outcome T E)))
    (outcomes : ℕ → Option (Outcome T E)) (delivered : List (ℕ × Outcome T E)) : Prop where
  known : ∀ index outcome, outcomes index = some outcome → index < profiles.length
  member : ∀ index typed finished slot, profiles[index]? = some (typed, finished, slot) →
    typed = true ∧ finished = (outcomes index).isSome ∧
      (index ∉ delivered.map Prod.fst → slot = outcomes index) ∧
      (index ∈ delivered.map Prod.fst →
        slot = none ∨ ∀ other < profiles.length, other ∈ delivered.map Prod.fst)
  genuine : ∀ index outcome, (index, outcome) ∈ delivered → outcomes index = some outcome
  once : (delivered.map Prod.fst).Nodup

namespace Accounted

variable {profiles : List (Bool × Bool × Option (Outcome T E))}
  {outcomes : ℕ → Option (Outcome T E)} {delivered : List (ℕ × Outcome T E)}

theorem resolve (accounted : Accounted profiles outcomes delivered) {index : ℕ}
    (in_range : index < profiles.length) (unresolved : outcomes index = none)
    (outcome : Outcome T E) :
    Accounted (profiles.set index (true, true, some outcome))
      (Function.update outcomes index (some outcome)) delivered := by
  have not_delivered : index ∉ delivered.map Prod.fst := by
    intro reported
    rcases List.mem_map.mp reported with ⟨entry, entry_mem, rfl⟩
    have resolved := accounted.genuine entry.1 entry.2 entry_mem
    simp [unresolved] at resolved
  constructor
  · intro other result result_eq
    rw [List.length_set]
    by_cases same : other = index
    · rw [same]
      exact in_range
    · rw [Function.update_of_ne same] at result_eq
      exact accounted.known other result result_eq
  · intro other typed finished slot at_other
    rw [List.length_set]
    by_cases same : other = index
    · subst same
      rw [List.getElem?_set_self in_range, Option.some.injEq, Prod.mk.injEq,
        Prod.mk.injEq] at at_other
      rcases at_other with ⟨rfl, rfl, rfl⟩
      rw [Function.update_self]
      exact ⟨rfl, rfl, fun _ => rfl, fun reported => absurd reported not_delivered⟩
    · rw [List.getElem?_set_ne (Ne.symm same)] at at_other
      rw [Function.update_of_ne same]
      exact accounted.member other typed finished slot at_other
  · intro other result entry_mem
    have differs : other ≠ index := by
      rintro rfl
      exact not_delivered (List.mem_map_of_mem entry_mem)
    rw [Function.update_of_ne differs]
    exact accounted.genuine other result entry_mem
  · exact accounted.once

/-- A promise that is ready while something is left to be reported was not reported yet. -/
theorem not_reported (accounted : Accounted profiles outcomes delivered)
    (unreported : ∃ other < profiles.length, other ∉ delivered.map Prod.fst) {index : ℕ}
    {typed finished : Bool} {outcome : Outcome T E}
    (at_index : profiles[index]? = some (typed, finished, some outcome)) :
    index ∉ delivered.map Prod.fst ∧ outcomes index = some outcome := by
  rcases accounted.member index typed finished _ at_index with ⟨-, -, kept, taken⟩
  have fresh : index ∉ delivered.map Prod.fst := by
    intro reported
    rcases taken reported with empty | all_reported
    · simp at empty
    · rcases unreported with ⟨other, in_range, not_reported⟩
      exact not_reported (all_reported other in_range)
  exact ⟨fresh, (kept fresh).symm⟩

/-- A call delivers the last outcome, which stays in its promise. -/
theorem deliver_last (accounted : Accounted profiles outcomes delivered) {index : ℕ}
    {outcome : Outcome T E} (fresh : index ∉ delivered.map Prod.fst)
    (outcome_eq : outcomes index = some outcome)
    (last : ∀ other < profiles.length, other ≠ index → other ∈ delivered.map Prod.fst) :
    Accounted profiles outcomes (delivered ++ [(index, outcome)]) := by
  have all_reported : ∀ other < profiles.length,
      other ∈ (delivered ++ [(index, outcome)]).map Prod.fst := by
    intro other in_range
    rw [List.map_append, List.mem_append]
    by_cases same : other = index
    · right
      simp [same]
    · left
      exact last other in_range same
  constructor
  · exact accounted.known
  · intro other typed finished slot at_other
    rcases accounted.member other typed finished slot at_other with ⟨is_typed, is_finished, -, -⟩
    have in_range := (List.getElem?_eq_some_iff.mp at_other).1
    exact ⟨is_typed, is_finished, fun missing => absurd (all_reported other in_range) missing,
      fun _ => .inr all_reported⟩
  · intro other result entry_mem
    rcases List.mem_append.mp entry_mem with older | newest
    · exact accounted.genuine other result older
    · simp only [List.mem_singleton, Prod.mk.injEq] at newest
      rw [newest.1, newest.2]
      exact outcome_eq
  · rw [List.map_append, List.nodup_append]
    refine ⟨accounted.once, by simp, ?_⟩
    rintro other older _ newest rfl
    simp only [List.map_cons, List.map_nil, List.mem_singleton] at newest
    exact fresh (newest ▸ older)

/-- A call delivers outcomes and empties their promises. -/
theorem deliver (accounted : Accounted profiles outcomes delivered)
    {entries : List (ℕ × Outcome T E)} {after : List (Bool × Bool × Option (Outcome T E))}
    (length_eq : after.length = profiles.length) (entries_once : (entries.map Prod.fst).Nodup)
    (fresh : ∀ entry ∈ entries, entry.1 ∉ delivered.map Prod.fst)
    (entries_genuine : ∀ entry ∈ entries, outcomes entry.1 = some entry.2)
    (emptied : ∀ index typed finished slot, after[index]? = some (typed, finished, slot) →
      (index ∈ entries.map Prod.fst ∧ slot = none ∧
        ∃ before, profiles[index]? = some (typed, finished, before)) ∨
      (index ∉ entries.map Prod.fst ∧ profiles[index]? = some (typed, finished, slot))) :
    Accounted after outcomes (delivered ++ entries) := by
  constructor
  · intro index outcome outcome_eq
    rw [length_eq]
    exact accounted.known index outcome outcome_eq
  · intro index typed finished slot at_index
    rw [length_eq, List.map_append, List.mem_append]
    rcases emptied index typed finished slot at_index with ⟨newest, empty, before, at_before⟩ |
      ⟨not_newest, at_before⟩
    · rcases accounted.member index typed finished before at_before with
        ⟨is_typed, is_finished, -, -⟩
      exact ⟨is_typed, is_finished, fun missing => absurd (.inr newest) missing,
        fun _ => .inl empty⟩
    · rcases accounted.member index typed finished slot at_before with
        ⟨is_typed, is_finished, kept, taken⟩
      refine ⟨is_typed, is_finished, fun missing => kept (fun older => missing (.inl older)), ?_⟩
      intro reported
      refine (taken (reported.resolve_right not_newest)).imp id ?_
      exact fun all_reported other in_range => List.mem_append_left _ (all_reported other in_range)
  · intro index outcome entry_mem
    rcases List.mem_append.mp entry_mem with older | newest
    · exact accounted.genuine index outcome older
    · exact entries_genuine (index, outcome) newest
  · rw [List.map_append, List.nodup_append]
    refine ⟨accounted.once, entries_once, ?_⟩
    rintro index older _ newest rfl
    rcases List.mem_map.mp newest with ⟨entry, entry_mem, rfl⟩
    exact fresh entry entry_mem older

end Accounted

namespace State

/-- The kind of each promise, whether its coroutine has ended, and the result it holds. -/
def profiles (state : State T E) : List (Bool × Bool × Option (Outcome T E)) :=
  state.select.members.map Member.profile

/-- What holds in every run whose calls find the promises as they must. -/
structure Invariant (state : State T E) : Prop where
  select : state.select.Invariant
  not_completed : state.select.phase ≠ .completed
  accounted : Accounted state.profiles state.outcomes state.delivered
  unreported : state.select.phase = .suspended →
    ∃ index < state.profiles.length, index ∉ state.reported
  woken : state.select.phase = .suspended → state.select.wakeups ≠ 0 →
    state.select.members.any Member.ready = true
  productive : ∀ report ∈ state.reports, report.delivers ≠ []

theorem mem_readyIndices {members : List (Member T E)} {index : ℕ} :
    index ∈ SelectSet.readyIndices members ↔
      ∃ member, members[index]? = some member ∧ member.ready = true := by
  simp only [SelectSet.readyIndices, List.mem_filter, List.mem_range, Option.any_eq_true]
  constructor
  · exact And.right
  · rintro ⟨member, at_index, ready⟩
    exact ⟨(List.getElem?_eq_some_iff.mp at_index).1, member, at_index, ready⟩

theorem readyIndices_nodup (members : List (Member T E)) :
    (SelectSet.readyIndices members).Nodup :=
  List.nodup_range.filter _

/-- The `co_await` of a call has ended: the promises have not changed since `state` but for
their handles, some are ready, and some were not reported before. -/
structure Ended (state : State T E) (select : Select.State T E) : Prop where
  invariant : select.Invariant
  completed : select.phase = .completed
  profiles_eq : select.members.map Member.profile = state.profiles
  result_eq : select.result = SelectSet.readyIndices state.select.members
  some_ready : state.select.members.any Member.ready = true
  unreported : ∃ index < state.profiles.length, index ∉ state.reported

namespace Ended

variable {state : State T E} {select : Select.State T E}

theorem ready_once (ended : state.Ended select) : select.result.Nodup :=
  ended.result_eq ▸ readyIndices_nodup _

theorem ready_nonempty (ended : state.Ended select) : select.result ≠ [] := by
  rw [ended.result_eq]
  intro empty
  rcases List.any_eq_true.mp ended.some_ready with ⟨member, member_mem, ready⟩
  rcases List.mem_iff_getElem?.mp member_mem with ⟨index, at_index⟩
  have index_ready := mem_readyIndices.mpr ⟨member, at_index, ready⟩
  simp [empty] at index_ready

/-- What is ready holds an outcome that was not reported, before the `co_await` has ended and
afterwards. -/
theorem ready_spec (ended : state.Ended select) (invariant : state.Invariant) {index : ℕ}
    (index_ready : index ∈ select.result) :
    ∃ core before outcome, select.members[index]? = some (.typed core) ∧
      core.slot = some outcome ∧ state.select.members[index]? = some (.typed before) ∧
      before.slot = some outcome ∧ index ∉ state.reported ∧
      state.outcomes index = some outcome := by
  rw [ended.result_eq, mem_readyIndices] at index_ready
  rcases index_ready with ⟨member, at_index, ready⟩
  have at_profile : state.profiles[index]? = some member.profile := by
    simp [profiles, at_index]
  rcases profile_eq : member.profile with ⟨typed, finished, slot⟩
  rw [profile_eq] at at_profile
  obtain ⟨rfl, -, -, -⟩ := invariant.accounted.member index typed finished slot at_profile
  rw [ready_iff_of_profile profile_eq, Option.isSome_iff_exists] at ready
  rcases ready with ⟨outcome, rfl⟩
  rcases invariant.accounted.not_reported ended.unreported at_profile with ⟨fresh, outcome_eq⟩
  rcases exists_core_of_profile profile_eq with ⟨before, rfl, before_slot, -⟩
  have at_selected : (select.members.map Member.profile)[index]? =
      some (true, finished, some outcome) := by
    rw [ended.profiles_eq, at_profile]
  rw [List.getElem?_map, Option.map_eq_some_iff] at at_selected
  rcases at_selected with ⟨selected, selected_at, selected_profile⟩
  rcases exists_core_of_profile selected_profile with ⟨core, rfl, core_slot, -⟩
  exact ⟨core, before, outcome, selected_at, core_slot, at_index, before_slot, fresh, outcome_eq⟩

/-- The invariant after a call, from what it has delivered. -/
theorem settled (ended : state.Ended select) (invariant : state.Invariant)
    {report : Report T E} {members : List (Member T E)}
    (idle : ∀ member ∈ members, member.Valid ∧ member.state ≠ .waitedOn)
    (accounted : Accounted (members.map Member.profile) state.outcomes
      (state.delivered ++ report.delivers))
    (productive : report.delivers ≠ []) :
    ({ state with
      select := select.restart members
      reports := state.reports ++ [report] } : State T E).Invariant := by
  constructor
  · exact ended.invariant.restart ended.completed idle
  · simp [Select.State.restart]
  · have delivered_eq : ({ state with
        select := select.restart members
        reports := state.reports ++ [report] } : State T E).delivered =
          state.delivered ++ report.delivers := by
      simp [delivered]
    rw [delivered_eq]
    exact accounted
  · simp [Select.State.restart]
  · simp [Select.State.restart]
  · intro other other_mem
    rcases List.mem_append.mp other_mem with older | newest
    · exact invariant.productive other older
    · rw [List.mem_singleton.mp newest]
      exact productive

/-- A failed promise is ready and all others have been reported: it is the only ready one. -/
theorem settle_failure (ended : state.Ended select) (invariant : state.Invariant) {index : ℕ}
    (index_ready : index ∈ select.result) {exception : E}
    (failed : state.outcomes index = some (.exception exception))
    (last : ∀ other < state.select.members.length, other ≠ index → other ∈ state.reported) :
    ({ state with select } : State T E).settle.Invariant := by
  rcases ended.ready_spec invariant index_ready with
    ⟨core, -, outcome, at_index, slot_eq, -, -, fresh, outcome_eq⟩
  obtain rfl : outcome = .exception exception := Option.some.inj (outcome_eq.symm.trans failed)
  have only : select.result = [index] := by
    have once := ended.ready_once
    have all_same : ∀ other ∈ select.result, other = index := by
      intro other other_ready
      rcases ended.ready_spec invariant other_ready with
        ⟨-, _, -, -, -, at_other, -, other_fresh, -⟩
      by_contra differs
      exact other_fresh (last other (List.getElem?_eq_some_iff.mp at_other).1 differs)
    match shape : select.result with
    | [] => exact absurd shape ended.ready_nonempty
    | [single] => rw [all_same single (by simp [shape])]
    | first :: second :: rest =>
        have first_eq := all_same first (by simp [shape])
        have second_eq := all_same second (by simp [shape])
        simp [shape, first_eq, second_eq] at once
  have unfolded : ({ state with select } : State T E).settle = { state with
      select := select.restart select.members
      reports := state.reports ++ [.threw index (.rethrown exception)] } := by
    simp [State.settle, ended.completed, only, collect_failure at_index slot_eq]
  rw [unfolded]
  refine ended.settled invariant (fun member => ended.invariant.idle ended.completed) ?_
    (by simp [Report.delivers])
  rw [ended.profiles_eq]
  refine invariant.accounted.deliver_last fresh outcome_eq ?_
  intro other in_range differs
  rw [profiles, List.length_map] at in_range
  exact last other in_range differs

/-- A member that is ready with a value was not reported before, and has not got another outcome. -/
theorem ready_value_spec (ended : state.Ended select) (invariant : state.Invariant) {index : ℕ}
    {value : T} {core : PromiseCore T E} (index_ready : index ∈ select.result)
    (at_index : select.members[index]? = some (.typed core))
    (slot_eq : core.slot = some (.value value)) :
    index ∉ state.reported ∧ state.outcomes index = some (.value value) := by
  rcases ended.ready_spec invariant index_ready with
    ⟨found, -, outcome, found_eq, found_slot, -, -, fresh, outcome_eq⟩
  rw [at_index, Option.some.injEq, Member.typed.injEq] at found_eq
  subst found_eq
  rw [slot_eq, Option.some.injEq] at found_slot
  exact ⟨fresh, found_slot ▸ outcome_eq⟩

/-- All that is ready are values, and all of them are returned. -/
theorem settle_values (ended : state.Ended select) (invariant : state.Invariant)
    (no_failure : ∀ index ∈ select.result, ∀ exception,
      state.outcomes index ≠ some (.exception exception)) :
    ({ state with select } : State T E).settle.Invariant := by
  have all_values : ∀ index ∈ select.result, ∃ core value,
      select.members[index]? = some (.typed core) ∧ core.slot = some (.value value) := by
    intro index index_ready
    rcases ended.ready_spec invariant index_ready with
      ⟨core, -, outcome, at_index, slot_eq, -, -, -, outcome_eq⟩
    cases outcome with
    | value value => exact ⟨core, value, at_index, slot_eq⟩
    | exception exception => exact absurd outcome_eq (no_failure index index_ready exception)
  rcases collect_values [] ended.ready_once all_values with
    ⟨values, indices_eq, values_eq, report_eq, members_eq⟩
  rw [List.nil_append] at report_eq
  have unfolded : ({ state with select } : State T E).settle = { state with
      select := select.restart (collect select.result select.members []).2
      reports := state.reports ++
        [.returned (values.map fun entry => (entry.1, some entry.2))] } := by
    simp [State.settle, ended.completed, report_eq]
  have entries_eq : (values.map fun entry => (entry.1, Outcome.value (E := E) entry.2)).map
      Prod.fst = select.result := by
    rw [List.map_map, ← indices_eq]
    rfl
  have entry_spec : ∀ entry ∈ values, entry.1 ∉ state.reported ∧
      state.outcomes entry.1 = some (.value entry.2) := by
    intro entry entry_mem
    have index_ready : entry.1 ∈ select.result := indices_eq ▸ List.mem_map_of_mem entry_mem
    rcases values_eq entry entry_mem with ⟨core, at_index, slot_eq⟩
    exact ended.ready_value_spec invariant index_ready at_index slot_eq
  rw [unfolded]
  apply ended.settled invariant
  · exact collect_idle fun member => ended.invariant.idle ended.completed
  · rw [delivers_values]
    apply invariant.accounted.deliver
    · rw [← ended.profiles_eq, List.length_map, List.length_map, collect_length]
    · rw [entries_eq]
      exact ended.ready_once
    · intro entry entry_mem
      rcases List.mem_map.mp entry_mem with ⟨value, value_mem, rfl⟩
      exact (entry_spec value value_mem).1
    · intro entry entry_mem
      rcases List.mem_map.mp entry_mem with ⟨value, value_mem, rfl⟩
      exact (entry_spec value value_mem).2
    · intro index typed finished slot at_index
      rw [entries_eq, ← ended.profiles_eq]
      rw [List.getElem?_map, members_eq index] at at_index
      by_cases index_ready : index ∈ select.result
      · left
        rcases all_values index index_ready with ⟨core, value, at_core, slot_eq⟩
        simp only [index_ready, if_true, at_core, Option.map_some, emptied, Member.profile,
          Option.some.injEq, Prod.mk.injEq] at at_index
        rcases at_index with ⟨rfl, rfl, rfl⟩
        exact ⟨index_ready, rfl, core.slot, by simp [at_core, Member.profile]⟩
      · right
        rw [if_neg index_ready] at at_index
        exact ⟨index_ready, by rw [List.getElem?_map, at_index]⟩
  · rw [delivers_values]
    intro empty
    apply ended.ready_nonempty
    rw [← indices_eq, List.map_eq_nil_iff.mp empty, List.map_nil]

theorem settle (ended : state.Ended select) (invariant : state.Invariant)
    (last : ∀ (index : ℕ) (core : PromiseCore T E) exception,
      state.select.members[index]? = some (.typed core) →
      core.slot = some (.exception exception) →
      ∀ other < state.select.members.length, other ≠ index → other ∈ state.reported) :
    ({ state with select } : State T E).settle.Invariant := by
  by_cases failure : ∃ index ∈ select.result, ∃ exception,
      state.outcomes index = some (.exception exception)
  · rcases failure with ⟨index, index_ready, exception, failed⟩
    rcases ended.ready_spec invariant index_ready with
      ⟨-, before, outcome, -, -, at_before, before_slot, -, outcome_eq⟩
    obtain rfl : outcome = .exception exception := Option.some.inj (outcome_eq.symm.trans failed)
    exact ended.settle_failure invariant index_ready failed
      (last index before exception at_before before_slot)
  · apply ended.settle_values invariant
    intro index index_ready exception failed
    exact failure ⟨index, index_ready, exception, failed⟩

end Ended

namespace Invariant

variable {state : State T E}

/-- Nothing but the scheduler and the handles in the promises has changed. -/
theorem setSelect (invariant : state.Invariant) {select : Select.State T E}
    (select_invariant : select.Invariant) (not_completed : select.phase ≠ .completed)
    (profiles_eq : select.members.map Member.profile = state.profiles)
    (unreported : select.phase = .suspended →
      ∃ index < state.profiles.length, index ∉ state.reported)
    (woken : select.phase = .suspended → select.wakeups ≠ 0 →
      select.members.any Member.ready = true) :
    ({ state with select } : State T E).Invariant where
  select := select_invariant
  not_completed := not_completed
  accounted := by
    rw [profiles, profiles_eq]
    exact invariant.accounted
  unreported := by
    rw [profiles, profiles_eq]
    exact unreported
  woken := woken
  productive := invariant.productive

theorem call (invariant : state.Invariant) (enabled : (Action.call : Action T E).Enabled state)
    (allowed : state.FailureIsLast .call) : (Action.perform state .call).Invariant := by
  rcases enabled with ⟨enabled, index, in_range, fresh⟩
  have unreported : ∃ index < state.profiles.length, index ∉ state.reported := by
    refine ⟨index, ?_, fresh⟩
    rw [profiles, List.length_map]
    exact in_range
  have select_invariant := invariant.select.select enabled
  rcases invariant.select.select_cases enabled with ⟨some_ready, unfolded⟩ |
    ⟨registered, registered_invariant, suspended, -, -, no_wakeups, profiles_eq, not_queued, -,
      unfolded⟩
  · refine Ended.settle ⟨select_invariant, ?_, ?_, ?_, some_ready, unreported⟩ invariant
      (allowed trivial)
    · rw [unfolded, Select.State.finish_eq]
    · rw [unfolded, Select.State.finish_eq]
      exact SelectSet.checked_profile _
    · rw [unfolded, Select.State.finish_eq]
  · rcases registered_invariant.resumeNext_cases with ⟨-, -, queued, -⟩ | ⟨runtime, resumed_eq, -⟩
    · simp [not_queued] at queued
    · rw [unfolded, resumed_eq] at select_invariant
      have after_eq : Action.perform state .call =
          { state with select := { registered with runtime } } := by
        simp [Action.perform, State.settle, unfolded, resumed_eq, suspended]
      rw [after_eq]
      exact invariant.setSelect select_invariant (by simp [suspended]) profiles_eq
        (fun _ => unreported) (fun _ wakeups => absurd no_wakeups wakeups)

theorem resumeNext (invariant : state.Invariant) (allowed : state.FailureIsLast .resumeNext) :
    (Action.perform state .resumeNext).Invariant := by
  have select_invariant := invariant.select.resumeNext
  rcases invariant.select.resumeNext_cases with
    ⟨suspended, next_eq, queued, completed, -, -, result_eq, members_eq⟩ | ⟨runtime, resumed_eq, -⟩
  · have woken : state.select.wakeups ≠ 0 := by
      cases invariant.select.progress with
      | before phase_eq | completed phase_eq | destroyed phase_eq => simp [suspended] at phase_eq
      | suspended _ _ _ _ wakeups => omega
    refine Ended.settle ⟨select_invariant, completed, ?_, result_eq,
      invariant.woken suspended woken, invariant.unreported suspended⟩ invariant
      (allowed ⟨suspended, next_eq⟩)
    rw [members_eq]
    exact SelectSet.checked_profile _
  · rw [resumed_eq] at select_invariant
    have after_eq : Action.perform state .resumeNext =
        { state with select := { state.select with runtime } } := by
      simp [Action.perform, State.settle, resumed_eq, invariant.not_completed]
    rw [after_eq]
    exact invariant.setSelect select_invariant invariant.not_completed rfl invariant.unreported
      invariant.woken

theorem resolve (invariant : state.Invariant) {index : ℕ} {outcome : Outcome T E}
    (enabled : (Action.resolve index outcome).Enabled state) :
    (Action.perform state (.resolve index outcome)).Invariant := by
  have select_invariant : (state.select.resolve index outcome).Invariant :=
    invariant.select.resolve enabled
  rcases enabled with ⟨member, at_index, unfinished⟩
  have in_range : index < state.profiles.length := by
    rw [profiles, List.length_map]
    exact (List.getElem?_eq_some_iff.mp at_index).1
  have at_profile : state.profiles[index]? = some member.profile := by
    simp [profiles, at_index]
  rcases profile_eq : member.profile with ⟨typed, finished, slot⟩
  rw [profile_eq] at at_profile
  obtain ⟨rfl, finished_eq, -, -⟩ :=
    invariant.accounted.member index typed finished slot at_profile
  rcases exists_core_of_profile profile_eq with ⟨core, rfl, -, core_finished⟩
  have unresolved : state.outcomes index = none := by
    rw [← Option.not_isSome_iff_eq_none, ← finished_eq, ← core_finished]
    simpa [Member.state] using unfinished
  have empty : core.slot = none := by
    have not_ready := (invariant.select.valid _ (List.mem_of_getElem? at_index)).unresolved
      unfinished
    simpa [Member.ready, PromiseCore.ready] using not_ready
  have members_eq : (state.select.resolve index outcome).members = state.select.members.set index
      (.typed { core with slot := some outcome, waitingHandle := none, state := .finished }) := by
    simp [Select.State.resolve, at_index, Member.resolve_typed core _ outcome empty]
  have phase_eq : (state.select.resolve index outcome).phase = state.select.phase := by
    simp [Select.State.resolve, at_index]
  have profiles_eq : (Action.perform state (.resolve index outcome)).profiles =
      state.profiles.set index (true, true, some outcome) := by
    rw [profiles]
    change (state.select.resolve index outcome).members.map Member.profile = _
    rw [members_eq, List.map_set]
    rfl
  constructor
  · exact select_invariant
  · change (state.select.resolve index outcome).phase ≠ .completed
    rw [phase_eq]
    exact invariant.not_completed
  · rw [profiles_eq]
    exact invariant.accounted.resolve in_range unresolved outcome
  · intro suspended
    rw [profiles_eq, List.length_set]
    exact invariant.unreported (phase_eq ▸ suspended)
  · intro _ _
    change (state.select.resolve index outcome).members.any Member.ready = true
    rw [members_eq, List.any_eq_true]
    have in_members := (List.getElem?_eq_some_iff.mp at_index).1
    exact ⟨_, List.mem_iff_getElem?.mpr ⟨index, List.getElem?_set_self in_members⟩, rfl⟩
  · exact invariant.productive

theorem step (invariant : state.Invariant) {action : Action T E} (enabled : action.Enabled state)
    (allowed : state.FailureIsLast action) : (action.perform state).Invariant := by
  cases action with
  | call => exact invariant.call enabled allowed
  | resolve index outcome => exact invariant.resolve enabled
  | resumeNext => exact invariant.resumeNext allowed
  | other action =>
      have enabled_select : (Select.Action.other action : Select.Action T E).Enabled state.select :=
        enabled
      exact invariant.setSelect (invariant.select.step enabled_select) invariant.not_completed rfl
        invariant.unreported invariant.woken

theorem initially (selector : Handle) (count : ℕ) :
    ({ select := { selector, members := List.replicate count (.typed {}) } } :
      State T E).Invariant := by
  have select_invariant := Select.State.invariant_of_reachable (.start ⟨selector,
    List.replicate count (.typed {}), fun member member_mem => by
      rw [List.eq_of_mem_replicate member_mem]
      exact ⟨Member.valid_typed, by simp [Member.state]⟩, rfl⟩ :
    (Select.system T E).Reachable { selector, members := List.replicate count (.typed {}) })
  constructor
  · exact select_invariant
  · simp
  · constructor
    · simp
    · intro index typed finished slot at_index
      simp only [profiles, List.map_replicate, List.getElem?_replicate] at at_index
      split at at_index
      · simp only [Member.profile, Option.some.injEq, Prod.mk.injEq] at at_index
        rcases at_index with ⟨rfl, rfl, rfl⟩
        simp [delivered]
      · simp at at_index
    · simp [delivered]
    · simp [delivered]
  · simp
  · simp
  · simp

end Invariant

end State

end Uvco.WaitAny
