import Uvco.Promise.Member

/-!
# `SelectSet`

This file embeds `uvco/promise/select.h`. A `SelectSet` refers to promises that
live elsewhere, so its operations take the cores of these promises, in the order
of the set, and return what they leave of them. The tuple of promise pointers is
the list of the cores; the promises are distinct.

`co_await` on a set that does not suspend is followed by the destructor of the
set, which in the usual form `co_await SelectSet{...}` is a temporary.
-/

namespace Uvco

variable {T E : Type}

/-- The members of `class SelectSet` apart from the promises. -/
structure SelectSet where
  /-- `suspended_`: the coroutine that awaits the set. -/
  suspended : Option Handle := none
  resumed : Bool := false
deriving DecidableEq, Repr

namespace SelectSet

variable (members : List (Member T E)) (set : SelectSet)

/-- `await_ready`; if it is true, the set counts as resumed. -/
def awaitReady : Bool × SelectSet :=
  let isReady := members.any Member.ready
  (isReady, { set with resumed := set.resumed || isReady })

/-- The fold of `await_suspend`. If `setHandle` throws, the members before it stay registered and
those after it are not visited. -/
def register (handle : Handle) : List (Member T E) → List (Member T E) × Option UvcoException
  | [] => ([], none)
  | member :: rest =>
      if member.stale then
        let (rest, thrown) := register handle rest
        (member :: rest, thrown)
      else
        match member.setHandle handle with
        | .ok member =>
            let (rest, thrown) := register handle rest
            (member :: rest, thrown)
        | .error exception => (member :: rest, some exception)

/-- `await_suspend` up to `Loop::getNext()`. -/
def awaitSuspend (handle : Handle) : List (Member T E) × SelectSet × Option UvcoException :=
  match register handle members with
  | (members, none) => (members, { set with suspended := some handle }, none)
  | (members, some exception) => (members, set, some exception)

/-- `checkPromises<Ix>`: the indices of the ready promises; the others are reset. -/
def checkPromises (index : ℕ) : List (Member T E) → List ℕ × List (Member T E)
  | [] => ([], [])
  | member :: rest =>
      let (ready, rest) := checkPromises (index + 1) rest
      if member.ready then (index :: ready, member :: rest)
      else (ready, member.resetHandle :: rest)

/-- `await_resume`: the ready promises, and the others are left alone. -/
def awaitResume (loop : Loop) : List ℕ × List (Member T E) × SelectSet × Loop :=
  let set := { set with resumed := true }
  let (ready, members) := checkPromises 0 members
  match set.suspended with
  | some suspended => (ready, members, { set with suspended := none }, loop.cancel suspended)
  | none => (ready, members, set, loop)

/-- `~SelectSet`. -/
def destroy : List (Member T E) :=
  if !set.resumed then members.map Member.resetHandle else members

/-- How `co_await` on a set ends or suspends, with what it leaves of the cores. -/
inductive Attempt (T E : Type) where
  | returned (ready : List ℕ) (members : List (Member T E))
  | threw (exception : UvcoException) (members : List (Member T E))
  | suspended (members : List (Member T E)) (set : SelectSet)

/-- The cores after the attempt. -/
def Attempt.cores : Attempt T E → List (Member T E)
  | .returned _ cores | .threw _ cores | .suspended cores _ => cores

/-- `co_await SelectSet{...}` up to the suspension, or including the destruction of the set. The
scheduler is not involved as long as nothing is suspended. -/
def coAwait (handle : Handle) : Attempt T E :=
  let (isReady, set) := awaitReady members {}
  if isReady then
    let (ready, members, set, _) := awaitResume members set {}
    .returned ready (destroy members set)
  else
    match awaitSuspend members set handle with
    | (members, set, none) => .suspended members set
    | (members, set, some exception) => .threw exception (destroy members set)

/-! ## What the operations do -/

/-- The indices of the promises whose result is available. -/
def readyIndices : List ℕ :=
  (List.range members.length).filter fun index => (members[index]?).any Member.ready

variable {members set}

theorem readyIndices_cons (member : Member T E) (rest : List (Member T E)) :
    readyIndices (member :: rest) =
      (if member.ready then [0] else []) ++ (readyIndices rest).map (· + 1) := by
  unfold readyIndices
  rw [List.length_cons, List.range_succ_eq_map, List.filter_cons]
  have shifted : ((List.range rest.length).map Nat.succ).filter
      (fun index => ((member :: rest)[index]?).any Member.ready) =
        ((List.range rest.length).filter fun index => (rest[index]?).any Member.ready).map
          (· + 1) := by
    rw [List.filter_map]
    congr 1
  rw [shifted]
  cases ready : member.ready <;> simp [ready]

theorem checkPromises_eq (index : ℕ) (members : List (Member T E)) :
    checkPromises index members = ((readyIndices members).map (· + index),
      members.map fun member => if member.ready then member else member.resetHandle) := by
  induction members generalizing index with
  | nil => rfl
  | cons member rest ih =>
      have shift : ∀ indices : List ℕ, indices.map (· + (index + 1)) =
          (indices.map (· + 1)).map (· + index) := by
        intro indices
        rw [List.map_map]
        apply List.map_congr_left
        intro entry _
        simp only [Function.comp_apply]
        omega
      rw [checkPromises, ih, readyIndices_cons, List.map_append, shift]
      cases ready : member.ready <;> simp [ready]

theorem awaitResume_eq (members : List (Member T E)) (set : SelectSet) (loop : Loop) :
    awaitResume members set loop = (readyIndices members,
      members.map fun member => if member.ready then member else member.resetHandle,
      { suspended := none, resumed := true },
      match set.suspended with
        | some suspended => loop.cancel suspended
        | none => loop) := by
  rw [awaitResume, checkPromises_eq]
  cases set.suspended <;> simp

/-- Members that nobody waits for, none of them ready, are all registered or stale. -/
theorem register_of_idle {members : List (Member T E)} (handle : Handle)
    (idle : ∀ member ∈ members, member.Valid ∧ member.state ≠ .waitedOn ∧ member.ready = false) :
    ∃ registered, register handle members = (registered, none) ∧
      ∀ member ∈ registered, member.Valid ∧
        (member.state = .finished ∨ member.waitingHandle = some handle) := by
  induction members with
  | nil => exact ⟨[], rfl, by simp⟩
  | cons member rest ih =>
      rcases ih (fun other other_mem => idle other (List.mem_cons_of_mem _ other_mem)) with
        ⟨registered, rest_eq, rest_registered⟩
      rcases idle member List.mem_cons_self with ⟨valid, not_waited, not_ready⟩
      by_cases finished : member.state = .finished
      · have stale : member.stale = true := valid.stale_iff.mpr ⟨finished, not_ready⟩
        refine ⟨member :: registered, by simp [register, stale, rest_eq], ?_⟩
        intro other other_mem
        rcases List.mem_cons.mp other_mem with rfl | older
        · exact ⟨valid, .inl finished⟩
        · exact rest_registered other older
      · have not_stale := Member.stale_of_not_finished finished
        have is_init : member.state = .init := by
          cases state_eq : member.state <;> simp_all
        rcases valid.setHandle handle is_init with ⟨set, set_eq, set_valid, waiting, -⟩
        refine ⟨set :: registered, by simp [register, not_stale, set_eq, rest_eq], ?_⟩
        intro other other_mem
        rcases List.mem_cons.mp other_mem with rfl | older
        · exact ⟨set_valid, .inr waiting⟩
        · exact rest_registered other older

theorem register_profile (handle : Handle) (members : List (Member T E)) :
    (register handle members).1.map Member.profile = members.map Member.profile := by
  induction members with
  | nil => rfl
  | cons member rest ih =>
      by_cases stale : member.stale = true
      · simp [register, stale, ih]
      · cases set_eq : member.setHandle handle with
        | ok registered =>
            simp [register, stale, set_eq, ih, Member.profile_setHandle set_eq]
        | error exception => simp [register, stale, set_eq]

theorem checked_profile (members : List (Member T E)) :
    (members.map fun member => if member.ready then member else member.resetHandle).map
      Member.profile = members.map Member.profile := by
  rw [List.map_map]
  apply List.map_congr_left
  intro member _
  by_cases ready : member.ready = true
  · simp [ready]
  · simp [ready, Member.profile_resetHandle]

/-! ## Members that somebody else waits for -/

/-- A member that somebody waits for makes `await_suspend` throw, wherever it stands, and is not
touched by it. -/
theorem register_of_awaited {members : List (Member T E)} {member : Member T E} {index : ℕ}
    (handle : Handle) (at_index : members[index]? = some member)
    (waited : member.state = .waitedOn) :
    ∃ registered exception, register handle members = (registered, some exception) ∧
      registered[index]? = some member := by
  induction members generalizing index with
  | nil => simp at at_index
  | cons first rest ih =>
      cases index with
      | zero =>
          obtain rfl : first = member := by simpa using at_index
          have not_stale : first.stale = false := Member.stale_of_not_finished (by simp [waited])
          have rejected : first.setHandle handle = .error alreadyAwaited :=
            Member.setHandle_of_not_init handle (by simp [waited])
          exact ⟨first :: rest, alreadyAwaited, by simp [register, not_stale, rejected], rfl⟩
      | succ index =>
          rw [List.getElem?_cons_succ] at at_index
          rcases ih at_index with ⟨registered, exception, rest_eq, kept⟩
          by_cases stale : first.stale = true
          · exact ⟨first :: registered, exception, by simp [register, stale, rest_eq], kept⟩
          · cases set_eq : first.setHandle handle with
            | ok set => exact ⟨set :: registered, exception,
                by simp [register, stale, set_eq, rest_eq], kept⟩
            | error thrown => exact ⟨first :: rest, thrown,
                by simp [register, stale, set_eq], at_index⟩

/-- Whether the set has a ready member or `setHandle` rejects the awaited one, `co_await` does not
suspend, and leaves the awaited member without its waiter. -/
theorem coAwait_of_awaited {members : List (Member T E)} {member : Member T E} {index : ℕ}
    (handle : Handle) (at_index : members[index]? = some member)
    (waited : member.state = .waitedOn) (not_ready : member.ready = false) :
    ((∃ ready cores, coAwait members handle = .returned ready cores) ∨
        ∃ exception cores, coAwait members handle = .threw exception cores) ∧
      (coAwait members handle).cores[index]? = some member.resetHandle := by
  by_cases any_ready : members.any Member.ready = true
  · have returned : coAwait members handle = .returned (readyIndices members)
        (members.map fun other => if other.ready then other else other.resetHandle) := by
      simp [coAwait, awaitReady, any_ready, awaitResume_eq, destroy]
    refine ⟨.inl ⟨_, _, returned⟩, ?_⟩
    simp [returned, Attempt.cores, at_index, not_ready]
  · rcases register_of_awaited handle at_index waited with
      ⟨registered, exception, register_eq, kept⟩
    have threw : coAwait members handle =
        .threw exception (registered.map Member.resetHandle) := by
      simp [coAwait, awaitReady, any_ready, awaitSuspend, register_eq, destroy]
    refine ⟨.inr ⟨_, _, threw⟩, ?_⟩
    simp [threw, Attempt.cores, kept]

/-- No `co_await` on a set leaves a member alone that somebody else waits for: it ends at once, the
waiter is removed, and the end of the producer does not enqueue it. -/
theorem disturbs_other_waiter {members : List (Member T E)} {member : Member T E} {index : ℕ}
    {waiter : Handle} (handle : Handle) (at_index : members[index]? = some member)
    (valid : member.Valid) (awaited : member.waitingHandle = some waiter) :
    (∀ left set, coAwait members handle ≠ .suspended left set) ∧
      (coAwait members handle).cores[index]? ≠ some member ∧
      ∃ after, (coAwait members handle).cores[index]? = some after ∧
        after.waitingHandle = none ∧ after.state = .init ∧
        ∀ loop outcome, (after.resolve loop outcome).2 = loop := by
  have waited : member.state = .waitedOn := by
    rw [← valid.waiting_iff, awaited]
    rfl
  have not_ready := valid.unresolved (by simp [waited])
  rcases coAwait_of_awaited handle at_index waited not_ready with ⟨ended, after_eq⟩
  rcases valid.resetHandle with ⟨reset_valid, nobody, -, state_eq⟩
  rw [if_pos waited] at state_eq
  refine ⟨?_, ?_, member.resetHandle, after_eq, nobody, state_eq, ?_⟩
  · intro left set suspended
    rcases ended with ⟨ready, cores, returned⟩ | ⟨exception, cores, threw⟩
    · simp [returned] at suspended
    · simp [threw] at suspended
  · intro undisturbed
    have same : member.resetHandle = member := Option.some.inj (after_eq.symm.trans undisturbed)
    rw [same, waited] at state_eq
    simp at state_eq
  · intro loop outcome
    rw [(reset_valid.resolve loop outcome (by simp [state_eq])).1, nobody]

/-- A promise that coroutine 1 waits for. -/
def awaitedMember : Member ℕ String :=
  .typed { waitingHandle := some 1, state := .waitedOn }

theorem awaitedMember_valid : awaitedMember.Valid :=
  ⟨rfl, fun _ => rfl, by simp [awaitedMember, Member.waitingHandle, Member.state]⟩

/-- It is selected by coroutine 2 together with a promise that is ready. -/
def besideReady : List (Member ℕ String) :=
  [.typed { slot := some (.value 7), state := .finished }, awaitedMember]

theorem disturbs_other_waiter_besideReady :
    ∃ after, (coAwait besideReady 2).cores[1]? = some after ∧ after.waitingHandle = none := by
  have at_index : besideReady[1]? = some awaitedMember := rfl
  rcases disturbs_other_waiter 2 at_index awaitedMember_valid rfl with
    ⟨-, -, after, after_eq, nobody, -⟩
  exact ⟨after, after_eq, nobody⟩

theorem select_removes_waiter :
    ¬∀ (members : List (Member ℕ String)) (member : Member ℕ String) (index : ℕ)
      (waiter handle : Handle), members[index]? = some member → member.Valid →
      member.waitingHandle = some waiter → waiter ≠ handle →
      (coAwait members handle).cores[index]? = some member := by
  intro undisturbed
  have kept := undisturbed besideReady awaitedMember 1 1 2 rfl awaitedMember_valid rfl (by decide)
  exact absurd kept (by decide)

end SelectSet

end Uvco
