import Mathlib.Logic.Function.Basic
import Uvco.Select.Basic

/-!
# Sets of promises that live elsewhere

A `SelectSet` holds pointers. Where several sets of one coroutine, or one set twice, refer
to the same promise, its operations act on a store of promises, one index after the other.
On distinct promises they do what the operations on the cores do.
-/

namespace Uvco

variable {T E : Type}

/-- The promises, by what the pointers to them are. -/
abbrev Store (T E : Type) := ℕ → Member T E

namespace SelectSet

/-- The fold of `await_suspend` over the promises of a set. -/
def registerIn (handle : Handle) :
    List ℕ → Store T E → Store T E × Option UvcoException
  | [], store => (store, none)
  | index :: rest, store =>
      if (store index).stale then registerIn handle rest store
      else
        match (store index).setHandle handle with
        | .ok member => registerIn handle rest (Function.update store index member)
        | .error exception => (store, some exception)

/-- Changes the promises of a set, one after the other. -/
def visitIn (visit : Member T E → Member T E) (indices : List ℕ) (store : Store T E) :
    Store T E :=
  indices.foldl (fun store index => Function.update store index (visit (store index))) store

/-- `checkPromises`: the promises that are not ready are reset. -/
def checkIn (indices : List ℕ) (store : Store T E) : Store T E :=
  visitIn (fun member => if member.ready then member else member.resetHandle) indices store

/-- `~SelectSet`. -/
def destroyIn (set : SelectSet) (indices : List ℕ) (store : Store T E) : Store T E :=
  if !set.resumed then visitIn Member.resetHandle indices store else store

/-! ## Distinct promises -/

theorem map_update_of_not_mem {indices : List ℕ} {index : ℕ} (absent : index ∉ indices)
    (store : Store T E) (member : Member T E) :
    indices.map (Function.update store index member) = indices.map store := by
  apply List.map_congr_left
  intro other other_mem
  apply Function.update_of_ne
  rintro rfl
  exact absent other_mem

theorem registerIn_of_not_mem (handle : Handle) {indices : List ℕ} {index : ℕ}
    (absent : index ∉ indices) (store : Store T E) :
    (registerIn handle indices store).1 index = store index := by
  induction indices generalizing store with
  | nil => rfl
  | cons first rest ih =>
      simp only [List.mem_cons, not_or] at absent
      unfold registerIn
      split
      · exact ih absent.2 store
      · split
        · rw [ih absent.2]
          exact Function.update_of_ne absent.1 _ _
        · rfl

/-- On distinct promises the fold is that of `register`. -/
theorem registerIn_eq_register (handle : Handle) {indices : List ℕ} (distinct : indices.Nodup)
    (store : Store T E) :
    (indices.map (registerIn handle indices store).1, (registerIn handle indices store).2) =
      register handle (indices.map store) := by
  induction indices generalizing store with
  | nil => rfl
  | cons index rest ih =>
      rcases List.nodup_cons.mp distinct with ⟨absent, rest_distinct⟩
      simp only [List.map_cons, registerIn, register]
      split
      · rw [← ih rest_distinct, registerIn_of_not_mem handle absent]
      · cases set_eq : (store index).setHandle handle with
        | ok member =>
            dsimp only
            rw [← map_update_of_not_mem absent store member, ← ih rest_distinct,
              registerIn_of_not_mem handle absent, Function.update_self]
        | error exception => rfl

theorem visitIn_of_not_mem (visit : Member T E → Member T E) {indices : List ℕ} {index : ℕ}
    (absent : index ∉ indices) (store : Store T E) :
    visitIn visit indices store index = store index := by
  induction indices generalizing store with
  | nil => rfl
  | cons first rest ih =>
      simp only [List.mem_cons, not_or] at absent
      change visitIn visit rest (Function.update store first _) index = _
      rw [ih absent.2]
      exact Function.update_of_ne absent.1 _ _

/-- On distinct promises every one is changed once, as in `checkPromises` and `destroy`. -/
theorem map_visitIn (visit : Member T E → Member T E) {indices : List ℕ}
    (distinct : indices.Nodup) (store : Store T E) :
    indices.map (visitIn visit indices store) = (indices.map store).map visit := by
  induction indices generalizing store with
  | nil => rfl
  | cons index rest ih =>
      rcases List.nodup_cons.mp distinct with ⟨absent, rest_distinct⟩
      change visitIn visit rest (Function.update store index _) index :: rest.map
        (visitIn visit rest (Function.update store index _)) = _
      rw [ih rest_distinct, map_update_of_not_mem absent, visitIn_of_not_mem _ absent,
        Function.update_self]
      rfl

/-! ## What the operations leave -/

/-- A step on some of the promises. A promise whose coroutine has ended stays finished. -/
structure Changes (before after : Store T E) : Prop where
  valid : ∀ index, (after index).Valid
  finished : ∀ index, (before index).state = .finished → (after index).state = .finished

namespace Changes

variable {before middle after : Store T E}

theorem refl {store : Store T E} (valid : ∀ index, (store index).Valid) : Changes store store :=
  ⟨valid, fun _ finished => finished⟩

theorem trans (first : Changes before middle) (second : Changes middle after) :
    Changes before after :=
  ⟨second.valid, fun index finished => second.finished index (first.finished index finished)⟩

theorem update {store : Store T E} (valid : ∀ index, (store index).Valid) {index : ℕ}
    {member : Member T E} (member_valid : member.Valid)
    (finished : (store index).state = .finished → member.state = .finished) :
    Changes store (Function.update store index member) := by
  constructor
  · intro other
    by_cases same : other = index
    · rw [same, Function.update_self]
      exact member_valid
    · rw [Function.update_of_ne same]
      exact valid other
  · intro other other_finished
    by_cases same : other = index
    · subst same
      rw [Function.update_self]
      exact finished other_finished
    · rw [Function.update_of_ne same]
      exact other_finished

end Changes

/-- Registering leaves a promise as it is, or registers the coroutine if the promise is in the
set. -/
theorem registerIn_spec (handle : Handle) (indices : List ℕ) {store : Store T E}
    (valid : ∀ index, (store index).Valid) :
    Changes store (registerIn handle indices store).1 ∧
      ∀ index, index ∉ indices →
        (registerIn handle indices store).1 index = store index := by
  refine ⟨?_, fun index absent => registerIn_of_not_mem handle absent store⟩
  induction indices generalizing store with
  | nil => exact .refl valid
  | cons index rest ih =>
      unfold registerIn
      split
      · exact ih valid
      · split
        · rename_i member set_eq
          rcases (valid index).of_setHandle set_eq with ⟨is_init, registered_valid, -, -⟩
          have not_finished : (store index).state ≠ .finished := by simp [is_init]
          have registers := Changes.update valid registered_valid
            (fun finished => absurd finished not_finished)
          exact registers.trans (ih registers.valid)
        · exact .refl valid

/-- A visit that leaves nobody registered. -/
structure Releases (visit : Member T E → Member T E) : Prop where
  valid : ∀ {member}, member.Valid → (visit member).Valid
  nobody : ∀ {member}, member.Valid → (visit member).waitingHandle = none
  finished : ∀ {member}, member.Valid → member.state = .finished →
    (visit member).state = .finished

theorem releases_resetHandle : Releases (Member.resetHandle : Member T E → Member T E) where
  valid valid := valid.resetHandle.1
  nobody valid := valid.resetHandle.2.1
  finished := by
    intro member valid finished
    rw [valid.resetHandle.2.2.2, finished]
    rfl

theorem releases_check : Releases (fun member : Member T E =>
    if member.ready then member else member.resetHandle) where
  valid := by
    intro member valid
    split
    · exact valid
    · exact valid.resetHandle.1
  nobody := by
    intro member valid
    split
    · rename_i ready
      have finished : member.state = .finished := by
        by_contra unfinished
        simp [valid.unresolved unfinished] at ready
      exact valid.nobody (by simp [finished])
    · exact valid.resetHandle.2.1
  finished := by
    intro member valid finished
    split
    · exact finished
    · exact releases_resetHandle.finished valid finished

/-- Afterwards nobody is registered in the promises of the set. -/
theorem visitIn_spec {visit : Member T E → Member T E} (releases : Releases visit)
    (indices : List ℕ) {store : Store T E} (valid : ∀ index, (store index).Valid) :
    Changes store (visitIn visit indices store) ∧
      ∀ index ∈ indices, (visitIn visit indices store index).waitingHandle = none := by
  induction indices generalizing store with
  | nil => exact ⟨.refl valid, by simp⟩
  | cons first rest ih =>
      have changes := Changes.update valid (releases.valid (valid first))
        (releases.finished (valid first))
      rcases ih changes.valid with ⟨rest_changes, rest_released⟩
      refine ⟨changes.trans rest_changes, ?_⟩
      intro index index_mem
      change (visitIn visit rest (Function.update store first _) index).waitingHandle = none
      by_cases in_rest : index ∈ rest
      · exact rest_released index in_rest
      · obtain rfl : index = first := (List.mem_cons.mp index_mem).resolve_right in_rest
        rw [visitIn_of_not_mem _ in_rest, Function.update_self]
        exact releases.nobody (valid index)

/-- Whoever is still registered afterwards was so before, and in none of these promises. -/
theorem registered_of_visitIn {visit : Member T E → Member T E} (releases : Releases visit)
    {indices : List ℕ} {store : Store T E} (valid : ∀ index, (store index).Valid) {index : ℕ}
    {handle : Handle}
    (registered : (visitIn visit indices store index).waitingHandle = some handle) :
    index ∉ indices ∧ (store index).waitingHandle = some handle := by
  have absent : index ∉ indices := by
    intro index_mem
    rw [(visitIn_spec releases indices valid).2 index index_mem] at registered
    simp at registered
  refine ⟨absent, ?_⟩
  rwa [visitIn_of_not_mem _ absent] at registered

end SelectSet

end Uvco
