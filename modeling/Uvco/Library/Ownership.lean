import Mathlib.Logic.Function.Basic
import Mathlib.Data.Nat.Notation

/-!
# Owners of resources

Resources are obtained from outside, held by owners, and have to be given back
exactly once. An owner can be given a resource, pass it on, share it, give it back, or
forget it. The books are in order if every resource is held by somebody or was given
back once; this file says which operations keep them in order.
-/

universe u v

/-- Who holds what, and how often each resource has been given back. -/
@[ext]
structure Ownership (Owner : Type u) (Resource : Type v) where
  holds : Owner → Option Resource
  obtained : Resource → Bool
  returned : Resource → ℕ

namespace Ownership

variable {Owner : Type u} {Resource : Type v} {books : Ownership Owner Resource}
  {owner source target : Owner} {resource : Resource}

/-- Some owner has the resource. -/
def Held (books : Ownership Owner Resource) (resource : Resource) : Prop :=
  ∃ owner, books.holds owner = some resource

/-- An owner is the only one that holds what it holds. -/
def Alone (books : Ownership Owner Resource) (owner : Owner) : Prop :=
  ∀ other resource, books.holds owner = some resource → books.holds other = some resource →
    other = owner

/-- At most one owner holds the resource. -/
def Exclusive (books : Ownership Owner Resource) (resource : Resource) : Prop :=
  ∀ owner other, books.holds owner = some resource → books.holds other = some resource →
    owner = other

/-- What an owner holds is held by somebody else, too. -/
def Shared (books : Ownership Owner Resource) (owner : Owner) : Prop :=
  ∀ resource, books.holds owner = some resource →
    ∃ other, other ≠ owner ∧ books.holds other = some resource

/-- Every resource that was obtained is either held or was given back once. -/
structure Accounted (books : Ownership Owner Resource) : Prop where
  known : ∀ resource, books.obtained resource = false →
    books.returned resource = 0 ∧ ¬books.Held resource
  once : ∀ resource, books.obtained resource = true →
    books.returned resource = 0 ∧ books.Held resource ∨
      books.returned resource = 1 ∧ ¬books.Held resource

theorem Accounted.of_held (accounted : books.Accounted)
    (holds_eq : books.holds owner = some resource) :
    books.obtained resource = true ∧ books.returned resource = 0 := by
  have held : books.Held resource := ⟨owner, holds_eq⟩
  cases obtained : books.obtained resource with
  | false => exact absurd held (accounted.known resource obtained).2
  | true =>
      rcases accounted.once resource obtained with ⟨kept, -⟩ | ⟨-, not_held⟩
      · exact ⟨rfl, kept⟩
      · exact absurd held not_held

/-- The books depend on who holds a resource only through whether it is held. -/
theorem Accounted.congr {after : Ownership Owner Resource} (accounted : books.Accounted)
    (obtained_eq : after.obtained = books.obtained) (returned_eq : after.returned = books.returned)
    (held_iff : ∀ resource, after.Held resource ↔ books.Held resource) : after.Accounted := by
  constructor
  · intro resource unknown
    rw [returned_eq, held_iff]
    exact accounted.known resource (obtained_eq ▸ unknown)
  · intro resource known
    rw [returned_eq, held_iff]
    exact accounted.once resource (obtained_eq ▸ known)

section Operations

variable [DecidableEq Owner]

/-- An owner receives a resource from outside. -/
def acquire [DecidableEq Resource] (books : Ownership Owner Resource) (owner : Owner)
    (resource : Resource) : Ownership Owner Resource :=
  { books with
    holds := Function.update books.holds owner (some resource)
    obtained := Function.update books.obtained resource true }

/-- An owner holds what another one holds. -/
def share (books : Ownership Owner Resource) (source target : Owner) : Ownership Owner Resource :=
  { books with holds := Function.update books.holds target (books.holds source) }

/-- An owner does not hold its resource any more. -/
def forget (books : Ownership Owner Resource) (owner : Owner) : Ownership Owner Resource :=
  { books with holds := Function.update books.holds owner none }

/-- An owner passes its resource on. -/
def pass (books : Ownership Owner Resource) (source target : Owner) : Ownership Owner Resource :=
  (books.share source target).forget source

/-- An owner gives its resource back, if it holds one. -/
def giveBack [DecidableEq Resource] (books : Ownership Owner Resource) (owner : Owner) :
    Ownership Owner Resource :=
  match books.holds owner with
  | some resource =>
      { books.forget owner with
        returned := Function.update books.returned resource (books.returned resource + 1) }
  | none => books

theorem giveBack_of_none [DecidableEq Resource] (free : books.holds owner = none) :
    books.giveBack owner = books := by
  simp only [giveBack, free]

theorem giveBack_of_some [DecidableEq Resource] (holds_eq : books.holds owner = some resource) :
    books.giveBack owner = { books.forget owner with
      returned := Function.update books.returned resource (books.returned resource + 1) } := by
  simp only [giveBack, holds_eq]

/-! ## Who holds a resource afterwards -/

theorem held_acquire [DecidableEq Resource] (free : books.holds owner = none) (other : Resource) :
    (books.acquire owner resource).Held other ↔ other = resource ∨ books.Held other := by
  constructor
  · rintro ⟨holder, holds_eq⟩
    by_cases same : holder = owner
    · subst same
      simp only [acquire, Function.update_self, Option.some.injEq] at holds_eq
      exact .inl holds_eq.symm
    · exact .inr ⟨holder, (Function.update_of_ne same ..).symm.trans holds_eq⟩
  · rintro (rfl | ⟨holder, holds_eq⟩)
    · exact ⟨owner, Function.update_self ..⟩
    · refine ⟨holder, (Function.update_of_ne ?_ ..).trans holds_eq⟩
      rintro rfl
      simp [free] at holds_eq

theorem held_share (free : books.holds target = none) :
    (books.share source target).Held resource ↔ books.Held resource := by
  constructor
  · rintro ⟨holder, holds_eq⟩
    by_cases same : holder = target
    · subst same
      simp only [share, Function.update_self] at holds_eq
      exact ⟨source, holds_eq⟩
    · exact ⟨holder, (Function.update_of_ne same ..).symm.trans holds_eq⟩
  · rintro ⟨holder, holds_eq⟩
    refine ⟨holder, (Function.update_of_ne ?_ ..).trans holds_eq⟩
    rintro rfl
    simp [free] at holds_eq

theorem held_forget :
    (books.forget owner).Held resource ↔
      ∃ other, other ≠ owner ∧ books.holds other = some resource := by
  constructor
  · rintro ⟨holder, holds_eq⟩
    have differs : holder ≠ owner := by
      rintro rfl
      simp [forget] at holds_eq
    exact ⟨holder, differs, (Function.update_of_ne differs ..).symm.trans holds_eq⟩
  · rintro ⟨holder, differs, holds_eq⟩
    exact ⟨holder, (Function.update_of_ne differs ..).trans holds_eq⟩

theorem held_pass (differs : source ≠ target) (free : books.holds target = none) :
    (books.pass source target).Held resource ↔ books.Held resource := by
  unfold pass
  rw [held_forget]
  constructor
  · rintro ⟨holder, -, holds_eq⟩
    exact (held_share free).mp ⟨holder, holds_eq⟩
  · rintro ⟨holder, holds_eq⟩
    by_cases same : holder = source
    · subst same
      exact ⟨target, Ne.symm differs, (Function.update_self ..).trans holds_eq⟩
    · refine ⟨holder, same, (Function.update_of_ne ?_ ..).trans holds_eq⟩
      rintro rfl
      simp [free] at holds_eq

/-! ## Which operations keep the books in order -/

theorem Accounted.acquire [DecidableEq Resource] (accounted : books.Accounted)
    (free : books.holds owner = none)
    (fresh : books.obtained resource = false) : (books.acquire owner resource).Accounted := by
  constructor
  · intro other unknown
    have differs : other ≠ resource := by
      rintro rfl
      simp [Ownership.acquire] at unknown
    rw [held_acquire free]
    have was_unknown := (Function.update_of_ne differs ..).symm.trans unknown
    rcases accounted.known other was_unknown with ⟨kept, not_held⟩
    exact ⟨kept, not_or.mpr ⟨differs, not_held⟩⟩
  · intro other known
    rw [held_acquire free]
    by_cases same : other = resource
    · subst same
      exact .inl ⟨(accounted.known other fresh).1, .inl rfl⟩
    · have was_known := (Function.update_of_ne same ..).symm.trans known
      rcases accounted.once other was_known with ⟨kept, held⟩ | ⟨given, not_held⟩
      · exact .inl ⟨kept, .inr held⟩
      · exact .inr ⟨given, not_or.mpr ⟨same, not_held⟩⟩

theorem Accounted.share (accounted : books.Accounted) (free : books.holds target = none) :
    (books.share source target).Accounted :=
  accounted.congr rfl rfl fun _ => held_share free

theorem accounted_pass_iff (differs : source ≠ target) (free : books.holds target = none) :
    (books.pass source target).Accounted ↔ books.Accounted := by
  constructor
  · intro after
    exact after.congr rfl rfl fun _ => (held_pass differs free).symm
  · intro accounted
    exact accounted.congr rfl rfl fun _ => held_pass differs free

/-- A resource may be forgotten if and only if somebody else holds it. -/
theorem Accounted.forget_iff (accounted : books.Accounted) :
    (books.forget owner).Accounted ↔ books.Shared owner := by
  constructor
  · intro after resource holds_eq
    rcases accounted.of_held holds_eq with ⟨known, kept⟩
    rcases after.once resource known with ⟨-, held⟩ | ⟨given, -⟩
    · exact held_forget.mp held
    · exact absurd (kept.symm.trans given) (by decide)
  · intro shared
    refine accounted.congr rfl rfl fun resource => ?_
    rw [held_forget]
    constructor
    · rintro ⟨holder, -, holds_eq⟩
      exact ⟨holder, holds_eq⟩
    · rintro ⟨holder, holds_eq⟩
      by_cases same : holder = owner
      · subst same
        exact shared resource holds_eq
      · exact ⟨holder, same, holds_eq⟩

/-- A resource may be given back if and only if nobody else holds it. -/
theorem Accounted.giveBack_iff [DecidableEq Resource] (accounted : books.Accounted) :
    (books.giveBack owner).Accounted ↔ books.Alone owner := by
  rcases holds_eq : books.holds owner with _ | resource
  · rw [giveBack_of_none holds_eq]
    exact ⟨fun _ _ _ held => by simp [holds_eq] at held, fun _ => accounted⟩
  · rcases accounted.of_held holds_eq with ⟨known, kept⟩
    rw [giveBack_of_some holds_eq]
    have held_iff : ∀ other, Held { books.forget owner with
          returned := Function.update books.returned resource (books.returned resource + 1) }
          other ↔ ∃ holder, holder ≠ owner ∧ books.holds holder = some other :=
      fun _ => held_forget
    have returned_eq : Function.update books.returned resource (books.returned resource + 1)
        resource = 1 := by
      rw [Function.update_self, kept]
    constructor
    · intro after other same owner_holds other_holds
      obtain rfl := Option.some.inj (holds_eq.symm.trans owner_holds)
      by_contra differs
      rcases after.once resource known with ⟨still_kept, -⟩ | ⟨-, not_held⟩
      · exact absurd (returned_eq.symm.trans still_kept) (by decide)
      · exact not_held ((held_iff resource).mpr ⟨other, differs, other_holds⟩)
    · intro alone
      have unchanged : ∀ other, other ≠ resource →
          Function.update books.returned resource (books.returned resource + 1) other =
              books.returned other ∧
            ((∃ holder, holder ≠ owner ∧ books.holds holder = some other) ↔ books.Held other) := by
        intro other differs
        refine ⟨Function.update_of_ne differs .., ?_⟩
        constructor
        · rintro ⟨holder, -, holder_holds⟩
          exact ⟨holder, holder_holds⟩
        · rintro ⟨holder, holder_holds⟩
          refine ⟨holder, ?_, holder_holds⟩
          rintro rfl
          exact differs (Option.some.inj (holder_holds.symm.trans holds_eq))
      constructor
      · intro other unknown
        have differs : other ≠ resource := by
          rintro rfl
          exact absurd (known.symm.trans unknown) (by decide)
        rw [held_iff, (unchanged other differs).2]
        dsimp only
        rw [(unchanged other differs).1]
        exact accounted.known other unknown
      · intro other was_known
        rw [held_iff]
        by_cases same : other = resource
        · subst same
          refine .inr ⟨returned_eq, ?_⟩
          rintro ⟨holder, differs, holder_holds⟩
          exact differs (alone holder other holds_eq holder_holds)
        · rw [(unchanged other same).2]
          dsimp only
          rw [(unchanged other same).1]
          exact accounted.once other was_known

/-! ## Which operations keep a resource exclusive -/

theorem holds_of_forget {holder : Owner}
    (holds_eq : (books.forget owner).holds holder = some resource) :
    books.holds holder = some resource := by
  have differs : holder ≠ owner := by
    rintro rfl
    simp [Ownership.forget] at holds_eq
  exact (Function.update_of_ne differs ..).symm.trans holds_eq

theorem holds_share_of_ne {holder : Owner} (differs : holder ≠ target) :
    (books.share source target).holds holder = books.holds holder :=
  Function.update_of_ne differs ..

theorem holds_giveBack [DecidableEq Resource] :
    (books.giveBack owner).holds = (books.forget owner).holds := by
  rcases holds_eq : books.holds owner with _ | resource
  · rw [giveBack_of_none holds_eq, Ownership.forget, ← holds_eq, Function.update_eq_self]
  · rw [giveBack_of_some holds_eq]

theorem Exclusive.forget (exclusive : books.Exclusive resource) :
    (books.forget owner).Exclusive resource :=
  fun one other one_holds other_holds =>
    exclusive one other (holds_of_forget one_holds) (holds_of_forget other_holds)

theorem Exclusive.giveBack [DecidableEq Resource] (exclusive : books.Exclusive resource) :
    (books.giveBack owner).Exclusive resource := by
  unfold Exclusive
  rw [holds_giveBack]
  exact exclusive.forget

/-- Sharing duplicates nothing but what the source holds. -/
theorem Exclusive.share (exclusive : books.Exclusive resource)
    (not_shared : books.holds source ≠ some resource) :
    (books.share source target).Exclusive resource := by
  have held_before : ∀ holder, (books.share source target).holds holder = some resource →
      books.holds holder = some resource := by
    intro holder holds_eq
    have differs : holder ≠ target := by
      rintro rfl
      simp only [Ownership.share, Function.update_self] at holds_eq
      exact not_shared holds_eq
    exact (holds_share_of_ne differs).symm.trans holds_eq
  exact fun one other one_holds other_holds =>
    exclusive one other (held_before one one_holds) (held_before other other_holds)

theorem Exclusive.pass (exclusive : books.Exclusive resource) (differs : source ≠ target)
    (free : books.holds target = none) : (books.pass source target).Exclusive resource := by
  -- Whoever holds the resource afterwards has it from exactly one holder before.
  have origin : ∀ holder, (books.pass source target).holds holder = some resource →
      holder ≠ source ∧ (holder = target ∧ books.holds source = some resource ∨
        holder ≠ target ∧ books.holds holder = some resource) := by
    intro holder holds_eq
    have not_source : holder ≠ source := by
      rintro rfl
      simp [Ownership.pass, Ownership.forget] at holds_eq
    have shared_eq : (books.share source target).holds holder = some resource :=
      (Function.update_of_ne not_source ..).symm.trans holds_eq
    refine ⟨not_source, ?_⟩
    by_cases same : holder = target
    · subst same
      simp only [Ownership.share, Function.update_self] at shared_eq
      exact .inl ⟨rfl, shared_eq⟩
    · exact .inr ⟨same, (Function.update_of_ne same ..).symm.trans shared_eq⟩
  intro one other one_holds other_holds
  rcases origin one one_holds with ⟨one_source, ⟨rfl, source_holds⟩ | ⟨-, one_held⟩⟩
  · rcases origin other other_holds with ⟨other_source, ⟨rfl, -⟩ | ⟨-, other_held⟩⟩
    · rfl
    · exact absurd (exclusive other source other_held source_holds) other_source
  · rcases origin other other_holds with ⟨other_source, ⟨rfl, source_holds⟩ | ⟨-, other_held⟩⟩
    · exact absurd (exclusive one source one_held source_holds) one_source
    · exact exclusive one other one_held other_held

theorem Exclusive.acquire [DecidableEq Resource] {obtained : Resource}
    (exclusive : books.Exclusive resource) (fresh : ¬books.Held obtained) :
    (books.acquire owner obtained).Exclusive resource := by
  have origin : ∀ holder, (books.acquire owner obtained).holds holder = some resource →
      holder = owner ∧ resource = obtained ∨ books.holds holder = some resource := by
    intro holder holds_eq
    by_cases same : holder = owner
    · subst same
      simp only [Ownership.acquire, Function.update_self, Option.some.injEq] at holds_eq
      exact .inl ⟨rfl, holds_eq.symm⟩
    · exact .inr ((Function.update_of_ne same ..).symm.trans holds_eq)
  intro one other one_holds other_holds
  rcases origin one one_holds with ⟨rfl, rfl⟩ | one_held
  · rcases origin other other_holds with ⟨rfl, -⟩ | other_held
    · rfl
    · exact absurd ⟨other, other_held⟩ fresh
  · rcases origin other other_holds with ⟨rfl, rfl⟩ | other_held
    · exact absurd ⟨one, one_held⟩ fresh
    · exact exclusive one other one_held other_held

end Operations

/-- The owner of an exclusive resource is the only one that holds it. -/
theorem Exclusive.alone (exclusive : ∀ resource, books.holds owner = some resource →
    books.Exclusive resource) : books.Alone owner :=
  fun other resource owner_holds other_holds =>
    exclusive resource owner_holds other owner other_holds owner_holds

end Ownership
