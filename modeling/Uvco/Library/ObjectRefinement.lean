import Mathlib.Data.Nat.Notation

/-!
# Refinement of objects

An object is used through operations that return results. One object refines another if
no sequence of operations tells them apart. An operation may also run into a hazard,
after which nothing is known of the object; the specification has no hazards.
-/

universe u v w x y

/-- An object with operations that may run into a hazard. -/
structure HazardousObject (State : Type u) (Operation : Type v) (Result : Type w)
    (Hazard : Type x) where
  apply : State → Operation → Except Hazard (Result × State)

/-- What an object should do. -/
structure SpecifiedObject (State : Type u) (Operation : Type v) (Result : Type w) where
  apply : State → Operation → Result × State

variable {State : Type u} {Operation : Type v} {Result : Type w} {Hazard : Type x}

namespace HazardousObject

/-- The results of a sequence of operations. -/
def run (object : HazardousObject State Operation Result Hazard) (state : State) :
    List Operation → Except Hazard (List Result × State)
  | [] => .ok ([], state)
  | operation :: rest => do
      let (result, state) ← object.apply state operation
      let (results, state) ← run object state rest
      return (result :: results, state)

end HazardousObject

namespace SpecifiedObject

/-- Operations applied one after the other, with their results. -/
def run (object : SpecifiedObject State Operation Result) (state : State) :
    List Operation → List Result × State
  | [] => ([], state)
  | operation :: rest =>
      let (result, state) := object.apply state operation
      let (results, state) := run object state rest
      (result :: results, state)

end SpecifiedObject

namespace HazardousObject

variable {Specified : Type y} {object : HazardousObject State Operation Result Hazard}
  {specification : SpecifiedObject Specified Operation Result}
  {Represents : State → Specified → Prop}

/-- If no operation runs into a hazard or returns something else than the specification says, no
sequence of operations does. -/
theorem run_refines
    (refines : ∀ state specified operation, Represents state specified →
      ∃ after, object.apply state operation =
          .ok ((specification.apply specified operation).1, after) ∧
        Represents after (specification.apply specified operation).2)
    (operations : List Operation) {state : State} {specified : Specified}
    (represents : Represents state specified) :
    ∃ after, object.run state operations =
        .ok ((specification.run specified operations).1, after) ∧
      Represents after (specification.run specified operations).2 := by
  induction operations generalizing state specified with
  | nil => exact ⟨state, rfl, represents⟩
  | cons operation rest ih =>
      rcases refines state specified operation represents with ⟨middle, apply_eq, middle_represents⟩
      rcases ih middle_represents with ⟨after, run_eq, after_represents⟩
      refine ⟨after, ?_, after_represents⟩
      simp only [run, apply_eq, run_eq, bind, Except.bind, pure, Except.pure,
        SpecifiedObject.run]

end HazardousObject
