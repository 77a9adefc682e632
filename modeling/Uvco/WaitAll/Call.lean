import Uvco.Library.Transition
import Uvco.Promise.Member
import Uvco.Runtime

/-!
# `waitAll`

This file embeds `waitAll` and `awaitAndReplaceVoid` of `uvco/combinators.h`. The call
evaluates one operand after the other; for each it starts a helper coroutine that awaits
the argument, and awaits the promise of the helper. In which order the arguments of a
function are evaluated is not specified in C++, so the order is arbitrary here.

The arguments are moved into the frame of `waitAll`, so nobody else awaits them. Their
coroutines end at any time. A coroutine that suspends hands control to the next one in
the scheduler queue; here this is a step of its own (`resumeNext`), so there are more
runs than those of the program. That the returned promise is destroyed is left out.
-/

namespace Uvco.WaitAll

variable {T E : Type}

/-- What a `std::exception_ptr` may hold: an exception of an argument, or of the promise
machinery. -/
abbrev Exception (E : Type) := E ⊕ UvcoException

/-- What the helper ends with. -/
def helperOutcome {V : Type} : Obtained V E → Outcome V (Exception E)
  | .returned value => .value value
  | .rethrown exception => .exception (.inl exception)
  | .thrown exception => .exception (.inr exception)

/-- What `co_await promise` evaluates to in `awaitAndReplaceVoid`, with `none` for `Void`. -/
def awaitObtained : Member T E → Obtained (Option T) E
  | .typed core =>
      match (PromiseAwaiter.awaitResume core).1 with
      | .returned value => .returned (some value)
      | .rethrown exception => .rethrown exception
      | .thrown exception => .thrown exception
  | .void core =>
      match (VoidAwaiter.awaitResume core).1 with
      | .returned _ => .returned none
      | .rethrown exception => .rethrown exception
      | .thrown exception => .thrown exception

/-- What awaiting a promise gives once its coroutine has ended, with `none` for `Void`. -/
def replaceVoid : Member T E → Outcome T E → Obtained (Option T) E
  | .typed _, .value value => .returned (some value)
  | .void _, .value _ => .returned none
  | _, .exception exception => .rethrown exception

/-- What awaiting an argument gives, if its coroutine has ended. -/
def outcomeOf (member : Member T E) : Option (Obtained (Option T) E) :=
  if member.state = .finished then
    some (if member.awaitReady then awaitObtained member else .thrown alreadyAwaited)
  else none

/-- Where a coroutine of the model is suspended. -/
inductive Point where
  /-- At `co_await promise` in `awaitAndReplaceVoid`. -/
  | operand
  /-- At `co_await detail::awaitAndReplaceVoid(promises)` in `waitAll`. -/
  | expression
deriving DecidableEq, Repr

/-- How `waitAll` ends. -/
inductive Report (T E : Type) where
  /-- The tuple, with `none` for `Void`. -/
  | returned (values : List (Option T))
  | threw (exception : Exception E)
deriving DecidableEq

/-- How far the call has got. -/
inductive Phase (T E : Type) where
  | idle
  /-- An operand is being evaluated, and others are still to be evaluated. -/
  | evaluating (index : ℕ) (rest : List ℕ)
  | ended (report : Report T E)

/-- One call of `waitAll` with its promises. -/
structure State (T E : Type) where
  /-- The coroutine of `waitAll`. -/
  waiter : Handle
  /-- The coroutines of `awaitAndReplaceVoid`. -/
  helper : ℕ → Handle
  /-- The order in which the operands are evaluated. -/
  order : List ℕ
  members : List (Member T E)
  runtime : Runtime Point := {}
  phase : Phase T E := .idle
  /-- The promise of the helper that was started last. -/
  helperCore : PromiseCore (Option T) (Exception E) := {}
  /-- The values of the operands that have been evaluated. -/
  taken : List (ℕ × Option T) := []
  /-- What awaiting the arguments gives, once their coroutines have ended. -/
  outcomes : ℕ → Option (Obtained (Option T) E)

namespace State

/-- Before the call. -/
def initial (waiter : Handle) (helper : ℕ → Handle) (order : List ℕ)
    (members : List (Member T E)) : State T E where
  waiter := waiter
  helper := helper
  order := order
  members := members
  outcomes index := members[index]?.bind outcomeOf

variable (state : State T E)

/-- The helper ends. -/
def endHelper (index : ℕ) (member : Member T E) (obtained : Obtained (Option T) E) : State T E :=
  let (helperCore, loop) :=
    Coroutine.complete state.helperCore state.runtime.loop (helperOutcome obtained)
  { state with
    members := state.members.set index member
    helperCore
    runtime := ({ state.runtime with loop } : Runtime Point).setStatus (state.helper index) .done }

/-- Call `awaitAndReplaceVoid`, which runs up to its `co_await`, or to its end. -/
def startHelper (index : ℕ) : State T E :=
  let state := { state with
    helperCore := ({} : PromiseCore (Option T) (Exception E)).setRunning (state.helper index) }
  match state.members[index]? with
  | some member =>
      if member.awaitReady then
        state.endHelper index member.awaitResume (awaitObtained member)
      else
        match member.awaitSuspend (state.helper index) with
        | .ok member =>
            { state with
              members := state.members.set index member
              runtime := state.runtime.setStatus (state.helper index) (.waiting .operand) }
        | .error exception => state.endHelper index member (.thrown exception)
  | none => state

/-- `waitAll` returns or throws. -/
def finish (report : Report T E) : State T E :=
  { state with
    phase := .ended report
    runtime := state.runtime.setStatus state.waiter .done }

/-- `std::make_tuple`, whose arguments are in the order of the promises. -/
def makeTuple : List (Option T) :=
  (List.range state.members.length).filterMap fun index => state.taken.lookup index

/-- Evaluate the next operand, if there is one. -/
def evaluate : List ℕ → State T E
  | [] => state.finish (.returned state.makeTuple)
  | index :: rest => { state.startHelper index with phase := .evaluating index rest }

/-- `await_resume` of `co_await detail::awaitAndReplaceVoid(promises)`. -/
def finishOperand (index : ℕ) (rest : List ℕ) : State T E :=
  let (obtained, helperCore) := PromiseAwaiter.awaitResume state.helperCore
  let state := { state with helperCore }
  match obtained with
  | .returned value => { state with taken := state.taken ++ [(index, value)] }.evaluate rest
  | .rethrown exception => state.finish (.threw exception)
  | .thrown exception => state.finish (.threw (.inr exception))

/-- `waitAll` goes on behind the call of `awaitAndReplaceVoid`, and awaits its promise. -/
def coAwait : State T E :=
  match state.phase with
  | .evaluating index rest =>
      if PromiseAwaiter.awaitReady state.helperCore then state.finishOperand index rest
      else
        match PromiseAwaiter.awaitSuspend state.helperCore state.waiter with
        | .ok helperCore =>
            { state with
              helperCore
              runtime := state.runtime.setStatus state.waiter (.waiting .expression) }
        | .error exception => state.finish (.threw (.inr exception))
  | .idle | .ended _ => state

/-- The coroutine of an argument ends. -/
def resolve (index : ℕ) (outcome : Outcome T E) : State T E :=
  match state.members[index]? with
  | some member =>
      let outcomes := Function.update state.outcomes index (some (replaceVoid member outcome))
      let (member, loop) := member.resolve state.runtime.loop outcome
      { state with
        members := state.members.set index member
        runtime := { state.runtime with loop }
        outcomes }
  | none => state

/-- A coroutine goes on where it was suspended. -/
def resume (handle : Handle) : State T E :=
  let running := { state with runtime := state.runtime.setStatus handle .running }
  match state.runtime.status handle, state.phase with
  | .waiting .operand, .evaluating index _ =>
      match state.members[index]? with
      | some member => running.endHelper index member.awaitResume (awaitObtained member)
      | none => running
  | .waiting .expression, .evaluating index rest => running.finishOperand index rest
  | .elsewhere, _ => running
  | _, _ => state

/-- A turn of `Scheduler::runAll`, or what a coroutine does that suspends. -/
def resumeNext : State T E :=
  let (next, runtime) := state.runtime.getNext
  match next with
  | some handle => ({ state with runtime } : State T E).resume handle
  | none => { state with runtime }

end State

/-- What the caller, the coroutines of the arguments and the scheduler can do next. -/
inductive Action (T E : Type) where
  | call
  | coAwait
  | resolve (index : ℕ) (outcome : Outcome T E)
  | resumeNext
  /-- A coroutine does something that does not involve the promises. -/
  | other (action : Runtime.Action)

namespace Action

/-- Promises are resolved once; the coroutines of the call do nothing else. -/
def Enabled (state : State T E) : Action T E → Prop
  | .call => state.phase = .idle
  | .coAwait => (∃ index rest, state.phase = .evaluating index rest) ∧
      state.runtime.status state.waiter = .running
  | .resolve index _ => ∃ member, state.members[index]? = some member ∧ member.state ≠ .finished
  | .resumeNext => True
  | .other action => action.Enabled state.runtime ∧ action.subject ≠ state.waiter ∧
      ∀ index, action.subject ≠ state.helper index

/-- The state after an action. -/
def perform (state : State T E) : Action T E → State T E
  | .call => state.evaluate state.order
  | .coAwait => state.coAwait
  | .resolve index outcome => state.resolve index outcome
  | .resumeNext => state.resumeNext
  | .other action => { state with runtime := action.perform state.runtime }

end Action

/-- An argument that nobody awaits; its coroutine may have ended, and its result may have been
taken already. -/
def Unawaited (member : Member T E) : Prop :=
  member.Valid ∧ member.state ≠ .waitedOn

/-- All programs around one call of `waitAll`. -/
def system (T E : Type) : TransitionSystem (State T E) (Action T E) where
  Initial state := ∃ waiter helper order members,
    Function.Injective helper ∧ (∀ index, helper index ≠ waiter) ∧
    order.Perm (List.range members.length) ∧ (∀ member ∈ members, Unawaited member) ∧
    state = .initial waiter helper order members
  Enabled state action := action.Enabled state
  perform state action := action.perform state

/-! ## What a call is to report -/

/-- The value, if awaiting the argument gives one. -/
def returnedValue : Option (Obtained (Option T) E) → Option (Option T)
  | some (.returned value) => some value
  | some (.rethrown _) | some (.thrown _) | none => none

/-- What the arguments determine, if enough of their coroutines have ended: the exception of the
first one in the order of evaluation that throws, or all values. -/
def expected (count : ℕ) (outcomes : ℕ → Option (Obtained (Option T) E)) :
    List ℕ → Option (Report T E)
  | [] => some (.returned ((List.range count).filterMap fun index =>
      returnedValue (outcomes index)))
  | index :: rest =>
      match outcomes index with
      | some (.returned _) => expected count outcomes rest
      | some (.rethrown exception) => some (.threw (.inl exception))
      | some (.thrown exception) => some (.threw (.inr exception))
      | none => none

namespace State

variable (state : State T E)

/-- What the call has ended with. -/
def report : Option (Report T E) :=
  match state.phase with
  | .ended report => some report
  | .idle | .evaluating _ _ => none

/-- What the call is to end with, by what its arguments have ended with. -/
def expectedReport : Option (Report T E) :=
  expected state.members.length state.outcomes state.order

/-- A coroutine of the call runs, or is in the scheduler queue. -/
def UnderWay : Prop :=
  ∃ index rest, state.phase = .evaluating index rest ∧
    (state.runtime.status state.waiter = .running ∨ 0 < state.runtime.pending state.waiter ∨
      0 < state.runtime.pending (state.helper index))

/-- Awaiting each of these arguments gives a value. -/
def AllReturned (arguments : List ℕ) : Prop :=
  ∀ index ∈ arguments, ∃ value, state.outcomes index = some (.returned value)

/-- What the call has done, by what the coroutines of the arguments have ended with. -/
structure Accounts : Prop where
  returned : ∀ values, state.report = some (.returned values) →
    values.length = state.members.length ∧
      ∀ index < state.members.length, ∃ value, values[index]? = some value ∧
        state.outcomes index = some (.returned value)
  /-- The exception of the first argument in the order of evaluation, not in time. -/
  threw : ∀ exception, state.report = some (.threw exception) →
    ∃ front index back obtained, state.order = front ++ index :: back ∧ state.AllReturned front ∧
      state.outcomes index = some obtained ∧ helperOutcome obtained = .exception exception
  /-- A call that is suspended waits for an argument whose coroutine has not ended. -/
  suspended : state.phase ≠ .idle → state.report = none → ¬ state.UnderWay →
    ∃ front index back, state.order = front ++ index :: back ∧ state.AllReturned front ∧
      state.outcomes index = none

end State

end Uvco.WaitAll
