import Uvco.Library.Transition
import Uvco.MultiPromise.Core
import Uvco.MultiPromise.Transport
import Uvco.Runtime
import Uvco.Select.Store

/-!
# Discarding a `MultiPromise`

A generator with its `MultiPromise` can be discarded in three ways: the `MultiPromise` is
overwritten by move assignment, destroyed, or cancelled. The first calls `destroyCoroutine`,
which leaves the scheduler alone if the state of the core is `finished`; the others call
`cancelGenerator`, which always removes the generator from the scheduler.

The generator may wait for anything on its way to the next value: for awaiters outside of
this model, for promises, and for `SelectSet`s of promises. A set is a local variable, or a
temporary that is destroyed as soon as the `co_await` on it has ended. If `await_suspend`
throws, the promises that the fold has visited keep the handle of the generator until the
set is destroyed.

Handing over control after a suspension is a step of its own.
-/

namespace Uvco.Discard

variable {T U E : Type}

/-- What a coroutine of the program waits for. -/
inductive Point where
  /-- A consumer, in `co_await multiPromise`. -/
  | awaits
  /-- The generator, in `co_yield`. -/
  | atYield
  /-- The generator, in `co_await` on one of its sets. -/
  | selects (position : ℕ)
  /-- The generator, in `co_await` on a promise. -/
  | awaitsMember (index : ℕ)
deriving DecidableEq, Repr

/-- A `SelectSet` among the variables of the generator. -/
structure LocalSet where
  indices : List ℕ
  set : SelectSet := {}
deriving DecidableEq, Repr

/-- `~SelectSet`. -/
def LocalSet.destroy (localSet : LocalSet) (members : Store U E) : Store U E :=
  localSet.set.destroyIn localSet.indices members

/-- A generator with its promise, its consumers, and the promises and sets that it refers to. -/
structure State (T U E : Type) where
  generator : Handle
  core : MultiPromiseCore T E
  runtime : Runtime Point := {}
  /-- The promises that the generator refers to. -/
  members : Store U E
  sets : List LocalSet := []
  /-- `core_` of the `MultiPromise` refers to the core of the generator. -/
  held : Bool := true
  /-- The frames that were destroyed. -/
  destroyed : List Handle := []

/-- The ways to discard a `MultiPromise`. -/
inductive Way where
  | moveAssign
  | destructor
  | cancel
deriving DecidableEq, Repr

/-- What other coroutines do with a promise. -/
inductive ForeignUse where
  | setHandle (handle : Handle)
  | resetHandle
  | awaitResume
  | unwrap
deriving DecidableEq, Repr

/-- What the use does to the core of the promise. -/
def ForeignUse.apply (member : Member U E) : ForeignUse → Member U E
  | .setHandle handle =>
      match member.setHandle handle with
      | .ok registered => registered
      | .error _ => member
  | .resetHandle => member.resetHandle
  | .awaitResume => member.awaitResume
  | .unwrap => member.unwrap.2

namespace State

variable (state : State T U E)

/-- What the generator is doing. -/
def status : Status Point :=
  state.runtime.status state.generator

/-- How often the generator is enqueued. -/
def pending : ℕ :=
  state.runtime.pending state.generator

/-- The generator suspends. -/
def suspend (point : Point) : State T U E :=
  { state with runtime := state.runtime.setStatus state.generator (.waiting point) }

/-! ## The consumers -/

/-- `await_resume` in a consumer. -/
def finishAwait : State T U E :=
  { state with core := (MultiPromiseAwaiter.awaitResume (some state.core)).2.getD state.core }

/-- `co_await multiPromise` in a running coroutine. -/
def coAwait (handle : Handle) : State T U E :=
  if MultiPromiseAwaiter.awaitReady (some state.core) then
    state.finishAwait
  else
    let (core, loop) := MultiPromiseAwaiter.awaitSuspend state.core handle state.runtime.loop
    { state with
      core
      runtime := ({ state.runtime with loop } : Runtime Point).setStatus handle (.waiting .awaits) }

/-- A consumer is destroyed while it is suspended; the destructor of its awaiter is trivial. -/
def dropConsumer (handle : Handle) : State T U E :=
  { state with runtime := (state.runtime.cancel handle).setStatus handle .done }

/-! ## The generator -/

/-- `await_resume` of a set. -/
def finishSelect (position : ℕ) : State T U E :=
  match state.sets[position]? with
  | some localSet =>
      let cores := localSet.indices.map state.members
      let (_, _, set, loop) := SelectSet.awaitResume cores localSet.set state.runtime.loop
      { state with
        members := SelectSet.checkIn localSet.indices state.members
        sets := state.sets.set position { localSet with set }
        runtime := { state.runtime with loop } }
  | none => state

/-- `co_await` on a set. -/
def select (position : ℕ) : State T U E :=
  match state.sets[position]? with
  | some localSet =>
      let (isReady, set) :=
        SelectSet.awaitReady (localSet.indices.map state.members) localSet.set
      if isReady then
        ({ state with sets := state.sets.set position { localSet with set } } :
          State T U E).finishSelect position
      else
        match SelectSet.registerIn state.generator localSet.indices state.members with
        | (members, none) =>
            let set := { set with suspended := some state.generator }
            ({ state with
              members
              sets := state.sets.set position { localSet with set } } :
              State T U E).suspend (.selects position)
        -- The exception is thrown into the generator, which goes on.
        | (members, some _) => { state with members }
  | none => state

/-- A set goes out of scope. -/
def drop (position : ℕ) : State T U E :=
  match state.sets[position]? with
  | some localSet =>
      { state with
        members := localSet.destroy state.members
        sets := state.sets.eraseIdx position }
  | none => state

/-- `co_await` on a promise. -/
def awaitMember (index : ℕ) : State T U E :=
  let member := state.members index
  if member.awaitReady then
    { state with members := Function.update state.members index member.awaitResume }
  else
    match member.awaitSuspend state.generator with
    | .ok member =>
        ({ state with members := Function.update state.members index member } :
          State T U E).suspend (.awaitsMember index)
    | .error _ => state

/-- `co_yield value`. -/
def yield (value : T) : State T U E :=
  let (core, loop) := Generator.yieldValue state.core state.runtime.loop value
  let yielded := { state with core, runtime := { state.runtime with loop } }
  if Generator.yieldReady core then yielded
  else ({ yielded with core := core.suspendGenerator } : State T U E).suspend .atYield

/-- The variables of the generator are destroyed, the last one first. -/
def destroyLocals : State T U E :=
  { state with
    members := state.sets.foldr LocalSet.destroy state.members
    sets := [] }

/-- `return_void` or `unhandled_exception`. -/
def finish (ending : MultiPromise.Ending E) : State T U E :=
  let (core, loop) :=
    match ending with
    | .returned => Generator.returnVoid state.core state.runtime.loop
    | .threw exception => Generator.unhandledException state.core state.runtime.loop exception
  let ended := { state with core, runtime := { state.runtime with loop } }
  let runtime := ended.runtime.setStatus state.generator .done
  { ended.destroyLocals with runtime }

/-! ## The scheduler -/

/-- The generator goes on where it was suspended. -/
def resumeGenerator : State T U E :=
  let running := { state with runtime := state.runtime.setStatus state.generator .running }
  match state.status with
  | .waiting (.selects position) => running.finishSelect position
  | .waiting (.awaitsMember index) =>
      { running with
        members := Function.update state.members index (state.members index).awaitResume }
  | .waiting .atYield | .elsewhere => running
  | .waiting .awaits | .running | .done => state

/-- Other coroutines are suspended in `co_await multiPromise`, or somewhere else. -/
def resumeOther (handle : Handle) : State T U E :=
  let running := { state with runtime := state.runtime.setStatus handle .running }
  match state.runtime.status handle with
  | .waiting .awaits => running.finishAwait
  | .elsewhere => running
  | .waiting _ | .running | .done => state

/-- The scheduler resumes a coroutine, of the generator or of somebody else. -/
def resume (handle : Handle) : State T U E :=
  if handle = state.generator then state.resumeGenerator else state.resumeOther handle

/-- The scheduler resumes the next coroutine. -/
def resumeNext : State T U E :=
  let (next, runtime) := state.runtime.getNext
  match next with
  | some handle => ({ state with runtime } : State T U E).resume handle
  | none => { state with runtime }

/-- The producer of a promise ends. -/
def resolve (index : ℕ) (outcome : Outcome U E) : State T U E :=
  let (member, loop) := (state.members index).resolve state.runtime.loop outcome
  { state with
    members := Function.update state.members index member
    runtime := { state.runtime with loop } }

/-! ## Discarding -/

/-- `coroutine_.destroy()`. The core is a part of the frame. -/
def destroyFrame (coroutine : Handle) : State T U E :=
  { state.destroyLocals with core := {}, destroyed := state.destroyed ++ [coroutine] }

/-- `PromiseCore::destroyCoroutine`. -/
def destroyCoroutine : State T U E :=
  match state.core.coroutine with
  | some coroutine =>
      if state.core.state ≠ .finished then
        ({ state with runtime := state.runtime.cancel coroutine } : State T U E).destroyFrame
          coroutine
      else state.destroyFrame coroutine
  | none => state

/-- `MultiPromiseCore::cancelGenerator`. -/
def cancelGenerator : State T U E :=
  let terminated := { state with core := state.core.setTerminated }
  match state.core.coroutine with
  | some coroutine =>
      ({ terminated with runtime := state.runtime.cancel coroutine } : State T U E).destroyFrame
        coroutine
  | none => terminated

/-- `MultiPromise::operator=`, `~MultiPromise` and `MultiPromise::cancel`. The core of the
`MultiPromise` that is assigned is another one, or null. -/
def discard (way : Way) : State T U E :=
  if state.held then
    let discarded :=
      match way with
      | .moveAssign => state.destroyCoroutine
      | .destructor | .cancel => state.cancelGenerator
    { discarded with held := false }
  else state

end State

/-- What the generator, its consumers, the promises it awaits and the scheduler can do next. -/
inductive Action (T U E : Type) where
  | coAwait (handle : Handle)
  | dropConsumer (handle : Handle)
  | yield (value : T)
  | finish (ending : MultiPromise.Ending E)
  /-- The generator declares a `SelectSet`. -/
  | declare (indices : List ℕ)
  | select (position : ℕ)
  | drop (position : ℕ)
  | awaitMember (index : ℕ)
  | resolve (index : ℕ) (outcome : Outcome U E)
  | foreign (index : ℕ) (use : ForeignUse)
  | resumeNext
  /-- A coroutine does something else. -/
  | other (action : Runtime.Action)

namespace Action

/-- A set is awaited until that succeeds, and not any more. The generator neither awaits itself nor
ends without telling its core. -/
def Enabled (state : State T U E) : Action T U E → Prop
  | .coAwait handle => handle ≠ state.generator ∧ state.runtime.status handle = .running
  | .dropConsumer handle => state.runtime.status handle = .waiting .awaits
  | .yield _ | .finish _ | .declare _ | .drop _ | .awaitMember _ => state.status = .running
  | .select position => state.status = .running ∧
      ∀ localSet ∈ state.sets[position]?, localSet.set.resumed = false
  | .resolve index _ => (state.members index).state ≠ .finished
  | .foreign _ use => use ≠ .setHandle state.generator
  | .resumeNext => True
  | .other action => action.Enabled state.runtime ∧ action ≠ .finish state.generator

/-- The state after an action. -/
def perform (state : State T U E) : Action T U E → State T U E
  | .coAwait handle => state.coAwait handle
  | .dropConsumer handle => state.dropConsumer handle
  | .yield value => state.yield value
  | .finish ending => state.finish ending
  | .declare indices => { state with sets := state.sets ++ [{ indices }] }
  | .select position => state.select position
  | .drop position => state.drop position
  | .awaitMember index => state.awaitMember index
  | .resolve index outcome => state.resolve index outcome
  | .foreign index use =>
      { state with
        members := Function.update state.members index (use.apply (state.members index)) }
  | .resumeNext => state.resumeNext
  | .other action => { state with runtime := action.perform state.runtime }

instance (state : State T U E) (action : Action T U E) : Decidable (action.Enabled state) :=
  match action with
  | .coAwait _ | .select _ | .other _ => inferInstanceAs (Decidable (_ ∧ _))
  | .dropConsumer _ | .yield _ | .finish _ | .declare _ | .drop _ | .awaitMember _ =>
      inferInstanceAs (Decidable (_ = _))
  | .resolve .. | .foreign .. => inferInstanceAs (Decidable (_ ≠ _))
  | .resumeNext => .isTrue trivial

end Action

/-- All programs around one generator. -/
def system (T U E : Type) : TransitionSystem (State T U E) (Action T U E) where
  Initial state := ∃ generator members,
    (∀ index, (members index : Member U E).Valid ∧
      (members index).waitingHandle ≠ some generator) ∧
    state = { generator, core := { coroutine := some generator }, members }
  Enabled state action := action.Enabled state
  perform state action := action.perform state

instance (state : State T U E) (action : Action T U E) :
    Decidable ((system T U E).Enabled state action) :=
  inferInstanceAs (Decidable (action.Enabled state))

/-- A promise in which the generator is registered is resolved only while the generator is suspended
in the `co_await` that the registration is for. -/
def ResolvesAwaited (state : State T U E) : Action T U E → Prop
  | .resolve index _ => (state.members index).waitingHandle = some state.generator →
      state.status = .waiting (.awaitsMember index) ∨
        ∃ position, state.status = .waiting (.selects position)
  | _ => True

end Uvco.Discard
