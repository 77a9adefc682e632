import Mathlib.Logic.Function.Basic
import Uvco.Library.Transition
import Uvco.Promise.Core

/-!
# `submitWork`

This file embeds `uvco/async_work.{h,cc}`: work that is submitted to the thread pool
of libuv, in every interleaving of the loop thread with the threads of the pool. A
worker reads the address of the awaiter from the request once, and then calls the
function in the awaiter, which writes its result into the frame of `submitWork`.

An item is named by a number, which is also the address of its awaiter. The frames of
`submitWork` and of `innerSubmitWork` exist until the coroutine has finished or the
promise is dropped. Every enqueued coroutine may be resumed next.
-/

namespace Uvco.AsyncWork

variable {R E : Type}

/-- `submitWork<R>`, and the specialization for `void`, whose value is `unit`. -/
inductive Template (R : Type) where
  | generic
  | void (unit : R)
deriving DecidableEq, Repr

namespace Template

variable (template : Template R)

/-- What the submitted function can do. -/
def Allows : Outcome R E → Prop
  | .value value =>
      match template with
      | .generic => True
      | .void unit => value = unit
  | .exception _ => True

/-- `agnosticWork`, after the function has returned or thrown. -/
def store (outcome : Outcome R E) (result : Option (Outcome R E)) : Option (Outcome R E) :=
  match template, outcome with
  | .generic, _ => some outcome
  | .void _, .exception exception => some (.exception exception)
  | .void _, .value _ => result

/-- The end of `submitWork`; `none` if the assertion fails. -/
def finish : Option (Outcome R E) → Option (Outcome R E)
  | some outcome => some outcome
  | none =>
      match template with
      | .generic => none
      | .void unit => some (.value unit)

theorem finish_store {outcome : Outcome R E} (allowed : template.Allows outcome) :
    template.finish (template.store outcome none) = some outcome := by
  cases template with
  | generic => rfl
  | void unit =>
      cases outcome with
      | exception exception => rfl
      | value value =>
          rw [Allows] at allowed
          rw [allowed]
          rfl

end Template

/-- What becomes of a `uv_work_t`. -/
inductive Progress where
  | queued
  /-- A worker has taken the request from the queue, and is at the beginning of `onDoWork`. -/
  | entered
  /-- It has read the address of the awaiter. -/
  | hasRead (awaiter : ℕ)
  /-- It executes `function_` of the awaiter. -/
  | calling (awaiter : ℕ)
  /-- `function_` has written the result, and is about to return. -/
  | stored (awaiter : ℕ)
  /-- It has returned from `onDoWork`. -/
  | left
  /-- `uv_cancel` has succeeded. -/
  | cancelled
  /-- `onWorkDone` was called. -/
  | done
deriving DecidableEq, Repr

/-- The frame whose `function_` a worker is executing. -/
def Progress.executing : Progress → Option ℕ
  | .calling awaiter | .stored awaiter => some awaiter
  | .queued | .entered | .hasRead _ | .left | .cancelled | .done => none

/-- The frame that a worker uses now or later. -/
def Progress.refersTo : Progress → Option ℕ
  | .hasRead awaiter | .calling awaiter | .stored awaiter => some awaiter
  | .queued | .entered | .left | .cancelled | .done => none

/-- `uv_cancel`. It fails if a worker has taken the request. -/
def Progress.cancel : Progress → Progress
  | .queued => .cancelled
  | progress => progress

theorem Progress.executing_cancel (progress : Progress) :
    progress.cancel.executing = progress.executing := by
  cases progress <;> rfl

/-- `class AsyncWorkAwaiter_`, in the frame of `innerSubmitWork`. -/
structure Awaiter where
  status : Option Int := none
  /-- `handle_` leads to the coroutine. -/
  handle : Bool := true
deriving DecidableEq, Repr

/-- The frames of `submitWork` and `innerSubmitWork`. -/
structure Frame (R E : Type) where
  result : Option (Outcome R E) := none
  /-- The local variable of `innerSubmitWork`, which has ended otherwise. -/
  awaiter : Option Awaiter := some {}
  /-- The exception that `innerSubmitWork` has ended with. -/
  failure : Option UvcoException := none
  /-- The innermost of the two coroutines is in the scheduler queue. -/
  enqueued : Bool := false
deriving DecidableEq, Repr

/-- What the `Promise` is fulfilled with. -/
inductive Received (R E : Type) where
  | outcome (outcome : Outcome R E)
  | failed (exception : UvcoException)
deriving DecidableEq, Repr

/-- A call of `submitWork`: its request, its frame, and what its promise has received. -/
structure Item (R E : Type) where
  template : Template R
  /-- The data pointer of the request. -/
  data : Option ℕ
  progress : Progress := .queued
  frame : Option (Frame R E) := some {}
  received : Option (Received R E) := none
  /-- The promise was dropped before it was fulfilled. -/
  dropped : Bool := false
  /-- What the executions of the submitted function have ended with. -/
  returned : List (Outcome R E) := []
  /-- The frames were used after they had been destroyed. -/
  touched : Bool := false
  /-- An assertion has failed. -/
  fault : Bool := false

namespace Item

variable (item : Item R E)

/-- A worker or a callback uses the frame. -/
def access : Item R E :=
  { item with touched := item.touched || item.frame.isNone }

/-- Does nothing once the frame is destroyed. -/
def onFrame (change : Frame R E → Frame R E) : Item R E :=
  { item with frame := item.frame.map change }

/-- The submitted function ends, and its outcome is written. -/
def store (outcome : Outcome R E) : Item R E :=
  let written := item.access.onFrame fun frame =>
    { frame with result := item.template.store outcome frame.result }
  { written with returned := item.returned ++ [outcome] }

/-- `onWorkDone` sets `status_` and enqueues the coroutine. -/
def schedule (status : Int) : Item R E :=
  item.access.onFrame fun frame =>
    match frame.awaiter with
    | some awaiter =>
        { frame with
          awaiter := some { status := some status, handle := false }
          enqueued := frame.enqueued || awaiter.handle }
    | none => frame

/-- `innerSubmitWork` is resumed, ends, and enqueues `submitWork`. -/
def resumeInner (frame : Frame R E) (awaiter : Awaiter) : Item R E :=
  match awaiter.status with
  | none => { item with fault := true }
  | some status =>
      { item with
        data := none
        frame := some { frame with
          awaiter := none
          failure :=
            if status = 0 then none else some (.ofStatus status "AsyncWorkAwaiter_ failed") } }

/-- `submitWork` is resumed and ends. -/
def resumeOuter (frame : Frame R E) : Item R E :=
  match frame.failure, item.template.finish frame.result with
  | some exception, _ => { item with frame := none, received := some (.failed exception) }
  | none, some outcome => { item with frame := none, received := some (.outcome outcome) }
  | none, none => { item with fault := true }

/-- The scheduler resumes the innermost coroutine. -/
def resume : Item R E :=
  match item.frame with
  | none => item
  | some frame =>
      match frame.awaiter with
      | some awaiter => item.resumeInner frame awaiter
      | none => item.resumeOuter frame

/-- `~AsyncWorkAwaiter_`, if the frame is destroyed while `innerSubmitWork` is suspended. -/
def destroyAwaiter : Item R E :=
  if item.data.isSome then { item with data := none, progress := item.progress.cancel } else item

/-- The promise is dropped; an awaiter that is still there is destroyed with the frame. -/
def drop : Item R E :=
  match item.frame with
  | none => item
  | some frame =>
      let left := if frame.awaiter.isSome then item.destroyAwaiter else item
      { left with frame := none, dropped := true }

/-- How many steps are left until a promise that is not dropped is fulfilled. -/
def remaining : ℕ :=
  match item.progress with
  | .queued => 8
  | .entered => 7
  | .hasRead _ => 6
  | .calling _ => 5
  | .stored _ => 4
  | .left => 3
  | .cancelled | .done =>
      match item.frame with
      | some frame => if frame.awaiter.isSome then 2 else 1
      | none => 0

end Item

/-- The calls of `submitWork` so far, by number. -/
structure State (R E : Type) where
  item : ℕ → Option (Item R E) := fun _ => none

namespace State

variable (state : State R E)

/-- Changes the item with this number, if there is one. -/
def modify (id : ℕ) (change : Item R E → Item R E) : State R E :=
  { item := Function.update state.item id ((state.item id).map change) }

/-- The request enters this stage of its life. -/
def proceed (id : ℕ) (progress : Progress) : State R E :=
  state.modify id fun item => { item with progress }

/-- A call of `submitWork`; the request points to its own awaiter. -/
def submit (id : ℕ) (template : Template R) : State R E :=
  { item := Function.update state.item id (some { template, data := some id }) }

/-- `onDoWork` looks for the awaiter; without one it returns at once. -/
def readAwaiter (id : ℕ) : State R E :=
  state.modify id fun item =>
    { item with progress := item.data.elim .left .hasRead }

/-- `awaiter->function_()`. -/
def callFunction (id : ℕ) : State R E :=
  match (state.item id).map Item.progress with
  | some (.hasRead awaiter) => (state.proceed id (.calling awaiter)).modify awaiter Item.access
  | some _ | none => state

/-- The function of the item has ended, and `onDoWork` writes into the awaiter it has read. -/
def store (id : ℕ) (outcome : Outcome R E) : State R E :=
  match (state.item id).map Item.progress with
  | some (.calling awaiter) =>
      (state.proceed id (.stored awaiter)).modify awaiter (Item.store · outcome)
  | some _ | none => state

/-- `onDoWork` uses the awaiter for the last time. -/
def leave (id : ℕ) : State R E :=
  match (state.item id).map Item.progress with
  | some (.stored awaiter) => (state.proceed id .left).modify awaiter Item.access
  | some _ | none => state

/-- `onWorkDone`; the request is deleted if its data pointer is null. -/
def onWorkDone (id : ℕ) (status : Int) : State R E :=
  match (state.item id).bind Item.data with
  | some awaiter => (state.proceed id .done).modify awaiter (Item.schedule · status)
  | none => state.proceed id .done

end State

/-- What the program, the workers and the loop can do next. -/
inductive Action (R E : Type) where
  | submit (id : ℕ) (template : Template R)
  /-- A worker takes the request from the queue. -/
  | pickUp (id : ℕ)
  | readAwaiter (id : ℕ)
  | callFunction (id : ℕ)
  /-- The function ends, and its result or exception is stored. -/
  | store (id : ℕ) (outcome : Outcome R E)
  | leave (id : ℕ)
  | onWorkDone (id : ℕ) (status : Int)
  | resume (id : ℕ)
  | drop (id : ℕ)

namespace Action

/-- The item that an action is about. -/
def id : Action R E → ℕ
  | .submit id _ | .pickUp id | .readAwaiter id | .callFunction id | .store id _ | .leave id
  | .onWorkDone id _ | .resume id | .drop id => id

/-- What the item of an action has to be like; the function in a frame does what its type allows. -/
def Permitted (state : State R E) (item : Item R E) : Action R E → Prop
  | .submit _ _ => False
  | .pickUp _ => item.progress = .queued
  | .readAwaiter _ => item.progress = .entered
  | .callFunction _ => ∃ awaiter, item.progress = .hasRead awaiter
  | .store _ outcome => ∃ awaiter, item.progress = .calling awaiter ∧
      ∀ owner, state.item awaiter = some owner → owner.template.Allows outcome
  | .leave _ => ∃ awaiter, item.progress = .stored awaiter
  | .onWorkDone _ status => item.progress = .left ∧ status = 0 ∨
      item.progress = .cancelled ∧ status = UV_ECANCELED
  | .resume _ => ∃ frame, item.frame = some frame ∧ frame.enqueued = true
  | .drop _ => item.frame.isSome = true

/-- Numbers are not used twice; every other action is about an item at the stage before it. -/
def Enabled (state : State R E) (action : Action R E) : Prop :=
  match action with
  | .submit id _ => state.item id = none
  | action => ∃ item, state.item action.id = some item ∧ action.Permitted state item

/-- The state after an action. -/
def perform (state : State R E) : Action R E → State R E
  | .submit id template => state.submit id template
  | .pickUp id => state.proceed id .entered
  | .readAwaiter id => state.readAwaiter id
  | .callFunction id => state.callFunction id
  | .store id outcome => state.store id outcome
  | .leave id => state.leave id
  | .onWorkDone id status => state.onWorkDone id status
  | .resume id => state.modify id Item.resume
  | .drop id => state.modify id Item.drop

end Action

/-- All programs that submit work, with any number of workers. -/
def system (R E : Type) : TransitionSystem (State R E) (Action R E) where
  Initial state := state = {}
  Enabled state action := action.Enabled state
  perform state action := action.perform state

/-- Nothing is dropped while a worker has the address of its awaiter. -/
def DropsInTime (state : State R E) : Action R E → Prop
  | .drop id => ∀ item, state.item id = some item → item.progress.refersTo = none
  | .submit .. | .pickUp _ | .readAwaiter _ | .callFunction _ | .store .. | .leave _
  | .onWorkDone .. | .resume _ => True

/-! ## The stages of an item -/

/-- Who has got how far with an item. -/
inductive Stage (id : ℕ) : Item R E → Prop where
  | working (template : Template R) {progress : Progress}
      (early : progress = .queued ∨ progress = .entered ∨ progress = .hasRead id ∨
        progress = .calling id) :
      Stage id { template, data := some id, progress }
  | computed (template : Template R) {progress : Progress} {outcome : Outcome R E}
      (late : progress = .stored id ∨ progress = .left) (allowed : template.Allows outcome) :
      Stage id { template, data := some id, progress, returned := [outcome]
                 frame := some { result := template.store outcome none } }
  | called (template : Template R) {outcome : Outcome R E} (allowed : template.Allows outcome) :
      Stage id { template, data := some id, progress := .done, returned := [outcome]
                 frame := some
                  { result := template.store outcome none
                    awaiter := some { status := some 0, handle := false }
                    enqueued := true } }
  | ended (template : Template R) {outcome : Outcome R E} (allowed : template.Allows outcome) :
      Stage id { template, data := none, progress := .done, returned := [outcome]
                 frame := some
                  { result := template.store outcome none, awaiter := none, enqueued := true } }
  | received (template : Template R) (outcome : Outcome R E) :
      Stage id { template, data := none, progress := .done, returned := [outcome], frame := none
                 received := some (.outcome outcome) }
  | dropped (template : Template R) {progress : Progress} (returned : List (Outcome R E))
      (free : progress = .entered ∨ progress = .left ∨ progress = .cancelled ∨ progress = .done) :
      Stage id { template, data := none, progress, returned, frame := none, dropped := true }

/-- Each item is in one of the stages. -/
def State.Invariant (state : State R E) : Prop :=
  ∀ id item, state.item id = some item → Stage id item

namespace State

variable {state : State R E} {id : ℕ} {item : Item R E}

theorem modify_modify (first second : Item R E → Item R E) :
    (state.modify id first).modify id second = state.modify id fun item => second (first item) := by
  simp [modify, Function.comp_def]

theorem Invariant.modify (invariant : state.Invariant) {change : Item R E → Item R E}
    (found : state.item id = some item) (stage : Stage id (change item)) :
    (state.modify id change).Invariant := by
  intro other other_item other_found
  simp only [State.modify, found, Option.map_some, Function.update_apply] at other_found
  split at other_found
  · rename_i same
    subst same
    exact Option.some.inj other_found ▸ stage
  · exact invariant other other_item other_found

theorem Invariant.submit (invariant : state.Invariant) (id : ℕ) (template : Template R) :
    (state.submit id template).Invariant := by
  intro other other_item other_found
  simp only [State.submit, Function.update_apply] at other_found
  split at other_found
  · rename_i same
    subst same
    exact Option.some.inj other_found ▸ .working template (.inl rfl)
  · exact invariant other other_item other_found

theorem callFunction_eq (found : state.item id = some item)
    (has_read : item.progress = .hasRead id) :
    state.callFunction id =
      state.modify id fun item => ({ item with progress := .calling id } : Item R E).access := by
  simp only [callFunction, found, Option.map_some, has_read, proceed, modify_modify]

theorem store_eq (found : state.item id = some item) (calling : item.progress = .calling id)
    (outcome : Outcome R E) :
    state.store id outcome =
      state.modify id fun item =>
        ({ item with progress := .stored id } : Item R E).store outcome := by
  simp only [store, found, Option.map_some, calling, proceed, modify_modify]

theorem leave_eq (found : state.item id = some item) (stored : item.progress = .stored id) :
    state.leave id =
      state.modify id fun item => ({ item with progress := .left } : Item R E).access := by
  simp only [leave, found, Option.map_some, stored, proceed, modify_modify]

theorem onWorkDone_eq (found : state.item id = some item) (linked : item.data = some id)
    (status : Int) :
    state.onWorkDone id status =
      state.modify id fun item =>
        ({ item with progress := .done } : Item R E).schedule status := by
  simp only [onWorkDone, found, Option.bind_some, linked, proceed, modify_modify]

theorem onWorkDone_orphan (found : state.item id = some item) (unlinked : item.data = none)
    (status : Int) : state.onWorkDone id status = state.proceed id .done := by
  simp only [onWorkDone, found, Option.bind_some, unlinked]

namespace Invariant

theorem pickUp (invariant : state.Invariant) (found : state.item id = some item)
    (queued : item.progress = .queued) : (state.proceed id .entered).Invariant := by
  refine invariant.modify found ?_
  cases invariant id item found with
  | working template early => exact .working template (.inr (.inl rfl))
  | computed _ late => simp_all
  | called | ended | received => simp at queued
  | dropped _ _ free => simp_all

theorem readAwaiter (invariant : state.Invariant) (found : state.item id = some item)
    (entered : item.progress = .entered) : (state.readAwaiter id).Invariant := by
  refine invariant.modify found ?_
  cases invariant id item found with
  | working template early => exact .working template (.inr (.inr (.inl rfl)))
  | computed _ late => simp_all
  | called | ended | received => simp at entered
  | dropped template returned free => exact .dropped template returned (.inr (.inl rfl))

/-- A worker refers to the frames of its own item, and they exist. -/
theorem of_refersTo (invariant : state.Invariant) (found : state.item id = some item)
    {awaiter : ℕ} (refers : item.progress.refersTo = some awaiter) :
    awaiter = id ∧ item.frame.isSome = true := by
  cases invariant id item found with
  | working template early =>
      rcases early with rfl | rfl | rfl | rfl <;> simp_all [Progress.refersTo]
  | computed template late allowed => rcases late with rfl | rfl <;> simp_all [Progress.refersTo]
  | called | ended | received => simp [Progress.refersTo] at refers
  | dropped template returned free =>
      rcases free with rfl | rfl | rfl | rfl <;> simp [Progress.refersTo] at refers

theorem callFunction (invariant : state.Invariant) (found : state.item id = some item)
    {awaiter : ℕ} (has_read : item.progress = .hasRead awaiter) :
    (state.callFunction id).Invariant := by
  obtain ⟨rfl, -⟩ := invariant.of_refersTo found (by rw [has_read]; rfl)
  rw [callFunction_eq found has_read]
  refine invariant.modify found ?_
  cases invariant _ item found with
  | working template early => exact .working template (.inr (.inr (.inr rfl)))
  | computed _ late => simp_all
  | called | ended | received => simp at has_read
  | dropped _ _ free => simp_all

theorem store (invariant : state.Invariant) (found : state.item id = some item)
    {awaiter : ℕ} (calling : item.progress = .calling awaiter) {outcome : Outcome R E}
    (allowed : ∀ owner, state.item awaiter = some owner → owner.template.Allows outcome) :
    (state.store id outcome).Invariant := by
  obtain ⟨rfl, -⟩ := invariant.of_refersTo found (by rw [calling]; rfl)
  rw [store_eq found calling]
  refine invariant.modify found ?_
  have item_allows := allowed item found
  cases invariant _ item found with
  | working template early => exact .computed template (.inl rfl) item_allows
  | computed _ late => simp_all
  | called | ended | received => simp at calling
  | dropped _ _ free => simp_all

theorem leave (invariant : state.Invariant) (found : state.item id = some item)
    {awaiter : ℕ} (stored : item.progress = .stored awaiter) : (state.leave id).Invariant := by
  obtain ⟨rfl, -⟩ := invariant.of_refersTo found (by rw [stored]; rfl)
  rw [leave_eq found stored]
  refine invariant.modify found ?_
  cases invariant _ item found with
  | working _ early => simp_all
  | computed template late allowed => exact .computed template (.inr rfl) allowed
  | called | ended | received => simp at stored
  | dropped _ _ free => simp_all

theorem onWorkDone (invariant : state.Invariant) (found : state.item id = some item)
    {status : Int} (completed : item.progress = .left ∧ status = 0 ∨
      item.progress = .cancelled ∧ status = UV_ECANCELED) :
    (state.onWorkDone id status).Invariant := by
  cases invariant id item found with
  | working _ early =>
      rcases completed with ⟨rfl, -⟩ | ⟨rfl, -⟩
      · simp at early
      · simp at early
  | computed template late allowed =>
      obtain rfl : status = 0 := by
        rcases completed with ⟨-, rfl⟩ | ⟨rfl, -⟩
        · rfl
        · simp at late
      rw [onWorkDone_eq found rfl]
      exact invariant.modify found (.called template allowed)
  | called | ended | received => simp at completed
  | dropped template returned free =>
      rw [onWorkDone_orphan found rfl]
      exact invariant.modify found (.dropped template returned (.inr (.inr (.inr rfl))))

/-- Each coroutine that is resumed ends, the outer one with the outcome of its function. -/
theorem resume (invariant : state.Invariant) (found : state.item id = some item)
    {frame : Frame R E} (framed : item.frame = some frame) (enqueued : frame.enqueued = true) :
    (state.modify id Item.resume).Invariant := by
  refine invariant.modify found ?_
  cases invariant id item found with
  | working | computed =>
      obtain rfl := Option.some.inj framed
      simp at enqueued
  | called template allowed => exact .ended template allowed
  | ended template allowed =>
      simp only [Item.resume, Item.resumeOuter, template.finish_store allowed]
      exact .received template _
  | received | dropped => simp at framed

theorem drop (invariant : state.Invariant) (found : state.item id = some item)
    (framed : item.frame.isSome = true) (in_time : item.progress.refersTo = none) :
    (state.modify id Item.drop).Invariant := by
  refine invariant.modify found ?_
  cases invariant id item found with
  | working template early =>
      rcases early with rfl | rfl | rfl | rfl
      · exact .dropped template [] (.inr (.inr (.inl rfl)))
      · exact .dropped template [] (.inl rfl)
      · simp [Progress.refersTo] at in_time
      · simp [Progress.refersTo] at in_time
  | computed template late =>
      rcases late with rfl | rfl
      · simp [Progress.refersTo] at in_time
      · exact .dropped template _ (.inr (.inl rfl))
  | called template | ended template => exact .dropped template _ (.inr (.inr (.inr rfl)))
  | received | dropped => simp at framed

theorem step (invariant : state.Invariant) {action : Action R E}
    (enabled : action.Enabled state) (in_time : DropsInTime state action) :
    (action.perform state).Invariant := by
  cases action with
  | submit id template => exact invariant.submit id template
  | pickUp id =>
      rcases enabled with ⟨item, found, queued⟩
      exact invariant.pickUp found queued
  | readAwaiter id =>
      rcases enabled with ⟨item, found, entered⟩
      exact invariant.readAwaiter found entered
  | callFunction id =>
      rcases enabled with ⟨item, found, awaiter, has_read⟩
      exact invariant.callFunction found has_read
  | store id outcome =>
      rcases enabled with ⟨item, found, awaiter, calling, allowed⟩
      exact invariant.store found calling allowed
  | leave id =>
      rcases enabled with ⟨item, found, awaiter, stored⟩
      exact invariant.leave found stored
  | onWorkDone id status =>
      rcases enabled with ⟨item, found, completed⟩
      exact invariant.onWorkDone found completed
  | resume id =>
      rcases enabled with ⟨item, found, frame, framed, enqueued⟩
      exact invariant.resume found framed enqueued
  | drop id =>
      rcases enabled with ⟨item, found, framed⟩
      exact invariant.drop found framed (in_time item found)

end Invariant

theorem invariant_of_reachableVia (reached : (system R E).ReachableVia DropsInTime state) :
    state.Invariant := by
  refine reached.invariant State.Invariant ?_ ?_
  · rintro _ rfl _ _ ⟨⟩
  · exact fun _ _ invariant enabled in_time => invariant.step enabled in_time

@[simp]
theorem modify_item (change : Item R E → Item R E) :
    (state.modify id change).item id = (state.item id).map change := by
  simp [modify]

theorem modify_item_of_ne {other : ℕ} (differs : id ≠ other) (change : Item R E → Item R E) :
    (state.modify other change).item id = state.item id := by
  simp [modify, differs]

/-- A promise that is not dropped gets the outcome of its own function, and once its frames are
destroyed, no worker executes the function. -/
structure Isolated (state : State R E) (id : ℕ) (item : Item R E) : Prop where
  own : item.dropped = false → ∀ received, item.received = some received →
    ∃ outcome, item.returned = [outcome] ∧ received = .outcome outcome
  /-- As long as it has not got the outcome, its function is being executed, or the loop or a worker
  has a step to take. -/
  proceeds : item.dropped = false → item.received = none →
    item.progress = .calling id ∨
      ∃ action : Action R E, action.id = id ∧ action ≠ .drop id ∧ action.Enabled state
  /-- With every step of its own but the drop, there is one less to take before it gets the
  outcome. -/
  advances : item.dropped = false → ∀ action : Action R E, action.id = id → action ≠ .drop id →
    action.Enabled state → ∃ after, (action.perform state).item id = some after ∧
      after.dropped = false ∧ after.remaining + 1 = item.remaining
  fulfilled : item.dropped = false → item.remaining = 0 → item.received.isSome = true
  /-- What happens to other items does not concern it. -/
  undisturbed : ∀ action : Action R E, action.id ≠ id → action.Enabled state →
    (action.perform state).item id = some item
  quiet : item.frame = none → ∀ other item, state.item other = some item →
    item.progress.executing ≠ some id
  untouched : item.touched = false
  asserted : item.fault = false

namespace Invariant

theorem own (invariant : state.Invariant) (found : state.item id = some item)
    (kept : item.dropped = false) {received : Received R E}
    (received_eq : item.received = some received) :
    ∃ outcome, item.returned = [outcome] ∧ received = .outcome outcome := by
  cases invariant id item found with
  | working | computed | called | ended => simp at received_eq
  | received template outcome => exact ⟨outcome, rfl, (Option.some.inj received_eq).symm⟩
  | dropped => simp at kept

theorem proceeds (invariant : state.Invariant) (found : state.item id = some item)
    (kept : item.dropped = false) (unfulfilled : item.received = none) :
    item.progress = .calling id ∨
      ∃ action : Action R E, action.id = id ∧ action ≠ .drop id ∧ action.Enabled state := by
  cases invariant id item found with
  | working template early =>
      rcases early with rfl | rfl | rfl | rfl
      · exact .inr ⟨.pickUp id, rfl, by simp, _, found, rfl⟩
      · exact .inr ⟨.readAwaiter id, rfl, by simp, _, found, rfl⟩
      · exact .inr ⟨.callFunction id, rfl, by simp, _, found, id, rfl⟩
      · exact .inl rfl
  | computed template late allowed =>
      rcases late with rfl | rfl
      · exact .inr ⟨.leave id, rfl, by simp, _, found, id, rfl⟩
      · exact .inr ⟨.onWorkDone id 0, rfl, by simp, _, found, .inl ⟨rfl, rfl⟩⟩
  | called | ended => exact .inr ⟨.resume id, rfl, by simp, _, found, _, rfl, rfl⟩
  | received => simp at unfulfilled
  | dropped => simp at kept

theorem fulfilled (invariant : state.Invariant) (found : state.item id = some item)
    (kept : item.dropped = false) (nothing_left : item.remaining = 0) :
    item.received.isSome = true := by
  cases invariant id item found with
  | working template early =>
      rcases early with rfl | rfl | rfl | rfl <;> simp [Item.remaining] at nothing_left
  | computed template late => rcases late with rfl | rfl <;> simp [Item.remaining] at nothing_left
  | called | ended => simp [Item.remaining] at nothing_left
  | received => rfl
  | dropped => simp at kept

/-- The request of an item leads to its own frames, or nowhere. -/
theorem data_eq (invariant : state.Invariant) (found : state.item id = some item) :
    item.data = none ∨ item.data = some id := by
  cases invariant id item found with
  | working | computed | called => exact .inr rfl
  | ended | received | dropped => exact .inl rfl

/-- Each action changes its own item only. -/
theorem undisturbed (invariant : state.Invariant) (found : state.item id = some item)
    {action : Action R E} (differs : action.id ≠ id) (enabled : action.Enabled state) :
    (action.perform state).item id = some item := by
  have untouched : ∀ other ≠ id, ∀ change, (state.modify other change).item id = some item :=
    fun _ differs change => (modify_item_of_ne (Ne.symm differs) change).trans found
  cases action with
  | submit other template =>
      exact (Function.update_of_ne (Ne.symm differs) _ _).trans found
  | pickUp other | readAwaiter other | resume other | drop other => exact untouched _ differs _
  | callFunction other =>
      rcases enabled with ⟨other_item, (other_found : state.item other = _), awaiter, has_read⟩
      obtain ⟨rfl, -⟩ := invariant.of_refersTo other_found (by rw [has_read]; rfl)
      change (state.callFunction _).item id = some item
      rw [callFunction_eq other_found has_read]
      exact untouched _ differs _
  | store other outcome =>
      rcases enabled with ⟨other_item, (other_found : state.item other = _), awaiter, calling, -⟩
      obtain ⟨rfl, -⟩ := invariant.of_refersTo other_found (by rw [calling]; rfl)
      change (state.store _ outcome).item id = some item
      rw [store_eq other_found calling]
      exact untouched _ differs _
  | leave other =>
      rcases enabled with ⟨other_item, (other_found : state.item other = _), awaiter, stored⟩
      obtain ⟨rfl, -⟩ := invariant.of_refersTo other_found (by rw [stored]; rfl)
      change (state.leave _).item id = some item
      rw [leave_eq other_found stored]
      exact untouched _ differs _
  | onWorkDone other status =>
      rcases enabled with ⟨other_item, (other_found : state.item other = _), -⟩
      rcases invariant.data_eq other_found with unlinked | linked
      · change (state.onWorkDone other status).item id = some item
        rw [onWorkDone_orphan other_found unlinked]
        exact untouched _ differs _
      · change (state.onWorkDone other status).item id = some item
        rw [onWorkDone_eq other_found linked]
        exact untouched _ differs _

end Invariant

/-- What an enabled action asks of the item that it is about. -/
theorem permitted_of_enabled (found : state.item id = some item) {action : Action R E}
    (same : action.id = id) (enabled : action.Enabled state) : action.Permitted state item := by
  subst same
  cases action with
  | submit other template => exact absurd (found.symm.trans enabled) (by simp)
  | pickUp | readAwaiter | callFunction | store | leave | onWorkDone | resume | drop =>
      rcases enabled with ⟨_, same_found, permitted⟩
      obtain rfl := Option.some.inj (found.symm.trans same_found)
      exact permitted

/-- Each step of an item that is not dropped brings it one step nearer to its outcome. -/
theorem Invariant.advances (invariant : state.Invariant) (found : state.item id = some item)
    (kept : item.dropped = false) {action : Action R E} (same : action.id = id)
    (not_dropped : action ≠ .drop id) (enabled : action.Enabled state) :
    ∃ after, (action.perform state).item id = some after ∧
      after.dropped = false ∧ after.remaining + 1 = item.remaining := by
  have stage := invariant id item found
  have changed : ∀ {after : State R E} {change : Item R E → Item R E},
      after = state.modify id change → after.item id = some (change item) := by
    rintro _ change rfl
    rw [modify_item, found, Option.map_some]
  have permitted := permitted_of_enabled found same enabled
  cases action with
  | submit other template => exact permitted.elim
  | drop other => exact absurd (congrArg Action.drop same) not_dropped
  | pickUp other =>
      obtain rfl : other = id := same
      exact ⟨_, changed rfl, kept, by simp only [Item.remaining, show _ = _ from permitted]⟩
  | readAwaiter other =>
      obtain rfl : other = id := same
      simp only [Action.Permitted] at permitted
      refine ⟨_, changed rfl, kept, ?_⟩
      cases stage with
      | working => simp_all [Item.remaining]
      | computed _ late => simp_all
      | called | ended | received => simp at permitted
      | dropped => simp at kept
  | callFunction other =>
      obtain rfl : other = id := same
      rcases permitted with ⟨awaiter, has_read⟩
      obtain ⟨rfl, -⟩ := invariant.of_refersTo found (by rw [has_read]; rfl)
      exact ⟨_, changed (callFunction_eq found has_read), kept,
        by simp only [Item.remaining, Item.access, has_read]⟩
  | store other outcome =>
      obtain rfl : other = id := same
      rcases permitted with ⟨awaiter, calling, -⟩
      obtain ⟨rfl, -⟩ := invariant.of_refersTo found (by rw [calling]; rfl)
      exact ⟨_, changed (store_eq found calling outcome), kept,
        by simp only [Item.remaining, Item.store, Item.access, Item.onFrame, calling]⟩
  | leave other =>
      obtain rfl : other = id := same
      rcases permitted with ⟨awaiter, stored⟩
      obtain ⟨rfl, -⟩ := invariant.of_refersTo found (by rw [stored]; rfl)
      exact ⟨_, changed (leave_eq found stored), kept,
        by simp only [Item.remaining, Item.access, stored]⟩
  | onWorkDone other status =>
      obtain rfl : other = id := same
      simp only [Action.Permitted] at permitted
      cases stage with
      | working _ early => rcases early with rfl | rfl | rfl | rfl <;> simp at permitted
      | computed _ late =>
          have left := late.resolve_left (by rintro rfl; simp at permitted)
          subst left
          exact ⟨_, changed (onWorkDone_eq found rfl status), kept, rfl⟩
      | called | ended | received => simp at permitted
      | dropped => simp at kept
  | resume other =>
      obtain rfl : other = id := same
      rcases permitted with ⟨frame, framed, enqueued⟩
      cases stage with
      | working | computed =>
          obtain rfl := Option.some.inj framed
          simp at enqueued
      | called => exact ⟨_, changed rfl, kept, rfl⟩
      | ended template allowed =>
          refine ⟨_, changed rfl, ?_⟩
          simp only [Item.resume, Item.resumeOuter, template.finish_store allowed]
          exact ⟨trivial, rfl⟩
      | received | dropped => simp at framed

theorem Invariant.isolated (invariant : state.Invariant) (found : state.item id = some item) :
    state.Isolated id item := by
  have quiet : item.frame = none → ∀ other other_item, state.item other = some other_item →
      other_item.progress.executing ≠ some id := by
    intro gone other other_item other_found executing
    have refers : other_item.progress.refersTo = some id := by
      revert executing
      cases other_item.progress <;> simp [Progress.executing, Progress.refersTo]
    rcases invariant.of_refersTo other_found refers with ⟨rfl, framed⟩
    obtain rfl := Option.some.inj (found.symm.trans other_found)
    simp [gone] at framed
  refine ⟨fun kept _ => invariant.own found kept, invariant.proceeds found,
    fun kept _ => invariant.advances found kept, invariant.fulfilled found,
    fun _ => invariant.undisturbed found, quiet, ?_, ?_⟩
  · cases invariant id item found <;> rfl
  · cases invariant id item found <;> rfl

/-- Whoever is dropped while the function is executed goes on being executed. -/
theorem drop_executing {awaiter : ℕ} (found : state.item id = some item)
    (executing : item.progress.executing = some awaiter) (framed : item.frame.isSome = true) :
    ∃ after, (state.modify id Item.drop).item id = some after ∧ after.frame = none ∧
      after.progress.executing = some awaiter := by
  rcases Option.isSome_iff_exists.mp framed with ⟨frame, frame_eq⟩
  refine ⟨item.drop, by simp [modify, found], ?_, ?_⟩
  · simp only [Item.drop, frame_eq]
  · simp only [Item.drop, Item.destroyAwaiter, frame_eq]
    split
    · split
      · exact item.progress.executing_cancel.trans executing
      · exact executing
    · exact executing

/-- If promises are dropped only while no worker has the address of their awaiter, no worker touches
destroyed frames, and the others get what their functions have returned or thrown. -/
theorem isolated_of_dropsInTime (reached : (system R E).ReachableVia DropsInTime state)
    (found : state.item id = some item) : state.Isolated id item :=
  (invariant_of_reachableVia reached).isolated found

/-- Of two items the first is dropped before its worker looks for the awaiter, and the second one
throws. -/
theorem isolated_second_of_two :
    ∃ (state : State ℕ ℕ) (item : Item ℕ ℕ), (system ℕ ℕ).Reachable state ∧
      state.item 1 = some item ∧ item.received = some (.outcome (.exception 5)) ∧
      state.Isolated 1 item := by
  have start : (system ℕ ℕ).ReachableVia DropsInTime {} := .start rfl
  have first := start.step (Action.submit 0 .generic) rfl trivial
  have second := first.step (Action.submit 1 (.void 0)) rfl trivial
  have picked := second.step (Action.pickUp 0) ⟨_, rfl, rfl⟩ trivial
  have dropped := picked.step (Action.drop 0) ⟨_, rfl, rfl⟩ (by rintro _ ⟨⟩; rfl)
  have left := dropped.step (Action.readAwaiter 0) ⟨_, rfl, rfl⟩ trivial
  have entered := left.step (Action.pickUp 1) ⟨_, rfl, rfl⟩ trivial
  have has_read := entered.step (Action.readAwaiter 1) ⟨_, rfl, rfl⟩ trivial
  have calling := has_read.step (Action.callFunction 1) ⟨_, rfl, 1, rfl⟩ trivial
  have threw := calling.step (Action.store 1 (.exception 5))
    ⟨_, rfl, 1, rfl, by rintro _ ⟨⟩; trivial⟩ trivial
  have returned := threw.step (Action.leave 1) ⟨_, rfl, 1, rfl⟩ trivial
  have completed := returned.step (Action.onWorkDone 1 0) ⟨_, rfl, .inl ⟨rfl, rfl⟩⟩ trivial
  have inner := completed.step (Action.resume 1) ⟨_, rfl, _, rfl, rfl⟩ trivial
  have outer := inner.step (Action.resume 1) ⟨_, rfl, _, rfl, rfl⟩ trivial
  exact ⟨_, _, outer.reachable, rfl, rfl, isolated_of_dropsInTime outer rfl⟩

/-- The promise is dropped while the worker executes the function. -/
theorem dropped_while_executing :
    ¬∀ state : State ℕ ℕ, (system ℕ ℕ).Reachable state → ∀ id item,
      state.item id = some item → state.Isolated id item := by
  intro always
  have start : (system ℕ ℕ).Reachable {} := .start rfl
  have submitted := start.step (Action.submit 0 .generic) rfl trivial
  have entered := submitted.step (Action.pickUp 0) ⟨_, rfl, rfl⟩ trivial
  have has_read := entered.step (Action.readAwaiter 0) ⟨_, rfl, rfl⟩ trivial
  have calling := has_read.step (Action.callFunction 0) ⟨_, rfl, 0, rfl⟩ trivial
  have dropped := calling.step (Action.drop 0) ⟨_, rfl, rfl⟩ trivial
  have stored := dropped.step (Action.store 0 (.value 3))
    ⟨_, rfl, 0, rfl, by rintro _ ⟨⟩; trivial⟩ trivial
  exact absurd (always _ stored 0 _ rfl).untouched (by decide)

end State

end Uvco.AsyncWork
