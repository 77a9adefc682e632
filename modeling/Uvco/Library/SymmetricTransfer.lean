import Mathlib.Data.List.Basic
import Mathlib.Data.Nat.Notation

/-!
# Symmetric transfer

Coroutines run on one call stack. A coroutine that suspends or ends gives control back
to the one that has called it, or else to a loop that resumes the coroutines of a queue
one after the other. With symmetric transfer, an awaiter passes control on to the next
coroutine of the queue instead, and that coroutine takes the place of the suspended one
on the stack.

`step true` and `step false` run the same coroutines with and without symmetric transfer.
They agree as long as nobody is overtaken, that is, as long as the queue has nothing to
resume whenever a coroutine with a caller suspends in such an awaiter.
-/

universe u v w

/-- What a coroutine does after an instruction. -/
inductive Control (Handle : Type w) where
  | proceed
  /-- It starts another coroutine, which runs first. -/
  | call (callee : Handle)
  /-- It suspends in an awaiter that may transfer control to the next coroutine. -/
  | suspend (transfers : Bool)
  | finish
deriving DecidableEq, Repr

/-- Coroutines that share a memory and a queue of coroutines to resume. They act on what the queue
holds only, not on how it holds it. -/
structure CoroutineMachine (Memory : Type u) (Queue : Type v) (Handle : Type w) where
  /-- The next instruction of a coroutine. -/
  execute : Memory → Queue → Handle → (Memory × Control Handle) × Queue
  /-- Takes out the next coroutine to resume. -/
  pop : Memory → Queue → Option Handle × Queue
  /-- The coroutines that will be taken out, in order. -/
  ready : Memory → Queue → List Handle
  pop_fst : ∀ memory queue, (pop memory queue).1 = (ready memory queue).head?
  ready_pop : ∀ memory queue, ready memory (pop memory queue).2 = (ready memory queue).tail
  execute_fst : ∀ {memory queue queue'} handle, ready memory queue = ready memory queue' →
    (execute memory queue handle).1 = (execute memory queue' handle).1
  ready_execute : ∀ {memory queue queue'} handle, ready memory queue = ready memory queue' →
    ready (execute memory queue handle).1.1 (execute memory queue handle).2 =
      ready (execute memory queue' handle).1.1 (execute memory queue' handle).2

namespace CoroutineMachine

/-- A machine that executes coroutines, with its call stack. -/
structure State (Memory : Type u) (Queue : Type v) (Handle : Type w) where
  memory : Memory
  queue : Queue
  /-- The coroutines on the call stack, the one that runs first. -/
  stack : List Handle := []
  /-- The coroutines that executed an instruction, in order. -/
  trace : List Handle := []
  /-- The coroutines that were called, in order. -/
  started : List Handle := []
  /-- The coroutines that were resumed, in order. -/
  resumed : List Handle := []

variable {Memory : Type u} {Queue : Type v} {Handle : Type w}
variable (machine : CoroutineMachine Memory Queue Handle)

/-- The loop resumes the next coroutine. -/
def resumeNext (state : State Memory Queue Handle) : State Memory Queue Handle :=
  let (next, queue) := machine.pop state.memory state.queue
  { state with queue, stack := next.toList, resumed := state.resumed ++ next.toList }

/-- Control goes back to the caller, or to the loop. -/
def giveBack (state : State Memory Queue Handle) (callers : List Handle) :
    State Memory Queue Handle :=
  match callers with
  | [] => machine.resumeNext state
  | _ :: _ => { state with stack := callers }

/-- Whom an awaiter passes control to. Without symmetric transfer, it is nobody. -/
def target (symmetric : Bool) (state : State Memory Queue Handle) : Option Handle × Queue :=
  if symmetric then machine.pop state.memory state.queue else (none, state.queue)

/-- A coroutine suspends in an awaiter that passes control on. -/
def transfer (symmetric : Bool) (state : State Memory Queue Handle) (callers : List Handle) :
    State Memory Queue Handle :=
  let (next, queue) := machine.target symmetric state
  match next with
  | some next =>
      { state with queue, stack := next :: callers, resumed := state.resumed ++ [next] }
  | none => machine.giveBack { state with queue } callers

/-- What becomes of the call stack after an instruction. -/
def continueWith (symmetric : Bool) (state : State Memory Queue Handle) (running : Handle)
    (callers : List Handle) : Control Handle → State Memory Queue Handle
  | .proceed => { state with stack := running :: callers }
  | .call callee =>
      { state with
        stack := callee :: running :: callers, started := state.started ++ [callee] }
  | .suspend true => machine.transfer symmetric state callers
  | .suspend false | .finish => machine.giveBack state callers

/-- The state after the next instruction of a coroutine, with the call stack as it was. -/
def executed (state : State Memory Queue Handle) (running : Handle) : State Memory Queue Handle :=
  let ((memory, _), queue) := machine.execute state.memory state.queue running
  { state with memory, queue, trace := state.trace ++ [running] }

/-- What the instruction that a coroutine is at tells the machine to do. -/
def control (state : State Memory Queue Handle) (running : Handle) : Control Handle :=
  (machine.execute state.memory state.queue running).1.2

/-- One instruction, or one turn of the scheduler if no coroutine runs. -/
def step (symmetric : Bool) (state : State Memory Queue Handle) : State Memory Queue Handle :=
  match state.stack with
  | [] => machine.resumeNext state
  | running :: callers =>
      machine.continueWith symmetric (machine.executed state running) running callers
        (machine.control state running)

/-- So many steps. -/
def run (symmetric : Bool) : ℕ → State Memory Queue Handle → State Memory Queue Handle
  | 0, state => state
  | steps + 1, state => machine.step symmetric (run symmetric steps state)

/-- The call that is made after some steps has not returned after some more. -/
structure InCall (symmetric : Bool) (start : State Memory Queue Handle) (call later : ℕ) :
    Prop where
  calls : ∃ caller callers callee, (machine.run symmetric call start).stack = caller :: callers ∧
    machine.control (machine.run symmetric call start) caller = .call callee
  pending : ∀ between ≤ later, 0 < between →
    (machine.run symmetric call start).stack.length <
      (machine.run symmetric (call + between) start).stack.length

/-- The coroutine that a transfer of control would resume before the caller of the coroutine that
suspends, together with that caller. -/
def overtakes (state : State Memory Queue Handle) : Option (Handle × Handle) :=
  match state.stack with
  | running :: caller :: _ =>
      let after := machine.executed state running
      match machine.control state running with
      | .suspend true => (machine.ready after.memory after.queue).head?.map (·, caller)
      | .proceed | .call _ | .suspend false | .finish => none
  | [] | [_] => none

/-- Two states differ at most in how their queues hold the same coroutines. -/
structure Agrees (left right : State Memory Queue Handle) : Prop where
  memory : left.memory = right.memory
  ready : machine.ready left.memory left.queue = machine.ready right.memory right.queue
  stack : left.stack = right.stack
  trace : left.trace = right.trace
  started : left.started = right.started
  resumed : left.resumed = right.resumed

variable {machine}

namespace Agrees

variable {left right : State Memory Queue Handle}

theorem refl (state : State Memory Queue Handle) : machine.Agrees state state :=
  ⟨rfl, rfl, rfl, rfl, rfl, rfl⟩

/-- The queues hold the same coroutines for the one memory that both states have. -/
theorem ready_left (agrees : machine.Agrees left right) :
    machine.ready left.memory left.queue = machine.ready left.memory right.queue := by
  rw [agrees.ready, agrees.memory]

theorem setStack (agrees : machine.Agrees left right) (stack : List Handle) :
    machine.Agrees { left with stack } { right with stack } :=
  { agrees with stack := rfl }

theorem control (agrees : machine.Agrees left right) (running : Handle) :
    machine.control left running = machine.control right running := by
  have same := machine.execute_fst running agrees.ready_left
  rw [CoroutineMachine.control, same, CoroutineMachine.control, agrees.memory]

theorem executed (agrees : machine.Agrees left right) (running : Handle) :
    machine.Agrees (machine.executed left running) (machine.executed right running) := by
  have same := machine.execute_fst running agrees.ready_left
  have ready := machine.ready_execute running agrees.ready_left
  rw [agrees.memory] at same ready
  constructor
  · exact congrArg Prod.fst (agrees.memory ▸ same)
  · simpa only [CoroutineMachine.executed, agrees.memory] using ready
  · exact agrees.stack
  · simp only [CoroutineMachine.executed, agrees.trace]
  · exact agrees.started
  · exact agrees.resumed

theorem pop (agrees : machine.Agrees left right) :
    (machine.pop left.memory left.queue).1 = (machine.pop right.memory right.queue).1 := by
  rw [machine.pop_fst, machine.pop_fst, agrees.ready]

theorem resumeNext (agrees : machine.Agrees left right) :
    machine.Agrees (machine.resumeNext left) (machine.resumeNext right) where
  memory := agrees.memory
  ready := by
    simp only [CoroutineMachine.resumeNext, machine.ready_pop, agrees.ready]
  stack := by
    simp only [CoroutineMachine.resumeNext, agrees.pop]
  trace := agrees.trace
  started := agrees.started
  resumed := by
    simp only [CoroutineMachine.resumeNext, agrees.pop, agrees.resumed]

theorem giveBack (agrees : machine.Agrees left right) (callers : List Handle) :
    machine.Agrees (machine.giveBack left callers) (machine.giveBack right callers) := by
  cases callers with
  | nil => exact agrees.resumeNext
  | cons caller callers => exact agrees.setStack _

/-- Passing control on is giving it back if the queue has nothing to resume, or if there is no
caller. -/
theorem transfer (agrees : machine.Agrees left right) {callers : List Handle}
    (nothing : callers ≠ [] → machine.ready right.memory right.queue = []) :
    machine.Agrees (machine.transfer true left callers) (machine.transfer false right callers) := by
  have popped := machine.pop_fst left.memory left.queue
  have rest := machine.ready_pop left.memory left.queue
  rw [agrees.ready] at popped rest
  cases ready : machine.ready right.memory right.queue with
  | nil =>
      rw [ready] at popped rest
      have same : machine.Agrees
          { left with queue := (machine.pop left.memory left.queue).2 } right :=
        { agrees with ready := rest.trans ready.symm }
      simpa only [CoroutineMachine.transfer, target, popped, if_true, Bool.false_eq_true, if_false,
        List.head?_nil] using same.giveBack callers
  | cons next others =>
      have no_callers : callers = [] := by
        by_contra has_caller
        simp [nothing has_caller] at ready
      subst callers
      have same := agrees.resumeNext
      rw [ready] at popped
      simpa only [CoroutineMachine.transfer, target, popped, if_true, Bool.false_eq_true, if_false,
        List.head?_cons, CoroutineMachine.giveBack, CoroutineMachine.resumeNext,
        Option.toList_some] using same

/-- A step of both machines in which nobody is overtaken. -/
theorem step (agrees : machine.Agrees left right) (undisturbed : machine.overtakes right = none) :
    machine.Agrees (machine.step true left) (machine.step false right) := by
  unfold CoroutineMachine.step
  rw [agrees.stack]
  split
  · exact agrees.resumeNext
  · rename_i running callers stack_eq
    have after := agrees.executed running
    rw [agrees.control running]
    cases transferred : machine.control right running with
    | proceed => exact after.setStack _
    | call callee =>
        exact { after with stack := rfl, started := congrArg (· ++ [callee]) after.started }
    | finish => exact after.giveBack callers
    | suspend transfers =>
        cases transfers with
        | false => exact after.giveBack callers
        | true =>
            refine after.transfer fun has_caller => ?_
            obtain ⟨caller, callers, rfl⟩ := List.exists_cons_of_ne_nil has_caller
            simpa only [overtakes, stack_eq, transferred, Option.map_eq_none_iff,
              List.head?_eq_none_iff] using undisturbed

end Agrees

/-- Symmetric transfer does not change a run in which nobody is overtaken. -/
theorem agrees_run (start : State Memory Queue Handle) {steps : ℕ}
    (undisturbed : ∀ earlier < steps, machine.overtakes (machine.run false earlier start) = none) :
    machine.Agrees (machine.run true steps start) (machine.run false steps start) := by
  induction steps with
  | zero => exact .refl start
  | succ steps ih =>
      have before := ih fun earlier sooner => undisturbed earlier (Nat.lt_succ_of_lt sooner)
      exact before.step (undisturbed steps (Nat.lt_succ_self steps))

/-- If somebody is overtaken, it is the caller, by the next coroutine of the queue. -/
theorem step_of_overtakes {left right : State Memory Queue Handle}
    (agrees : machine.Agrees left right) {next caller : Handle}
    (overtaken : machine.overtakes right = some (next, caller)) :
    (machine.step true left).stack.head? = some next ∧
      (machine.step false right).stack.head? = some caller := by
  unfold overtakes at overtaken
  split at overtaken
  · rename_i running found callers stack_eq
    have after := agrees.executed running
    cases transferred : machine.control right running with
    | suspend transfers =>
        cases transfers with
        | false => simp [transferred] at overtaken
        | true =>
            simp only [transferred, Option.map_eq_some_iff, Prod.mk.injEq] at overtaken
            obtain ⟨front, front_eq, rfl, rfl⟩ := overtaken
            constructor
            · have left_stack := agrees.stack.trans stack_eq
              have popped := machine.pop_fst (machine.executed left running).memory
                (machine.executed left running).queue
              rw [after.ready, front_eq] at popped
              simp [step, left_stack, agrees.control running, transferred, continueWith,
                transfer, target, popped]
            · simp [step, stack_eq, transferred, continueWith, transfer, target, giveBack]
    | proceed | call | finish => simp [transferred] at overtaken
  · simp at overtaken
  · simp at overtaken

/-! ## Calls without symmetric transfer -/

/-- Nobody was resumed since a state, and the coroutines on top of its call stack were started
since. -/
def Nested (before state : State Memory Queue Handle) : Prop :=
  state.resumed = before.resumed ∧
    ∃ above since, state.stack = above ++ before.stack ∧ state.started = before.started ++ since ∧
      ∀ handle ∈ above, handle ∈ since

theorem Nested.step {before state : State Memory Queue Handle} (nested : Nested before state)
    (has_caller : before.stack ≠ []) (in_call : before.stack.length < state.stack.length) :
    Nested before (machine.step false state) := by
  obtain ⟨resumed_eq, above, since, stack_eq, started_eq, above_since⟩ := nested
  cases above with
  | nil => simp [stack_eq] at in_call
  | cons running above =>
      have below : above ++ before.stack ≠ [] := by simp [has_caller]
      obtain ⟨next, rest, below_eq⟩ := List.exists_cons_of_ne_nil below
      have given_back : Nested before
          (machine.giveBack (machine.executed state running) (above ++ before.stack)) := by
        simp only [giveBack, below_eq]
        exact ⟨resumed_eq, above, since, below_eq.symm, started_eq,
          fun handle mem => above_since handle (.tail _ mem)⟩
      have after : machine.step false state =
          machine.continueWith false (machine.executed state running) running
            (above ++ before.stack) (machine.control state running) := by
        simp only [CoroutineMachine.step, stack_eq, List.cons_append]
      rw [after]
      cases machine.control state running with
      | proceed => exact ⟨resumed_eq, running :: above, since, rfl, started_eq, above_since⟩
      | call callee =>
          refine ⟨resumed_eq, callee :: running :: above, since ++ [callee], rfl, ?_, ?_⟩
          · simp only [continueWith, executed, started_eq, List.append_assoc]
          · intro handle mem
            rcases List.mem_cons.mp mem with rfl | older
            · simp
            · exact List.mem_append_left _ (above_since handle older)
      | suspend transfers => cases transfers <;> exact given_back
      | finish => exact given_back

/-- Until a call returns, nobody is resumed, and only coroutines run that were started since. -/
theorem InCall.nested {start : State Memory Queue Handle} {call later : ℕ}
    (in_call : machine.InCall false start call later) :
    Nested (machine.run false call start) (machine.run false (call + later) start) := by
  obtain ⟨caller, callers, callee, stack_eq, calls⟩ := in_call.calls
  induction later with
  | zero => exact ⟨rfl, [], [], rfl, (List.append_nil _).symm, by simp⟩
  | succ later ih =>
      rcases Nat.eq_zero_or_pos later with rfl | positive
      · have called : machine.run false (call + 1) start =
            machine.continueWith false (machine.executed (machine.run false call start) caller)
              caller callers (.call callee) := by
          simp only [run, step, stack_eq, calls]
        rw [called]
        refine ⟨rfl, [callee], [callee], ?_, rfl, fun handle mem => mem⟩
        simp only [continueWith, stack_eq, List.cons_append, List.nil_append]
      · have nested := ih
          { in_call with
            pending := fun between sooner =>
              in_call.pending between (Nat.le_succ_of_le sooner) }
        exact nested.step (by simp [stack_eq])
          (in_call.pending later (Nat.le_succ later) positive)

/-- Symmetric transfer does not change this as long as nobody is overtaken. -/
theorem InCall.nested_of_undisturbed {start : State Memory Queue Handle} {steps : ℕ}
    (undisturbed : ∀ earlier < steps, machine.overtakes (machine.run false earlier start) = none)
    {symmetric : Bool} {call later : ℕ} (within : call + later ≤ steps)
    (in_call : machine.InCall symmetric start call later) :
    Nested (machine.run symmetric call start) (machine.run symmetric (call + later) start) := by
  cases symmetric with
  | false => exact in_call.nested
  | true =>
      have same : ∀ between ≤ later, machine.Agrees (machine.run true (call + between) start)
          (machine.run false (call + between) start) := by
        intro between sooner
        refine agrees_run start fun earlier before => undisturbed earlier ?_
        omega
      have at_call : machine.Agrees (machine.run true call start) (machine.run false call start) :=
        same 0 (Nat.zero_le later)
      have now := same later (Nat.le_refl later)
      have in_call : machine.InCall false start call later := by
        obtain ⟨⟨caller, callers, callee, stack_eq, calls⟩, pending⟩ := in_call
        refine ⟨⟨caller, callers, callee, at_call.stack.symm.trans stack_eq,
          (at_call.control caller).symm.trans calls⟩, fun between sooner positive => ?_⟩
        have longer := pending between sooner positive
        rwa [at_call.stack, (same between sooner).stack] at longer
      have nested := in_call.nested
      unfold Nested at nested ⊢
      rwa [now.resumed, at_call.resumed, now.stack, at_call.stack, now.started, at_call.started]

end CoroutineMachine
