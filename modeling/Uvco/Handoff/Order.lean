import Mathlib.Data.List.ReduceOption
import Uvco.Handoff.Program

/-!
# Symmetric hand-off and the order of execution

`useSymmetricHandoff` of `uvco/loop/scheduler.cc` decides whether `Scheduler::getNext()`
takes the next coroutine out of the scheduler queue or leaves that to `runAll()`. Both ways
of scheduling run the same program here.

A coroutine that was called by another one and suspends in an awaiter that ends in `getNext()`
is where the two differ: with symmetric hand-off the next coroutine of the queue runs first,
before the call returns, otherwise the caller does.
-/

namespace Uvco.Handoff

variable {T E D : Type}

/-- The coroutines that the scheduler will resume, in order. -/
def runnable (done : Handle → Bool) (loop : Loop) : List Handle :=
  loop.scheduler.resumable.reduceOption.filter fun handle => !done handle

theorem runnable_enqueue (done : Handle → Bool) (loop : Loop) (handle : Handle) :
    runnable done (loop.enqueue handle) =
      runnable done loop ++ if done handle then [] else [handle] := by
  cases ended : done handle <;>
    simp [runnable, Scheduler.enqueue, List.reduceOption_append, List.reduceOption_singleton, ended]

theorem runnable_cancel (done : Handle → Bool) (loop : Loop) (handle : Handle) :
    runnable done (loop.cancel handle) = (runnable done loop).filter (· ≠ handle) := by
  simp only [runnable, Loop.cancel_scheduler, Scheduler.cancel]
  induction loop.scheduler.resumable with
  | nil => rfl
  | cons entry rest ih =>
      cases entry with
      | none => simpa using ih
      | some found =>
          by_cases same : found = handle
          · subst found
            cases ended : done handle <;> simpa [ended] using ih
          · cases ended : done found <;> simpa [ended, same] using ih

theorem popRunnable_eq (done : Handle → Bool) (entries : List (Option Handle)) :
    (Scheduler.popRunnable done entries).1 =
        (entries.reduceOption.filter fun handle => !done handle).head? ∧
      (Scheduler.popRunnable done entries).2.reduceOption.filter (fun handle => !done handle) =
        (entries.reduceOption.filter fun handle => !done handle).tail := by
  induction entries with
  | nil => exact ⟨rfl, rfl⟩
  | cons entry rest ih =>
      cases entry with
      | none => simpa [Scheduler.popRunnable] using ih
      | some handle =>
          cases ended : done handle with
          | true => simpa [Scheduler.popRunnable, ended] using ih
          | false => simp [Scheduler.popRunnable, ended]

/-- The result of an operation does not depend on the loop, and what it leaves in the scheduler
queue depends only on what it finds there. -/
structure Oblivious {A : Type} (operation : Loop → A × Loop) : Prop where
  result : ∀ left right, (operation left).1 = (operation right).1
  queue : ∀ done left right, runnable done left = runnable done right →
    runnable done (operation left).2 = runnable done (operation right).2

namespace Oblivious

variable {A B : Type}

theorem pure (result : A) : Oblivious fun loop => (result, loop) :=
  ⟨fun _ _ => rfl, fun _ _ _ same => same⟩

theorem enqueue (result : A) (handle : Handle) :
    Oblivious fun loop => (result, loop.enqueue handle) where
  result _ _ := rfl
  queue done left right same := by simp only [runnable_enqueue, same]

theorem cancel (result : A) (handle : Handle) :
    Oblivious fun loop => (result, loop.cancel handle) where
  result _ _ := rfl
  queue done left right same := by simp only [runnable_cancel, same]

theorem map {operation : Loop → A × Loop} (oblivious : Oblivious operation) (f : A → B) :
    Oblivious fun loop => (f (operation loop).1, (operation loop).2) where
  result left right := congrArg f (oblivious.result left right)
  queue := oblivious.queue

theorem andThen {operation : Loop → A × Loop} (oblivious : Oblivious operation)
    {next : A → Loop → B × Loop} (next_oblivious : ∀ result, Oblivious (next result)) :
    Oblivious fun loop => next (operation loop).1 (operation loop).2 where
  result left right := by
    rw [oblivious.result left right]
    exact (next_oblivious _).result _ _
  queue done left right same := by
    rw [oblivious.result left right]
    exact (next_oblivious _).queue done _ _ (oblivious.queue done left right same)

end Oblivious

/-! ## The operations on cores, channels and wait points -/

theorem resume_oblivious (core : PromiseCore T E) : Oblivious core.resume := by
  rcases core with ⟨slot, coroutine, _ | waiting, state⟩
  · exact .pure _
  · exact .enqueue _ waiting

theorem voidResume_oblivious (core : VoidCore E) : Oblivious core.resume := by
  rcases core with ⟨isReady, exception, coroutine, _ | waiting, state⟩
  · exact .pure _
  · exact .enqueue _ waiting

theorem multiResume_oblivious (core : MultiPromiseCore T E) : Oblivious core.resume :=
  (resume_oblivious core.toPromiseCore).map fun base => { core with toPromiseCore := base }

theorem resumeGenerator_oblivious (core : MultiPromiseCore T E) :
    Oblivious core.resumeGenerator := by
  rcases core with ⟨⟨slot, _ | coroutine, waiting, state⟩, _ | _, terminated⟩
  · exact .pure _
  · exact .pure _
  · exact .pure _
  · exact .enqueue _ coroutine

theorem coReturn_oblivious (core : Core T E) (value : Option T) :
    Oblivious fun loop => core.coReturn loop value := by
  rcases core with (core | core) | core
  · cases value with
    | none => exact .pure _
    | some value =>
        rcases core with ⟨_ | _ | _, coroutine, waiting, state⟩
        · exact (resume_oblivious _).map fun core => Core.promise (.typed core)
        · exact (resume_oblivious _).map fun core => Core.promise (.typed core)
        · exact .pure _
  · exact (voidResume_oblivious _).map fun core => Core.promise (.void core)
  · exact (multiResume_oblivious _).map Core.multiPromise

theorem unhandledException_oblivious (core : Core T E) (exception : E) :
    Oblivious fun loop => core.unhandledException loop exception := by
  rcases core with (core | core) | core
  · exact (resume_oblivious _).map fun core => Core.promise (.typed core)
  · exact (voidResume_oblivious _).map fun core => Core.promise (.void core)
  · exact (multiResume_oblivious _).map Core.multiPromise

theorem awakeFrom_oblivious (turns : ℕ) (waiting : BoundedQueue (Option Handle)) :
    Oblivious fun loop => Channel.awakeFrom turns waiting loop := by
  induction turns generalizing waiting with
  | zero => exact .pure _
  | succ turns ih =>
      simp only [Channel.awakeFrom]
      cases waiting.empty with
      | true => exact .pure _
      | false =>
          cases waiting.get with
          | error fault => exact .pure _
          | ok front =>
              rcases front with ⟨_ | handle, rest⟩
              · exact ih rest
              · exact .enqueue rest handle

theorem awake_oblivious (channel : Channel T) (side : Side) : Oblivious (channel.awake side) :=
  (awakeFrom_oblivious _ _).map (channel.setWaiting side)

theorem releaseOne_oblivious (waitPoint : WaitPoint) : Oblivious waitPoint.releaseOne := by
  rcases waitPoint with ⟨_ | ⟨front, rest⟩⟩
  · exact .pure _
  · exact .enqueue _ front

theorem releaseFrom_oblivious (turns : ℕ) (waitPoint : WaitPoint) :
    Oblivious fun loop => releaseFrom turns waitPoint loop := by
  induction turns generalizing waitPoint with
  | zero => exact .pure _
  | succ turns ih =>
      simp only [releaseFrom]
      cases waitPoint.waiters.isEmpty with
      | true => exact .pure _
      | false => exact (releaseOne_oblivious waitPoint).andThen ih

/-! ## Instructions -/

namespace Memory

variable (memory : Memory T E D) (handle : Handle)

theorem awaitMultiPromise_oblivious (generator : Option Handle) :
    Oblivious fun loop => memory.awaitMultiPromise handle loop generator := by
  cases generator with
  | none => exact .pure _
  | some generator =>
      simp only [awaitMultiPromise]
      cases memory.core generator with
      | none => exact .pure _
      | some found =>
          cases found with
          | promise core => exact .pure _
          | multiPromise core =>
              dsimp only
              cases MultiPromiseAwaiter.awaitReady (some core) with
              | true => exact .pure _
              | false =>
                  exact (resumeGenerator_oblivious (core.setHandle handle)).map fun core =>
                    (memory.setCore generator (.multiPromise core)).suspendIn handle
                      (.multiPromise generator)

theorem put_oblivious (channel : ℕ) (value : T) :
    Oblivious fun loop => memory.put handle loop channel value := by
  unfold put
  dsimp only
  cases (memory.channels channel).queue.put value with
  | error fault => exact .pure _
  | ok queue =>
      exact (awake_oblivious { memory.channels channel with queue } .reader).map fun changed =>
        (memory.setChannel channel changed).proceed handle .done

theorem get_oblivious (channel : ℕ) : Oblivious fun loop => memory.get handle loop channel := by
  unfold get
  dsimp only
  cases (memory.channels channel).queue.get with
  | error fault => exact .pure _
  | ok taken =>
      exact (awake_oblivious { memory.channels channel with queue := taken.2 } .writer).map
        fun changed => (memory.setChannel channel changed).proceed handle (.item taken.1)

theorem release_oblivious (waitPoint : ℕ) {operation : WaitPoint → Loop → WaitPoint × Loop}
    (oblivious : ∀ waitPoint, Oblivious (operation waitPoint)) :
    Oblivious fun loop => memory.release handle loop waitPoint operation :=
  (oblivious _).map fun changed => (memory.setWaitPoint waitPoint changed).proceed handle .done

theorem coYield_oblivious (value : T) :
    Oblivious fun loop => memory.coYield handle loop value := by
  unfold coYield
  cases memory.core handle with
  | none => exact .pure _
  | some found =>
      cases found with
      | promise core => exact .pure _
      | multiPromise core =>
          have suspends : ∀ core : MultiPromiseCore T E, Oblivious fun loop =>
              if Generator.yieldReady core then
                ((memory.setCore handle (.multiPromise core)).proceed handle .done, loop)
              else
                ((memory.setCore handle (.multiPromise core.suspendGenerator)).suspendIn handle
                  .coYield, loop) := by
            intro core
            cases Generator.yieldReady core <;> exact .pure _
          exact (multiResume_oblivious _).andThen suspends

theorem drop_oblivious (coroutine : Handle) :
    Oblivious fun loop => memory.drop handle loop coroutine := by
  unfold drop
  cases memory.frame coroutine with
  | none => exact .pure _
  | some frame =>
      dsimp only
      cases frame.core.cancels with
      | false => exact .pure _
      | true => exact .cancel _ coroutine

theorem finish_oblivious {resolve : Loop → Core T E → Core T E × Loop}
    (oblivious : ∀ core, Oblivious fun loop => resolve loop core) :
    Oblivious fun loop => memory.finish handle loop resolve := by
  unfold finish
  cases memory.core handle with
  | none => exact .pure _
  | some core =>
      exact (oblivious core).map fun core =>
        (({ memory with finished := Function.update memory.finished handle true } :
          Memory T E D).setCore handle core, Control.finish)

theorem perform_oblivious (instruction : Instruction T E D) :
    Oblivious fun loop => memory.perform handle loop instruction := by
  cases instruction with
  | compute | call | awaitPromise | awaitChannel | awaitWaitPoint | unwrap => exact .pure _
  | awaitMultiPromise generator => exact memory.awaitMultiPromise_oblivious handle generator
  | awaitYield => exact .enqueue _ handle
  | put channel value => exact memory.put_oblivious handle channel value
  | get channel => exact memory.get_oblivious handle channel
  | releaseOne waitPoint => exact memory.release_oblivious handle waitPoint releaseOne_oblivious
  | releaseAll waitPoint =>
      exact memory.release_oblivious handle waitPoint fun found => releaseFrom_oblivious _ found
  | coYield value => exact memory.coYield_oblivious handle value
  | drop coroutine => exact memory.drop_oblivious handle coroutine
  | coReturn value =>
      exact memory.finish_oblivious handle fun core => coReturn_oblivious core value
  | throw exception =>
      exact memory.finish_oblivious handle fun core => unhandledException_oblivious core exception

theorem execute_oblivious (program : Program T E D) :
    Oblivious (memory.execute handle program) := by
  unfold execute
  cases memory.frame handle with
  | none => exact .pure _
  | some frame =>
      dsimp only
      cases frame.awaiter with
      | some awaiter => exact .pure _
      | none => exact memory.perform_oblivious handle _

end Memory

/-! ## The machine -/

namespace Memory

variable (memory : Memory T E D) (handle : Handle)

theorem awaitResume_finished (awaiter : Awaiter) :
    (memory.awaitResume handle awaiter).finished = memory.finished := by
  cases awaiter with
  | promise producer =>
      unfold awaitResume
      dsimp only
      split <;> rfl
  | multiPromise generator =>
      unfold awaitResume
      dsimp only
      split <;> rfl
  | channel | waitPoint | yield | coYield => rfl

theorem awaitPromise_finished (producer : Handle) :
    (memory.awaitPromise handle producer).1.finished = memory.finished := by
  unfold awaitPromise
  split
  · split
    · exact memory.awaitResume_finished handle _
    · split <;> rfl
  · rfl
  · rfl

theorem awaitMultiPromise_finished (loop : Loop) (generator : Option Handle) :
    (memory.awaitMultiPromise handle loop generator).1.1.finished = memory.finished := by
  cases generator with
  | none => rfl
  | some generator =>
      simp only [awaitMultiPromise]
      split
      · split
        · exact memory.awaitResume_finished handle _
        · rfl
      · rfl
      · rfl

theorem drop_finished (loop : Loop) (coroutine : Handle) :
    (memory.drop handle loop coroutine).1.1.finished = memory.finished := by
  unfold drop
  split
  · rename_i frame _
    change (memory.destroyFrame coroutine frame).finished = memory.finished
    unfold destroyFrame
    dsimp only
    split <;> rfl
  · rfl

theorem finish_finished (loop : Loop) (resolve : Loop → Core T E → Core T E × Loop) :
    (memory.finish handle loop resolve).1.1.finished =
      Function.update memory.finished handle true := by
  unfold finish
  dsimp only
  split <;> rfl

theorem coYield_finished (loop : Loop) (value : T) :
    (memory.coYield handle loop value).1.1.finished = memory.finished := by
  unfold coYield
  split
  · dsimp only
    split <;> rfl
  · rfl
  · rfl

/-- A coroutine that has reached `final_suspend` stays there. -/
theorem perform_finished (loop : Loop) (instruction : Instruction T E D) {ended : Handle}
    (finished : memory.finished ended = true) :
    (memory.perform handle loop instruction).1.1.finished ended = true := by
  have ended_update : Function.update memory.finished handle true ended = true := by
    by_cases same : ended = handle
    · rw [same, Function.update_self]
    · rwa [Function.update_of_ne same]
  cases instruction with
  | compute | call | awaitWaitPoint | awaitYield | releaseOne | releaseAll => exact finished
  | awaitPromise producer =>
      exact (congrFun (memory.awaitPromise_finished handle producer) ended).trans finished
  | awaitMultiPromise generator =>
      have kept := congrFun (memory.awaitMultiPromise_finished handle loop generator) ended
      exact kept.trans finished
  | awaitChannel channel side =>
      simp only [perform, awaitChannel]
      split <;> exact finished
  | put channel value =>
      simp only [perform, put]
      split <;> exact finished
  | get channel =>
      simp only [perform, get]
      split <;> exact finished
  | unwrap producer =>
      simp only [perform, unwrap]
      split <;> exact finished
  | coYield value =>
      exact (congrFun (memory.coYield_finished handle loop value) ended).trans finished
  | drop coroutine =>
      exact (congrFun (memory.drop_finished handle loop coroutine) ended).trans finished
  | coReturn | throw =>
      exact (congrFun (memory.finish_finished handle loop _) ended).trans ended_update

theorem execute_finished (program : Program T E D) (loop : Loop) {ended : Handle}
    (finished : memory.finished ended = true) :
    (memory.execute handle program loop).1.1.finished ended = true := by
  unfold execute
  split
  · exact finished
  · split
    · exact (congrFun (memory.awaitResume_finished handle _) ended).trans finished
    · exact memory.perform_finished handle loop _ finished

end Memory

/-- What a longer list of finished coroutines leaves of the queue. -/
theorem runnable_of_le {done later : Handle → Bool}
    (more : ∀ handle, done handle = true → later handle = true) (loop : Loop) :
    runnable later loop = (runnable done loop).filter fun handle => !later handle := by
  simp only [runnable, List.filter_filter]
  refine List.filter_congr fun handle _ => ?_
  cases ended : done handle with
  | false => simp
  | true => simp [more handle ended]

/-- The coroutines of a program. -/
def machine (program : Program T E D) : CoroutineMachine (Memory T E D) Loop Handle where
  execute memory loop handle := memory.execute handle program loop
  pop memory loop := loop.getNext memory.finished
  ready memory loop := runnable memory.finished loop
  pop_fst memory loop := (popRunnable_eq memory.finished loop.scheduler.resumable).1
  ready_pop memory loop := (popRunnable_eq memory.finished loop.scheduler.resumable).2
  execute_fst handle _ := (Memory.execute_oblivious _ handle program).result _ _
  ready_execute := by
    intro memory left right handle same
    have oblivious := memory.execute_oblivious handle program
    rw [← oblivious.result left right]
    refine oblivious.queue _ left right ?_
    have later : ∀ ended, memory.finished ended = true →
        (memory.execute handle program left).1.1.finished ended = true :=
      fun _ => memory.execute_finished handle program left
    rw [runnable_of_le later left, same, ← runnable_of_le later right]

/-- A program in execution, with or without symmetric hand-off. -/
abbrev State (T E D : Type) :=
  CoroutineMachine.State (Memory T E D) Loop Handle

/-- `Scheduler::getNext()` for either value of `useSymmetricHandoff`. -/
def getNext (useSymmetricHandoff : Bool) (loop : Loop) (done : Handle → Bool) :
    Option Handle × Loop :=
  if useSymmetricHandoff then loop.getNext done else (none, loop)

/-- Awaiters that call `getNext()` pass control to the coroutine that it returns. -/
theorem target_eq_getNext (program : Program T E D) (useSymmetricHandoff : Bool)
    (state : State T E D) :
    (machine program).target useSymmetricHandoff state =
      getNext useSymmetricHandoff state.queue state.memory.finished := rfl

namespace Program

variable (program : Program T E D)

/-- So many instructions of the program, executed one after the other. -/
def run (useSymmetricHandoff : Bool) (steps : ℕ) (start : State T E D) : State T E D :=
  (machine program).run useSymmetricHandoff steps start

/-- So far, both ways of scheduling have executed the same coroutines in the same order, and no
coroutine was resumed before a call returned. -/
structure KeepsOrder (start : State T E D) (steps : ℕ) : Prop where
  trace : (program.run true steps start).trace = (program.run false steps start).trace
  memory : (program.run true steps start).memory = (program.run false steps start).memory
  calls : ∀ useSymmetricHandoff call later, call + later ≤ steps →
    (machine program).InCall useSymmetricHandoff start call later →
      CoroutineMachine.Nested (program.run useSymmetricHandoff call start)
        (program.run useSymmetricHandoff (call + later) start)

/-- If the coroutine that runs was called by another one, and suspends in an awaiter that calls
`getNext()`: the first runnable coroutine of the scheduler queue, if any, and the caller. -/
def overtakes (start : State T E D) (steps : ℕ) : Option (Handle × Handle) :=
  (machine program).overtakes (program.run false steps start)

end Program

/-- Symmetric hand-off keeps the order of execution as long as no coroutine of the scheduler queue
overtakes a caller. Where one does, it runs next with symmetric hand-off, and the caller without. -/
theorem keepsOrder_of_undisturbed (program : Program T E D) (start : State T E D) {steps : ℕ}
    (undisturbed : ∀ earlier < steps, program.overtakes start earlier = none) :
    program.KeepsOrder start steps ∧
      ∀ next caller, program.overtakes start steps = some (next, caller) →
        (program.run true (steps + 1) start).stack.head? = some next ∧
          (program.run false (steps + 1) start).stack.head? = some caller := by
  have agrees := CoroutineMachine.agrees_run start undisturbed
  refine ⟨⟨agrees.trace, agrees.memory, ?_⟩, ?_⟩
  · intro useSymmetricHandoff call later within in_call
    exact in_call.nested_of_undisturbed undisturbed within
  · intro next caller overtaken
    exact CoroutineMachine.step_of_overtakes agrees overtaken

/-- A coroutine function of the program was called from outside. -/
def initial (channels : ℕ → Channel T) (data : D) : State T E D where
  memory :=
    { frame := fun handle =>
        if handle = 0 then
          some { routine := .user 0 .voidPromise, core := .create 0 .voidPromise }
        else none
      next := 1
      channels, data }
  queue := {}
  stack := [0]

/-- Function 0 awaits `yield()` and then calls function 1, which awaits `yield()`. -/
def yieldTwice : Program Unit Unit Unit where
  code function memory handle :=
    match function, (memory.frame handle).map Frame.result with
    | 0, some .started => .call .yield
    | 0, some (.promise 1) => .awaitPromise 1
    | 0, some (.obtained _) => .call (.user 1 .voidPromise)
    | 0, _ => .compute id
    | _, some .started => .call .yield
    | _, some (.promise promise) => .awaitPromise promise
    | _, _ => .coReturn none
  currentException _ := ()

/-- Function 0 was called; the channels have no space, and are not used. -/
def yieldTwiceCalled : State Unit Unit Unit :=
  initial (fun _ => .create 0 0 (by decide) (by decide)) ()

/-- In the first `co_await`, hand-off resumes `yield()` as the loop would. In the second one, it
resumes `yield()` before function 1 returns to its caller. -/
theorem keepsOrder_yieldTwice :
    yieldTwice.KeepsOrder yieldTwiceCalled 9 ∧
      (yieldTwice.run true 10 yieldTwiceCalled).stack.head? = some 3 ∧
      (yieldTwice.run false 10 yieldTwiceCalled).stack.head? = some 0 := by
  have undisturbed : ∀ earlier < 9, yieldTwice.overtakes yieldTwiceCalled earlier = none := by
    decide
  have keeps := keepsOrder_of_undisturbed yieldTwice yieldTwiceCalled undisturbed
  exact ⟨keeps.1, keeps.2 3 0 (by decide)⟩

/-- The order changes, and a coroutine is resumed while function 1 has not returned. -/
theorem overtaken_caller :
    ¬ yieldTwice.KeepsOrder yieldTwiceCalled 11 ∧
      (machine yieldTwice).InCall true yieldTwiceCalled 6 4 ∧
      (yieldTwice.run true 6 yieldTwiceCalled).resumed = [1, 0] ∧
      (yieldTwice.run true 10 yieldTwiceCalled).resumed = [1, 0, 3] := by
  refine ⟨fun keeps => ?_, ⟨⟨0, [], 2, by decide, by decide⟩, by decide⟩, by decide, by decide⟩
  have differs : (yieldTwice.run true 11 yieldTwiceCalled).trace ≠
      (yieldTwice.run false 11 yieldTwiceCalled).trace := by
    decide
  exact differs keeps.trace

end Uvco.Handoff
