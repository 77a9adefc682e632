import Uvco.Request.Lifecycle
import Uvco.Request.Members

/-!
# Requests of the thread pool

File operations, name lookups and submitted work leave their request to the
callback if they are destroyed while the data pointer is set, and free it
otherwise. The pointer stays set until the coroutine is resumed, also after the
callback was called: a promise that is dropped in between leaves the request to a
callback that will not be called again, and the request is never freed.
-/

namespace Uvco.Request

/-- The operations of the thread pool, and whether they clean up their request. -/
def pooledOperations : List (Protocol × Bool) :=
  [(FileOpAwaiter.operation, true), (Directory.readAll, true), (Resolver.gai, false),
    (innerSubmitWork, false)]

/-- Nobody has freed the object, cleaned it up or used it when it was gone. -/
def Object.Untouched (object : Object) : Prop :=
  object.freed = 0 ∧ object.cleaned = 0 ∧ object.misused = false

/-- The request was freed once, and cleaned up once before if that is necessary. -/
def Object.Released (cleans : Bool) (object : Object) : Prop :=
  object.freed = 1 ∧ object.cleaned = (if cleans then 1 else 0) ∧ object.misused = false

/-- The data pointer says whether the callback has to free the request. If `strict`, no promise is
dropped between the callback and the resumption. -/
def Lifecycle.pooled (cleans strict : Bool) : Lifecycle where
  linked request := request.data = true ∧ request.Untouched
  called _ request := request.data = true ∧ request.Untouched ∧ request.phase.isDone = true
  resumed _ request := request.data = false ∧ request.Untouched
  orphan request := request.data = false ∧ request.Untouched
  released request := strict = true → request.Released cleans
  mayDrop phase := strict = true → phase.isDone = false

namespace Object

variable {object : Object}

theorem Untouched.proceed (untouched : object.Untouched) (phase : Phase) :
    (object.proceed phase).Untouched := by
  rcases untouched with ⟨allocated, uncleaned, unused⟩
  exact ⟨allocated, uncleaned, by simp [Object.proceed, access, allocated, unused]⟩

theorem Untouched.access (untouched : object.Untouched) : object.access.Untouched :=
  untouched.proceed object.phase

theorem Untouched.resetRequestData (untouched : object.Untouched) :
    object.resetRequestData.Untouched := by
  rcases untouched with ⟨allocated, uncleaned, unused⟩
  exact ⟨allocated, uncleaned, by simp [Object.resetRequestData, Object.access, allocated, unused]⟩

theorem Untouched.cancel (untouched : object.Untouched) : object.cancel.Untouched := by
  rw [Object.cancel]
  split
  · exact untouched.proceed .cancelled
  all_goals exact untouched.access

theorem cancel_data : object.cancel.data = object.data := by
  rw [Object.cancel]
  split <;> rfl

theorem cancel_phase : object.cancel.phase = object.phase ∨
    object.phase = .queued ∧ object.cancel.phase = .cancelled := by
  rw [Object.cancel]
  split
  · exact .inr ⟨by assumption, rfl⟩
  all_goals exact .inl rfl

theorem Untouched.free (untouched : object.Untouched) : object.free.Released false := by
  rcases untouched with ⟨allocated, uncleaned, unused⟩
  exact ⟨by simp [Object.free, Object.access, allocated], by simp [Object.free, Object.access,
    uncleaned], by simp [Object.free, Object.access, allocated, unused]⟩

theorem Untouched.cleanup_free (untouched : object.Untouched) :
    object.cleanup.free.Released true := by
  rcases untouched with ⟨allocated, uncleaned, unused⟩
  exact ⟨by simp [Object.free, Object.cleanup, Object.access, allocated],
    by simp [Object.free, Object.cleanup, Object.access, uncleaned],
    by simp [Object.free, Object.cleanup, Object.access, allocated, unused]⟩

end Object

/-- The destructor, for requests that are cleaned up and for those that are not. -/
def leavePooled (cleans : Bool) (request : Object) : Object :=
  if request.data then request.resetRequestData.cancel
  else if cleans then request.cleanup.free
  else request.free

theorem leavePooled_linked {request : Object} (cleans : Bool) (has_data : request.data = true)
    (untouched : request.Untouched) :
    (leavePooled cleans request).data = false ∧ (leavePooled cleans request).Untouched := by
  rw [leavePooled, if_pos has_data, Object.cancel_data]
  exact ⟨rfl, untouched.resetRequestData.cancel⟩

theorem leavePooled_resumed {request : Object} (cleans : Bool) (no_data : request.data = false)
    (untouched : request.Untouched) : (leavePooled cleans request).Released cleans := by
  rw [leavePooled, no_data]
  cases cleans
  · exact untouched.free
  · exact untouched.cleanup_free

theorem leavePooled_phase (cleans : Bool) (request : Object) :
    (leavePooled cleans request).phase = request.phase ∨
      request.phase = .queued ∧ (leavePooled cleans request).phase = .cancelled := by
  rw [leavePooled]
  split
  · exact Object.cancel_phase
  · cases cleans <;> exact .inl rfl

/-- The parts that the operations of the thread pool have in common. -/
structure Protocol.Pooled (protocol : Protocol) (cleans : Bool) : Prop where
  unchecked : ∀ start, protocol.checkStart start = none
  unregistered : protocol.registers = false
  threadPool : protocol.threadPool = true
  prepared : (protocol.prepare {}).phase = .idle
  failed : protocol.awaitSuspend (protocol.prepare {}) = some { phase := .idle, data := true }
  start : protocol.awaitSuspend { protocol.prepare {} with phase := .queued } =
    some { phase := .queued, data := true }
  callback : ∀ (operation : Operation) (awaiter : Awaiter) (coroutine : Handle) (status : Int),
    operation.awaiter = some awaiter → awaiter.handle = some coroutine → operation.outcome = none →
    operation.request.data = true → status ≠ UV_ECANCELED →
    ∃ handle, protocol.callback status (operation.onRequest (·.proceed (.done status))) =
      ({ operation with
          awaiter := some { handle, status := some status }
          request := (operation.request.proceed (.done status)).access }, some coroutine)
  callback_orphan : ∀ (operation : Operation) (status : Int), operation.request.data = false →
    protocol.callback status (operation.onRequest (·.proceed (.done status))) =
      ({ operation with
          request := leavePooled cleans (operation.request.proceed (.done status)).access }, none)
  outcome : ∀ isOpen start (awaiter : Awaiter), awaiter.status.isSome = true →
    ∃ outcome, protocol.outcome isOpen start awaiter = some outcome
  awaitResume : ∀ request : Object, request.data = true →
    protocol.awaitResume request = some request.resetRequestData
  leave_eq : protocol.leave = fun _ => leavePooled cleans

theorem Protocol.Pooled.follows {protocol : Protocol} {cleans : Bool}
    (member : protocol.Pooled cleans) (strict : Bool) (mayStart : Int → Prop) :
    protocol.Follows { Lifecycle.pooled cleans strict with mayStart } where
  accepted := member.unchecked 0
  start := ⟨_, member.start, rfl, rfl, rfl, rfl, rfl⟩
  refused := member.prepared
  failed := ⟨_, member.failed, rfl⟩
  checked registers := by simp [member.unregistered] at registers
  run request linked := ⟨linked.1, linked.2.proceed _⟩
  run_orphan request orphan := ⟨orphan.1, orphan.2.proceed _⟩
  callback operation awaiter coroutine status present attached unresumed linked uncancelled := by
    rcases member.callback operation awaiter coroutine status present attached unresumed linked.1
      (uncancelled member.threadPool) with ⟨handle, called_eq⟩
    exact ⟨_, _, called_eq, rfl, rfl, linked.1, (linked.2.proceed _).access, rfl⟩
  callback_orphan operation status _ orphan := by
    refine ⟨_, member.callback_orphan operation status orphan.1, ?_, fun _ => ?_⟩
    · rcases leavePooled_phase cleans (operation.request.proceed (.done status)).access with
        phase_eq | ⟨queued, -⟩
      · exact phase_eq
      · simp [Object.proceed, Object.access] at queued
    · exact leavePooled_resumed cleans orphan.1 (orphan.2.proceed _).access
  resume isOpen start awaiter request reported called := by
    refine ⟨member.outcome isOpen start awaiter reported, _, member.awaitResume request called.1,
      rfl, rfl, called.2.1.resetRequestData⟩
  interrupt registers := by simp [member.unregistered] at registers
  leave_phase awaiter request := by
    rw [member.leave_eq]
    exact leavePooled_phase cleans request
  leave awaiter request resumed _ := by
    rw [member.leave_eq]
    exact leavePooled_resumed cleans resumed.1 resumed.2
  drop awaiter request _ _ linked _ := by
    rw [member.leave_eq]
    exact leavePooled_linked cleans linked.1 linked.2
  drop_called awaiter request called permitted isStrict := by
    have not_done := permitted isStrict
    simp [called.2.2] at not_done

theorem FileOpAwaiter.pooled : FileOpAwaiter.operation.Pooled true := by
  constructor
  case callback =>
    rintro ⟨start, request, _, _, fault⟩ ⟨_, _⟩ coroutine status rfl rfl rfl has_data uncancelled
    refine ⟨none, ?_⟩
    simp only at has_data
    simp [operation, onFileOpDone, Operation.onRequest, Object.proceed, Object.access, has_data,
      uncancelled, Operation.store, Operation.schedule, Operation.resetHandle, Operation.handle]
  case callback_orphan =>
    intro operation status no_data
    simp [FileOpAwaiter.operation, onFileOpDone, Operation.onRequest, Object.proceed, Object.access,
      no_data, leavePooled]
  case outcome => exact fun _ _ _ => outcome_of_reported _
  case awaitResume => exact fun _ has_data => if_pos has_data
  all_goals intros; rfl

theorem Directory.pooled : Directory.readAll.Pooled true := by
  rcases FileOpAwaiter.pooled with ⟨unchecked, unregistered, threadPool, prepared, failed, start,
    callback, callback_orphan, outcome, awaitResume, leave_eq⟩
  exact ⟨unchecked, unregistered, threadPool, prepared, failed, start, callback, callback_orphan,
    outcome, awaitResume, leave_eq⟩

theorem Resolver.pooled : Resolver.gai.Pooled false := by
  constructor
  case callback =>
    rintro ⟨start, request, _, _, fault⟩ ⟨_, _⟩ coroutine status rfl rfl rfl has_data uncancelled
    refine ⟨some coroutine, ?_⟩
    simp only at has_data
    simp [gai, onAddrinfo, Operation.onRequest, Object.proceed, Object.access, has_data,
      uncancelled, Operation.store, Operation.assertHandle, Operation.handle]
  case callback_orphan =>
    intro operation status no_data
    simp [gai, onAddrinfo, Operation.onRequest, Object.proceed, Object.access, no_data, leavePooled]
  case outcome => exact fun _ _ _ => outcome_of_reported _
  case awaitResume => exact fun _ has_data => if_pos has_data
  all_goals intros; rfl

theorem innerSubmitWork_pooled : innerSubmitWork.Pooled false := by
  constructor
  case callback =>
    rintro ⟨start, request, _, _, fault⟩ ⟨_, _⟩ coroutine status rfl rfl rfl has_data -
    refine ⟨none, ?_⟩
    simp only at has_data
    simp [innerSubmitWork, AsyncWorkAwaiter.onWorkDone, Operation.onRequest, Object.proceed,
      Object.access, has_data, Operation.store, Operation.schedule, Operation.resetHandle,
      Operation.handle]
  case callback_orphan =>
    intro operation status no_data
    simp [innerSubmitWork, AsyncWorkAwaiter.onWorkDone, Operation.onRequest, Object.proceed,
      Object.access, no_data, leavePooled]
  case outcome => exact fun _ _ _ => outcome_of_reported _
  all_goals intros; rfl

theorem pooled_of_mem {protocol : Protocol} {cleans : Bool}
    (member : (protocol, cleans) ∈ pooledOperations) : protocol.Pooled cleans := by
  simp only [pooledOperations, List.mem_cons, Prod.mk.injEq, List.not_mem_nil, or_false] at member
  rcases member with ⟨rfl, rfl⟩ | ⟨rfl, rfl⟩ | ⟨rfl, rfl⟩ | ⟨rfl, rfl⟩
  · exact FileOpAwaiter.pooled
  · exact Directory.pooled
  · exact Resolver.pooled
  · exact innerSubmitWork_pooled

/-- The request was freed if both the callback was called and the coroutine has left it, and not
before. -/
def Operation.ReleasedOnce (cleans : Bool) (operation : Operation) : Prop :=
  let ended := operation.request.phase.isDone = true ∧ operation.awaiter = none
  operation.request.freed = (if ended then 1 else 0) ∧
    operation.request.cleaned = (if cleans = true ∧ ended then 1 else 0) ∧
    operation.request.misused = false

/-- No promise is dropped after the callback was called and before its coroutine is resumed. -/
def DropsInTime (state : State) : Action → Prop
  | .drop coroutine => ∀ operation awaiter, state.frame coroutine = some (operation, awaiter) →
      operation.outcome = none → operation.request.phase.isDone = false
  | .call _ _ | .run _ | .callback _ _ | .close | .finish _ | .resumeNext | .other _ => True

/-- In runs that drop promises in time, accepted requests are released once. -/
theorem releasedOnce_of_dropsInTime {protocol : Protocol} {cleans : Bool}
    (member : (protocol, cleans) ∈ pooledOperations) {state : State}
    (reached : (system protocol).ReachableVia DropsInTime state) {coroutine : Handle}
    {operation : Operation} (found : state.operation coroutine = some operation)
    (accepted : 0 ≤ operation.start) : operation.ReleasedOnce cleans := by
  have invariant : state.Invariant protocol (Lifecycle.pooled cleans true) := by
    refine State.invariant_of_reachable
      ((pooled_of_mem member).follows true fun _ => True) (reached.mono fun _ action timely => ?_)
    cases action with
    | drop coroutine =>
        exact fun operation awaiter framed unresumed _ =>
          timely operation awaiter framed unresumed
    | call _ _ | run _ | callback _ _ | close | finish _ | resumeNext | other _ => trivial
  have untouched : ∀ object : Object, object.Untouched → (object.phase.isDone = false ∨
      operation.awaiter ≠ none) → object = operation.request → operation.ReleasedOnce cleans := by
    rintro _ ⟨allocated, uncleaned, unused⟩ not_over rfl
    rcases not_over with not_done | present
    · simp [Operation.ReleasedOnce, allocated, uncleaned, unused, not_done]
    · simp [Operation.ReleasedOnce, allocated, uncleaned, unused, present]
  cases invariant.stage coroutine operation found with
  | suspended awaiter present _ _ _ linked =>
      exact untouched _ linked.2 (.inr (by simp [present])) rfl
  | called awaiter status present _ _ _ called =>
      exact untouched _ called.2.1 (.inr (by simp [present])) rfl
  | resumed awaiter _ _ _ present _ _ _ resumed =>
      exact untouched _ resumed.2 (.inr (by simp [present])) rfl
  | abandoned _ inFlight _ orphan =>
      refine untouched _ orphan.2 (.inl ?_) rfl
      cases phase_eq : operation.request.phase <;> simp_all [Phase.InFlight, Phase.isDone]
  | settled status gone done _ released =>
      rcases released rfl with ⟨freed, cleaned, unused⟩
      have is_done : operation.request.phase.isDone = true := by rw [done]; rfl
      simp [Operation.ReleasedOnce, is_done, gone, freed, cleaned, unused]
  | unstarted _ _ failed => omega
  | refused _ failed => omega

/-- A lookup is dropped while it runs. -/
theorem releasedOnce_dropped_lookup :
    ∃ state operation, (system Resolver.gai).ReachableVia DropsInTime state ∧
      state.operation 0 = some operation ∧ operation.awaiter = none ∧
      operation.ReleasedOnce false := by
  have start : (system Resolver.gai).ReachableVia DropsInTime {} := .start rfl
  have looks_up := start.step (Action.call 0 0) (by decide) trivial
  have runs := looks_up.step (Action.run 0) (by decide) trivial
  have dropped := runs.step (Action.drop 0) (by decide) (by rintro _ _ ⟨⟩ _; rfl)
  have completed := dropped.step (Action.callback 0 0) (by decide) trivial
  exact ⟨_, _, completed, rfl, rfl,
    @releasedOnce_of_dropsInTime _ _ (by simp [pooledOperations]) _ completed 0 _ rfl
      (Int.le_refl 0)⟩

/-- A lookup is dropped after its callback and before its coroutine is resumed. -/
theorem dropped_lookup_leaks :
    ¬∀ protocol cleans, (protocol, cleans) ∈ pooledOperations →
      ∀ state, (system protocol).Reachable state → ∀ coroutine operation,
        state.operation coroutine = some operation → 0 ≤ operation.start →
        operation.ReleasedOnce cleans := by
  intro always
  have start : (system Resolver.gai).Reachable {} := .start rfl
  have looks_up := start.step (Action.call 0 0) (by decide) trivial
  have completed := looks_up.step (Action.callback 0 0) (by decide) trivial
  have dropped := completed.step (Action.drop 0) (by decide) trivial
  have freed := (always _ false (by simp [pooledOperations]) _ dropped 0 _ rfl
    (Int.le_refl 0)).1
  exact absurd freed (by decide)

end Uvco.Request
