import Uvco.Request.Lifecycle
import Uvco.Request.Members

/-!
# Requests that are freed by their callback

Writing to a stream, shutting it down and connecting a client hand the ownership
of a request to the callback. The coroutine may end first, by a drop or by
`close()`; its `OnExit` guard resets the data pointer exactly if the handle is
still set, which is the case as long as the callback was not called.
-/

namespace Uvco.Request

/-- The operations whose callback frees the request. -/
def callbackOwned : List Protocol :=
  [StreamBase.write, StreamBase.shutdown, TcpClient.connect, UnixStreamClient.connect]

/-- The request is allocated until the callback was called, and freed afterwards. The data pointer
tells the callback whether there is an awaiter, the handle tells the guard whether there is a
request. -/
def Lifecycle.owned : Lifecycle where
  linked request := request.data = true ∧ request.freed = 0 ∧ request.misused = false
  called awaiter request := awaiter.handle = none ∧ request.freed = 1 ∧ request.misused = false
  resumed awaiter request := awaiter.handle = none ∧ request.freed = 1 ∧ request.misused = false
  orphan request := request.data = false ∧ request.freed = 0 ∧ request.misused = false
  released request := request.freed = 1 ∧ request.misused = false

/-- The parts that these operations have in common. -/
structure Protocol.CallbackOwned (protocol : Protocol) : Prop where
  prepare_eq : protocol.prepare = Object.setRequestData
  awaitSuspend_eq : protocol.awaitSuspend = some
  awaitResume_eq : protocol.awaitResume = some
  leave_eq : protocol.leave = onExit
  callback_eq : ∃ assertsHandle resetsData,
    protocol.callback = ownedCallback assertsHandle resetsData
  returns : protocol.generator = false
  accepted : protocol.checkStart 0 = none
  checked : protocol.registers = true → ∀ start < 0, protocol.checkStart start ≠ none
  outcome : ∀ isOpen start awaiter, awaiter.status.isSome = true →
    ∃ outcome, protocol.outcome isOpen start awaiter = some outcome
  interrupted : protocol.registers = true → ∀ start awaiter,
    ∃ outcome, protocol.outcome false start awaiter = some outcome

theorem onExit_phase (awaiter : Awaiter) (request : Object) :
    (onExit awaiter request).phase = request.phase := by
  rw [onExit]
  split <;> rfl

/-- The callback finds the awaiter: it reports the status, enqueues the coroutine, and frees the
request. -/
theorem ownedCallback_linked (assertsHandle resetsData : Bool) {operation : Operation}
    {awaiter : Awaiter} {coroutine : Handle} (status : Int)
    (present : operation.awaiter = some awaiter) (attached : awaiter.handle = some coroutine)
    (unresumed : operation.outcome = none) (linked : Lifecycle.owned.linked operation.request) :
    ∃ request, ownedCallback assertsHandle resetsData status
        (operation.onRequest (·.proceed (.done status))) =
          ({ operation with awaiter := some { handle := none, status := some status }, request },
            some coroutine) ∧
      request.phase = .done status ∧ request.freed = 1 ∧ request.misused = false := by
  rcases operation with ⟨start, request, _, _, fault⟩
  rcases awaiter with ⟨_, _⟩
  simp only at present unresumed attached
  subst present unresumed attached
  rcases linked with ⟨has_data, allocated, unused⟩
  simp only at has_data allocated unused
  let read := (request.proceed (.done status)).access
  refine ⟨(if resetsData then read.resetRequestData else read).free, ?_, ?_⟩
  · cases assertsHandle <;> cases resetsData <;>
      simp [read, ownedCallback, Operation.onRequest, Operation.store, Operation.assertHandle,
        Operation.schedule, Operation.resetHandle, Operation.handle, Object.proceed, Object.access,
        has_data]
  · cases resetsData <;>
      simp [read, Object.free, Object.resetRequestData, Object.proceed, Object.access, allocated,
        unused]

/-- The callback does not find an awaiter. -/
theorem ownedCallback_orphan (assertsHandle resetsData : Bool) {operation : Operation}
    (status : Int) (orphan : Lifecycle.owned.orphan operation.request) :
    ∃ request, ownedCallback assertsHandle resetsData status
        (operation.onRequest (·.proceed (.done status))) = ({ operation with request }, none) ∧
      request.phase = .done status ∧ request.freed = 1 ∧ request.misused = false := by
  rcases orphan with ⟨no_data, allocated, unused⟩
  refine ⟨((operation.request.proceed (.done status)).access).free, ?_, ?_⟩
  · simp [ownedCallback, Operation.onRequest, Object.proceed, Object.access, no_data]
  · simp [Object.free, Object.proceed, Object.access, allocated, unused]

theorem onExit_linked {awaiter : Awaiter} {request : Object}
    (attached : awaiter.handle.isSome = true) (linked : Lifecycle.owned.linked request) :
    Lifecycle.owned.orphan (onExit awaiter request) := by
  rcases linked with ⟨-, allocated, unused⟩
  rw [onExit, if_pos attached]
  exact ⟨rfl, allocated, by simp [Object.resetRequestData, Object.access, allocated, unused]⟩

theorem onExit_called {awaiter : Awaiter} {request : Object} (detached : awaiter.handle = none) :
    onExit awaiter request = request := by
  rw [onExit, detached]
  rfl

theorem Protocol.CallbackOwned.follows {protocol : Protocol} (member : protocol.CallbackOwned)
    (mayStart : Int → Prop) : protocol.Follows { Lifecycle.owned with mayStart } where
  accepted := member.accepted
  start := by
    rw [member.prepare_eq, member.awaitSuspend_eq]
    exact ⟨_, rfl, rfl, rfl, rfl, rfl⟩
  refused := by
    rw [member.prepare_eq]
    rfl
  failed := by
    rw [member.prepare_eq, member.awaitSuspend_eq]
    exact ⟨_, rfl, rfl⟩
  checked := member.checked
  run request linked := by
    rcases linked with ⟨has_data, allocated, unused⟩
    exact ⟨has_data, allocated, by simp [Object.proceed, Object.access, allocated, unused]⟩
  run_orphan request orphan := by
    rcases orphan with ⟨no_data, allocated, unused⟩
    exact ⟨no_data, allocated, by simp [Object.proceed, Object.access, allocated, unused]⟩
  callback operation awaiter coroutine status present attached unresumed linked _ := by
    rcases member.callback_eq with ⟨assertsHandle, resetsData, callback_eq⟩
    rw [callback_eq]
    rcases ownedCallback_linked assertsHandle resetsData status present attached unresumed linked
      with ⟨request, called_eq, done, freed, unused⟩
    exact ⟨_, request, called_eq, rfl, done, rfl, freed, unused⟩
  callback_orphan operation status _ orphan := by
    rcases member.callback_eq with ⟨assertsHandle, resetsData, callback_eq⟩
    rw [callback_eq]
    exact ownedCallback_orphan assertsHandle resetsData status orphan
  resume isOpen start awaiter request reported called := by
    rw [member.awaitResume_eq]
    exact ⟨member.outcome isOpen start awaiter reported, request, rfl, rfl, called⟩
  interrupt registers := by
    refine ⟨member.returns, fun start awaiter request attached linked => ?_⟩
    rw [member.awaitResume_eq, member.leave_eq]
    exact ⟨member.interrupted registers start awaiter, request, rfl, rfl,
      onExit_linked attached linked⟩
  leave_phase awaiter request := by
    rw [member.leave_eq]
    exact .inl (onExit_phase awaiter request)
  leave awaiter request resumed := by
    rw [member.leave_eq, onExit_called resumed.1]
    exact resumed.2
  drop awaiter request attached _ linked _ := by
    rw [member.leave_eq]
    exact onExit_linked attached linked
  drop_called awaiter request called _ := by
    rw [member.leave_eq, onExit_called called.1]
    exact called.2

theorem callbackOwned_of_mem {protocol : Protocol} (member : protocol ∈ callbackOwned) :
    protocol.CallbackOwned := by
  simp only [callbackOwned, List.mem_cons, List.not_mem_nil, or_false] at member
  rcases member with rfl | rfl | rfl | rfl
  · refine ⟨rfl, rfl, rfl, rfl, ⟨true, true, rfl⟩, rfl, rfl, ?_, ?_, fun _ _ _ => ⟨_, rfl⟩⟩
    · intro _ start negative
      simp [StreamBase.write, negative]
    · intro isOpen start awaiter reported
      rcases Option.isSome_iff_exists.mp reported with ⟨status, status_eq⟩
      cases isOpen
      · exact ⟨_, rfl⟩
      · simp [StreamBase.write, status_eq]
  · exact ⟨rfl, rfl, rfl, rfl, ⟨false, false, rfl⟩, rfl, rfl, nofun,
      fun _ _ _ => outcome_of_reported _, nofun⟩
  · exact ⟨rfl, rfl, rfl, rfl, ⟨false, true, rfl⟩, rfl, rfl, nofun,
      fun _ _ _ => outcome_of_reported _, nofun⟩
  · exact ⟨rfl, rfl, rfl, rfl, ⟨false, false, rfl⟩, rfl, rfl, nofun, fun _ _ _ _ => ⟨_, rfl⟩, nofun⟩

/-- Every run of these operations keeps to their stages. -/
theorem invariant_of_callbackOwned {protocol : Protocol} (member : protocol ∈ callbackOwned)
    {state : State} (reached : (system protocol).Reachable state) :
    state.Invariant protocol Lifecycle.owned := by
  refine State.invariant_of_reachable ((callbackOwned_of_mem member).follows fun _ => True) ?_
  refine reached.mono fun _ action _ => ?_
  cases action <;> simp [Lifecycle.Permits, Lifecycle.owned]

/-- An accepted request is freed by the callback and not used afterwards, and the callback finds an
awaiter only if the coroutine is suspended in it. -/
theorem freed_by_callback {protocol : Protocol} (member : protocol ∈ callbackOwned) {state : State}
    (reached : (system protocol).Reachable state) {coroutine : Handle} {operation : Operation}
    (found : state.operation coroutine = some operation) (accepted : 0 ≤ operation.start) :
    operation.request.freed = (if operation.request.phase.isDone then 1 else 0) ∧
      operation.request.misused = false ∧ operation.fault = false ∧
      (operation.awaiter.isSome = true → state.runtime.status coroutine = .waiting ()) ∧
      state.fault = false := by
  have invariant := invariant_of_callbackOwned member reached
  have sound := invariant.sound coroutine operation found
  have returns := (callbackOwned_of_mem member).returns
  cases invariant.stage coroutine operation found with
  | suspended awaiter present attached _ owned linked waiting =>
      rcases linked with ⟨-, allocated, unused⟩
      refine ⟨?_, unused, sound, fun _ => waiting, invariant.no_fault⟩
      rcases owned with queued | running
      · simp [queued, allocated, Phase.isDone]
      · simp [running, allocated, Phase.isDone]
  | called awaiter status present _ done _ called waiting =>
      refine ⟨?_, called.2.2, sound, fun _ => waiting, invariant.no_fault⟩
      simp [done, called.2.1, Phase.isDone]
  | abandoned gone inFlight _ orphan =>
      rcases orphan with ⟨-, allocated, unused⟩
      refine ⟨?_, unused, sound, by simp [gone], invariant.no_fault⟩
      cases phase_eq : operation.request.phase <;>
        simp_all [Phase.InFlight, Phase.isDone]
  | settled status gone done _ released =>
      refine ⟨?_, released.2, sound, by simp [gone], invariant.no_fault⟩
      simp [done, released.1, Phase.isDone]
  | resumed _ _ _ kept => simp [returns] at kept
  | unstarted _ _ failed => omega
  | refused _ failed => omega

/-- `write()` is cancelled, and its request is freed when libuv completes it. -/
theorem freed_by_callback_dropped_write :
    ∃ state operation, (system StreamBase.write).Reachable state ∧
      state.operation 0 = some operation ∧ operation.awaiter = none ∧
      operation.request.freed = 1 := by
  have start : (system StreamBase.write).Reachable {} := .start rfl
  have writes := start.step (.call 0 0) (by decide) trivial
  have dropped := writes.step (.drop 0) (by decide) trivial
  have completed := dropped.step (.callback 0 UV_ECANCELED) (by decide) trivial
  exact ⟨_, _, completed, rfl, rfl,
    (@freed_by_callback _ (.head _) _ completed 0 _ rfl (Int.le_refl 0)).1⟩

end Uvco.Request
