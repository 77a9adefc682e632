import Uvco.Request.Lifecycle
import Uvco.Request.Members

/-!
# Dropping `Udp::send`

The request of `Udp::send` is a local variable of the coroutine. If the promise
is dropped before libuv has completed the request, libuv goes on to use memory
that was freed with the coroutine; the data pointer that the destructor resets
is part of that memory.
-/

namespace Uvco.Request

/-- The request exists as long as the awaiter. If `strict`, the promise is not dropped as long as
libuv owns the request. -/
def Lifecycle.sent (strict : Bool) : Lifecycle where
  linked request := request.data = true ∧
    (strict = true → request.freed = 0 ∧ request.misused = false)
  called _ request := request.data = true ∧
    (strict = true → request.freed = 0 ∧ request.misused = false)
  resumed _ request := strict = true → request.freed = 0 ∧ request.misused = false
  orphan request := request.data = false ∧ strict = false
  released request := strict = true → request.freed = 1 ∧ request.misused = false
  mayDrop phase := strict = true → ¬phase.InFlight

namespace Udp

/-- The callback finds the awaiter. -/
theorem onSendDone_linked {operation : Operation} {awaiter : Awaiter} {coroutine : Handle}
    (status : Int) (present : operation.awaiter = some awaiter)
    (attached : awaiter.handle = some coroutine) (unresumed : operation.outcome = none)
    (has_data : operation.request.data = true) :
    onSendDone status (operation.onRequest (·.proceed (.done status))) =
      ({ operation with
          awaiter := some { handle := none, status := some status }
          request := (operation.request.proceed (.done status)).access }, some coroutine) := by
  rcases operation with ⟨start, request, _, _, fault⟩
  rcases awaiter with ⟨_, _⟩
  simp only at present unresumed attached has_data
  subst present unresumed attached
  simp [onSendDone, Operation.onRequest, Object.proceed, Object.access, has_data, Operation.store,
    Operation.schedule, Operation.resetHandle, Operation.handle]

/-- The callback finds a null pointer. -/
theorem onSendDone_orphan {operation : Operation} (status : Int)
    (no_data : operation.request.data = false) :
    onSendDone status (operation.onRequest (·.proceed (.done status))) =
      ({ operation with request := (operation.request.proceed (.done status)).access }, none) := by
  simp [onSendDone, Operation.onRequest, Object.proceed, Object.access, no_data]

theorem send_follows (strict : Bool) (mayStart : Int → Prop) :
    send.Follows { Lifecycle.sent strict with mayStart } where
  accepted := rfl
  start := ⟨_, rfl, rfl, rfl, fun _ => ⟨rfl, rfl⟩⟩
  refused := rfl
  failed := ⟨_, rfl, rfl⟩
  checked := nofun
  run request linked := by
    refine ⟨linked.1, fun isStrict => ?_⟩
    rcases linked.2 isStrict with ⟨allocated, unused⟩
    exact ⟨allocated, by simp [Object.proceed, Object.access, allocated, unused]⟩
  run_orphan request orphan := orphan
  callback operation awaiter coroutine status present attached unresumed linked _ := by
    refine ⟨_, _, onSendDone_linked status present attached unresumed linked.1, rfl, rfl, linked.1,
      fun isStrict => ?_⟩
    rcases linked.2 isStrict with ⟨allocated, unused⟩
    exact ⟨allocated, by simp [Object.proceed, Object.access, allocated, unused]⟩
  callback_orphan operation status _ orphan := by
    refine ⟨_, onSendDone_orphan status orphan.1, rfl, fun isStrict => ?_⟩
    simp [orphan.2] at isStrict
  resume isOpen start awaiter request reported called := by
    exact ⟨outcome_of_reported _ reported, request, rfl, rfl, called.2⟩
  interrupt := nofun
  leave_phase awaiter request := .inl rfl
  leave awaiter request resumed isStrict := by
    rcases resumed isStrict with ⟨allocated, unused⟩
    simp [send, Object.free, Object.resetRequestData, Object.access, allocated, unused]
  drop awaiter request _ inFlight _ permitted := by
    refine ⟨rfl, ?_⟩
    by_contra isStrict
    exact permitted (by simpa using isStrict) inFlight
  drop_called awaiter request called _ isStrict := by
    rcases called.2 isStrict with ⟨allocated, unused⟩
    simp [send, Object.free, Object.resetRequestData, Object.access, allocated, unused]

/-- The requests that `uv_udp_send` has accepted are allocated as long as libuv owns them, and the
callback enqueues nobody but a suspended coroutine. -/
structure NothingLeft (state : State) : Prop where
  allocated : ∀ coroutine operation, state.operation coroutine = some operation →
    operation.request.phase.InFlight → operation.request.freed = 0
  unused : ∀ coroutine operation, state.operation coroutine = some operation →
    0 ≤ operation.start → operation.request.misused = false ∧ operation.fault = false
  enqueues : ∀ coroutine operation status handle, state.operation coroutine = some operation →
    operation.request.phase.InFlight →
    (onSendDone status (operation.onRequest (·.proceed (.done status)))).2 = some handle →
    state.runtime.status handle = .waiting ()

/-- The promise of a suspended `Udp::send` is not dropped before libuv has completed the request. -/
def DropsDone (state : State) : Action → Prop
  | .drop coroutine => ∀ operation awaiter, state.frame coroutine = some (operation, awaiter) →
      operation.outcome = none → ¬operation.request.phase.InFlight
  | .call _ _ | .run _ | .callback _ _ | .close | .finish _ | .resumeNext | .other _ => True

/-- Nothing is left behind in runs in which promises are dropped after the completion only. -/
theorem nothingLeft_of_dropsDone {state : State}
    (reached : (system send).ReachableVia DropsDone state) : NothingLeft state := by
  have invariant : state.Invariant send (Lifecycle.sent true) := by
    refine State.invariant_of_reachable (send_follows true fun _ => True)
      (reached.mono fun _ action done => ?_)
    cases action with
    | drop coroutine =>
        exact fun operation awaiter framed unresumed _ => done operation awaiter framed unresumed
    | call _ _ | run _ | callback _ _ | close | finish _ | resumeNext | other _ => trivial
  refine ⟨fun coroutine operation found inFlight => ?_,
    fun coroutine operation found accepted => ?_,
    fun coroutine operation status handle found inFlight enqueued => ?_⟩
  · rcases (invariant.stage coroutine operation found).of_inFlight inFlight with
      ⟨_, _, _, _, _, linked, _, _⟩ | ⟨_, _, orphan, _⟩
    · exact (linked.2 rfl).1
    · simp [Lifecycle.sent] at orphan
  · refine ⟨?_, invariant.sound coroutine operation found⟩
    cases invariant.stage coroutine operation found with
    | suspended _ _ _ _ _ linked => exact (linked.2 rfl).2
    | called _ _ _ _ _ _ called => exact (called.2 rfl).2
    | settled _ _ _ _ released => exact (released rfl).2
    | abandoned _ _ _ orphan => simp [Lifecycle.sent] at orphan
    | resumed _ _ _ kept => simp [send] at kept
    | unstarted _ _ failed => omega
    | refused _ failed => omega
  · rcases (invariant.stage coroutine operation found).of_inFlight inFlight with
      ⟨awaiter, present, attached, unresumed, _, linked, waiting, _⟩ | ⟨_, _, orphan, _⟩
    · rw [onSendDone_linked status present attached unresumed linked.1] at enqueued
      exact Option.some.inj enqueued ▸ waiting
    · simp [Lifecycle.sent] at orphan

/-- `Udp::send` is dropped between its callback and its resumption. -/
theorem nothingLeft_dropped_done :
    ∃ state operation, (system send).ReachableVia DropsDone state ∧
      state.operation 0 = some operation ∧ operation.awaiter = none ∧ NothingLeft state := by
  have start : (system send).ReachableVia DropsDone {} := .start rfl
  have sends := start.step (Action.call 0 0) (by decide) trivial
  have completed := sends.step (Action.callback 0 0) (by decide) trivial
  have dropped := completed.step (Action.drop 0) (by decide)
    (by rintro _ _ ⟨⟩ _; exact not_false)
  exact ⟨_, _, dropped, rfl, rfl, nothingLeft_of_dropsDone dropped⟩

/-- `Udp::send` is dropped while libuv owns the request. -/
theorem dropped_send_frees_request :
    ¬∀ state, (system send).Reachable state → NothingLeft state := by
  intro always
  have start : (system send).Reachable {} := .start rfl
  have sends := start.step (Action.call 0 0) (by decide) trivial
  have dropped := sends.step (Action.drop 0) (by decide) trivial
  have allocated := (always _ dropped).allocated 0 _ rfl trivial
  exact absurd allocated (by decide)

end Udp

end Uvco.Request
