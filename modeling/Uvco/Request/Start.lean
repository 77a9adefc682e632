import Uvco.Request.Owned
import Uvco.Request.Send
import Uvco.Request.ThreadPool

/-!
# Requests that libuv does not accept

If the call that starts a request fails, libuv does not call back. An operation
that looks at the result of this call throws it. Two operations do not look at it:
their coroutine suspends, and nobody enqueues it.
-/

namespace Uvco.Request

/-- The operations that start a request and suspend. -/
inductive Starter where
  | gai
  | write
  | shutdown
  | tcpConnect
  | unixConnect
  | send
deriving DecidableEq, Repr

namespace Starter

/-- How the function treats its request. -/
def protocol : Starter → Protocol
  | gai => Resolver.gai
  | write => StreamBase.write
  | shutdown => StreamBase.shutdown
  | tcpConnect => TcpClient.connect
  | unixConnect => UnixStreamClient.connect
  | send => Udp.send

/-- The result of `uv_getaddrinfo`, or of `uv_shutdown`, is not looked at. -/
def ignoresResult : Starter → Bool
  | gai | shutdown => true
  | write | tcpConnect | unixConnect | send => false

/-- Requests that libuv does not accept are only started by operations that look at the result. -/
def Starts (starter : Starter) (_ : State) : Action → Prop
  | .call _ start => starter.ignoresResult = true → 0 ≤ start
  | .run _ | .callback _ _ | .close | .finish _ | .drop _ | .resumeNext | .other _ => True

/-- Their stages do not depend on when promises are dropped. -/
theorem follows (starter : Starter) (mayStart : Int → Prop) :
    ∃ lifecycle : Lifecycle, starter.protocol.Follows lifecycle ∧ lifecycle.mayStart = mayStart ∧
      ∀ phase, lifecycle.mayDrop phase := by
  have owned : starter.protocol ∈ callbackOwned →
      ∃ lifecycle : Lifecycle, starter.protocol.Follows lifecycle ∧
        lifecycle.mayStart = mayStart ∧ ∀ phase, lifecycle.mayDrop phase :=
    fun member => ⟨_, (callbackOwned_of_mem member).follows mayStart, rfl, fun _ => trivial⟩
  cases starter with
  | gai => exact ⟨_, Resolver.pooled.follows false mayStart, rfl, nofun⟩
  | send => exact ⟨_, Udp.send_follows false mayStart, rfl, nofun⟩
  | write | shutdown | tcpConnect | unixConnect =>
      exact owned (by simp [protocol, callbackOwned])

theorem checkStart_eq_none {starter : Starter} {start : Int} (negative : start < 0) :
    starter.protocol.checkStart start = none ↔ starter.ignoresResult = true := by
  have nonzero : start ≠ 0 := by omega
  cases starter <;>
    simp [protocol, ignoresResult, StreamBase.write, StreamBase.shutdown, TcpClient.connect,
      UnixStreamClient.connect, Resolver.gai, Udp.send, negative, nonzero]

theorem checkStart_status {starter : Starter} {start : Int} {exception : UvcoException}
    (thrown : starter.protocol.checkStart start = some exception) :
    exception.status = some start := by
  cases starter with
  | gai | shutdown => simp [protocol, Resolver.gai, StreamBase.shutdown] at thrown
  | write | tcpConnect | unixConnect | send =>
      simp only [protocol, StreamBase.write, TcpClient.connect, UnixStreamClient.connect,
        Udp.send] at thrown
      split at thrown
      · obtain rfl := Option.some.inj thrown
        rfl
      · simp at thrown

end Starter

namespace State

/-- A coroutine has thrown the result of the call that starts its request, and was not suspended. -/
def ThrewStart (state : State) (coroutine : Handle) (start : Int) : Prop :=
  state.runtime.status coroutine = .done ∧
    ∃ operation exception, state.operation coroutine = some operation ∧
      operation.awaiter = none ∧ operation.outcome = some (.threw exception) ∧
      exception.status = some start

/-- libuv owns the requests of the suspended coroutines, or has called back and enqueued them. -/
def Awaited (state : State) : Prop :=
  ∀ coroutine, state.runtime.status coroutine = .waiting () →
    ∃ operation, state.operation coroutine = some operation ∧
      (operation.request.phase.InFlight ∨
        operation.request.phase.isDone = true ∧ 0 < state.runtime.pending coroutine)

theorem threwStart_iff {starter : Starter} {state : State} {coroutine : Handle} {start : Int}
    (negative : start < 0) :
    (state.call starter.protocol coroutine start).ThrewStart coroutine start ↔
      starter.ignoresResult = false := by
  rcases checked : starter.protocol.checkStart start with _ | exception
  · have ignores := (Starter.checkStart_eq_none negative).mp checked
    rcases starter.follows fun _ => True with ⟨lifecycle, follows, -⟩
    rcases follows.failed with ⟨request, request_eq, -⟩
    simp only [ignores, Bool.true_eq_false, iff_false]
    rintro ⟨done, -⟩
    simp [State.call, checked, negative, request_eq] at done
  · have looked : starter.ignoresResult = false := by
      rw [← Bool.not_eq_true, ← Starter.checkStart_eq_none negative, checked]
      simp
    refine ⟨fun _ => looked, fun _ => ?_⟩
    simp only [State.call, checked]
    refine ⟨Runtime.setStatus_status_self _, _, exception, Function.update_self .., rfl, rfl, ?_⟩
    exact Starter.checkStart_status checked

theorem awaited_of_starts {starter : Starter} {state : State}
    (reached : (system starter.protocol).ReachableVia starter.Starts state) : state.Awaited := by
  rcases starter.follows fun start => starter.ignoresResult = true → 0 ≤ start with
    ⟨lifecycle, follows, mayStart_eq, mayDrop⟩
  have invariant : state.Invariant starter.protocol lifecycle := by
    refine State.invariant_of_reachable follows (reached.mono fun _ action starts => ?_)
    cases action with
    | call coroutine start =>
        rw [Lifecycle.Permits, mayStart_eq]
        exact starts
    | drop coroutine => exact fun operation _ _ _ => mayDrop operation.request.phase
    | run _ | callback _ _ | close | finish _ | resumeNext | other _ => trivial
  intro coroutine waiting
  rcases Option.isSome_iff_exists.mp (invariant.known coroutine waiting) with ⟨operation, found⟩
  refine ⟨operation, found, ?_⟩
  cases invariant.stage coroutine operation found with
  | suspended _ _ _ _ owned => exact .inl (Phase.inFlight_of_owned owned)
  | called _ status _ _ done _ _ _ enqueued =>
      exact .inr ⟨by rw [done]; rfl, by rw [enqueued]; exact Nat.one_pos⟩
  | unstarted _ _ failed ignored permitted =>
      rw [mayStart_eq] at permitted
      have nonnegative := permitted ((Starter.checkStart_eq_none failed).mp ignored)
      omega
  | resumed _ _ _ _ _ _ _ _ _ awake => exact absurd waiting awake
  | abandoned _ _ _ _ awake => exact absurd waiting awake
  | settled _ _ _ _ _ awake => exact absurd waiting awake
  | refused _ _ _ awake => exact absurd waiting awake

/-- A call throws what libuv returns if and only if libuv accepts the request or the operation
looks at the result. If all calls are like this, nobody waits in vain. -/
theorem start_reported_iff (starter : Starter) :
    (∀ state coroutine start,
      (start < 0 → (state.call starter.protocol coroutine start).ThrewStart coroutine start) ↔
        starter.Starts state (.call coroutine start)) ∧
    ∀ state, (system starter.protocol).ReachableVia starter.Starts state → state.Awaited := by
  refine ⟨fun state coroutine start => ?_, fun state => awaited_of_starts⟩
  constructor
  · intro reports ignores
    by_contra negative
    have threw := reports (by omega)
    rw [threwStart_iff (by omega), ignores] at threw
    simp at threw
  · intro starts negative
    rw [threwStart_iff negative, ← Bool.not_eq_true]
    intro ignores
    have := starts ignores
    omega

/-- A `write()` that libuv has accepted is suspended. -/
theorem start_reported_write : (({} : State).call StreamBase.write 0 0).Awaited := by
  have start : (system Starter.write.protocol).ReachableVia Starter.write.Starts {} := .start rfl
  exact (start_reported_iff .write).2 _ (start.step (Action.call 0 0) (by decide) nofun)

/-- `uv_shutdown` fails, for example because the stream was shut down before. -/
theorem refused_shutdown_waits :
    ¬∀ starter : Starter, ∀ state, (system starter.protocol).Reachable state → state.Awaited := by
  intro always
  have start : (system Starter.shutdown.protocol).Reachable {} := .start rfl
  have shuts_down := start.step (Action.call 0 (-107)) (by decide) trivial
  rcases always .shutdown _ shuts_down 0 rfl with ⟨operation, found, owned⟩
  obtain rfl := Option.some.inj found
  exact absurd owned (by decide)

end State

end Uvco.Request
