import Uvco.Promise.Core

/-!
# Promises of either kind

`Promise<T>` and `Promise<void>` are used side by side wherever the code is
generic over promises: in `SelectSet`, and by every coroutine that awaits one.
`Member` is a core of either kind; its operations are those of the core or of the
awaiter it holds. Where the types of several promises differ, `T` stands for all
of them.
-/

namespace Uvco

variable {T E : Type}

/-- The core of a `Promise<T>` or of a `Promise<void>`. -/
inductive Member (T E : Type) where
  | typed (core : PromiseCore T E)
  | void (core : VoidCore E)
deriving DecidableEq, Repr

namespace Member

/-- The coroutine that is registered in the core. -/
def waitingHandle : Member T E → Option Handle
  | .typed core => core.waitingHandle
  | .void core => core.waitingHandle

/-- The state of the core. -/
def state : Member T E → PromiseState
  | .typed core => core.state
  | .void core => core.state

/-- `Promise::ready()`; for a `Promise<void>` this is `ready_` alone. -/
def ready : Member T E → Bool
  | .typed core => core.ready
  | .void core => core.isReady

/-- `PromiseCore::stale()`. -/
def stale : Member T E → Bool
  | .typed core => core.stale
  | .void core => core.stale

/-- `isAwaited`. -/
def isAwaited : Member T E → Bool
  | .typed core => core.isAwaited
  | .void core => core.isAwaited

/-- `setHandle`. -/
def setHandle (handle : Handle) : Member T E → Except UvcoException (Member T E)
  | .typed core => (core.setHandle handle).map .typed
  | .void core => (core.setHandle handle).map .void

/-- `resetHandle`. -/
def resetHandle : Member T E → Member T E
  | .typed core => .typed core.resetHandle
  | .void core => .void core.resetHandle

/-- `await_ready` of the awaiter that goes with the core. -/
def awaitReady : Member T E → Bool
  | .typed core => PromiseAwaiter.awaitReady core
  | .void core => VoidAwaiter.awaitReady core

/-- `await_suspend` up to `Loop::getNext()`. -/
def awaitSuspend (handle : Handle) : Member T E → Except UvcoException (Member T E)
  | .typed core => (PromiseAwaiter.awaitSuspend core handle).map .typed
  | .void core => (VoidAwaiter.awaitSuspend core handle).map .void

/-- What `await_resume` leaves of the core. -/
def awaitResume : Member T E → Member T E
  | .typed core => .typed (PromiseAwaiter.awaitResume core).2
  | .void core => .void (VoidAwaiter.awaitResume core).2

/-- `Promise::unwrap()`; there is no value in a `Promise<void>`. -/
def unwrap : Member T E → Obtained (Option T) E × Member T E
  | .typed core =>
      match core.unwrap with
      | (.returned value, core) => (.returned (some value), .typed core)
      | (.rethrown exception, core) => (.rethrown exception, .typed core)
      | (.thrown exception, core) => (.thrown exception, .typed core)
  | .void core =>
      match core.unwrap with
      | .returned _ => (.returned none, .void core)
      | .rethrown exception => (.rethrown exception, .void core)
      | .thrown exception => (.thrown exception, .void core)

/-- `~PromiseAwaiter_() = default`, of either kind. -/
def destroyAwaiter (member : Member T E) : Member T E :=
  member

/-- The producing coroutine ends. A coroutine without a value ignores the value here. -/
def resolve (loop : Loop) (outcome : Outcome T E) : Member T E → Member T E × Loop
  | .typed core =>
      let (core, loop) := Coroutine.complete core loop outcome
      (.typed core, loop)
  | .void core =>
      let (core, loop) :=
        match outcome with
        | .value _ => VoidCoroutine.returnVoid core loop
        | .exception exception => VoidCoroutine.unhandledException core loop exception
      (.void core, loop)

/-! ## What the two kinds have in common -/

theorem awaitSuspend_eq_setHandle (member : Member T E) (handle : Handle) :
    member.awaitSuspend handle = member.setHandle handle := by
  cases member <;> rfl

/-- What the operations maintain: a result is there only after the end, and a handle is stored
exactly while somebody waits. -/
structure Valid (member : Member T E) : Prop where
  ready_eq : member.ready = member.awaitReady
  unresolved : member.state ≠ .finished → member.ready = false
  waiting_iff : member.waitingHandle.isSome = true ↔ member.state = .waitedOn

theorem valid_typed : (Member.typed {} : Member T E).Valid :=
  ⟨rfl, fun _ => rfl, by simp [waitingHandle, state]⟩

theorem valid_void : (Member.void {} : Member T E).Valid :=
  ⟨rfl, fun _ => rfl, by simp [waitingHandle, state]⟩

theorem awaitReady_typed (core : PromiseCore T E) :
    (Member.typed core).awaitReady = core.slot.isSome := by
  cases slot_eq : core.slot <;>
    simp [awaitReady, PromiseAwaiter.awaitReady, PromiseCore.ready, PromiseCore.stale, slot_eq]

theorem Valid.nobody {member : Member T E} (valid : member.Valid)
    (not_waited : member.state ≠ .waitedOn) : member.waitingHandle = none := by
  rw [← Option.not_isSome_iff_eq_none, valid.waiting_iff]
  exact not_waited

theorem Valid.stale_iff {member : Member T E} (valid : member.Valid) :
    member.stale = true ↔ member.state = .finished ∧ member.ready = false := by
  have ready_eq := valid.ready_eq
  cases member with
  | typed core => simp [stale, PromiseCore.stale, Member.state, ready]
  | void core =>
      simp only [awaitReady, VoidAwaiter.awaitReady, ready] at ready_eq
      cases isReady : core.isReady <;> cases exception : core.exception <;>
        simp_all [stale, VoidCore.stale, VoidCore.ready, Member.state, ready]

theorem stale_of_not_finished {member : Member T E} (not_finished : member.state ≠ .finished) :
    member.stale = false := by
  cases member <;>
    simp_all [stale, PromiseCore.stale, VoidCore.stale, Member.state]

/-- `setHandle` registers the handle in a core in state `init`. -/
theorem Valid.setHandle {member : Member T E} (valid : member.Valid) (handle : Handle)
    (is_init : member.state = .init) :
    ∃ registered, member.setHandle handle = .ok registered ∧ registered.Valid ∧
      registered.waitingHandle = some handle ∧ registered.state = .waitedOn := by
  have ready_eq := valid.ready_eq
  have not_ready := valid.unresolved (by simp [is_init])
  cases member with
  | typed core =>
      rw [awaitReady_typed] at ready_eq
      simp only [Member.state] at is_init
      refine ⟨.typed { core with waitingHandle := some handle, state := .waitedOn }, ?_,
        ⟨?_, fun _ => not_ready, by simp [waitingHandle, Member.state]⟩, rfl, rfl⟩
      · simp [Member.setHandle, PromiseCore.setHandle, is_init, Except.map]
      · rw [awaitReady_typed]
        exact ready_eq
  | void core =>
      simp only [Member.state] at is_init
      refine ⟨.void { core with waitingHandle := some handle, state := .waitedOn }, ?_,
        ⟨ready_eq, fun _ => not_ready, by simp [waitingHandle, Member.state]⟩, rfl, rfl⟩
      simp [Member.setHandle, VoidCore.setHandle, is_init, Except.map]

theorem setHandle_of_not_init {member : Member T E} (handle : Handle)
    (not_init : member.state ≠ .init) : member.setHandle handle = .error alreadyAwaited := by
  cases member <;>
    simp_all [setHandle, PromiseCore.setHandle, VoidCore.setHandle, Except.map, Member.state]

/-- `setHandle` succeeds in state `init` only. -/
theorem Valid.of_setHandle {member registered : Member T E} (valid : member.Valid)
    {handle : Handle} (set_eq : member.setHandle handle = .ok registered) :
    member.state = .init ∧ registered.Valid ∧ registered.waitingHandle = some handle ∧
      registered.state = .waitedOn := by
  have is_init : member.state = .init := by
    by_contra not_init
    simp [setHandle_of_not_init handle not_init] at set_eq
  rcases valid.setHandle handle is_init with ⟨same, same_eq, registers⟩
  obtain rfl := Except.ok.inj (same_eq.symm.trans set_eq)
  exact ⟨is_init, registers⟩

/-- `resetHandle` puts a core that somebody waits for back into state `init`, and does not touch
the others. -/
theorem Valid.resetHandle {member : Member T E} (valid : member.Valid) :
    member.resetHandle.Valid ∧ member.resetHandle.waitingHandle = none ∧
      member.resetHandle.ready = member.ready ∧
      member.resetHandle.state =
        if member.state = .waitedOn then .init else member.state := by
  have ready_eq := valid.ready_eq
  have unresolved := valid.unresolved
  have nobody := valid.nobody
  cases member with
  | typed core =>
      rw [awaitReady_typed] at ready_eq
      simp only [Member.state, waitingHandle] at nobody
      by_cases waited : core.state = .waitedOn
      · have not_ready := unresolved (by simp [Member.state, waited])
        have reset_eq : (Member.typed core).resetHandle =
            .typed { core with waitingHandle := none, state := .init } := by
          simp [Member.resetHandle, PromiseCore.resetHandle, waited]
        rw [reset_eq]
        refine ⟨⟨?_, fun _ => not_ready, by simp [waitingHandle, Member.state]⟩, rfl, rfl, ?_⟩
        · rw [awaitReady_typed]
          exact ready_eq
        · simp [Member.state, waited]
      · have reset_eq : (Member.typed core).resetHandle = .typed core := by
          simp [Member.resetHandle, PromiseCore.resetHandle, waited]
        rw [reset_eq]
        exact ⟨valid, nobody waited, rfl, by simp [Member.state, waited]⟩
  | void core =>
      simp only [Member.state, waitingHandle] at nobody
      by_cases waited : core.state = .waitedOn
      · have not_ready := unresolved (by simp [Member.state, waited])
        have reset_eq : (Member.void core : Member T E).resetHandle =
            .void { core with waitingHandle := none, state := .init } := by
          simp [Member.resetHandle, VoidCore.resetHandle, waited]
        rw [reset_eq]
        refine ⟨⟨ready_eq, fun _ => not_ready, by simp [waitingHandle, Member.state]⟩, rfl, rfl, ?_⟩
        simp [Member.state, waited]
      · have reset_eq : (Member.void core : Member T E).resetHandle = .void core := by
          simp [Member.resetHandle, VoidCore.resetHandle, waited, ← nobody waited]
        rw [reset_eq]
        exact ⟨valid, nobody waited, rfl, by simp [Member.state, waited]⟩

theorem resolve_typed (core : PromiseCore T E) (loop : Loop) (outcome : Outcome T E)
    (empty : core.slot = none) :
    (Member.typed core).resolve loop outcome =
      (.typed { core with slot := some outcome, waitingHandle := none, state := .finished },
        match core.waitingHandle with
          | some waiting => loop.enqueue waiting
          | none => loop) := by
  cases outcome <;> cases waiting_eq : core.waitingHandle <;>
    simp [Member.resolve, Coroutine.complete, Coroutine.returnValue,
      Coroutine.unhandledException, PromiseCore.except, PromiseCore.resume, empty, waiting_eq]

/-- The end of the producer makes the promise ready and enqueues the coroutine that waits. -/
theorem Valid.resolve {member : Member T E} (valid : member.Valid) (loop : Loop)
    (outcome : Outcome T E) (unresolved : member.state ≠ .finished) :
    (member.resolve loop outcome).2 =
        (match member.waitingHandle with
          | some waiting => loop.enqueue waiting
          | none => loop) ∧
      (member.resolve loop outcome).1.Valid ∧
      (member.resolve loop outcome).1.waitingHandle = none ∧
      (member.resolve loop outcome).1.state = .finished ∧
      (member.resolve loop outcome).1.ready = true := by
  have not_ready := valid.unresolved unresolved
  cases member with
  | typed core =>
      have empty : core.slot = none := by simpa [ready, PromiseCore.ready] using not_ready
      rw [resolve_typed core loop outcome empty]
      refine ⟨rfl, ⟨?_, fun unfinished => absurd rfl unfinished, ?_⟩, rfl, rfl, rfl⟩
      · rw [awaitReady_typed]
        rfl
      · simp [waitingHandle, Member.state]
  | void core =>
      have resolved : ∃ after : VoidCore E, (Member.void core : Member T E).resolve loop outcome =
          (.void after,
            match core.waitingHandle with
              | some waiting => loop.enqueue waiting
              | none => loop) ∧
          after.isReady = true ∧ after.waitingHandle = none ∧ after.state = .finished := by
        cases outcome <;> cases waiting_eq : core.waitingHandle <;>
          simp [Member.resolve, VoidCoroutine.returnVoid, VoidCoroutine.unhandledException,
            VoidCore.except, VoidCore.resume, waiting_eq]
      rcases resolved with ⟨after, resolved, isReady, nobody, finished⟩
      rw [resolved]
      refine ⟨rfl, ⟨?_, fun unfinished => absurd finished unfinished, ?_⟩, nobody, finished,
        isReady⟩
      · simp [ready, awaitReady, VoidAwaiter.awaitReady, isReady]
      · simp [waitingHandle, Member.state, nobody, finished]

/-- `await_resume` consumes the result and changes neither state nor handle. -/
theorem Valid.awaitResume {member : Member T E} (valid : member.Valid)
    (finished : member.state = .finished) :
    member.awaitResume.Valid ∧ member.awaitResume.waitingHandle = member.waitingHandle ∧
      member.awaitResume.state = .finished := by
  have nobody := valid.nobody (by simp [finished])
  have ready_eq := valid.ready_eq
  cases member with
  | typed core =>
      simp only [waitingHandle, Member.state] at nobody finished
      have resumed : ∃ slot, (Member.typed core).awaitResume = .typed { core with slot } := by
        simp only [Member.awaitResume, PromiseAwaiter.awaitResume]
        split
        · exact ⟨core.slot, rfl⟩
        · split
          · exact ⟨none, rfl⟩
          · exact ⟨none, rfl⟩
          · exact ⟨core.slot, rfl⟩
      rcases resumed with ⟨slot, resumed⟩
      rw [resumed]
      refine ⟨⟨?_, fun unfinished => absurd finished unfinished, ?_⟩, rfl, finished⟩
      · rw [awaitReady_typed]
        rfl
      · simp [waitingHandle, Member.state, nobody, finished]
  | void core =>
      simp only [waitingHandle, Member.state] at nobody finished
      simp only [awaitReady, VoidAwaiter.awaitReady, ready] at ready_eq
      have resumed : (Member.void core : Member T E).awaitResume = .void core ∨
          core.exception = none ∧ (Member.void core : Member T E).awaitResume =
            .void { core with isReady := false } := by
        simp only [Member.awaitResume, VoidAwaiter.awaitResume]
        split
        · exact .inl rfl
        · split
          · exact .inl rfl
          · rename_i no_exception
            exact .inr ⟨no_exception, rfl⟩
      rcases resumed with resumed | ⟨no_exception, resumed⟩
      · rw [resumed]
        exact ⟨valid, rfl, finished⟩
      · rw [resumed]
        refine ⟨⟨?_, fun unfinished => absurd finished unfinished, ?_⟩, rfl, finished⟩
        · simp [ready, awaitReady, VoidAwaiter.awaitReady, no_exception]
        · simp [waitingHandle, Member.state, nobody, finished]

theorem Valid.awaitResume_of_unresolved {member : Member T E} (valid : member.Valid)
    (unresolved : member.state ≠ .finished) : member.awaitResume = member := by
  have not_stale := stale_of_not_finished unresolved
  have not_ready := valid.unresolved unresolved
  have not_awaitReady := valid.ready_eq.symm.trans not_ready
  cases member with
  | typed core =>
      have empty : core.slot = none := by simpa [ready, PromiseCore.ready] using not_ready
      simp only [stale] at not_stale
      simp [Member.awaitResume, PromiseAwaiter.awaitResume, not_stale, empty]
  | void core =>
      simp only [stale] at not_stale
      simp only [ready] at not_ready
      have no_exception : core.exception = none := by
        simpa [awaitReady, VoidAwaiter.awaitReady, not_ready] using not_awaitReady
      simp only [Member.awaitResume, VoidAwaiter.awaitResume, not_stale, Bool.false_eq_true,
        if_false, no_exception]
      rw [← not_ready, ← no_exception]

/-- `unwrap` consumes a value of a `Promise<T>`, and nothing else. -/
theorem Valid.unwrap {member : Member T E} (valid : member.Valid) :
    member.unwrap.2.Valid ∧ member.unwrap.2.waitingHandle = member.waitingHandle ∧
      member.unwrap.2.state = member.state := by
  cases member with
  | typed core =>
      cases slot : core.slot with
      | none => simpa [Member.unwrap, PromiseCore.unwrap, slot] using valid
      | some outcome =>
          cases outcome with
          | exception thrown => simpa [Member.unwrap, PromiseCore.unwrap, slot] using valid
          | value result =>
              have unwrapped :
                  (Member.typed core).unwrap.2 = .typed { core with slot := none } := by
                simp [Member.unwrap, PromiseCore.unwrap, slot]
              rw [unwrapped]
              refine ⟨⟨?_, fun _ => rfl, valid.waiting_iff⟩, rfl, rfl⟩
              rw [awaitReady_typed]
              rfl
  | void core =>
      have unwrapped : (Member.void core : Member T E).unwrap.2 = .void core := by
        simp only [Member.unwrap]
        split <;> rfl
      rw [unwrapped]
      exact ⟨valid, rfl, rfl⟩

theorem Valid.awaitResume_any {member : Member T E} (valid : member.Valid) :
    member.awaitResume.Valid ∧ member.awaitResume.waitingHandle = member.waitingHandle ∧
      member.awaitResume.state = member.state := by
  by_cases finished : member.state = .finished
  · rw [finished]
    exact valid.awaitResume finished
  · rw [valid.awaitResume_of_unresolved finished]
    exact ⟨valid, rfl, rfl⟩

/-! ## What selecting leaves alone -/

/-- The kind of a promise, whether its coroutine has ended, and the result of a `Promise<T>`. -/
def profile : Member T E → Bool × Bool × Option (Outcome T E)
  | .typed core => (true, core.state == .finished, core.slot)
  | .void core => (false, core.state == .finished, none)

theorem profile_resetHandle (member : Member T E) :
    member.resetHandle.profile = member.profile := by
  cases member with
  | typed core =>
      by_cases waited : core.state = .waitedOn <;>
        simp [resetHandle, PromiseCore.resetHandle, profile, waited]
  | void core =>
      by_cases waited : core.state = .waitedOn <;>
        simp [resetHandle, VoidCore.resetHandle, profile, waited]

theorem profile_setHandle {member registered : Member T E} {handle : Handle}
    (set_eq : member.setHandle handle = .ok registered) : registered.profile = member.profile := by
  cases member with
  | typed core =>
      by_cases is_init : core.state = .init
      · simp only [setHandle, PromiseCore.setHandle, is_init, ne_eq, not_true_eq_false, if_false,
          Except.map, Except.ok.injEq] at set_eq
        simp [← set_eq, profile, is_init]
      · simp [setHandle, PromiseCore.setHandle, is_init, Except.map] at set_eq
  | void core =>
      by_cases is_init : core.state = .init
      · simp only [setHandle, VoidCore.setHandle, is_init, ne_eq, not_true_eq_false, if_false,
          Except.map, Except.ok.injEq] at set_eq
        simp [← set_eq, profile, is_init]
      · simp [setHandle, VoidCore.setHandle, is_init, Except.map] at set_eq

end Member

end Uvco
