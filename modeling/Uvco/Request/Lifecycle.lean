import Uvco.Request.Operation

/-!
# The stages of an operation

Whatever the order of completions, resumptions and drops, an operation goes
through few stages, which differ in who can still reach the request. A `Lifecycle`
says what holds of the request in each of them; `Follows` collects what has to be
shown of a kind of operation, and from it the stages follow for every run. A
lifecycle may forbid to drop a promise in some phases of the request.
-/

namespace Uvco.Request

/-- What the request and the awaiter look like at each stage of an operation. -/
structure Lifecycle where
  /-- A coroutine is suspended, and libuv owns the request. -/
  linked : Object → Prop
  /-- The callback has enqueued the coroutine. -/
  called : Awaiter → Object → Prop
  /-- The coroutine was resumed, and has its local variables. -/
  resumed : Awaiter → Object → Prop
  /-- libuv owns the request, and the coroutine is gone. -/
  orphan : Object → Prop
  /-- The callback was called, and the coroutine is gone. -/
  released : Object → Prop
  /-- The call that starts the request may return this. -/
  mayStart : Int → Prop := fun _ => True
  /-- The promise of a suspended operation may be dropped in this phase. -/
  mayDrop : Phase → Prop := fun _ => True

/-- What the coroutine gets if the callback has reported this status. -/
def Protocol.Explains (protocol : Protocol) (start status : Int) (outcome : Outcome) : Prop :=
  ∃ isOpen awaiter, awaiter.status = some status ∧
    protocol.outcome isOpen start awaiter = some outcome

/-- What a kind of operation has to do in each of its steps. -/
structure Protocol.Follows (protocol : Protocol) (lifecycle : Lifecycle) : Prop where
  accepted : protocol.checkStart 0 = none
  start : ∃ request, protocol.awaitSuspend { protocol.prepare {} with phase := .queued } =
    some request ∧ request.phase = .queued ∧ lifecycle.linked request
  refused : (protocol.prepare {}).phase = .idle
  failed : ∃ request, protocol.awaitSuspend (protocol.prepare {}) = some request ∧
    request.phase = .idle
  checked : protocol.registers = true → ∀ start < 0, protocol.checkStart start ≠ none
  run : ∀ request, lifecycle.linked request → lifecycle.linked (request.proceed .running)
  run_orphan : ∀ request, lifecycle.orphan request → lifecycle.orphan (request.proceed .running)
  callback : ∀ (operation : Operation) (awaiter : Awaiter) (coroutine : Handle) (status : Int),
    operation.awaiter = some awaiter → awaiter.handle = some coroutine → operation.outcome = none →
    lifecycle.linked operation.request → (protocol.threadPool = true → status ≠ UV_ECANCELED) →
    ∃ reported request,
      protocol.callback status (operation.onRequest (·.proceed (.done status))) =
        ({ operation with awaiter := some reported, request }, some coroutine) ∧
      reported.status = some status ∧ request.phase = .done status ∧
      lifecycle.called reported request
  callback_orphan : ∀ (operation : Operation) (status : Int), operation.awaiter = none →
    lifecycle.orphan operation.request →
    ∃ request, protocol.callback status (operation.onRequest (·.proceed (.done status))) =
        ({ operation with request }, none) ∧
      request.phase = .done status ∧ lifecycle.released request
  resume : ∀ isOpen start (awaiter : Awaiter) request, awaiter.status.isSome = true →
    lifecycle.called awaiter request →
    (∃ outcome, protocol.outcome isOpen start awaiter = some outcome) ∧
    ∃ after, protocol.awaitResume request = some after ∧ after.phase = request.phase ∧
      lifecycle.resumed awaiter after
  interrupt : protocol.registers = true → protocol.generator = false ∧
    ∀ start (awaiter : Awaiter) request, awaiter.handle.isSome = true → lifecycle.linked request →
      (∃ outcome, protocol.outcome false start awaiter = some outcome) ∧
      ∃ after, protocol.awaitResume request = some after ∧ after.phase = request.phase ∧
        lifecycle.orphan (protocol.leave awaiter after)
  leave_phase : ∀ awaiter request, (protocol.leave awaiter request).phase = request.phase ∨
    request.phase = .queued ∧ (protocol.leave awaiter request).phase = .cancelled
  leave : ∀ awaiter request, lifecycle.resumed awaiter request →
    lifecycle.released (protocol.leave awaiter request)
  drop : ∀ (awaiter : Awaiter) (request : Object), awaiter.handle.isSome = true →
    request.phase.InFlight → lifecycle.linked request → lifecycle.mayDrop request.phase →
    lifecycle.orphan (protocol.leave awaiter request)
  drop_called : ∀ (awaiter : Awaiter) (request : Object), lifecycle.called awaiter request →
    lifecycle.mayDrop request.phase → lifecycle.released (protocol.leave awaiter request)

/-- The stage of an operation. -/
inductive Stage (protocol : Protocol) (lifecycle : Lifecycle) (runtime : Runtime Unit)
    (coroutine : Handle) (operation : Operation) : Prop where
  | suspended (awaiter : Awaiter) (present : operation.awaiter = some awaiter)
      (attached : awaiter.handle = some coroutine) (unresumed : operation.outcome = none)
      (owned : operation.request.phase = .queued ∨ operation.request.phase = .running)
      (linked : lifecycle.linked operation.request)
      (waiting : runtime.status coroutine = .waiting ()) (unqueued : runtime.pending coroutine = 0)
  /-- The call that starts the request has failed, and nobody has looked at its result. -/
  | unstarted (awaiter : Awaiter) (present : operation.awaiter = some awaiter)
      (failed : operation.start < 0) (ignored : protocol.checkStart operation.start = none)
      (permitted : lifecycle.mayStart operation.start) (unresumed : operation.outcome = none)
      (idle : operation.request.phase = .idle)
      (unregistered : protocol.registers = false)
      (waiting : runtime.status coroutine = .waiting ()) (unqueued : runtime.pending coroutine = 0)
  | called (awaiter : Awaiter) (status : Int) (present : operation.awaiter = some awaiter)
      (unresumed : operation.outcome = none) (done : operation.request.phase = .done status)
      (reported : awaiter.status = some status)
      (called : lifecycle.called awaiter operation.request)
      (waiting : runtime.status coroutine = .waiting ()) (enqueued : runtime.pending coroutine = 1)
  | resumed (awaiter : Awaiter) (status : Int) (outcome : Outcome)
      (kept : protocol.generator = true) (present : operation.awaiter = some awaiter)
      (ended : operation.outcome = some outcome)
      (done : operation.request.phase = .done status)
      (explained : protocol.Explains operation.start status outcome)
      (resumed : lifecycle.resumed awaiter operation.request)
      (awake : runtime.status coroutine ≠ .waiting ())
  | abandoned (gone : operation.awaiter = none) (inFlight : operation.request.phase.InFlight)
      (interrupted : operation.outcome ≠ none → protocol.registers = true)
      (orphan : lifecycle.orphan operation.request)
      (awake : runtime.status coroutine ≠ .waiting ())
  | settled (status : Int) (gone : operation.awaiter = none)
      (done : operation.request.phase = .done status)
      (explained : ∀ outcome, operation.outcome = some outcome →
        protocol.registers = true ∨ protocol.Explains operation.start status outcome)
      (released : lifecycle.released operation.request)
      (awake : runtime.status coroutine ≠ .waiting ())
  | refused (gone : operation.awaiter = none) (failed : operation.start < 0)
      (idle : operation.request.phase = .idle) (awake : runtime.status coroutine ≠ .waiting ())

namespace Stage

variable {protocol : Protocol} {lifecycle : Lifecycle} {before after : Runtime Unit}
  {coroutine : Handle} {operation : Operation}

/-- The stage does not depend on the other coroutines. -/
theorem keep (stage : Stage protocol lifecycle before coroutine operation)
    (waiting_iff : after.status coroutine = .waiting () ↔ before.status coroutine = .waiting ())
    (pending_eq : before.status coroutine = .waiting () →
      after.pending coroutine = before.pending coroutine) :
    Stage protocol lifecycle after coroutine operation := by
  cases stage with
  | suspended awaiter present attached unresumed owned linked waiting unqueued =>
      exact .suspended awaiter present attached unresumed owned linked (waiting_iff.mpr waiting)
        ((pending_eq waiting).trans unqueued)
  | unstarted awaiter present failed ignored permitted unresumed idle unregistered waiting
      unqueued =>
      exact .unstarted awaiter present failed ignored permitted unresumed idle unregistered
        (waiting_iff.mpr waiting) ((pending_eq waiting).trans unqueued)
  | called awaiter status present unresumed done reported called waiting enqueued =>
      exact .called awaiter status present unresumed done reported called
        (waiting_iff.mpr waiting) ((pending_eq waiting).trans enqueued)
  | resumed awaiter status outcome kept present ended done explained resumed awake =>
      exact .resumed awaiter status outcome kept present ended done explained resumed
        (mt waiting_iff.mp awake)
  | abandoned gone inFlight interrupted orphan awake =>
      exact .abandoned gone inFlight interrupted orphan (mt waiting_iff.mp awake)
  | settled status gone done explained released awake =>
      exact .settled status gone done explained released (mt waiting_iff.mp awake)
  | refused gone failed idle awake =>
      exact .refused gone failed idle (mt waiting_iff.mp awake)

theorem present_of_waiting (stage : Stage protocol lifecycle before coroutine operation)
    (waiting : before.status coroutine = .waiting ()) :
    ∃ awaiter, operation.awaiter = some awaiter := by
  cases stage with
  | suspended awaiter present | unstarted awaiter present | called awaiter _ present =>
      exact ⟨awaiter, present⟩
  | resumed _ _ _ _ _ _ _ _ _ awake | abandoned _ _ _ _ awake | settled _ _ _ _ _ awake
  | refused _ _ _ awake =>
      exact absurd waiting awake

/-- What libuv may still complete belongs to a suspended coroutine, or to nobody. -/
theorem of_inFlight (stage : Stage protocol lifecycle before coroutine operation)
    (inFlight : operation.request.phase.InFlight) :
    (∃ awaiter, operation.awaiter = some awaiter ∧ awaiter.handle = some coroutine ∧
      operation.outcome = none ∧
      (operation.request.phase = .queued ∨ operation.request.phase = .running) ∧
      lifecycle.linked operation.request ∧ before.status coroutine = .waiting () ∧
      before.pending coroutine = 0) ∨
    operation.awaiter = none ∧ (operation.outcome ≠ none → protocol.registers = true) ∧
      lifecycle.orphan operation.request ∧ before.status coroutine ≠ .waiting () := by
  cases stage with
  | suspended awaiter present attached unresumed owned linked waiting unqueued =>
      exact .inl ⟨awaiter, present, attached, unresumed, owned, linked, waiting, unqueued⟩
  | abandoned gone _ interrupted orphan awake => exact .inr ⟨gone, interrupted, orphan, awake⟩
  | unstarted _ _ _ _ _ _ idle => simp [idle, Phase.InFlight] at inFlight
  | called _ _ _ _ done => simp [done, Phase.InFlight] at inFlight
  | resumed _ _ _ _ _ _ done => simp [done, Phase.InFlight] at inFlight
  | settled _ _ done => simp [done, Phase.InFlight] at inFlight
  | refused _ _ idle => simp [idle, Phase.InFlight] at inFlight

end Stage

/-- The coroutines other than this one stay suspended, or do not wait. -/
structure Apart (before after : Runtime Unit) (coroutine : Handle) : Prop where
  waiting_iff : ∀ other, other ≠ coroutine →
    (after.status other = .waiting () ↔ before.status other = .waiting ())
  pending_eq : ∀ other, other ≠ coroutine → before.status other = .waiting () →
    after.pending other = before.pending other

namespace Apart

variable {before after : Runtime Unit} {coroutine : Handle}

theorem refl (runtime : Runtime Unit) (coroutine : Handle) : Apart runtime runtime coroutine :=
  ⟨fun _ _ => Iff.rfl, fun _ _ _ => rfl⟩

theorem setStatus (apart : Apart before after coroutine) (status : Status Unit) :
    Apart before (after.setStatus coroutine status) coroutine := by
  refine ⟨fun other differs => ?_, apart.pending_eq⟩
  rw [Runtime.setStatus_status_of_ne _ differs]
  exact apart.waiting_iff other differs

theorem enqueue (runtime : Runtime Unit) (coroutine : Handle) :
    Apart runtime (runtime.enqueue coroutine) coroutine :=
  ⟨fun _ _ => Iff.rfl, fun _ differs _ => Runtime.pending_enqueue_of_ne differs⟩

theorem cancel (runtime : Runtime Unit) (coroutine : Handle) :
    Apart runtime (runtime.cancel coroutine) coroutine :=
  ⟨fun _ _ => Iff.rfl, fun _ differs _ => Runtime.pending_cancel_of_ne differs⟩

theorem getNext (popped : before.getNext = (some coroutine, after)) :
    Apart before after coroutine := by
  rcases Runtime.getNext_popped popped with ⟨status_eq, -, -, -, others⟩
  refine ⟨fun other _ => by rw [status_eq], fun other differs waiting => ?_⟩
  exact others other differs (by simp [waiting])

end Apart

namespace State

variable {protocol : Protocol} {lifecycle : Lifecycle} {state : State}

/-- Every operation is at a stage of the lifecycle, and nothing went wrong. -/
structure Invariant (protocol : Protocol) (lifecycle : Lifecycle) (state : State) : Prop where
  tolerant : state.runtime.Tolerant
  stage : ∀ coroutine operation, state.operation coroutine = some operation →
    Stage protocol lifecycle state.runtime coroutine operation
  known : ∀ coroutine, state.runtime.status coroutine = .waiting () →
    (state.operation coroutine).isSome = true
  writer : ∀ coroutine, state.writer = some coroutine →
    protocol.registers = true ∧ state.runtime.status coroutine = .waiting ()
  no_fault : state.fault = false
  sound : ∀ coroutine operation, state.operation coroutine = some operation →
    operation.fault = false

theorem frame_eq_some {coroutine : Handle} {operation : Operation} {awaiter : Awaiter} :
    state.frame coroutine = some (operation, awaiter) ↔
      state.operation coroutine = some operation ∧ operation.awaiter = some awaiter := by
  simp [frame, Option.bind_eq_some_iff]

namespace Invariant

theorem initial : ({} : State).Invariant protocol lifecycle :=
  ⟨Runtime.Tolerant.empty _, by simp, by simp, by simp, rfl, by simp⟩

/-- One operation changes. -/
theorem update (invariant : state.Invariant protocol lifecycle) {coroutine : Handle}
    {operation : Operation} {after : State}
    (operation_eq : after.operation = (state.setOperation coroutine operation).operation)
    (apart : Apart state.runtime after.runtime coroutine) (tolerant : after.runtime.Tolerant)
    (stage : Stage protocol lifecycle after.runtime coroutine operation)
    (writer : ∀ other, after.writer = some other → state.writer = some other ∧ other ≠ coroutine ∨
      protocol.registers = true ∧ after.runtime.status other = .waiting ())
    (fault_eq : after.fault = state.fault) (sound : operation.fault = false) :
    after.Invariant protocol lifecycle := by
  have changed : ∀ other, after.operation other =
      if other = coroutine then some operation else state.operation other := by
    intro other
    simp [operation_eq, setOperation, Function.update_apply]
  refine ⟨tolerant, fun other found found_eq => ?_, fun other waiting => ?_,
    fun other other_writes => ?_, fault_eq.trans invariant.no_fault, fun other found found_eq => ?_⟩
  · rw [changed] at found_eq
    split at found_eq
    · rename_i same
      subst same
      exact Option.some.inj found_eq ▸ stage
    · rename_i differs
      exact (invariant.stage other found found_eq).keep (apart.waiting_iff other differs)
        (apart.pending_eq other differs)
  · rw [changed]
    split
    · rfl
    · rename_i differs
      exact invariant.known other ((apart.waiting_iff other differs).mp waiting)
  · rcases writer other other_writes with ⟨wrote, differs⟩ | writes
    · rcases invariant.writer other wrote with ⟨registers, waiting⟩
      exact ⟨registers, (apart.waiting_iff other differs).mpr waiting⟩
    · exact writes
  · rw [changed] at found_eq
    split at found_eq
    · exact Option.some.inj found_eq ▸ sound
    · exact invariant.sound other found found_eq

/-- Coroutines do something else. -/
theorem undisturbed (invariant : state.Invariant protocol lifecycle) {runtime : Runtime Unit}
    (tolerant : runtime.Tolerant) (unchanged : Runtime.Undisturbed state.runtime runtime) :
    ({ state with runtime } : State).Invariant protocol lifecycle := by
  refine ⟨tolerant, fun coroutine operation found => ?_, fun coroutine waiting => ?_,
    fun coroutine writes => ?_, invariant.no_fault, invariant.sound⟩
  · exact (invariant.stage coroutine operation found).keep (unchanged.waiting_iff coroutine ())
      (unchanged.pending_eq coroutine ())
  · exact invariant.known coroutine ((unchanged.waiting_iff coroutine ()).mp waiting)
  · rcases invariant.writer coroutine writes with ⟨registers, waiting⟩
    exact ⟨registers, (unchanged.waiting_iff coroutine ()).mpr waiting⟩

/-- The local variables of a coroutine are destroyed. -/
theorem leave (invariant : state.Invariant protocol lifecycle) {runtime : Runtime Unit}
    {coroutine : Handle} {operation : Operation} {awaiter : Awaiter}
    (apart : Apart state.runtime runtime coroutine) (tolerant : runtime.Tolerant)
    (sound : operation.fault = false)
    (stage : Stage protocol lifecycle (runtime.setStatus coroutine .done) coroutine
      { operation with request := protocol.leave awaiter operation.request, awaiter := none }) :
    (({ state with runtime } : State).leave protocol coroutine operation awaiter).Invariant
      protocol lifecycle := by
  refine invariant.update rfl (apart.setStatus _) (tolerant.setStatus _ (.inr rfl)) stage ?_ rfl
    sound
  intro other writes
  simp only [State.leave] at writes
  split at writes
  · simp at writes
  · rename_i unregistered
    exact absurd (invariant.writer other writes).1 unregistered

/-- An operation that is still suspended in its awaiter, or was resumed, is left behind. -/
theorem leave_called (follows : protocol.Follows lifecycle)
    (invariant : state.Invariant protocol lifecycle) {runtime : Runtime Unit} {coroutine : Handle}
    {operation : Operation} {awaiter : Awaiter} {status : Int}
    (apart : Apart state.runtime runtime coroutine) (tolerant : runtime.Tolerant)
    (sound : operation.fault = false) (done : operation.request.phase = .done status)
    (explained : ∀ outcome, operation.outcome = some outcome →
      protocol.registers = true ∨ protocol.Explains operation.start status outcome)
    (released : lifecycle.released (protocol.leave awaiter operation.request)) :
    (({ state with runtime } : State).leave protocol coroutine operation awaiter).Invariant
      protocol lifecycle := by
  refine invariant.leave apart tolerant sound (.settled status rfl ?_ explained released (by simp))
  rcases follows.leave_phase awaiter operation.request with phase_eq | ⟨queued, -⟩
  · exact phase_eq.trans done
  · simp [done] at queued

/-- A generator that was resumed and has kept its local variables is left behind. -/
theorem leave_resumed (follows : protocol.Follows lifecycle)
    (invariant : state.Invariant protocol lifecycle) {runtime : Runtime Unit} {coroutine : Handle}
    {operation : Operation} {awaiter : Awaiter} {status : Int} {outcome : Outcome}
    (apart : Apart state.runtime runtime coroutine) (tolerant : runtime.Tolerant)
    (sound : operation.fault = false) (ended : operation.outcome = some outcome)
    (done : operation.request.phase = .done status)
    (explained : protocol.Explains operation.start status outcome)
    (resumed : lifecycle.resumed awaiter operation.request) :
    (({ state with runtime } : State).leave protocol coroutine operation awaiter).Invariant
      protocol lifecycle := by
  refine leave_called follows invariant apart tolerant sound done ?_ (follows.leave _ _ resumed)
  intro other other_eq
  obtain rfl := Option.some.inj (ended.symm.trans other_eq)
  exact .inr explained

theorem leave_linked (follows : protocol.Follows lifecycle)
    (invariant : state.Invariant protocol lifecycle) {runtime : Runtime Unit} {coroutine : Handle}
    {operation : Operation} {awaiter : Awaiter}
    (apart : Apart state.runtime runtime coroutine) (tolerant : runtime.Tolerant)
    (sound : operation.fault = false)
    (owned : operation.request.phase = .queued ∨ operation.request.phase = .running)
    (interrupted : operation.outcome ≠ none → protocol.registers = true)
    (orphan : lifecycle.orphan (protocol.leave awaiter operation.request)) :
    (({ state with runtime } : State).leave protocol coroutine operation awaiter).Invariant
      protocol lifecycle := by
  refine invariant.leave apart tolerant sound (.abandoned rfl ?_ interrupted orphan (by simp))
  change (protocol.leave awaiter operation.request).phase.InFlight
  rcases follows.leave_phase awaiter operation.request with phase_eq | ⟨-, cancelled⟩
  · rw [phase_eq]
    exact Phase.inFlight_of_owned owned
  · simp [cancelled, Phase.InFlight]

theorem leave_idle (follows : protocol.Follows lifecycle)
    (invariant : state.Invariant protocol lifecycle) {runtime : Runtime Unit} {coroutine : Handle}
    {operation : Operation} {awaiter : Awaiter}
    (apart : Apart state.runtime runtime coroutine) (tolerant : runtime.Tolerant)
    (sound : operation.fault = false) (failed : operation.start < 0)
    (idle : operation.request.phase = .idle) :
    (({ state with runtime } : State).leave protocol coroutine operation awaiter).Invariant
      protocol lifecycle := by
  refine invariant.leave apart tolerant sound (.refused rfl failed ?_ (by simp))
  rcases follows.leave_phase awaiter operation.request with phase_eq | ⟨queued, -⟩
  · exact phase_eq.trans idle
  · simp [idle] at queued

theorem call (follows : protocol.Follows lifecycle)
    (invariant : state.Invariant protocol lifecycle) {coroutine : Handle} {start : Int}
    (nonpositive : start ≤ 0) (permitted : lifecycle.mayStart start)
    (running : state.runtime.status coroutine = .running) :
    (state.call protocol coroutine start).Invariant protocol lifecycle := by
  have unqueued := invariant.tolerant.pending_of_running running
  have suspend : ∀ request : Object, Stage protocol lifecycle
      (state.runtime.setStatus coroutine (.waiting ())) coroutine
        { start, request, awaiter := some { handle := some coroutine } } →
      ({ state.setOperation coroutine
          { start, request, awaiter := some { handle := some coroutine } } with
        runtime := state.runtime.setStatus coroutine (.waiting ())
        writer := if protocol.registers then some coroutine else state.writer } :
          State).Invariant protocol lifecycle := by
    intro request stage
    refine invariant.update rfl ((Apart.refl _ _).setStatus _)
      (invariant.tolerant.setStatus _ (.inl unqueued)) stage ?_ rfl rfl
    intro other writes
    dsimp only at writes
    split at writes
    · rename_i registers
      obtain rfl := Option.some.inj writes
      exact .inr ⟨registers, Runtime.setStatus_status_self _⟩
    · rename_i unregistered
      exact absurd (invariant.writer other writes).1 unregistered
  by_cases failed : start < 0
  · rcases checked : protocol.checkStart start with _ | exception
    · rcases follows.failed with ⟨request, request_eq, idle⟩
      simp only [State.call, checked, failed, if_true, request_eq]
      refine suspend request
        (.unstarted _ rfl failed checked permitted rfl idle ?_ (by simp) unqueued)
      by_contra registers
      exact follows.checked (by simpa using registers) start failed checked
    · simp only [State.call, checked, failed, if_true]
      exact invariant.leave_idle follows (Apart.refl _ _) invariant.tolerant rfl failed
        follows.refused
  · obtain rfl : start = 0 := by omega
    rcases follows.start with ⟨request, request_eq, queued, linked⟩
    simp only [State.call, follows.accepted, failed, if_false, request_eq]
    exact suspend request (.suspended _ rfl rfl rfl (.inl queued) linked (by simp) unqueued)

theorem run (follows : protocol.Follows lifecycle)
    (invariant : state.Invariant protocol lifecycle) {coroutine : Handle} {operation : Operation}
    (found : state.operation coroutine = some operation)
    (queued : operation.request.phase = .queued) :
    (state.run coroutine).Invariant protocol lifecycle := by
  rw [State.run, found]
  refine invariant.update rfl (Apart.refl _ _) invariant.tolerant ?_
    (fun other writes => .inr (invariant.writer other writes)) rfl
    (invariant.sound coroutine operation found)
  cases invariant.stage coroutine operation found with
  | suspended awaiter present attached unresumed _ linked waiting unqueued =>
      exact .suspended awaiter present attached unresumed (.inr rfl)
        (follows.run _ linked) waiting unqueued
  | abandoned gone _ interrupted orphan awake =>
      exact .abandoned gone trivial interrupted (follows.run_orphan _ orphan) awake
  | unstarted _ _ _ _ _ _ idle => simp [idle] at queued
  | called _ _ _ _ done => simp [done] at queued
  | resumed _ _ _ _ _ _ done => simp [done] at queued
  | settled _ _ done => simp [done] at queued
  | refused _ _ idle => simp [idle] at queued

theorem callback (follows : protocol.Follows lifecycle)
    (invariant : state.Invariant protocol lifecycle) {coroutine : Handle} {operation : Operation}
    {status : Int} (found : state.operation coroutine = some operation)
    (inFlight : operation.request.phase.InFlight)
    (uncancelled : protocol.threadPool = true → status = UV_ECANCELED →
      operation.request.phase = .cancelled) :
    (state.callback protocol coroutine status).Invariant protocol lifecycle := by
  have sound := invariant.sound coroutine operation found
  simp only [State.callback, found]
  rcases (invariant.stage coroutine operation found).of_inFlight inFlight with
    ⟨awaiter, present, attached, unresumed, owned, linked, waiting, unqueued⟩ |
    ⟨gone, interrupted, orphan, awake⟩
  · have reportable : protocol.threadPool = true → status ≠ UV_ECANCELED := by
      intro threadPool cancelled
      have phase_eq := uncancelled threadPool cancelled
      rcases owned with queued | running <;> simp_all
    rcases follows.callback operation awaiter coroutine status present attached unresumed linked
      reportable with ⟨reported, request, called_eq, reported_eq, done, called⟩
    simp only [called_eq, Option.elim_some]
    refine invariant.update rfl (Apart.enqueue _ _) (invariant.tolerant.enqueue_waiting waiting)
      ?_ (fun other writes => .inr (invariant.writer other writes)) rfl sound
    refine .called reported status rfl unresumed done reported_eq called waiting ?_
    change (state.runtime.enqueue coroutine).pending coroutine = 1
    rw [Runtime.pending_enqueue_self, unqueued]
  · rcases follows.callback_orphan operation status gone orphan with
      ⟨request, called_eq, done, released⟩
    simp only [called_eq, Option.elim_none]
    refine invariant.update rfl (Apart.refl _ _) invariant.tolerant ?_
      (fun other writes => .inr (invariant.writer other writes)) rfl sound
    refine .settled status gone done (fun outcome outcome_eq => ?_) released awake
    exact .inl (interrupted (by rw [outcome_eq]; simp))

/-- A coroutine that the callback has enqueued is resumed. -/
theorem awaitResume_called (follows : protocol.Follows lifecycle)
    (invariant : state.Invariant protocol lifecycle) {runtime : Runtime Unit} {coroutine : Handle}
    {operation : Operation} {awaiter : Awaiter} {status : Int}
    (found : state.operation coroutine = some operation)
    (apart : Apart state.runtime runtime coroutine) (tolerant : runtime.Tolerant)
    (unqueued : runtime.pending coroutine = 0 ∨ protocol.generator = false)
    (present : operation.awaiter = some awaiter)
    (done : operation.request.phase = .done status) (reported : awaiter.status = some status)
    (called : lifecycle.called awaiter operation.request) :
    (({ state with runtime } : State).awaitResume protocol coroutine operation awaiter).Invariant
      protocol lifecycle := by
  have sound := invariant.sound coroutine operation found
  rcases follows.resume state.isOpen operation.start awaiter operation.request (by simp [reported])
    called with ⟨⟨outcome, outcome_eq⟩, after, after_eq, phase_eq, resumed⟩
  have explained : protocol.Explains operation.start status outcome :=
    ⟨state.isOpen, awaiter, reported, outcome_eq⟩
  simp only [State.awaitResume, outcome_eq, after_eq]
  split
  · rename_i kept
    refine invariant.update rfl (apart.setStatus _) (tolerant.setStatus _ (.inl ?_)) ?_ ?_ rfl sound
    · rcases unqueued with unqueued | returns
      · exact unqueued
      · simp [returns] at kept
    · exact .resumed awaiter status outcome kept.1 present rfl (phase_eq.trans done) explained
        resumed (by simp)
    · intro other writes
      have registers := (invariant.writer other writes).1
      simp [(follows.interrupt registers).1] at kept
  · refine leave_called follows invariant apart tolerant sound (phase_eq.trans done) ?_
      (follows.leave _ _ resumed)
    rintro same ⟨⟩
    exact .inr explained

/-- `close()` resumes a coroutine before the callback was called. -/
theorem awaitResume_linked (follows : protocol.Follows lifecycle)
    (invariant : state.Invariant protocol lifecycle) {coroutine : Handle}
    {operation : Operation} {awaiter : Awaiter}
    (found : state.operation coroutine = some operation) (closed : state.isOpen = false)
    (registers : protocol.registers = true) (attached : awaiter.handle = some coroutine)
    (owned : operation.request.phase = .queued ∨ operation.request.phase = .running)
    (linked : lifecycle.linked operation.request) :
    (state.awaitResume protocol coroutine operation awaiter).Invariant protocol lifecycle := by
  have sound := invariant.sound coroutine operation found
  rcases follows.interrupt registers with ⟨returns, interrupt⟩
  rcases interrupt operation.start awaiter operation.request (by simp [attached]) linked with
    ⟨⟨outcome, outcome_eq⟩, after, after_eq, phase_eq, orphan⟩
  simp only [State.awaitResume, closed, outcome_eq, after_eq, returns, Bool.false_eq_true,
    false_and, if_false]
  refine leave_linked follows invariant (Apart.refl _ _) invariant.tolerant sound ?_
    (fun _ => registers) orphan
  dsimp only
  rw [phase_eq]
  exact owned

theorem resumeNext (follows : protocol.Follows lifecycle)
    (invariant : state.Invariant protocol lifecycle) :
    (state.resumeNext protocol).Invariant protocol lifecycle := by
  rw [State.resumeNext]
  rcases popped : state.runtime.getNext with ⟨_ | handle, runtime⟩
  · rcases invariant.tolerant.resume_nothing popped with ⟨tolerant, unchanged⟩
    exact invariant.undisturbed tolerant unchanged
  · rcases Runtime.getNext_popped popped with ⟨status_eq, live, popped_pending, pending_le, -⟩
    have tolerant := invariant.tolerant.dequeue status_eq pending_le
    simp only [State.resume]
    rcases handle_status : runtime.status handle with _ | _ | point | _
    · rw [status_eq] at handle_status
      have := invariant.tolerant.pending_of_running handle_status
      omega
    · rw [status_eq] at handle_status
      rcases invariant.tolerant.resume_elsewhere popped handle_status with ⟨resumed, unchanged⟩
      exact invariant.undisturbed resumed unchanged
    · rw [status_eq] at handle_status
      rcases Option.isSome_iff_exists.mp (invariant.known handle handle_status) with
        ⟨operation, found⟩
      have stage := invariant.stage handle operation found
      rcases stage.present_of_waiting handle_status with ⟨awaiter, present⟩
      have framed : ({ state with runtime } : State).frame handle = some (operation, awaiter) :=
        frame_eq_some.mpr ⟨found, present⟩
      simp only [framed]
      -- Only a coroutine that a callback has enqueued is in the scheduler queue.
      cases stage with
      | called same status same_present _ done reported called _ enqueued =>
          obtain rfl := Option.some.inj (same_present.symm.trans present)
          exact awaitResume_called follows invariant found (Apart.getNext popped) tolerant
            (.inl (by omega)) present done reported called
      | suspended _ _ _ _ _ _ _ unqueued => omega
      | unstarted _ _ _ _ _ _ _ _ _ unqueued => omega
      | resumed _ _ _ _ _ _ _ _ _ awake => exact absurd handle_status awake
      | abandoned _ _ _ _ awake => exact absurd handle_status awake
      | settled _ _ _ _ _ awake => exact absurd handle_status awake
      | refused _ _ _ awake => exact absurd handle_status awake
    · rw [status_eq] at handle_status
      exact absurd handle_status live

theorem close (follows : protocol.Follows lifecycle)
    (invariant : state.Invariant protocol lifecycle) :
    (state.close protocol).Invariant protocol lifecycle := by
  have unregistered : ∀ isOpen, ({ state with isOpen, writer := none } : State).Invariant
      protocol lifecycle :=
    fun _ => ⟨invariant.tolerant, invariant.stage, invariant.known, by simp, invariant.no_fault,
      invariant.sound⟩
  rw [State.close]
  cases writer_eq : state.writer with
  | none =>
      exact ⟨invariant.tolerant, invariant.stage, invariant.known, by simp, invariant.no_fault,
        invariant.sound⟩
  | some writer =>
      rcases invariant.writer writer writer_eq with ⟨registers, waiting⟩
      rcases Option.isSome_iff_exists.mp (invariant.known writer waiting) with ⟨operation, found⟩
      have stage := invariant.stage writer operation found
      rcases stage.present_of_waiting waiting with ⟨awaiter, present⟩
      let closed : State := { state with isOpen := false, writer := none }
      have framed : closed.frame writer = some (operation, awaiter) :=
        frame_eq_some.mpr ⟨found, present⟩
      change (closed.resume protocol writer).Invariant protocol lifecycle
      have closed_waiting : closed.runtime.status writer = .waiting () := waiting
      simp only [State.resume, closed_waiting, framed]
      cases stage with
      | suspended same same_present attached _ owned linked =>
          obtain rfl := Option.some.inj (same_present.symm.trans present)
          exact awaitResume_linked follows (unregistered false) found rfl registers attached owned
            linked
      | called same status same_present _ done reported called =>
          obtain rfl := Option.some.inj (same_present.symm.trans present)
          exact awaitResume_called follows (unregistered false) found (Apart.refl _ _)
            invariant.tolerant (.inr (follows.interrupt registers).1) present done reported called
      | unstarted _ _ _ _ _ _ _ none_registered => simp [registers] at none_registered
      | resumed _ _ _ _ _ _ _ _ _ awake => exact absurd waiting awake
      | abandoned _ _ _ _ awake => exact absurd waiting awake
      | settled _ _ _ _ _ awake => exact absurd waiting awake
      | refused _ _ _ awake => exact absurd waiting awake

theorem finish (follows : protocol.Follows lifecycle)
    (invariant : state.Invariant protocol lifecycle) {coroutine : Handle}
    (running : state.runtime.status coroutine = .running) :
    (state.finish protocol coroutine).Invariant protocol lifecycle := by
  rw [State.finish]
  rcases framed : state.frame coroutine with _ | ⟨operation, awaiter⟩
  · exact invariant
  · rcases frame_eq_some.mp framed with ⟨found, present⟩
    have sound := invariant.sound coroutine operation found
    have awake : state.runtime.status coroutine ≠ .waiting () := by
      rw [running]
      simp
    cases invariant.stage coroutine operation found with
    | resumed same status outcome _ same_present ended done explained resumed =>
        obtain rfl := Option.some.inj (same_present.symm.trans present)
        exact leave_resumed follows invariant (Apart.refl _ _) invariant.tolerant sound ended done
          explained resumed
    | suspended _ _ _ _ _ _ waiting => exact absurd waiting awake
    | unstarted _ _ _ _ _ _ _ _ waiting => exact absurd waiting awake
    | called _ _ _ _ _ _ _ waiting => exact absurd waiting awake
    | abandoned gone => simp [gone] at present
    | settled _ gone => simp [gone] at present
    | refused gone => simp [gone] at present

theorem drop (follows : protocol.Follows lifecycle)
    (invariant : state.Invariant protocol lifecycle) {coroutine : Handle}
    (permitted : ∀ operation awaiter, state.frame coroutine = some (operation, awaiter) →
      operation.outcome = none → lifecycle.mayDrop operation.request.phase) :
    (state.drop protocol coroutine).Invariant protocol lifecycle := by
  rw [State.drop]
  rcases framed : state.frame coroutine with _ | ⟨operation, awaiter⟩
  · exact invariant
  · rcases frame_eq_some.mp framed with ⟨found, present⟩
    have sound := invariant.sound coroutine operation found
    have apart := Apart.cancel state.runtime coroutine
    have tolerant := invariant.tolerant.cancel coroutine
    cases invariant.stage coroutine operation found with
    | suspended same same_present attached unresumed owned linked =>
        obtain rfl := Option.some.inj (same_present.symm.trans present)
        refine leave_linked follows invariant apart tolerant sound owned ?_ ?_
        · exact fun resumed => absurd unresumed resumed
        · exact follows.drop _ _ (by simp [attached]) (Phase.inFlight_of_owned owned) linked
            (permitted operation same framed unresumed)
    | unstarted _ _ failed _ _ _ idle =>
        exact leave_idle follows invariant apart tolerant sound failed idle
    | called same status same_present unresumed done reported called =>
        obtain rfl := Option.some.inj (same_present.symm.trans present)
        refine leave_called follows invariant apart tolerant sound done ?_
          (follows.drop_called _ _ called (permitted operation same framed unresumed))
        intro outcome outcome_eq
        simp [unresumed] at outcome_eq
    | resumed same status outcome _ same_present ended done explained resumed =>
        obtain rfl := Option.some.inj (same_present.symm.trans present)
        exact leave_resumed follows invariant apart tolerant sound ended done explained resumed
    | abandoned gone => simp [gone] at present
    | settled _ gone => simp [gone] at present
    | refused gone => simp [gone] at present

end Invariant

end State

/-- Requests are only started, and the promises of suspended operations only dropped, as the
lifecycle permits it. -/
def Lifecycle.Permits (lifecycle : Lifecycle) (state : State) : Action → Prop
  | .call _ start => lifecycle.mayStart start
  | .drop coroutine => ∀ operation awaiter, state.frame coroutine = some (operation, awaiter) →
      operation.outcome = none → lifecycle.mayDrop operation.request.phase
  | .run _ | .callback _ _ | .close | .finish _ | .resumeNext | .other _ => True

namespace State

variable {protocol : Protocol} {lifecycle : Lifecycle} {state : State}

theorem Invariant.step (follows : protocol.Follows lifecycle)
    (invariant : state.Invariant protocol lifecycle) {action : Action}
    (enabled : action.Enabled protocol state) (permitted : lifecycle.Permits state action) :
    (action.perform protocol state).Invariant protocol lifecycle := by
  cases action with
  | call coroutine start =>
      exact invariant.call follows enabled.2.1 permitted enabled.2.2.2
  | run coroutine =>
      rcases (Option.any_eq_true _ _).mp enabled.2 with ⟨operation, found, queued⟩
      exact invariant.run follows found (by simpa using queued)
  | callback coroutine status =>
      rcases (Option.any_eq_true _ _).mp enabled with ⟨operation, found, allowed⟩
      rw [decide_eq_true_iff] at allowed
      exact invariant.callback follows found allowed.1 allowed.2
  | close => exact invariant.close follows
  | finish coroutine => exact invariant.finish follows enabled.1
  | drop coroutine => exact invariant.drop follows permitted
  | resumeNext => exact invariant.resumeNext follows
  | other action =>
      rcases invariant.tolerant.other enabled.1 with ⟨tolerant, unchanged⟩
      exact invariant.undisturbed tolerant unchanged

/-- The stages of a kind of operation, in every run that the lifecycle permits. -/
theorem invariant_of_reachable (follows : protocol.Follows lifecycle)
    (reached : (system protocol).ReachableVia lifecycle.Permits state) :
    state.Invariant protocol lifecycle := by
  refine reached.invariant (State.Invariant protocol lifecycle) ?_ ?_
  · rintro _ rfl
    exact Invariant.initial
  · exact fun _ _ invariant enabled permitted => invariant.step follows enabled permitted

end State

end Uvco.Request
