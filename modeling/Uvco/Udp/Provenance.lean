import Uvco.Udp.Stage

/-!
# Where received packets come from

The code around a socket moves packets and never makes one up: what holds of every packet
that libuv hands to the callback holds of every packet that a consumer obtains.
-/

namespace Uvco

variable {T E : Type}

/-- `await_resume` evaluates to the value in the slot and leaves none there. -/
theorem MultiPromiseAwaiter.awaitResume_value (core : MultiPromiseCore T E) (value : T) :
    ((awaitResume (some core)).1 = .returned (some value) → core.slot = some (.value value)) ∧
      ((awaitResume (some core)).2.getD core).slot ≠ some (.value value) := by
  rcases slot_eq : core.slot with _ | stored | exception <;>
    simp [awaitResume, slot_eq]

theorem MultiPromiseCore.resume_slot (core : MultiPromiseCore T E) (loop : Loop) :
    (core.resume loop).1.slot = core.slot := by
  unfold MultiPromiseCore.resume PromiseCore.resume
  cases core.waitingHandle <;> rfl

theorem MultiPromiseCore.resumeGenerator_slot (core : MultiPromiseCore T E) (loop : Loop) :
    (core.resumeGenerator loop).1.slot = core.slot := by
  unfold MultiPromiseCore.resumeGenerator
  split <;> rfl

namespace MultiPromise.State

/-- The values in the slot and those that consumers obtained have the property. -/
structure Carries (P : T → Prop) (state : State T E) : Prop where
  slot : ∀ value, state.core.slot = some (.value value) → P value
  obtained : ∀ value, .returned (some value) ∈ state.obtained → P value

namespace Carries

variable {P : T → Prop} {state : State T E}

theorem started (runtime : Runtime Point) (generator : Handle) :
    Carries P (State.started runtime generator : State T E) :=
  ⟨by simp [State.started, initial], by simp [State.started, initial]⟩

theorem congr {after : State T E} (carries : state.Carries P)
    (slot_eq : after.core.slot = state.core.slot) (obtained_eq : after.obtained = state.obtained) :
    after.Carries P :=
  ⟨slot_eq ▸ carries.slot, obtained_eq ▸ carries.obtained⟩

theorem finishAwait (carries : state.Carries P) : state.finishAwait.Carries P := by
  constructor
  · intro value in_slot
    exact absurd in_slot (MultiPromiseAwaiter.awaitResume_value state.core value).2
  · intro value obtained
    rcases List.mem_append.mp obtained with earlier | last
    · exact carries.obtained value earlier
    · apply carries.slot
      apply (MultiPromiseAwaiter.awaitResume_value state.core value).1
      exact (List.mem_singleton.mp last).symm

theorem resumeNext (carries : state.Carries P) : state.resumeNext.Carries P := by
  unfold State.resumeNext
  dsimp only
  split
  · unfold State.resume
    dsimp only
    split
    · exact finishAwait (carries.congr rfl rfl)
    · exact carries.congr rfl rfl
    · exact carries.congr rfl rfl
    · exact carries.congr rfl rfl
    · exact carries.congr rfl rfl
  · exact carries.congr rfl rfl

theorem coAwait (carries : state.Carries P) (handle : Handle) :
    (state.coAwait handle).Carries P := by
  unfold State.coAwait
  split
  · exact carries.finishAwait
  · exact resumeNext (carries.congr (MultiPromiseCore.resumeGenerator_slot _ _) rfl)

theorem foreign (carries : state.Carries P) {action : Action T E} {generator : Handle}
    (is_foreign : action.IsForeign generator) : (action.perform state).Carries P := by
  cases action with
  | coAwait handle => exact carries.coAwait handle
  | yield value | finish ending => exact is_foreign.elim
  | resumeNext => exact carries.resumeNext
  | other action => exact carries.congr rfl rfl

theorem yield (carries : state.Carries P) {value : T} (property : P value) :
    (state.yield value).Carries P := by
  have slot_eq : (Generator.yieldValue state.core state.runtime.loop value).1.slot =
      some (.value value) := MultiPromiseCore.resume_slot _ _
  have obtained_eq : (state.yield value).obtained = state.obtained := by
    unfold State.yield
    dsimp only
    split <;> rfl
  have after_slot : (state.yield value).core.slot = some (.value value) := by
    unfold State.yield
    dsimp only
    split
    · exact slot_eq
    · exact slot_eq
  constructor
  · intro other in_slot
    rw [after_slot, Option.some.injEq, Outcome.value.injEq] at in_slot
    exact in_slot ▸ property
  · rw [obtained_eq]
    exact carries.obtained

theorem finish (carries : state.Carries P) (ending : Ending E) :
    (state.finish ending).Carries P := by
  refine ⟨?_, carries.obtained⟩
  intro value in_slot
  cases ending with
  | returned =>
      have slot_eq : (state.finish .returned).core.slot = state.core.slot :=
        MultiPromiseCore.resume_slot _ _
      exact carries.slot value (slot_eq ▸ in_slot)
  | threw exception =>
      have slot_eq : (state.finish (.threw exception)).core.slot = some (.exception exception) :=
        MultiPromiseCore.resume_slot _ _
      simp [slot_eq] at in_slot

end Carries

end MultiPromise.State

namespace Udp

variable {Packet : Type}

/-- The packets in the buffer of a receiver have the property. -/
def Receiver.Carries (P : Packet → Prop) (receiver : Receiver Packet) : Prop :=
  ∀ packet, .packet packet ∈ receiver.buffer.toList → P packet

/-- All packets that were buffered and handed on have the property. -/
structure State.Carries (P : Packet → Prop) (state : State Packet) : Prop where
  receiver : ∀ receiver, state.receiver = some receiver → receiver.Carries P
  promise : state.promise.Carries P
  outcomes : ∀ packet, .ok packet ∈ state.outcomes → P packet

/-- The packets that libuv hands to the callback have the property. -/
def Brings (P : Packet → Prop) (_ : State Packet) (action : Action Packet) : Prop :=
  ∀ packet, action = .onReceiveOne (.packet packet) → P packet

namespace State.Carries

variable {P : Packet → Prop} {state : State Packet} {receiver : Receiver Packet}

theorem awaitSuspend (carries : state.Carries P) (buffered : receiver.Carries P) :
    (state.awaitSuspend receiver).Carries P where
  receiver := by
    rintro _ ⟨⟩
    exact buffered
  promise := carries.promise.congr rfl rfl
  outcomes := carries.outcomes

theorem resetData (carries : state.Carries P) : state.resetData.Carries P :=
  ⟨carries.receiver, carries.promise, carries.outcomes⟩

theorem finishMany (carries : state.Carries P) (ending : MultiPromise.Ending UvcoException) :
    (state.finishMany ending).Carries P where
  receiver := by simp [State.finishMany]
  promise := carries.promise.finish ending
  outcomes := by
    unfold State.finishMany
    dsimp only
    split
    · exact carries.outcomes
    · exact carries.outcomes

theorem finishOne (carries : state.Carries P) (coroutine : Handle)
    {outcome : Except UvcoException Packet} (property : ∀ packet, outcome = .ok packet → P packet) :
    (state.finishOne coroutine outcome).Carries P where
  receiver := by simp [State.finishOne]
  promise := carries.promise.congr rfl rfl
  outcomes := by
    intro packet obtained
    rcases List.mem_append.mp obtained with earlier | last
    · exact carries.outcomes packet earlier
    · exact property packet (List.mem_singleton.mp last).symm

theorem takeItem (carries : state.Carries P) (buffered : receiver.Carries P) :
    (state.takeItem receiver).Carries P := by
  unfold State.takeItem
  split
  · split
    · exact carries.finishMany _
    · exact carries.finishOne _ (by simp)
  · rename_i filled
    have not_empty : receiver.buffer.empty = false := by simpa using filled
    rcases BoundedQueue.get_spec not_empty with ⟨item, buffer, get_eq, contents, -⟩
    rw [get_eq]
    cases item with
    | packet packet =>
        have property : P packet := buffered packet (contents ▸ List.mem_cons_self)
        dsimp only
        split
        · refine ⟨?_, carries.promise.yield property, carries.outcomes⟩
          rintro _ ⟨⟩ other other_mem
          exact buffered other (contents ▸ List.mem_cons_of_mem _ other_mem)
        · apply carries.finishOne
          rintro _ ⟨⟩
          exact property
    | error status =>
        dsimp only
        split
        · exact carries.finishMany _
        · exact carries.finishOne _ (by simp)

theorem loop (carries : state.Carries P) (buffered : receiver.Carries P) :
    (state.loop receiver).Carries P := by
  unfold State.loop
  split
  · split
    · split
      · exact carries.awaitSuspend buffered
      · exact carries.resetData.takeItem buffered
    · exact carries.finishMany _
  · exact ⟨carries.receiver, carries.promise, carries.outcomes⟩

theorem follow (carries : state.Carries P) {action : MultiPromise.Action Packet UvcoException}
    {generator : Handle} (is_foreign : action.IsForeign generator) :
    (state.follow action).Carries P := by
  have moved : ({ state with promise := action.perform state.promise } : State Packet).Carries P :=
    ⟨carries.receiver, carries.promise.foreign is_foreign, carries.outcomes⟩
  unfold State.follow
  dsimp only
  split
  · exact moved
  · rename_i receiver receiver_eq
    have buffered := carries.receiver receiver receiver_eq
    split
    · exact moved.resetData.takeItem buffered
    · exact moved.loop buffered
    · exact moved

theorem create (coroutine : Handle) (many : Bool) {capacity : ℕ} (capacity_lt : capacity < 2 ^ 32) :
    Receiver.Carries P { coroutine, many, buffer := .create capacity capacity_lt } := by
  intro packet buffered
  simp at buffered

theorem receiveOneFrom (carries : state.Carries P) (coroutine : Handle) {capacity : ℕ}
    (capacity_lt : capacity < 2 ^ 32) (status : Int) :
    (state.receiveOneFrom coroutine capacity capacity_lt status).Carries P := by
  unfold State.receiveOneFrom
  split
  · exact awaitSuspend ⟨carries.receiver, carries.promise, carries.outcomes⟩ (create _ _ _)
  · exact carries.finishOne _ (by simp)

theorem receiveMany (carries : state.Carries P) (generator : Handle) {capacity : ℕ}
    (capacity_lt : capacity < 2 ^ 32) (status : Int) :
    (state.receiveMany generator capacity capacity_lt status).Carries P := by
  have called : ({ state with
      promise := .started state.promise.runtime generator
      arrivals := [] } : State Packet).Carries P :=
    ⟨carries.receiver, .started _ _, carries.outcomes⟩
  unfold State.receiveMany
  dsimp only
  split
  · exact loop ⟨called.receiver, called.promise, called.outcomes⟩ (create _ _ _)
  · exact called.finishMany _

theorem onReceiveOne (carries : state.Carries P) {received : Received Packet}
    (brings : ∀ packet, received = .packet packet → P packet) :
    (state.onReceiveOne received).Carries P := by
  unfold State.onReceiveOne
  dsimp only
  split
  · split
    · rename_i receiver item receiver_eq item_eq
      rcases Invariant.receive_cases receiver item with ⟨buffer, received_eq, -, contents⟩
      have buffered : ∀ packet, .packet packet ∈ buffer.toList → P packet := by
        intro packet packet_mem
        rw [contents, List.mem_append] at packet_mem
        rcases packet_mem with earlier | last
        · exact carries.receiver receiver receiver_eq packet earlier
        · have item_is : item = .packet packet := by
            split at last
            · exact (List.mem_singleton.mp last).symm
            · simp at last
          subst item_is
          cases received with
          | packet content =>
              simp only [Received.item, Option.some.injEq, QueueItem.packet.injEq] at item_eq
              exact brings packet (by rw [item_eq])
          | error status => simp [Received.item] at item_eq
          | nothing => simp [Received.item] at item_eq
      rw [received_eq]
      split
      · refine ⟨?_, carries.promise.congr rfl rfl, carries.outcomes⟩
        rintro _ ⟨⟩
        exact buffered
      · refine ⟨?_, carries.promise.congr rfl rfl, carries.outcomes⟩
        rintro _ ⟨⟩
        exact buffered
    · exact ⟨carries.receiver, carries.promise, carries.outcomes⟩
    · exact ⟨carries.receiver, carries.promise, carries.outcomes⟩
  · exact ⟨carries.receiver, carries.promise, carries.outcomes⟩

theorem release (carries : state.Carries P) : state.release.Carries P :=
  ⟨carries.receiver, carries.promise, carries.outcomes⟩

theorem close (carries : state.Carries P) : state.close.Carries P := by
  unfold State.close
  split
  · split
    · rename_i receiver _ receiver_eq
      cases space : receiver.buffer.hasSpace with
      | false =>
          rw [BoundedQueue.put_full space]
          exact ⟨carries.receiver, carries.promise, carries.outcomes⟩
      | true =>
          rcases BoundedQueue.put_spec space (.error UV_ECANCELED) with
            ⟨buffer, put_eq, contents, -⟩
          have buffered : ∀ packet, .packet packet ∈ buffer.toList → P packet := by
            intro packet packet_mem
            apply carries.receiver receiver receiver_eq packet
            simpa [contents] using packet_mem
          rw [put_eq]
          dsimp only
          split
          · refine release (takeItem ?_ ?_)
            · exact ⟨carries.receiver, carries.promise.congr rfl rfl, carries.outcomes⟩
            · exact buffered
          · apply release
            refine ⟨?_, carries.promise, carries.outcomes⟩
            rintro _ ⟨⟩
            exact buffered
    · exact carries.release
    · exact carries.release
  · exact carries

theorem perform (carries : state.Carries P) {action : Action Packet}
    (enabled : action.Enabled state) (brings : Brings P state action) :
    (action.perform state).Carries P := by
  cases action with
  | receiveOneFrom coroutine capacity capacity_lt status =>
      exact carries.receiveOneFrom coroutine capacity_lt status
  | receiveMany generator capacity capacity_lt status =>
      exact carries.receiveMany generator capacity_lt status
  | onReceiveOne received =>
      apply carries.onReceiveOne
      rintro packet rfl
      exact brings packet rfl
  | send sending => exact ⟨carries.receiver, carries.promise, carries.outcomes⟩
  | close => exact carries.close
  | follow action => exact carries.follow enabled.2.1

end State.Carries

/-- In every run. -/
theorem carries_of_reachableVia {P : Packet → Prop} {state : State Packet}
    (reached : (system Packet).ReachableVia (Brings P) state) : state.Carries P := by
  refine reached.invariant (State.Carries P) ?_ ?_
  · rintro start ⟨generator, rfl⟩
    exact ⟨by simp, .started {} generator, by simp⟩
  · intro before action carries enabled brings
    exact carries.perform enabled brings

end Udp

end Uvco
