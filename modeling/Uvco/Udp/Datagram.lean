import Uvco.NameResolution
import Uvco.Udp.Provenance

/-!
# Datagrams

This file embeds the way of a datagram into the callback `onReceiveOne`: the buffer that
`allocator` of `uvco/internal/internal_utils.cc` provides, the arguments that libuv passes,
and what the callback makes of them.

libuv truncates a datagram to the buffer and flags it with `UV_UDP_PARTIAL`. It reports an
error by a negative `nread` and a null address. The callback does not look at the flag, and
takes a null address for a request to free the buffer.
-/

namespace Uvco.Udp

/-- `allocator`: the size of the buffer. -/
def allocator (sugg : ℕ) : ℕ :=
  let defaultSize := 4080
  min defaultSize sugg

/-- The size that libuv suggests for datagrams. -/
def suggestedSize : ℕ := 64 * 1024

/-- The size of the buffers that libuv is given. -/
def bufferSize : ℕ := allocator suggestedSize

/-- A datagram with at most as many bytes as UDP permits. -/
structure Datagram where
  payload : List UInt8
  sender : AddressHandle
  permitted : payload.length ≤ 65507
deriving DecidableEq, Repr

/-- What libuv meets when it reads from the socket. -/
inductive Event where
  | datagram (sent : Datagram)
  | failure (status : Int) (negative : status < 0)
  /-- There is nothing to read any more. -/
  | drained
deriving DecidableEq, Repr

/-- The arguments of `uv_udp_recv_cb`; `base` is what was written to the buffer. -/
structure Callback where
  nread : Int
  base : List UInt8
  addr : Option Sockaddr
  udpPartial : Bool
deriving DecidableEq, Repr

/-- The arguments that libuv passes, given a buffer of this size. -/
def Event.callback (size : ℕ) : Event → Callback
  | .datagram sent => {
      nread := (min sent.payload.length size : ℕ)
      base := sent.payload.take size
      addr := some sent.sender.sockaddr
      udpPartial := size < sent.payload.length }
  | .failure status _ => { nread := status, base := [], addr := none, udpPartial := false }
  | .drained => { nread := 0, base := [], addr := none, udpPartial := false }

/-- `std::pair<std::string, AddressHandle>`, with what it was made from. The code does not know
the latter. -/
structure ReceivedPacket where
  content : List UInt8
  address : AddressHandle
  origin : Event
deriving DecidableEq, Repr

/-- What `onReceiveOne` makes of its arguments. The address may be of an unknown family. -/
def Callback.received (callback : Callback) (origin : Event) :
    Except UvcoException (Received ReceivedPacket) :=
  match callback.addr with
  -- Error or asking to free buffers.
  | none => .ok .nothing
  | some addr =>
      if 0 ≤ callback.nread then
        match AddressHandle.ofSockaddr addr with
        | .ok address =>
            let content := callback.base.take callback.nread.toNat
            .ok (.packet { content, address, origin })
        | .error exception => .error exception
      else .ok (.error callback.nread)

/-- The packet that holds all of a datagram. -/
def Datagram.whole (datagram : Datagram) : ReceivedPacket where
  content := datagram.payload
  address := datagram.sender
  origin := .datagram datagram

/-- The packet that holds what fits into the buffer. -/
def Datagram.cut (datagram : Datagram) : ReceivedPacket where
  content := datagram.payload.take bufferSize
  address := datagram.sender
  origin := .datagram datagram

/-- What reaches the receiver. -/
def Event.received : Event → Received ReceivedPacket
  | .datagram sent => .packet sent.cut
  | .failure _ _ | .drained => .nothing

theorem Event.received_callback (event : Event) :
    (event.callback bufferSize).received event = .ok event.received := by
  cases event with
  | datagram sent =>
      have content_eq : (sent.payload.take bufferSize).take
          (min sent.payload.length bufferSize) = sent.payload.take bufferSize := by
        apply List.take_of_length_le
        rw [List.length_take]
        omega
      have nread_nonneg : (0 : Int) ≤ (min sent.payload.length bufferSize : ℕ) :=
        Int.natCast_nonneg _
      simp only [callback, Callback.received, nread_nonneg, if_true, Int.toNat_natCast,
        AddressHandle.ofSockaddr_sockaddr, content_eq]
      rfl
  | failure status negative => rfl
  | drained => rfl

/-- Exactly the datagrams that fit into the buffer are not cut. -/
theorem Datagram.cut_eq_whole_iff (sent : Datagram) :
    sent.cut = sent.whole ↔ sent.payload.length ≤ bufferSize := by
  simp [cut, whole, List.take_eq_self_iff]

/-! ## Sockets with datagrams -/

/-- The callback `onReceiveOne` is called. -/
def Action.isCallback {Packet : Type} : Action Packet → Bool
  | .onReceiveOne _ => true
  | .receiveOneFrom .. | .receiveMany .. | .send _ | .close | .follow _ => false

/-- What arrives, and what else happens to the socket. -/
inductive WireAction where
  /-- libuv reads from the socket and calls back. -/
  | receive (event : Event)
  | socket (action : Action ReceivedPacket)

namespace WireAction

/-- libuv reads only while it is told to. -/
def Enabled (state : State ReceivedPacket) : WireAction → Prop
  | .receive _ => state.receiving = true
  | .socket action => action.Enabled state ∧ action.isCallback = false

/-- The socket after an action. -/
def perform (state : State ReceivedPacket) : WireAction → State ReceivedPacket
  | .receive event =>
      match (event.callback bufferSize).received event with
      | .ok received => state.onReceiveOne received
      | .error _ => state
  | .socket action => action.perform state

theorem perform_receive (state : State ReceivedPacket) (event : Event) :
    (WireAction.receive event).perform state = state.onReceiveOne event.received := by
  simp [perform, event.received_callback]

end WireAction

/-- All programs around one socket, and all that arrives at it. -/
def wire : TransitionSystem (State ReceivedPacket) WireAction where
  Initial := (system ReceivedPacket).Initial
  Enabled state action := action.Enabled state
  perform state action := action.perform state

/-- The packet holds what fits into the buffer of some datagram. -/
def ReceivedPacket.IsCut (packet : ReceivedPacket) : Prop :=
  ∃ sent : Datagram, packet = sent.cut

theorem reachableVia_of_wire {state : State ReceivedPacket} (reached : wire.Reachable state) :
    (system ReceivedPacket).ReachableVia (Brings ReceivedPacket.IsCut) state := by
  induction reached with
  | start initial => exact .start initial
  | @step before action reached enabled _ ih =>
      cases action with
      | receive event =>
          change (system ReceivedPacket).ReachableVia _ ((WireAction.receive event).perform before)
          rw [WireAction.perform_receive]
          have possible : (Action.onReceiveOne event.received).Enabled before := enabled
          have brings : Brings ReceivedPacket.IsCut before (.onReceiveOne event.received) := by
            intro packet brought
            rw [Action.onReceiveOne.injEq] at brought
            cases event with
            | datagram sent => exact ⟨sent, (Received.packet.inj brought).symm⟩
            | failure status negative => simp [Event.received] at brought
            | drained => simp [Event.received] at brought
          exact .step (Action.onReceiveOne event.received) ih possible brings
      | socket action =>
          have brings : Brings ReceivedPacket.IsCut before action := by
            rintro packet rfl
            exact absurd enabled.2 (by simp [Action.isCallback])
          exact .step action ih enabled.1 brings

namespace State

variable (state : State ReceivedPacket)

/-- A receive is pending, and its buffer has space. -/
structure Awaited (receiver : Receiver ReceivedPacket) : Prop where
  receiver_eq : state.receiver = some receiver
  data_set : state.dataSet = true
  space : receiver.buffer.hasSpace = true

/-- The item is put into the buffer of the receiver when libuv calls back. -/
def HandsOver (receiver : Receiver ReceivedPacket) (event : Event)
    (item : QueueItem ReceivedPacket) : Prop :=
  ∃ after, ((WireAction.receive event).perform state).receiver = some after ∧
    after.buffer.toList = receiver.buffer.toList ++ [item]

/-- `receiveOneFrom()` has returned the packet, or a consumer of `receiveMany()` obtained it. -/
def Delivered (packet : ReceivedPacket) : Prop :=
  .ok packet ∈ state.outcomes ∨ .returned (some packet) ∈ state.promise.obtained

variable {state} {receiver : Receiver ReceivedPacket}

theorem Awaited.handsOver_datagram (awaited : state.Awaited receiver) (sent : Datagram)
    (item : QueueItem ReceivedPacket) :
    state.HandsOver receiver (.datagram sent) item ↔ item = .packet sent.cut := by
  rcases Invariant.receive_cases receiver (.packet sent.cut) with
    ⟨buffer, received_eq, -, contents⟩
  have received : ∃ after, (state.onReceiveOne (.packet sent.cut)).receiver = some after ∧
      after.buffer = buffer := by
    simp only [State.onReceiveOne, awaited.data_set, awaited.receiver_eq, Received.item, if_true,
      received_eq]
    cases receiver.handle with
    | none => exact ⟨_, rfl, rfl⟩
    | some handle => exact ⟨_, rfl, rfl⟩
  rcases received with ⟨after, after_eq, rfl⟩
  rw [awaited.space, if_pos rfl] at contents
  rw [HandsOver, WireAction.perform_receive, Event.received, after_eq]
  constructor
  · rintro ⟨_, ⟨⟩, contents'⟩
    rw [contents] at contents'
    simpa using (List.append_cancel_left contents').symm
  · rintro rfl
    exact ⟨after, rfl, contents⟩

/-- A failure leaves everything as it is. -/
theorem Awaited.perform_failure (awaited : state.Awaited receiver) (status : Int)
    (negative : status < 0) :
    (WireAction.receive (.failure status negative)).perform state = state := by
  rw [WireAction.perform_receive]
  rcases awaited with ⟨receiver_eq, data_set, -⟩
  cases state
  simp_all [State.onReceiveOne, Event.received, Received.item, recordArrival]

theorem Awaited.not_handsOver_failure (awaited : state.Awaited receiver) (status : Int)
    (negative : status < 0) (item : QueueItem ReceivedPacket) :
    ¬state.HandsOver receiver (.failure status negative) item := by
  rintro ⟨after, after_eq, contents⟩
  rw [awaited.perform_failure, awaited.receiver_eq, Option.some.injEq] at after_eq
  rw [after_eq] at contents
  simp at contents

/-- Which datagrams and errors a pending receive obtains as they are. -/
structure Delivers (state : State ReceivedPacket) : Prop where
  handed_over : ∀ receiver sent, state.Awaited receiver →
    (state.HandsOver receiver (.datagram sent) (.packet sent.whole) ↔
      sent.payload.length ≤ bufferSize)
  delivered : ∀ packet sent, state.Delivered packet → packet.origin = .datagram sent →
    (packet.content = sent.payload ∧ packet.address = sent.sender ↔
      sent.payload.length ≤ bufferSize)
  errors : ∀ receiver status negative, state.Awaited receiver →
    ¬state.HandsOver receiver (.failure status negative) (.error status) ∧
      (WireAction.receive (.failure status negative)).perform state = state

/-- In every run, whatever is received. -/
theorem delivered_datagrams {state : State ReceivedPacket} (reached : wire.Reachable state) :
    state.Delivers where
  handed_over := by
    intro receiver sent awaited
    rw [awaited.handsOver_datagram, QueueItem.packet.injEq, eq_comm]
    exact sent.cut_eq_whole_iff
  delivered := by
    intro packet sent delivered origin_eq
    have carries := carries_of_reachableVia (reachableVia_of_wire reached)
    have is_cut : packet.IsCut := by
      rcases delivered with returned | obtained
      · exact carries.outcomes packet returned
      · exact carries.promise.obtained packet obtained
    rcases is_cut with ⟨other, rfl⟩
    have same : other = sent := by simpa [Datagram.cut] using origin_eq
    subst same
    simp [Datagram.cut]
  errors := fun _ status negative awaited =>
    ⟨awaited.not_handsOver_failure status negative _, awaited.perform_failure status negative⟩

/-- `receiveOneFrom()` is called, a datagram arrives, and the caller is resumed. -/
theorem received_once (sent : Datagram) : ∃ state, wire.Reachable state ∧
    state.outcomes = [.ok sent.cut] := by
  have start : wire.Reachable { promise := .initial 0 } := .start ⟨0, rfl⟩
  have called := start.step (WireAction.socket (.receiveOneFrom 1 1 (by decide) 0))
    ⟨⟨rfl, rfl, by decide, by decide, rfl⟩, rfl⟩ trivial
  have arrived := called.step (WireAction.receive (.datagram sent)) rfl trivial
  change wire.Reachable ((WireAction.receive (.datagram sent)).perform _) at arrived
  rw [WireAction.perform_receive] at arrived
  have resumed := arrived.step (WireAction.socket (.follow .resumeNext))
    ⟨⟨trivial, trivial, fun _ _ => trivial⟩, rfl⟩ trivial
  exact ⟨_, resumed, rfl⟩

/-- A datagram of two bytes. -/
def short : Datagram where
  payload := [104, 105]
  sender := .inet { sin_family := AF_INET, sin_addr := 0x0100007f, sin_port := htons 53 }
  permitted := by decide

theorem delivers_short : ∃ state : State ReceivedPacket, state.outcomes = [.ok short.whole] ∧
    state.Delivers := by
  rcases received_once short with ⟨state, reached, outcomes_eq⟩
  have fits : short.cut = short.whole := short.cut_eq_whole_iff.mpr (by decide)
  exact ⟨state, fits ▸ outcomes_eq, delivered_datagrams reached⟩

/-- A datagram with one byte more than fits into the buffer. -/
def tooLong : Datagram where
  payload := List.replicate 4081 0
  sender := .inet { sin_family := AF_INET, sin_addr := 0x0100007f, sin_port := htons 53 }
  permitted := by
    rw [List.length_replicate]
    omega

/-- The last byte of the datagram is lost, and `receiveOneFrom()` does not tell. -/
theorem tooLong_truncated : ∃ state packet, wire.Reachable state ∧ state.Delivered packet ∧
    packet.origin = .datagram tooLong ∧ packet.content ≠ tooLong.payload := by
  rcases received_once tooLong with ⟨state, reached, outcomes_eq⟩
  refine ⟨state, tooLong.cut, reached, .inl (by simp [outcomes_eq]), rfl, ?_⟩
  intro content_eq
  have fits := tooLong.cut_eq_whole_iff.mp (by rw [Datagram.whole, ← content_eq]; rfl)
  rw [tooLong, List.length_replicate] at fits
  exact absurd fits (by decide)

end State

end Uvco.Udp
