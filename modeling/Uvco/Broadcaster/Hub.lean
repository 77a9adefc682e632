import Uvco.Library.Subscription
import Uvco.Stream.Sending

/-!
# A server that broadcasts

This file embeds `Hub`, `handleConnection` and `server` of `tcp-broadcaster.exe.cc`, with
what they use of `TcpStream`. Every chunk that is read from a client is written to all of
them. `broadcast()` awaits the first of its calls of `write()`, which hands control to the
next coroutine that is enqueued, and so on; when there is none, it returns to
`handleConnection`, which drops its promise, and with it the promises of all calls of
`write()`. Their requests are sent nevertheless. Meanwhile other chunks may have been
broadcast, so that several calls of `write()` are suspended on one stream, and streams may
have been closed and destroyed.

A `TcpStream` is owned by `clients_` and by its `handleConnection`. It is closed with its
last owner; a `handleConnection` that ends because `read()` throws leaves its entry in
`clients_`.
-/

namespace Uvco.Broadcaster

open Uvco.Stream

/-- What `co_await streamPtr->read()` evaluates to. -/
inductive ReadResult where
  | chunk (what : List Byte)
  /-- `std::nullopt` -/
  | ended
  | threw
deriving DecidableEq, Repr

/-- A `TcpStream`, the `handleConnection` that was called with it, and the calls of `write()` on
it. Calls of `broadcast()` are numbered. -/
structure Connection where
  /-- `peerStr` -/
  peer : List Byte
  /-- `handleConnection` has not ended. -/
  handling : Bool := true
  /-- What a `read()` has ended with; `handleConnection` is enqueued. -/
  result : Option ReadResult := none
  /-- `stream_` is not null. -/
  isOpen : Bool := true
  /-- `writer_`: the broadcast whose `write()` it is. -/
  writer : Option ℕ := none
  /-- The broadcasts whose calls of `write()` are suspended on the stream. -/
  suspended : List ℕ := []
  outbox : WriteQueue := .empty
  /-- The messages that `uv_write` has accepted, in order. -/
  accepted : List (List Byte) := []
  /-- The number of calls of `write()` that failed at once. -/
  refused : ℕ := 0
  /-- When the connection came into `clients_`, and when it was taken out. -/
  subscription : Subscription
  /-- The stream was destroyed. -/
  freed : Bool := false
  /-- It was destroyed before a `write()` that was suspended on it. -/
  abandoned : Bool := false
  /-- Its assertions held. -/
  asserted : Bool := true
  /-- A `write()` has used it after it was destroyed. -/
  fault : Bool := false

namespace Connection

variable (connection : Connection)

/-- `write()`, up to its suspension; `status` is the result of `uv_write`. -/
def write (number : ℕ) (message : List Byte) (status : Int) : Connection :=
  -- `BOOST_ASSERT(stream_)` in `stream()`.
  let called := { connection with asserted := connection.asserted && connection.isOpen }
  -- `~OutStreamAwaiter_` resets `writer_`, whose ever it is.
  if status < 0 then { called with refused := connection.refused + 1, writer := none }
  else { called with
    outbox := connection.outbox.submit message
    accepted := connection.accepted ++ [message]
    suspended := connection.suspended ++ [number]
    writer := some number }

/-- The promise of a `write()` is dropped. -/
def dropWrite (number : ℕ) : Connection :=
  if number ∈ connection.suspended then
    { connection with
      suspended := connection.suspended.filter (· ≠ number)
      writer := none
      fault := connection.fault || connection.freed }
  else connection

/-- `close()`, which resumes the `write()` in `writer_`: it throws. -/
def close : Connection :=
  { connection with
    isOpen := false
    outbox := connection.outbox.failAll writeCanceled
    suspended := connection.suspended.filter (some · ≠ connection.writer)
    writer := none }

/-- The entry in `clients_` is gone. -/
def leave (messages : List (List Byte)) : Connection :=
  { connection with subscription := connection.subscription.leave messages }

/-- `handleConnection` ends. -/
def unhandle : Connection :=
  { connection with handling := false, result := none }

/-- The memory of the stream is freed. -/
def free : Connection :=
  { connection with
    freed := true
    abandoned := connection.abandoned || !connection.suspended.isEmpty }

/-- `close()` resumes whatever is suspended on the stream. -/
def OnlyWriter : Prop :=
  ∀ number ∈ connection.suspended, connection.writer = some number

end Connection

/-- A `broadcast()` that is suspended. -/
structure Broadcast where
  number : ℕ
  /-- The connection whose `handleConnection` has called it. -/
  sender : ℕ
  /-- The connection whose `write()` it awaits. -/
  awaits : ℕ
  /-- This `write()` has ended, and the broadcast is enqueued. -/
  woken : Bool := false
deriving DecidableEq, Repr

/-- The `Hub`, and all connections. -/
structure Hub where
  clients_ : List (List Byte × ℕ) := []
  connections : List Connection := []
  /-- What was broadcast; a broadcast's number is its place here. -/
  messages : List (List Byte) := []
  /-- The calls of `broadcast()` that have not returned, the innermost first. -/
  stack : List Broadcast := []
  /-- `server()` has not ended. -/
  running : Bool := true

/-- What stands between the sender and the chunk. -/
def separator : List Byte :=
  " says: ".toList.map fun char => UInt8.ofNat char.toNat

namespace Hub

variable (hub : Hub)

/-- Changes a connection, if it exists. -/
def modify (index : ℕ) (change : Connection → Connection) : Hub :=
  { hub with connections := hub.connections.modify index change }

/-- The connection is in `clients_`. -/
def isClient (index : ℕ) : Bool :=
  hub.clients_.any fun entry => entry.2 = index

/-- The numbers of the calls of `broadcast()` that have not returned. -/
def numbers : List ℕ :=
  hub.stack.map Broadcast.number

/-- The promises in a `broadcast()` are destroyed. -/
def dropWrites (number : ℕ) : Hub :=
  { hub with connections := hub.connections.map (·.dropWrite number) }

/-- `close()`; a broadcast that awaits the `write()` in `writer_` is enqueued. -/
def close (index : ℕ) : Hub :=
  let writer := hub.connections[index]?.bind Connection.writer
  { hub.modify index Connection.close with
    stack := hub.stack.map fun broadcast =>
      if broadcast.awaits = index ∧ writer = some broadcast.number then
        { broadcast with woken := true }
      else broadcast }

/-- The stream is destroyed, unless it has an owner. -/
def release (index : ℕ) : Hub :=
  if hub.isClient index ∨ hub.connections[index]?.any Connection.handling = true then hub
  else (hub.close index).modify index Connection.free

/-- The entry is taken out of `clients_`. -/
def remove (peer : List Byte) (client : ℕ) : Hub :=
  { hub.modify client (·.leave hub.messages) with
    clients_ := hub.clients_.filter fun entry => entry.1 ≠ peer }

/-- `clients_.erase` -/
def erase (peer : List Byte) : Hub :=
  match hub.clients_.find? fun entry => entry.1 = peer with
  | some (_, client) => (hub.remove peer client).release client
  | none => hub

/-- `clientPtr.second->write(message)` for all clients. -/
def write (message : List Byte) (statuses : ℕ → Int) : Hub :=
  hub.clients_.foldl
    (fun written entry =>
      written.modify entry.2 (·.write hub.messages.length message (statuses entry.2))) hub

/-- `broadcast()`, up to its first suspension. The order in `clients_` is not specified: `first` is
the client whose `write()` is awaited first. -/
def broadcast (sender : ℕ) (message : List Byte) (statuses : ℕ → Int) (first : ℕ) : Hub :=
  let written := { hub.write message statuses with messages := hub.messages ++ [message] }
  if hub.isClient first ∧ 0 ≤ statuses first then
    { written with
      stack := { number := hub.messages.length, sender, awaits := first } :: hub.stack }
  else
    -- There is nothing to await, or the first `write()` has thrown already.
    written.dropWrites hub.messages.length

/-- `handleConnection` is called, and runs up to its first `read()`. -/
def accept (peer : List Byte) : Hub :=
  let erased := hub.erase peer
  { erased with
    connections := erased.connections ++ [{ peer, subscription := .start hub.messages }]
    clients_ := (peer, erased.connections.length) :: erased.clients_ }

/-- `handleConnection` goes on with a chunk. -/
def receive (index : ℕ) (peer what : List Byte) (statuses : ℕ → Int) (first : ℕ) : Hub :=
  (hub.modify index ({ · with result := none })).broadcast index (peer ++ separator ++ what)
    statuses first

/-- `handleConnection` goes on with the end of the stream, and returns. -/
def finish (index : ℕ) (peer : List Byte) : Hub :=
  (((hub.erase peer).close index).modify index Connection.unhandle).release index

/-- `handleConnection` ends with the exception of a `read()`. -/
def fail (index : ℕ) : Hub :=
  (hub.modify index Connection.unhandle).release index

/-- `broadcast()` returns to the `handleConnection` that has called it, and its promise is
dropped. -/
def leave : Hub :=
  match hub.stack with
  | broadcast :: others => ({ hub with stack := others } : Hub).dropWrites broadcast.number
  | [] => hub

/-- A broadcast is resumed with the exception of the `write()` it awaits, and ends. -/
def abort (number : ℕ) : Hub :=
  ({ hub with
      stack := hub.stack.map fun broadcast =>
        if broadcast.number = number then { broadcast with woken := false } else broadcast } :
    Hub).dropWrites number

/-- `server()` ends, and with it every `handleConnection` and the hub. -/
def stop : Hub :=
  { hub with
    connections := hub.connections.map fun connection =>
      (connection.leave hub.messages).unhandle.close.free
    clients_ := []
    running := false }

end Hub

/-- What libuv, the clients and the scheduler can do next. -/
inductive Action where
  | accept (peer : List Byte)
  /-- A `read()` ends. -/
  | onRead (index : ℕ) (result : ReadResult)
  | receive (index : ℕ) (statuses : ℕ → Int) (first : ℕ)
  | finish (index : ℕ)
  | fail (index : ℕ)
  /-- The innermost `broadcast()` returns. -/
  | leave
  /-- The scheduler resumes a broadcast. -/
  | abort (number : ℕ)
  | transmit (index count : ℕ)
  | deliver (index : ℕ)
  | failRequest (index : ℕ) (error : WriteError)
  | stop

namespace Action

/-- The connection exists and has this property. -/
def Of (hub : Hub) (index : ℕ) (Property : Connection → Prop) : Prop :=
  ∃ connection, hub.connections[index]? = some connection ∧ Property connection

/-- libuv calls back while no `broadcast()` is suspended: the promises of the calls of `write()`
that it completes were dropped. But `read()` can fail at once when `handleConnection` calls it. The
server does not end in the middle of a `broadcast()`. -/
def Enabled (hub : Hub) : Action → Prop
  | .accept _ => hub.running = true
  | .onRead index result =>
      (Of hub index fun connection => connection.handling = true ∧ connection.result = none) ∧
      (∀ broadcast ∈ hub.stack, broadcast.sender ≠ index) ∧ (result ≠ .threw → hub.stack = [])
  | .receive index _ first =>
      (Of hub index fun connection => ∃ what, connection.result = some (.chunk what)) ∧
        (hub.clients_ ≠ [] → hub.isClient first = true)
  | .finish index => Of hub index fun connection => connection.result = some .ended
  | .fail index => Of hub index fun connection => connection.result = some .threw
  | .leave => hub.stack ≠ []
  | .abort number => ∃ broadcast ∈ hub.stack, broadcast.number = number ∧ broadcast.woken = true
  | .transmit index _ | .deliver index | .failRequest index _ =>
      Of hub index fun connection => connection.isOpen = true
  | .stop => hub.running = true ∧ hub.stack = []

/-- The server after an action. -/
def perform (hub : Hub) : Action → Hub
  | .accept peer => hub.accept peer
  | .onRead index result => hub.modify index ({ · with result := some result })
  | .receive index statuses first =>
      match hub.connections[index]? with
      | some { peer, result := some (.chunk what), .. } =>
          hub.receive index peer what statuses first
      | _ => hub
  | .finish index =>
      match hub.connections[index]? with
      | some connection => hub.finish index connection.peer
      | none => hub
  | .fail index => hub.fail index
  | .leave => hub.leave
  | .abort number => hub.abort number
  | .transmit index count => hub.modify index fun connection =>
      { connection with outbox := connection.outbox.transmit count }
  | .deliver index => hub.modify index fun connection =>
      { connection with outbox := connection.outbox.deliver }
  | .failRequest index error => hub.modify index fun connection =>
      { connection with outbox := connection.outbox.fail error }
  | .stop => hub.stop

variable {hub : Hub} {index : ℕ} {connection : Connection}

theorem perform_receive (found : hub.connections[index]? = some connection) {what : List Byte}
    (result_eq : connection.result = some (.chunk what)) (statuses : ℕ → Int) (first : ℕ) :
    perform hub (.receive index statuses first) =
      hub.receive index connection.peer what statuses first := by
  cases connection
  cases result_eq
  simp only [perform, found]

theorem perform_finish (found : hub.connections[index]? = some connection) :
    perform hub (.finish index) = hub.finish index connection.peer := by
  simp only [perform, found]

end Action

/-- The server, with any clients. -/
def system : TransitionSystem Hub Action where
  Initial hub := hub = {}
  Enabled hub action := action.Enabled hub
  perform hub action := action.perform hub

/-- No connection is accepted from the peer of another one that has not ended. The texts of their
addresses are compared (`AddressHandle::toString` leaves out the scope id and the flow
information). -/
def DistinctPeers (hub : Hub) : Action → Prop
  | .accept peer => ∀ connection ∈ hub.connections, connection.handling = true →
      connection.peer ≠ peer
  | .onRead .. | .receive .. | .finish _ | .fail _ | .leave | .abort _ | .transmit ..
  | .deliver _ | .failRequest .. | .stop => True

/-- No connection ends, or is replaced, while a `write()` is suspended on its stream, or on that of
another one with this peer, that `close()` does not resume. -/
def EndsUnwritten (hub : Hub) : Action → Prop
  | .accept peer => ∀ connection ∈ hub.connections, connection.peer = peer →
      connection.OnlyWriter
  | .finish index => ∀ ended, hub.connections[index]? = some ended →
      ∀ connection ∈ hub.connections, connection.peer = ended.peer → connection.OnlyWriter
  | .fail index => ∀ ended, hub.connections[index]? = some ended → ended.OnlyWriter
  | .onRead .. | .receive .. | .leave | .abort _ | .transmit .. | .deliver _ | .failRequest ..
  | .stop => True

end Uvco.Broadcaster
