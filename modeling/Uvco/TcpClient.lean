import Mathlib.Data.List.Induction
import Uvco.NameResolution

/-!
# Moving a `TcpClient`

This file embeds `class TcpClient` of `uvco/tcp.{h,cc}`: its two constructors, its move
constructor and move assignment, and `connect()`.

A client has two kinds of target: a host that `connect()` looks up, or an address. Each of
the moves transfers some of the members. A chain of moves is a list of them; a move
assignment comes with the client it is assigned onto, whatever that was before.
-/

namespace Uvco

/-- `struct TcpClient`; `Loop` stands for the loop that a pointer identifies. -/
structure TcpClient (Loop : Type) where
  loop : Loop
  resolvedAddress : Option AddressHandle
  host : List Char
  af_hint : Int
  port : UInt16
deriving DecidableEq, Repr

namespace TcpClient

variable {Loop : Type}

/-- `TcpClient(const Loop &, std::string, uint16_t, int)`. -/
def ofHost (loop : Loop) (target_host_address : List Char) (target_host_port : UInt16)
    (af_hint : Int) : TcpClient Loop where
  loop := loop
  resolvedAddress := none
  host := target_host_address
  af_hint := af_hint
  port := target_host_port

/-- `TcpClient(const Loop &, AddressHandle)`. -/
def ofAddress (loop : Loop) (address : AddressHandle) : TcpClient Loop where
  loop := loop
  resolvedAddress := some address
  host := []
  af_hint := 0
  port := 0

/-- `TcpClient(TcpClient &&other)`. -/
def moveConstruct (other : TcpClient Loop) : TcpClient Loop where
  loop := other.loop
  resolvedAddress := none
  host := other.host
  af_hint := other.af_hint
  port := other.port

/-- `operator=(TcpClient &&other)`. -/
def moveAssign (client other : TcpClient Loop) : TcpClient Loop :=
  { client with loop := other.loop, host := other.host, port := other.port }

/-- What `connect()` calls. -/
inductive Call (Loop : Type) where
  | gai (loop : Loop) (host : List Char) (port : UInt16) (af_hint : Int)
  | uvTcpInit (loop : Loop)
  | uvTcpConnect (address : AddressHandle)
deriving DecidableEq, Repr

/-- The results of what `connect()` calls. -/
structure Network (Loop : Type) where
  gai : Loop → List Char → UInt16 → Int → Except UvcoException AddressHandle
  uvTcpInit : Loop → Int
  uvTcpConnect : AddressHandle → Int
  /-- The status that `onConnect` receives. -/
  connection : AddressHandle → Int

/-- `connect()` from `uv_tcp_init` on. -/
def connectTo (network : Network Loop) (loop : Loop) (address : AddressHandle) :
    List (Call Loop) × Except UvcoException Unit :=
  let initStatus := network.uvTcpInit loop
  if initStatus < 0 then
    ([.uvTcpInit loop],
      .error (.ofStatus initStatus "TcpClient::connect() uv_tcp_init() failed"))
  else
    let connectStatus := network.uvTcpConnect address
    let result :=
      if connectStatus < 0 then
        .error (.ofStatus connectStatus "TcpClient::connect() failed immediately")
      else
        let status := network.connection address
        if status ≠ 0 then
          .error (.ofStatus status "TcpClient::connect() connection failed")
        else .ok ()
    ([.uvTcpInit loop, .uvTcpConnect address], result)

/-- `connect()`: its calls, and whether it ends with a stream or an error. -/
def connect (network : Network Loop) (client : TcpClient Loop) :
    List (Call Loop) × Except UvcoException Unit :=
  match client.resolvedAddress with
  | some address => connectTo network client.loop address
  | none =>
      let lookup := Call.gai client.loop client.host client.port client.af_hint
      match network.gai client.loop client.host client.port client.af_hint with
      | .error error => ([lookup], .error error)
      | .ok address =>
          let (calls, result) := connectTo network client.loop address
          (lookup :: calls, result)

/-- The target of `connect()`. -/
inductive Target (Loop : Type) where
  | lookup (loop : Loop) (host : List Char) (port : UInt16) (af_hint : Int)
  | direct (loop : Loop) (address : AddressHandle)
deriving DecidableEq, Repr

/-- Where `connect()` is going to connect to. -/
def target (client : TcpClient Loop) : Target Loop :=
  match client.resolvedAddress with
  | some address => .direct client.loop address
  | none => .lookup client.loop client.host client.port client.af_hint

theorem target_of_none {client : TcpClient Loop} (resolved : client.resolvedAddress = none) :
    client.target = .lookup client.loop client.host client.port client.af_hint := by
  simp [target, resolved]

theorem target_of_some {client : TcpClient Loop} {address : AddressHandle}
    (resolved : client.resolvedAddress = some address) :
    client.target = .direct client.loop address := by
  simp [target, resolved]

/-- Two clients connect alike in every network if and only if they have the same target. -/
theorem connect_eq_iff {client other : TcpClient Loop} :
    (∀ network, connect network client = connect network other) ↔
      client.target = other.target := by
  constructor
  · intro equal
    -- The calls differ already if no lookup finds anything.
    have calls_eq := congrArg Prod.fst (equal
      { gai := fun _ _ _ _ => .error (.ofMessage "")
        uvTcpInit := fun _ => 0
        uvTcpConnect := fun _ => 0
        connection := fun _ => 0 })
    cases address : client.resolvedAddress with
    | none =>
        cases other_address : other.resolvedAddress with
        | none => simpa [connect, target, address, other_address] using calls_eq
        | some _ => simp [connect, connectTo, address, other_address] at calls_eq
    | some _ =>
        cases other_address : other.resolvedAddress with
        | none => simp [connect, connectTo, address, other_address] at calls_eq
        | some _ => simpa [connect, connectTo, target, address, other_address] using calls_eq
  · intro target_eq network
    cases address : client.resolvedAddress with
    | none =>
        cases other_address : other.resolvedAddress with
        | none =>
            simp only [target, address, other_address, Target.lookup.injEq] at target_eq
            simp [connect, address, other_address, target_eq]
        | some _ => simp [target, address, other_address] at target_eq
    | some _ =>
        cases other_address : other.resolvedAddress with
        | none => simp [target, address, other_address] at target_eq
        | some _ =>
            simp only [target, address, other_address, Target.direct.injEq] at target_eq
            simp [connect, address, other_address, target_eq]

/-- A move of a client into another object. -/
inductive Move (Loop : Type) where
  | construct
  /-- The client is assigned onto another one. -/
  | assign (onto : TcpClient Loop)

namespace Move

/-- The client that a move assigns onto. -/
def onto : Move Loop → Option (TcpClient Loop)
  | construct => none
  | assign onto => some onto

/-- The client after a move; the one it was moved from is not used any more. -/
def apply (client : TcpClient Loop) : Move Loop → TcpClient Loop
  | construct => client.moveConstruct
  | assign onto => onto.moveAssign client

end Move

/-- The object at the end of a chain of moves. -/
def moved (client : TcpClient Loop) (chain : List (Move Loop)) : TcpClient Loop :=
  chain.foldl Move.apply client

/-- The client that a chain has last assigned onto. -/
def lastOnto (chain : List (Move Loop)) : Option (TcpClient Loop) :=
  (chain.filterMap Move.onto).getLast?

theorem moved_append_singleton (client : TcpClient Loop) (chain : List (Move Loop))
    (move : Move Loop) : client.moved (chain ++ [move]) = move.apply (client.moved chain) := by
  simp [moved]

theorem lastOnto_append_singleton (chain : List (Move Loop)) (move : Move Loop) :
    lastOnto (chain ++ [move]) = move.onto.or (lastOnto chain) := by
  cases move <;> simp [lastOnto, Move.onto]

/-- Every move transfers the loop, the host and the port. -/
theorem moved_kept (client : TcpClient Loop) (chain : List (Move Loop)) :
    (client.moved chain).loop = client.loop ∧ (client.moved chain).host = client.host ∧
      (client.moved chain).port = client.port := by
  induction chain using List.reverseRecOn with
  | nil => exact ⟨rfl, rfl, rfl⟩
  | append_singleton chain move ih =>
      rw [moved_append_singleton]
      cases move with
      | construct => exact ih
      | assign onto => exact ih

/-- The hint of a client that is assigned onto stays. -/
theorem moved_af_hint (client : TcpClient Loop) (chain : List (Move Loop)) :
    (client.moved chain).af_hint =
      ((lastOnto chain).map TcpClient.af_hint).getD client.af_hint := by
  induction chain using List.reverseRecOn with
  | nil => rfl
  | append_singleton chain move ih =>
      rw [moved_append_singleton, lastOnto_append_singleton]
      cases move with
      | construct => exact ih
      | assign onto => rfl

/-- A move construction leaves no address, and a move assignment the one that was there. -/
theorem moved_resolvedAddress (client : TcpClient Loop) (chain : List (Move Loop)) :
    (client.moved chain).resolvedAddress =
      match chain.getLast? with
      | none => client.resolvedAddress
      | some .construct => none
      | some (.assign onto) => onto.resolvedAddress := by
  induction chain using List.reverseRecOn with
  | nil => rfl
  | append_singleton chain move _ =>
      rw [moved_append_singleton, List.getLast?_concat]
      cases move with
      | construct => rfl
      | assign onto => rfl

/-- The last move is not an assignment onto a client with an address, and the client that was last
assigned onto has the hint. -/
def KeepsHost (af_hint : Int) (chain : List (Move Loop)) : Prop :=
  (∀ onto, chain.getLast? = some (.assign onto) → onto.resolvedAddress = none) ∧
    ∀ onto, lastOnto chain = some onto → onto.af_hint = af_hint

/-- The last move, if there is one, is an assignment onto a client with the address. -/
def KeepsAddress (address : AddressHandle) (chain : List (Move Loop)) : Prop :=
  ∀ last, chain.getLast? = some last →
    ∃ onto, last = .assign onto ∧ onto.resolvedAddress = some address

theorem target_moved_ofHost_iff (loop : Loop) (host : List Char) (port : UInt16) (af_hint : Int)
    (chain : List (Move Loop)) :
    ((ofHost loop host port af_hint).moved chain).target =
      (ofHost loop host port af_hint).target ↔ KeepsHost af_hint chain := by
  rcases moved_kept (ofHost loop host port af_hint) chain with ⟨loop_eq, host_eq, port_eq⟩
  have hint_eq : ((ofHost loop host port af_hint).moved chain).af_hint = af_hint ↔
      ∀ onto, lastOnto chain = some onto → onto.af_hint = af_hint := by
    rw [moved_af_hint]
    cases lastOnto chain <;> simp [ofHost]
  have address_eq : ((ofHost loop host port af_hint).moved chain).resolvedAddress = none ↔
      ∀ onto, chain.getLast? = some (.assign onto) → onto.resolvedAddress = none := by
    rw [moved_resolvedAddress]
    rcases chain.getLast? with _ | _ | onto <;> simp [ofHost]
  rw [KeepsHost, ← hint_eq, ← address_eq]
  cases resolved : ((ofHost loop host port af_hint).moved chain).resolvedAddress with
  | none =>
      rw [target_of_none resolved, loop_eq, host_eq, port_eq]
      simp [target, ofHost]
  | some address =>
      rw [target_of_some resolved]
      simp [target, ofHost]

theorem target_moved_ofAddress_iff (loop : Loop) (address : AddressHandle)
    (chain : List (Move Loop)) :
    ((ofAddress loop address).moved chain).target = (ofAddress loop address).target ↔
      KeepsAddress address chain := by
  have loop_eq := (moved_kept (ofAddress loop address) chain).1
  have address_eq : ((ofAddress loop address).moved chain).resolvedAddress = some address ↔
      KeepsAddress address chain := by
    rw [moved_resolvedAddress, KeepsAddress]
    rcases chain.getLast? with _ | _ | onto <;> simp [ofAddress]
  rw [← address_eq]
  cases resolved : ((ofAddress loop address).moved chain).resolvedAddress with
  | none =>
      rw [target_of_none resolved]
      simp [target, ofAddress]
  | some other =>
      rw [target_of_some resolved, loop_eq]
      simp [target, ofAddress]

/-- When the object at the end of a chain of moves connects like the client at its start. -/
theorem connect_moved_iff :
    (∀ (loop : Loop) host port af_hint chain,
      (∀ network, connect network ((ofHost loop host port af_hint).moved chain) =
        connect network (ofHost loop host port af_hint)) ↔ KeepsHost af_hint chain) ∧
    ∀ (loop : Loop) address chain,
      (∀ network, connect network ((ofAddress loop address).moved chain) =
        connect network (ofAddress loop address)) ↔ KeepsAddress address chain := by
  constructor
  · intro loop host port af_hint chain
    rw [connect_eq_iff]
    exact target_moved_ofHost_iff loop host port af_hint chain
  · intro loop address chain
    rw [connect_eq_iff]
    exact target_moved_ofAddress_iff loop address chain

/-- A network in which no name is found. -/
def nameless : Network Unit where
  gai _ _ _ _ := .error (.ofStatus (-3008) "getaddrinfo()")
  uvTcpInit _ := 0
  uvTcpConnect _ := 0
  connection _ := 0

/-- After a move construction, a client for an address looks up the empty host. -/
theorem connect_moveConstruct_ofAddress :
    (connect nameless ((ofAddress () .default).moved [.construct])).1 = [.gai () [] 0 0] ∧
      connect nameless ((ofAddress () .default).moved [.construct]) ≠
        connect nameless (ofAddress () .default) := by
  refine ⟨rfl, ?_⟩
  intro equal
  have calls_eq := congrArg Prod.fst equal
  simp [connect, connectTo, moved, Move.apply, moveConstruct, ofAddress, nameless] at calls_eq

end TcpClient

end Uvco
