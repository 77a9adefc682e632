import Mathlib.Data.List.Nodup
import Uvco.Broadcaster.Connection

/-!
# The clients of the hub

Every client has one entry in `clients_`, under the text of its address, and is written to
as long as the entry is there. This is preserved by every step of the server, along with
what holds of the single connections.
-/

namespace Uvco.Broadcaster.Hub

open Uvco.Stream

/-- What holds of the server in every reachable state. -/
structure Invariant (hub : Hub) : Prop where
  keys : (hub.clients_.map Prod.fst).Nodup
  client : ∀ entry ∈ hub.clients_, ∃ connection, hub.connections[entry.2]? = some connection ∧
    connection.peer = entry.1
  member : ∀ (index : ℕ) connection, hub.connections[index]? = some connection →
    (connection.subscription.left = none ↔ hub.isClient index = true)
  sound : ∀ (index : ℕ) connection, hub.connections[index]? = some connection →
    connection.Sound hub.messages
  kept : ∀ (index : ℕ) connection, hub.connections[index]? = some connection →
    connection.Kept hub.numbers

variable {hub : Hub} {index other : ℕ} {connection before : Connection}

theorem isClient_iff : hub.isClient index = true ↔ ∃ entry ∈ hub.clients_, entry.2 = index := by
  simp [isClient]

/-! ## A connection changes -/

theorem modify_found (hub : Hub) (index other : ℕ) (change : Connection → Connection) :
    (hub.modify index change).connections[other]? =
      if other = index then hub.connections[other]?.map change else hub.connections[other]? := by
  rw [modify, List.getElem?_modify]
  by_cases same : other = index
  · subst same
    cases hub.connections[other]? <;> simp
  · cases hub.connections[other]? <;> simp [same, Ne.symm same]

theorem modify_cases {change : Connection → Connection}
    (found : (hub.modify index change).connections[other]? = some connection) :
    (other = index ∧ ∃ before, hub.connections[index]? = some before ∧
        connection = change before) ∨
      other ≠ index ∧ hub.connections[other]? = some connection := by
  rw [modify_found] at found
  by_cases same : other = index
  · subst same
    rw [if_pos rfl, Option.map_eq_some_iff] at found
    rcases found with ⟨before, earlier, rfl⟩
    exact .inl ⟨rfl, before, earlier, rfl⟩
  · rw [if_neg same] at found
    exact .inr ⟨same, found⟩

theorem modify_self (change : Connection → Connection)
    (found : hub.connections[index]? = some connection) :
    (hub.modify index change).connections[index]? = some (change connection) := by
  rw [modify_found, if_pos rfl, found, Option.map_some]

theorem modify_other (change : Connection → Connection) (differs : other ≠ index) :
    (hub.modify index change).connections[other]? = hub.connections[other]? := by
  rw [modify_found, if_neg differs]

theorem close_cases (found : (hub.close index).connections[other]? = some connection) :
    (other = index ∧ ∃ before, hub.connections[index]? = some before ∧
        connection = before.close) ∨
      other ≠ index ∧ hub.connections[other]? = some connection :=
  modify_cases found

theorem remove_cases {peer : List Byte}
    (found : (hub.remove peer index).connections[other]? = some connection) :
    (other = index ∧ ∃ before, hub.connections[index]? = some before ∧
        connection = before.leave hub.messages) ∨
      other ≠ index ∧ hub.connections[other]? = some connection :=
  modify_cases found

theorem numbers_close (hub : Hub) (index : ℕ) : (hub.close index).numbers = hub.numbers := by
  simp only [numbers, close, List.map_map]
  apply List.map_congr_left
  intro broadcast _
  simp only [Function.comp_apply]
  split <;> rfl

namespace Invariant

/-- An entry in `clients_` belongs to the connection with this peer. -/
theorem entry_peer (invariant : hub.Invariant) {entry : List Byte × ℕ}
    (entry_mem : entry ∈ hub.clients_) (found : hub.connections[entry.2]? = some connection) :
    connection.peer = entry.1 := by
  rcases invariant.client entry entry_mem with ⟨known, known_found, peer_eq⟩
  obtain rfl := Option.some.inj (found.symm.trans known_found)
  exact peer_eq

theorem entries_distinct (invariant : hub.Invariant) : (hub.clients_.map Prod.snd).Nodup := by
  have pairwise := List.pairwise_map.mp invariant.keys
  apply List.pairwise_map.mpr
  refine pairwise.imp_of_mem fun {first second} first_mem second_mem differs same => ?_
  rcases invariant.client first first_mem with ⟨connection, found, peer_eq⟩
  have other_peer := invariant.entry_peer second_mem (same ▸ found)
  exact differs (peer_eq.symm.trans other_peer)

/-- Only one connection changes, and not its place in `clients_`. -/
theorem modify (invariant : hub.Invariant) (change : Connection → Connection)
    (found : hub.connections[index]? = some before)
    (peer_eq : (change before).peer = before.peer)
    (left_eq : (change before).subscription.left = before.subscription.left)
    (sound : (change before).Sound hub.messages) (kept : (change before).Kept hub.numbers) :
    (hub.modify index change).Invariant := by
  refine ⟨invariant.keys, fun entry entry_mem => ?_, fun other connection other_found => ?_,
    fun other connection other_found => ?_, fun other connection other_found => ?_⟩
  · rcases invariant.client entry entry_mem with ⟨connection, earlier, entry_eq⟩
    by_cases same : entry.2 = index
    · rw [same] at earlier ⊢
      obtain rfl := Option.some.inj (found.symm.trans earlier)
      exact ⟨change before, modify_self change found, peer_eq.trans entry_eq⟩
    · exact ⟨connection, (modify_other change same).trans earlier, entry_eq⟩
  · rcases modify_cases other_found with ⟨rfl, earlier, earlier_found, rfl⟩ | ⟨-, earlier⟩
    · obtain rfl := Option.some.inj (found.symm.trans earlier_found)
      rw [left_eq]
      exact invariant.member other before found
    · exact invariant.member other connection earlier
  · rcases modify_cases other_found with ⟨rfl, earlier, earlier_found, rfl⟩ | ⟨-, earlier⟩
    · obtain rfl := Option.some.inj (found.symm.trans earlier_found)
      exact sound
    · exact invariant.sound other connection earlier
  · rcases modify_cases other_found with ⟨rfl, earlier, earlier_found, rfl⟩ | ⟨-, earlier⟩
    · obtain rfl := Option.some.inj (found.symm.trans earlier_found)
      exact kept
    · exact invariant.kept other connection earlier

/-- Broadcasts are woken or go on. -/
theorem restack (invariant : hub.Invariant) {stack : List Broadcast}
    (numbers_eq : stack.map Broadcast.number = hub.numbers) :
    ({ hub with stack } : Hub).Invariant := by
  refine ⟨invariant.keys, invariant.client, invariant.member, invariant.sound, ?_⟩
  intro index connection found
  rw [numbers, numbers_eq]
  exact invariant.kept index connection found

theorem left_iff (invariant : hub.Invariant)
    (found : hub.connections[index]? = some connection) :
    connection.subscription.left ≠ none ↔ hub.isClient index = false := by
  rw [ne_eq, invariant.member index connection found, Bool.not_eq_true]

theorem close (invariant : hub.Invariant) (found : hub.connections[index]? = some connection)
    (left : connection.subscription.left ≠ none) (not_freed : connection.freed = false) :
    (hub.close index).Invariant := by
  have closed := invariant.modify Connection.close found rfl rfl
    ((invariant.sound index connection found).close left)
    ((invariant.kept index connection found).close not_freed)
  exact closed.restack (numbers_close hub index)

end Invariant

/-! ## A stream is destroyed -/

/-- What becomes of a connection when its stream loses an owner. -/
theorem release_cases (found : (hub.release index).connections[other]? = some connection) :
    hub.connections[other]? = some connection ∨
      other = index ∧ ∃ before, hub.connections[index]? = some before ∧
        before.handling = false ∧ hub.isClient index = false ∧ connection = before.close.free := by
  unfold release at found
  split at found
  · exact .inl found
  · rename_i no_owner
    rw [not_or, Bool.not_eq_true] at no_owner
    rcases modify_cases found with ⟨rfl, closed, closed_found, rfl⟩ | ⟨differs, closed_found⟩
    · right
      rcases close_cases closed_found with ⟨-, before, earlier, rfl⟩ | ⟨differs, -⟩
      · refine ⟨rfl, before, earlier, ?_, no_owner.1, rfl⟩
        simpa [earlier] using no_owner.2
      · exact absurd rfl differs
    · left
      rcases close_cases closed_found with ⟨same, -⟩ | ⟨-, earlier⟩
      · exact absurd same differs
      · exact earlier

theorem release_frame (hub : Hub) (index : ℕ) :
    (hub.release index).clients_ = hub.clients_ ∧
      (hub.release index).messages = hub.messages ∧
      (hub.release index).numbers = hub.numbers := by
  unfold release
  split
  · exact ⟨rfl, rfl, rfl⟩
  · exact ⟨rfl, rfl, numbers_close hub index⟩

theorem Invariant.release (invariant : hub.Invariant)
    (found : hub.connections[index]? = some connection) (not_freed : connection.freed = false) :
    (hub.release index).Invariant := by
  unfold Hub.release
  split
  · exact invariant
  · rename_i no_owner
    rw [not_or, Bool.not_eq_true] at no_owner
    have left := (invariant.left_iff found).mpr no_owner.1
    have unhandled : connection.handling = false := by simpa [found] using no_owner.2
    have closed := invariant.close found left not_freed
    have closed_found : (hub.close index).connections[index]? = some connection.close :=
      modify_self Connection.close found
    exact closed.modify Connection.free closed_found rfl rfl
      ((closed.sound index _ closed_found).unwritten _ _ _ _)
      ((closed.kept index _ closed_found).free not_freed unhandled left)

/-! ## A client leaves -/

/-- What becomes of a connection when the entry with this key is erased. -/
inductive Erased (hub : Hub) (peer : List Byte) (index : ℕ) (connection : Connection) : Prop
  | other (found : hub.connections[index]? = some connection)
      (others : ∀ entry ∈ hub.clients_, entry.1 = peer → entry.2 ≠ index)
  | client (before : Connection) (found : hub.connections[index]? = some before)
      (peer_eq : before.peer = peer) (is_client : hub.isClient index = true)
      (left : connection = before.leave hub.messages ∨
        before.handling = false ∧ connection = (before.leave hub.messages).close.free)

/-- The entry is there, and belongs to this connection. -/
theorem Invariant.found_entry (invariant : hub.Invariant) {peer key : List Byte} {client : ℕ}
    (is_entry : (hub.clients_.find? fun entry => entry.1 = peer) = some (key, client)) :
    (peer, client) ∈ hub.clients_ ∧ ∃ connection, hub.connections[client]? = some connection ∧
      connection.peer = peer ∧ hub.isClient client = true := by
  have entry_mem := List.mem_of_find?_eq_some is_entry
  obtain rfl : key = peer := by simpa using List.find?_some is_entry
  rcases invariant.client _ entry_mem with ⟨connection, found, peer_eq⟩
  exact ⟨entry_mem, connection, found, peer_eq, isClient_iff.mpr ⟨_, entry_mem, rfl⟩⟩

theorem Invariant.erased (invariant : hub.Invariant) {peer : List Byte}
    (found : (hub.erase peer).connections[index]? = some connection) :
    Erased hub peer index connection := by
  unfold Hub.erase at found
  split at found
  · rename_i key client is_entry
    rcases invariant.found_entry is_entry with ⟨entry_mem, known, known_found, peer_eq, is_client⟩
    have others : index ≠ client → ∀ entry ∈ hub.clients_, entry.1 = peer → entry.2 ≠ index := by
      intro differs entry other_mem same_key same
      have entry_eq := List.inj_on_of_nodup_map invariant.keys other_mem entry_mem same_key
      rw [entry_eq] at same
      exact differs same.symm
    rcases release_cases found with removed | ⟨rfl, before, removed, unhandled, -, rfl⟩
    · rcases remove_cases removed with ⟨rfl, before, earlier, rfl⟩ | ⟨differs, earlier⟩
      · obtain rfl := Option.some.inj (known_found.symm.trans earlier)
        exact .client known known_found peer_eq is_client (.inl rfl)
      · exact .other earlier (others differs)
    · rcases remove_cases removed with ⟨-, before, earlier, rfl⟩ | ⟨differs, -⟩
      · obtain rfl := Option.some.inj (known_found.symm.trans earlier)
        exact .client known known_found peer_eq is_client (.inr ⟨unhandled, rfl⟩)
      · exact absurd rfl differs
  · rename_i no_entry
    refine .other found fun entry entry_mem same_key => ?_
    exact absurd same_key (by simpa using List.find?_eq_none.mp no_entry entry entry_mem)

theorem erase_length (hub : Hub) (peer : List Byte) :
    (hub.erase peer).connections.length = hub.connections.length := by
  unfold erase
  split
  · unfold release
    split <;> simp [remove, modify, close]
  · rfl

theorem erase_frame (hub : Hub) (peer : List Byte) :
    (hub.erase peer).messages = hub.messages ∧ (hub.erase peer).numbers = hub.numbers ∧
      (hub.erase peer).clients_ = hub.clients_.filter fun entry => entry.1 ≠ peer := by
  unfold erase
  split
  · rename_i key client _
    rcases (hub.remove peer client).release_frame client with
      ⟨clients_eq, messages_eq, numbers_eq⟩
    exact ⟨messages_eq, numbers_eq, clients_eq⟩
  · rename_i no_entry
    refine ⟨rfl, rfl, (List.filter_eq_self.mpr fun entry entry_mem => ?_).symm⟩
    simpa using List.find?_eq_none.mp no_entry entry entry_mem

/-- A client leaves `clients_`, and is still there otherwise. -/
theorem Invariant.remove (invariant : hub.Invariant) {peer : List Byte} {client : ℕ}
    (entry_mem : (peer, client) ∈ hub.clients_) : (hub.remove peer client).Invariant := by
  have others : ∀ entry ∈ hub.clients_, entry.1 ≠ peer → entry.2 ≠ client := by
    rintro entry other_mem other_key rfl
    rcases invariant.client _ entry_mem with ⟨connection, found, peer_eq⟩
    exact other_key ((invariant.entry_peer other_mem found).symm.trans peer_eq)
  have entry_mem_iff : ∀ entry, entry ∈ (hub.remove peer client).clients_ ↔
      entry ∈ hub.clients_ ∧ entry.1 ≠ peer := by
    intro entry
    rw [Hub.remove, List.mem_filter]
    simp
  refine ⟨invariant.keys.sublist (List.filter_sublist.map Prod.fst), fun entry mem => ?_,
    fun index connection found => ?_, fun index connection found => ?_,
    fun index connection found => ?_⟩
  · rcases (entry_mem_iff entry).mp mem with ⟨earlier, other_key⟩
    rcases invariant.client entry earlier with ⟨connection, found, peer_eq⟩
    exact ⟨connection, (modify_other _ (others entry earlier other_key)).trans found, peer_eq⟩
  · rw [isClient_iff]
    rcases remove_cases found with ⟨rfl, before, earlier, rfl⟩ | ⟨differs, earlier⟩
    · refine iff_of_false nofun ?_
      rintro ⟨entry, mem, same⟩
      rcases (entry_mem_iff entry).mp mem with ⟨earlier_mem, other_key⟩
      exact others entry earlier_mem other_key same
    · rw [invariant.member index connection earlier, isClient_iff]
      constructor
      · rintro ⟨entry, mem, rfl⟩
        refine ⟨entry, (entry_mem_iff entry).mpr ⟨mem, fun same_key => differs ?_⟩, rfl⟩
        rw [List.inj_on_of_nodup_map invariant.keys mem entry_mem same_key]
      · rintro ⟨entry, mem, rfl⟩
        exact ⟨entry, ((entry_mem_iff entry).mp mem).1, rfl⟩
  · rcases remove_cases found with ⟨rfl, before, earlier, rfl⟩ | ⟨-, earlier⟩
    · exact (invariant.sound index before earlier).leave
    · exact invariant.sound index connection earlier
  · rcases remove_cases found with ⟨rfl, before, earlier, rfl⟩ | ⟨-, earlier⟩
    · exact (invariant.kept index before earlier).leave hub.messages
    · exact invariant.kept index connection earlier

theorem stop_cases (found : hub.stop.connections[index]? = some connection) :
    ∃ before, hub.connections[index]? = some before ∧
      connection = (before.leave hub.messages).unhandle.close.free := by
  rw [stop, List.getElem?_map, Option.map_eq_some_iff] at found
  rcases found with ⟨before, earlier, rfl⟩
  exact ⟨before, earlier, rfl⟩

namespace Invariant

theorem erase (invariant : hub.Invariant) (peer : List Byte) : (hub.erase peer).Invariant := by
  unfold Hub.erase
  split
  · rename_i key client is_entry
    rcases invariant.found_entry is_entry with ⟨entry_mem, known, known_found, -, is_client⟩
    have current := (invariant.member client known known_found).mpr is_client
    have not_freed := (invariant.kept client known known_found).not_freed (.inr current)
    have removed : (hub.remove peer client).connections[client]? =
        some (known.leave hub.messages) := modify_self (·.leave hub.messages) known_found
    exact (invariant.remove entry_mem).release removed not_freed
  · exact invariant

/-- After its key was erased, a connection is not a client. -/
theorem left_of_erase (invariant : hub.Invariant) {peer : List Byte}
    (found : (hub.erase peer).connections[index]? = some connection)
    (peer_eq : connection.peer = peer) : connection.subscription.left ≠ none := by
  have erased := invariant.erase peer
  intro current
  rcases isClient_iff.mp ((erased.member index connection found).mp current) with
    ⟨entry, entry_mem, rfl⟩
  have key_eq := erased.entry_peer entry_mem found
  rw [(hub.erase_frame peer).2.2, List.mem_filter] at entry_mem
  have other_key : entry.1 ≠ peer := by simpa using entry_mem.2
  exact other_key (key_eq.symm.trans peer_eq)

end Invariant

/-! ## A connection is accepted -/

theorem append_cases {connections : List Connection} {entered : Connection}
    (found : (connections ++ [entered])[index]? = some connection) :
    connections[index]? = some connection ∨ index = connections.length ∧ connection = entered := by
  rcases Nat.lt_trichotomy index connections.length with earlier | rfl | later
  · rw [List.getElem?_append_left earlier] at found
    exact .inl found
  · rw [List.getElem?_concat_length] at found
    exact .inr ⟨rfl, (Option.some.inj found).symm⟩
  · have bound := (List.getElem?_eq_some_iff.mp found).1
    rw [List.length_append, List.length_singleton] at bound
    omega

theorem Invariant.accept (invariant : hub.Invariant) (peer : List Byte) :
    (hub.accept peer).Invariant := by
  have erased := invariant.erase peer
  rcases hub.erase_frame peer with ⟨messages_eq, -, clients_eq⟩
  have known : ∀ entry ∈ (hub.erase peer).clients_,
      entry.2 < (hub.erase peer).connections.length := by
    intro entry entry_mem
    rcases erased.client entry entry_mem with ⟨connection, found, -⟩
    exact (List.getElem?_eq_some_iff.mp found).1
  have client_iff : ∀ index < (hub.erase peer).connections.length,
      (hub.accept peer).isClient index = (hub.erase peer).isClient index := by
    intro index old
    simp [Hub.accept, isClient, Ne.symm (Nat.ne_of_lt old)]
  refine ⟨?_, fun entry entry_mem => ?_, fun index connection found => ?_,
    fun index connection found => ?_, fun index connection found => ?_⟩
  · apply List.nodup_cons.mpr ⟨fun key_mem => ?_, erased.keys⟩
    rcases List.mem_map.mp key_mem with ⟨entry, entry_mem, key_eq⟩
    rw [clients_eq, List.mem_filter] at entry_mem
    simp [key_eq] at entry_mem
  · rcases List.mem_cons.mp entry_mem with rfl | entry_mem
    · exact ⟨_, List.getElem?_concat_length, rfl⟩
    · rcases erased.client entry entry_mem with ⟨connection, found, peer_eq⟩
      exact ⟨connection, (List.getElem?_append_left (known entry entry_mem)).trans found, peer_eq⟩
  · rcases append_cases found with earlier | ⟨rfl, rfl⟩
    · rw [client_iff index (List.getElem?_eq_some_iff.mp earlier).1]
      exact erased.member index connection earlier
    · exact iff_of_true rfl (isClient_iff.mpr ⟨_, List.mem_cons_self, rfl⟩)
  · rcases append_cases found with earlier | ⟨-, rfl⟩
    · exact erased.sound index connection earlier
    · change Connection.Sound _ (hub.erase peer).messages
      rw [messages_eq]
      exact .start peer hub.messages
  · rcases append_cases found with earlier | ⟨-, rfl⟩
    · exact erased.kept index connection earlier
    · exact .start peer hub.messages _

/-! ## A message is broadcast -/

/-- All calls of `write()` in `broadcast()`. -/
theorem write_all (number : ℕ) (message : List Byte) (statuses : ℕ → Int)
    (entries : List (List Byte × ℕ)) (hub : Hub) (distinct : (entries.map Prod.snd).Nodup) :
    let after := entries.foldl
      (fun written entry => written.modify entry.2 (·.write number message (statuses entry.2))) hub
    after = { hub with connections := after.connections } ∧
      ∀ index, after.connections[index]? =
        if index ∈ entries.map Prod.snd then
          hub.connections[index]?.map (·.write number message (statuses index))
        else hub.connections[index]? := by
  induction entries generalizing hub with
  | nil => exact ⟨rfl, fun index => by simp⟩
  | cons entry others ih =>
      rw [List.map_cons, List.nodup_cons] at distinct
      rcases ih (hub.modify entry.2 (·.write number message (statuses entry.2))) distinct.2 with
        ⟨frame, connections_eq⟩
      refine ⟨frame, fun index => ?_⟩
      rw [List.foldl_cons, connections_eq, modify_found, List.map_cons]
      by_cases first : index = entry.2
      · subst first
        simp [distinct.1]
      · simp only [first, List.mem_cons, false_or, if_false]

namespace Invariant

theorem write_frame (invariant : hub.Invariant) (message : List Byte) (statuses : ℕ → Int) :
    hub.write message statuses =
      { hub with connections := (hub.write message statuses).connections } :=
  (write_all _ message statuses _ hub invariant.entries_distinct).1

/-- Exactly the clients are written to. -/
theorem write_cases (invariant : hub.Invariant) {message : List Byte} {statuses : ℕ → Int}
    (found : (hub.write message statuses).connections[index]? = some connection) :
    ∃ before, hub.connections[index]? = some before ∧
      (before.subscription.left = none ∧
          connection = before.write hub.messages.length message (statuses index) ∨
        before.subscription.left ≠ none ∧ connection = before) := by
  have connections_eq : (hub.write message statuses).connections[index]? = _ :=
    (write_all hub.messages.length message statuses _ hub invariant.entries_distinct).2 index
  rw [found] at connections_eq
  by_cases is_client : index ∈ hub.clients_.map Prod.snd
  · rw [if_pos is_client, eq_comm, Option.map_eq_some_iff] at connections_eq
    rcases connections_eq with ⟨before, earlier, rfl⟩
    refine ⟨before, earlier, .inl ⟨?_, rfl⟩⟩
    rw [invariant.member index before earlier, isClient_iff]
    exact List.mem_map.mp is_client
  · rw [if_neg is_client] at connections_eq
    refine ⟨connection, connections_eq.symm, .inr ⟨fun current => is_client ?_, rfl⟩⟩
    rw [invariant.member index connection connections_eq.symm, isClient_iff] at current
    exact List.mem_map.mpr current

theorem write_exists (invariant : hub.Invariant) (message : List Byte) (statuses : ℕ → Int)
    (found : hub.connections[index]? = some connection) :
    ∃ after, (hub.write message statuses).connections[index]? = some after ∧
      after.peer = connection.peer := by
  have connections_eq := (write_all hub.messages.length message statuses _ hub
    invariant.entries_distinct).2 index
  rw [found] at connections_eq
  split at connections_eq
  · refine ⟨_, connections_eq, ?_⟩
    unfold Connection.write
    split <;> rfl
  · exact ⟨connection, connections_eq, rfl⟩

/-- Every client was written to, and the broadcast is suspended. -/
theorem written (invariant : hub.Invariant) (message : List Byte) (statuses : ℕ → Int)
    (sender first : ℕ) :
    ({ hub.write message statuses with
      messages := hub.messages ++ [message]
      stack := { number := hub.messages.length, sender, awaits := first } :: hub.stack } :
      Hub).Invariant := by
  have clients_eq : (hub.write message statuses).clients_ = hub.clients_ := by
    rw [invariant.write_frame]
  refine ⟨?_, fun entry entry_mem => ?_, fun index connection found => ?_,
    fun index connection found => ?_, fun index connection found => ?_⟩
  · rw [clients_eq]
    exact invariant.keys
  · rw [clients_eq] at entry_mem
    rcases invariant.client entry entry_mem with ⟨before, earlier, peer_eq⟩
    rcases invariant.write_exists message statuses earlier with ⟨after, found, same_peer⟩
    exact ⟨after, found, same_peer.trans peer_eq⟩
  · rcases invariant.write_cases found with ⟨before, earlier, ⟨-, rfl⟩ | ⟨-, rfl⟩⟩
    · rw [isClient, clients_eq, ← isClient, ← invariant.member index before earlier]
      unfold Connection.write
      split <;> rfl
    · rw [isClient, clients_eq, ← isClient, invariant.member index _ earlier]
  · rcases invariant.write_cases found with ⟨before, earlier, ⟨current, rfl⟩ | ⟨left, rfl⟩⟩
    · exact (invariant.sound index before earlier).write current _ message _
    · exact (invariant.sound index _ earlier).append left message
  · rcases invariant.write_cases found with ⟨before, earlier, ⟨current, rfl⟩ | ⟨-, rfl⟩⟩
    · exact (invariant.kept index before earlier).write current _ message _
    · exact (invariant.kept index _ earlier).mono fun _ => List.mem_cons_of_mem _

end Invariant

/-! ## The promises of calls of `write()` are dropped -/

theorem dropWrites_cases {number : ℕ}
    (found : (hub.dropWrites number).connections[index]? = some connection) :
    ∃ before, hub.connections[index]? = some before ∧ connection = before.dropWrite number := by
  rw [dropWrites, List.getElem?_map, Option.map_eq_some_iff] at found
  rcases found with ⟨before, earlier, rfl⟩
  exact ⟨before, earlier, rfl⟩

theorem dropWrite_frame (connection : Connection) (number : ℕ) :
    (connection.dropWrite number).peer = connection.peer ∧
      (connection.dropWrite number).handling = connection.handling ∧
      (connection.dropWrite number).subscription = connection.subscription ∧
      (connection.dropWrite number).abandoned = connection.abandoned := by
  unfold Connection.dropWrite
  split <;> exact ⟨rfl, rfl, rfl, rfl⟩

namespace Invariant

/-- The broadcast returns, or it has ended. -/
theorem dropWrites (invariant : hub.Invariant) {number : ℕ} {stack : List Broadcast}
    (rest : ∀ other ∈ hub.numbers, other ≠ number → other ∈ stack.map Broadcast.number) :
    (({ hub with stack } : Hub).dropWrites number).Invariant := by
  refine ⟨invariant.keys, fun entry entry_mem => ?_, fun index connection found => ?_,
    fun index connection found => ?_, fun index connection found => ?_⟩
  · rcases invariant.client entry entry_mem with ⟨before, earlier, peer_eq⟩
    refine ⟨before.dropWrite number, ?_, (dropWrite_frame before number).1.trans peer_eq⟩
    rw [Hub.dropWrites, List.getElem?_map, earlier, Option.map_some]
  · rcases dropWrites_cases found with ⟨before, earlier, rfl⟩
    rw [(dropWrite_frame before number).2.2.1]
    exact invariant.member index before earlier
  · rcases dropWrites_cases found with ⟨before, earlier, rfl⟩
    exact (invariant.sound index before earlier).dropWrite number
  · rcases dropWrites_cases found with ⟨before, earlier, rfl⟩
    exact (invariant.kept index before earlier).dropWrite rest

theorem broadcast (invariant : hub.Invariant) (sender : ℕ) (message : List Byte)
    (statuses : ℕ → Int) (first : ℕ) :
    (hub.broadcast sender message statuses first).Invariant := by
  have suspended := invariant.written message statuses sender first
  have stack_eq : (hub.write message statuses).stack = hub.stack := by
    rw [invariant.write_frame]
  have ended := suspended.dropWrites fun other mem differs =>
    (List.mem_cons.mp mem).resolve_left differs
  rw [← stack_eq] at ended
  unfold Hub.broadcast
  split
  · exact suspended
  · exact ended

theorem receive (invariant : hub.Invariant) (found : hub.connections[index]? = some connection)
    (what : List Byte) (statuses : ℕ → Int) (first : ℕ) :
    (hub.receive index connection.peer what statuses first).Invariant := by
  have goes_on := invariant.modify ({ · with result := none }) found rfl rfl
    ((invariant.sound index connection found).unwritten _ _ _ _)
    ((invariant.kept index connection found).reading none nofun)
  exact goes_on.broadcast index _ statuses first

theorem leave (invariant : hub.Invariant) : hub.leave.Invariant := by
  unfold Hub.leave
  split
  · rename_i broadcast others stack_eq
    apply invariant.dropWrites
    intro other mem differs
    rw [numbers, stack_eq] at mem
    exact (List.mem_cons.mp mem).resolve_left differs
  · exact invariant

theorem abort (invariant : hub.Invariant) (number : ℕ) : (hub.abort number).Invariant := by
  apply invariant.dropWrites
  intro other mem _
  rcases List.mem_map.mp mem with ⟨broadcast, broadcast_mem, rfl⟩
  apply List.mem_map.mpr
  refine ⟨_, List.mem_map_of_mem broadcast_mem, ?_⟩
  split <;> rfl

/-- libuv goes on with the requests of a connection. -/
theorem sends (invariant : hub.Invariant) (found : hub.connections[index]? = some connection)
    (change : WriteQueue → WriteQueue)
    (contents_eq : (change connection.outbox).contents = connection.outbox.contents) :
    (hub.modify index fun connection =>
      { connection with outbox := change connection.outbox }).Invariant :=
  invariant.modify _ found rfl rfl ((invariant.sound index connection found).sends contents_eq)
    ((invariant.kept index connection found).sends _)

/-! ## A connection ends -/

/-- After its key was erased, a connection that is handled is still there. -/
theorem after_erase (invariant : hub.Invariant)
    (found : hub.connections[index]? = some connection) (handles : connection.handling = true) :
    ∃ after, (hub.erase connection.peer).connections[index]? = some after ∧
      (after = connection ∨ after = connection.leave hub.messages) ∧
      after.subscription.left ≠ none := by
  have bound := (List.getElem?_eq_some_iff.mp found).1
  rw [← erase_length hub connection.peer] at bound
  refine ⟨_, List.getElem?_eq_getElem bound, ?_⟩
  have after_found := List.getElem?_eq_getElem bound
  cases invariant.erased after_found with
  | other earlier _ =>
      have same := Option.some.inj (earlier.symm.trans found)
      exact ⟨.inl same, invariant.left_of_erase after_found (congrArg Connection.peer same)⟩
  | client before earlier _ _ left =>
      obtain rfl := Option.some.inj (found.symm.trans earlier)
      rcases left with same | ⟨unhandled, -⟩
      · refine ⟨.inr same, invariant.left_of_erase after_found ?_⟩
        rw [same]
        rfl
      · exact absurd (unhandled.symm.trans handles) Bool.false_ne_true

/-- `handleConnection` ends, and perhaps the stream with it. -/
theorem unhandle (invariant : hub.Invariant) (found : hub.connections[index]? = some connection)
    (not_freed : connection.freed = false) :
    ((hub.modify index Connection.unhandle).release index).Invariant := by
  have ended := invariant.modify Connection.unhandle found rfl rfl
    ((invariant.sound index connection found).unwritten _ _ _ _)
    (invariant.kept index connection found).unhandle
  exact ended.release (modify_self Connection.unhandle found) not_freed

theorem finish (invariant : hub.Invariant) (found : hub.connections[index]? = some connection)
    (handles : connection.handling = true) : (hub.finish index connection.peer).Invariant := by
  rcases invariant.after_erase found handles with ⟨after, after_found, origin, left⟩
  have not_freed : after.freed = false := by
    have not_freed := (invariant.kept index connection found).not_freed (.inl handles)
    rcases origin with rfl | rfl <;> exact not_freed
  have closed := (invariant.erase connection.peer).close after_found left not_freed
  exact closed.unhandle (modify_self Connection.close after_found) not_freed

/-- A `handleConnection` is resumed with what its `read()` has ended with. -/
theorem handles (invariant : hub.Invariant) (found : hub.connections[index]? = some connection)
    {result : ReadResult} (result_eq : connection.result = some result) :
    connection.handling = true :=
  (invariant.kept index connection found).reads (Option.isSome_of_eq_some result_eq)

theorem stop (invariant : hub.Invariant) (nothing_suspended : hub.stack = []) :
    hub.stop.Invariant := by
  refine ⟨List.nodup_nil, nofun, fun index connection found => ?_,
    fun index connection found => ?_, fun index connection found => ?_⟩
  · rcases stop_cases found with ⟨before, -, rfl⟩
    exact iff_of_false nofun nofun
  · rcases stop_cases found with ⟨before, earlier, rfl⟩
    have ended : (before.leave hub.messages).unhandle.Sound hub.messages :=
      (invariant.sound index before earlier).leave.unwritten _ _ _ _
    exact (ended.close nofun).unwritten _ _ _ _
  · rcases stop_cases found with ⟨before, earlier, rfl⟩
    have kept := invariant.kept index before earlier
    rw [numbers, nothing_suspended] at kept
    exact kept.stop hub.messages

theorem step (invariant : hub.Invariant) {action : Action} (enabled : action.Enabled hub) :
    (action.perform hub).Invariant := by
  cases action with
  | accept peer => exact invariant.accept peer
  | onRead index result =>
      rcases enabled.1 with ⟨connection, found, handles, -⟩
      exact invariant.modify _ found rfl rfl
        ((invariant.sound index connection found).unwritten _ _ _ _)
        ((invariant.kept index connection found).reading _ fun _ => handles)
  | receive index statuses first =>
      rcases enabled.1 with ⟨connection, found, what, result_eq⟩
      rw [Action.perform_receive found result_eq]
      exact invariant.receive found what statuses first
  | finish index =>
      rcases enabled with ⟨connection, found, result_eq⟩
      rw [Action.perform_finish found]
      exact invariant.finish found (invariant.handles found result_eq)
  | fail index =>
      rcases enabled with ⟨connection, found, result_eq⟩
      have handles := invariant.handles found result_eq
      exact invariant.unhandle found ((invariant.kept index connection found).not_freed
        (.inl handles))
  | leave => exact invariant.leave
  | abort number => exact invariant.abort number
  | transmit index count =>
      rcases enabled with ⟨connection, found, -⟩
      exact invariant.sends found (·.transmit count) (Outbox.contents_transmit count)
  | deliver index =>
      rcases enabled with ⟨connection, found, -⟩
      exact invariant.sends found Outbox.deliver Outbox.contents_deliver
  | failRequest index error =>
      rcases enabled with ⟨connection, found, -⟩
      exact invariant.sends found (·.fail error) (Outbox.contents_fail error)
  | stop => exact invariant.stop enabled.2

end Invariant

theorem invariant_of_reachable (reached : system.Reachable hub) : hub.Invariant := by
  apply reached.invariant Invariant
  · rintro hub rfl
    refine ⟨List.nodup_nil, fun entry mem => absurd mem List.not_mem_nil, ?_, ?_, ?_⟩
    all_goals
      intro index connection found
      cases found
  · exact fun hub action invariant enabled => invariant.step enabled

end Uvco.Broadcaster.Hub
