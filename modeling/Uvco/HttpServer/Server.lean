import Uvco.HttpServer.Session
import Uvco.Library.Parallel

/-!
# The HTTP server

This file embeds `httpServer` of `uvco/examples/http_server.cc`: a task set with a
`connectionHandler` for every stream that `listen()` yields. The tasks share nothing but
the router, which does not change, so the connections are independent instances of the
system of one connection. When `listen()` ends or throws, the task set is destroyed with
all handlers.
-/

namespace Uvco.HttpServer

/-- `httpServer`, with one coroutine for each connection in its task set. -/
structure Server (Handler : Type) where
  /-- The connections accepted so far. -/
  connections : List (Connection Handler) := []
  /-- The loop is running, and the task set with it. -/
  running : Bool := true

namespace Server

variable {Handler : Type}

/-- What the listener and the connections do next. -/
inductive Action where
  | accept
  | connection (index : ℕ) (action : Connection.Action)
  | listenEnds

variable (router : Router Handler) (Returns : Handler → HttpRequest → HttpResponse → Prop)

namespace Action

/-- Connections are accepted while the server runs, and only those that exist go on. -/
def Enabled (server : Server Handler) : Action → Prop
  | .accept | .listenEnds => server.running = true
  | .connection index action => server.running = true ∧
      ∃ before, server.connections[index]? = some before ∧ action.Enabled Returns before

/-- The server after an action. -/
def perform (server : Server Handler) : Action → Server Handler
  | .accept => { server with connections := server.connections ++ [Connection.start] }
  | .connection index action =>
      match server.connections[index]? with
      | some before =>
          let moved := action.perform router before
          { server with connections := server.connections.set index moved }
      | none => server
  | .listenEnds => { server with running := false }

end Action

/-- The server, with any number of peers. -/
def system : TransitionSystem (Server Handler) Action where
  Initial server := server = {}
  Enabled := Action.Enabled Returns
  perform := Action.perform router

/-- The peer of every connection sends the requests of a script of its own. -/
def Follow (scripts : ℕ → Script) (server : Server Handler) : Action → Prop
  | .accept | .listenEnds => True
  | .connection index action => ∀ connection, server.connections[index]? = some connection →
      Connection.Follows (scripts index) connection action

variable {router Returns} {scripts : ℕ → Script} {server : Server Handler}

/-- The connections of the server are independent of each other. -/
theorem connections_parallel
    (reached : (system router Returns).ReachableVia (Follow scripts) server) :
    (Connection.system router Returns).parallel.ReachableVia
      (TransitionSystem.Each fun index => Connection.Follows (scripts index))
      server.connections := by
  induction reached with
  | start initial => exact .start (by rw [initial]; rfl)
  | @step server action _ enabled allowed ih =>
      cases action with
      | accept =>
          exact .step (TransitionSystem.ParallelAction.spawn Connection.start) ih rfl trivial
      | connection index action =>
          rcases enabled with ⟨_, connection, at_index, enabled⟩
          have moved := TransitionSystem.ReachableVia.step
            (TransitionSystem.ParallelAction.step index action) ih
            ⟨connection, at_index, enabled⟩ allowed
          rw [TransitionSystem.parallel_perform_step at_index] at moved
          have after :
              ((system router Returns).perform server (.connection index action)).connections =
                server.connections.set index (action.perform router connection) := by
            simp only [system, Action.perform, at_index]
          rw [after]
          exact moved
      | listenEnds => exact ih

/-- The server with any number of clients, each with a script of its own, in every interleaving:
every client gets the answers to its own requests, in their order, and decodes them from what its
connection has sent. -/
theorem sessions (fine : ∀ index, (scripts index).WellFormed)
    (proper : ∀ handler request response, Returns handler request response →
      response.WellFormed)
    (reached : (system router Returns).ReachableVia (Follow scripts) server) {index : ℕ}
    {connection : Connection Handler}
    (accepted : server.connections[index]? = some connection) :
    connection.exchanges.map (·.1.request) <+: (scripts index).map (·.1) ∧
      (∀ exchange ∈ connection.exchanges,
        Connection.Answered router Returns exchange) ∧
      ((∀ exception, connection.phase ≠ .threw exception) →
        ∀ fuel, connection.exchanges.length ≤ fuel →
          decodeAll decodeResponse fuel (connection.sent ++ connection.pending) =
            (connection.exchanges.map fun exchange => exchange.2.addContentLength, [])) :=
  Connection.served (fine index) proper
    ((connections_parallel reached).instance_reachable accepted)

/-- Two connections; the request of the second is returned by two reads. -/
theorem sessions_two_reads :
    ∃ (connection : Connection Unit) (script : Script),
      script.length = 1 ∧ connection.exchanges.length = 1 ∧
        connection.exchanges.map (·.1.request) <+: script.map (·.1) ∧
        decodeAll decodeResponse 1 (connection.sent ++ connection.pending) =
          (connection.exchanges.map fun exchange => exchange.2.addContentLength, []) := by
  let request : HttpRequest := { method := text "GET", path := text "/", version := text "1" }
  let script : Script := [(request, [request.render.take 9, request.render.drop 9])]
  let router : Router Unit := Router.addRoute {} (text "/") (some ())
  let Returns : Unit → HttpRequest → HttpResponse → Prop := fun _ _ response => response = {}
  have fine : script.WellFormed := by
    intro entry mem
    rw [List.mem_singleton.mp mem]
    exact ⟨⟨by decide, by decide, by decide, by decide, by decide⟩, by decide, by
      unfold Cuts; decide⟩
  have proper : ∀ handler request response, Returns handler request response →
      response.WellFormed := by
    rintro _ _ _ rfl
    exact ⟨by decide, nofun, nofun, nofun⟩
  have beginning : (system router Returns).ReachableVia (Follow fun _ => script) {} := .start rfl
  have accepted := (beginning.step Action.accept rfl trivial).step Action.accept rfl trivial
  have first_part := accepted.step (Action.connection 1 (.read (request.render.take 9)))
    ⟨rfl, _, rfl, show _ ∧ _ from ⟨by decide, _, rfl⟩⟩ (by
      rintro connection ⟨⟩
      change _ <+: _
      decide)
  have all_read := first_part.step (Action.connection 1 (.read (request.render.drop 9)))
    ⟨rfl, _, rfl, show _ ∧ _ from ⟨by decide, _, rfl⟩⟩ (by
      rintro connection ⟨⟩
      change _ <+: _
      decide)
  have answered := all_read.step (Action.connection 1 (.handlerReturns {}))
    ⟨rfl, _, rfl, _, _, rfl, rfl⟩ (by
      rintro connection ⟨⟩
      trivial)
  obtain ⟨server, connection, reached, at_index, one, running⟩ :
      ∃ (server : Server Unit) (connection : Connection Unit),
        (system router Returns).ReachableVia (Follow fun _ => script) server ∧
          server.connections[1]? = some connection ∧ connection.exchanges.length = 1 ∧
          ∀ exception, connection.phase ≠ .threw exception :=
    ⟨_, _, answered, rfl, by decide +kernel, fun _ => nofun⟩
  have result := sessions (fun _ => fine) proper reached at_index
  exact ⟨connection, script, rfl, one, result.1, result.2.2 running 1 (le_of_eq one)⟩

end Server

end Uvco.HttpServer
