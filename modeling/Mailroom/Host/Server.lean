import Mailroom.Host.Connection
import Mailroom.Host.Handler
import Mailroom.Waiting.Schedule

/-!
The server: one exchange and any number of connections. A request that waits holds up its own
connection only.
-/

namespace Mailroom

structure Server where
  exchange : Exchange
  connections : Table Nat Fate := ∅
  deriving Inhabited

inductive Output where
  | reply (connection : Nat) (reply : Reply)
  | closed (connection : Nat)
  deriving Repr, Inhabited

def Output.connection : Output → Nat
  | .reply connection _ => connection
  | .closed connection => connection

namespace Server

def start (limits : Limits) : Server := { exchange := .start limits }

def fateOf (server : Server) (connection : Nat) : Fate :=
  server.connections[connection]?.getD .idle

def work (stamp : String) (connection : Nat) (lines : List Bytes) (server : Server) :
    List Output × Server :=
  let progress := Progress.ofLines
    (fun request exchange =>
      let (response, after) := Exchange.handle exchange connection request
      (response.map (Response.reply stamp), after))
    lines server.exchange
  let ending := match progress.fate with
    | .closed => [Output.closed connection]
    | .idle | .waiting .. => []
  (progress.replies.map (.reply connection) ++ ending,
    { exchange := progress.state
      connections := server.connections.insert connection progress.fate })

def deliver (stamp : String) (finished : Finished) (server : Server) : List Output × Server :=
  match server.fateOf finished.caller with
  | .idle | .closed => ([], server)
  | .waiting request behind =>
    let (outputs, after) := server.work stamp finished.caller behind
    (.reply finished.caller ((request.response finished.outcome).reply stamp) :: outputs, after)

def settleWithin (stamp : String) : Nat → Server → List Output × Server
  | 0, server => ([], server)
  | turns + 1, server =>
    if server.exchange.ready = [] then ([], server)
    else
      let (finished, exchange) := server.exchange.resumeNext
      let waiting := { server with exchange }
      match finished with
      | none => settleWithin stamp turns waiting
      | some finished =>
        let (outputs, after) := waiting.deliver stamp finished
        let (others, last) := settleWithin stamp turns after
        (outputs ++ others, last)

def backlog (server : Server) : Nat :=
  server.connections.values.foldr
    (fun fate total =>
      match fate with
      | .waiting _ behind => behind.length + 1 + total
      | .idle | .closed => total)
    0

/-- Each turn ends a request or shortens the line of the woken, and a request that ends can wake
each of the others once. -/
def turnsEnough (server : Server) : Nat :=
  (server.backlog + 1) * (server.backlog + 1) + server.exchange.ready.length

def settle (stamp : String) (server : Server) : List Output × Server :=
  server.settleWithin stamp server.turnsEnough

def receive (stamp : String) (connection : Nat) (bytes : Bytes) (server : Server) :
    List Output × Server :=
  match server.fateOf connection with
  | .closed => ([], server)
  | .waiting request behind =>
    ([], { server with
      connections :=
        server.connections.insert connection (.waiting request (behind ++ Line.split bytes)) })
  | .idle =>
    let (outputs, after) := server.work stamp connection (Line.split bytes)
    let (others, last) := after.settle stamp
    (outputs ++ others, last)

def expireNext (stamp : String) (server : Server) : Option (List Output × Server) :=
  match server.exchange.firstDeadline? with
  | none => none
  | some deadline =>
    match server.exchange.nextDue? deadline with
    | none => none
    | some (waiter, call, _) =>
      let (outcome, exchange) :=
        Exchange.expire { server.exchange with clock := deadline } waiter call
      let (outputs, after) :=
        Server.deliver stamp ⟨call.caller, outcome, deadline⟩ { server with exchange }
      let (others, last) := after.settle stamp
      some (outputs ++ others, last)

def awaitWithin (stamp : String) (connection : Nat) :
    Nat → List Output → Server → List Output × Server
  | 0, said, server => (said, server)
  | turns + 1, said, server =>
    if said.any fun output => output.connection = connection then (said, server)
    else match server.expireNext stamp with
      | none => (said, server)
      | some (more, after) => awaitWithin stamp connection turns (said ++ more) after

/-- Takes in what was written on a connection, and waits until there is something to say on it,
or nothing left to wait for. -/
def receiveAndAwait (stamp : String) (connection : Nat) (bytes : Bytes) (server : Server) :
    List Output × Server :=
  let (said, after) := server.receive stamp connection bytes
  after.awaitWithin stamp connection after.backlog said

end Server

end Mailroom
