import Mailroom.Waiting.Exchange
import Mailroom.Wire.Record
import Mailroom.Wire.Reply
import Mailroom.Wire.Request

/-!
The request handler: which call a request makes of the exchange, and how the outcome of the call
is told in a reply.
-/

namespace Mailroom

inductive Errand where
  | call (call : Call)
  | snapshot
  | reset
  | refuse (fault : Text.HexFault)
  deriving Repr, Inhabited

def Request.errand : Request → Errand
  | .registerTask pid => .call (.now (.register pid))
  | .reapTask pid => .call (.now (.reap pid))
  | .openName pid name mode => .call (.now (.openName pid name mode))
  | .bindName pid name capacity mode => .call (.now (.bindName pid name capacity mode))
  | .send endpoint payload flags channel timeout =>
    match payload.toBytes with
    | .ok bytes => .call (.transfer (.send endpoint bytes flags channel) (.ofWord timeout))
    | .error fault => .refuse fault
  | .receive endpoint room timeout => .call (.transfer (.receive endpoint room) (.ofWord timeout))
  | .peek endpoint => .call (.now (.peek endpoint))
  | .tap endpoint enabled => .call (.now (.tap endpoint enabled))
  | .close endpoint => .call (.now (.close endpoint))
  | .snapshot => .snapshot
  | .reset => .reset

inductive Response where
  | standard (task : Pid) (handles : StandardHandles)
  | reaped (task : Pid) (count : Nat)
  | handle (handle : Handle)
  | accepted (count : Nat)
  | received (receipt : Receipt)
  | peek (peek : Peek)
  | tapped (enabled : Bool)
  | closed (handle : Handle)
  | mailboxes (snapshots : List Snapshot)
  | reset (wasHalted : Bool)
  | fault (fault : Fault)
  | refused (fault : Text.HexFault)
  deriving Repr, Inhabited

/-- The response to a request whose call has an outcome. An answer that no such request can have
is told like a reset. -/
def Request.response (request : Request) : Except Fault Answer → Response
  | .error cause => .fault cause
  | .ok answer =>
    match request, answer with
    | .registerTask pid, .standard handles => .standard pid handles
    | .reapTask pid, .count count => .reaped pid count
    | .tap _ enabled, .nothing => .tapped enabled
    | .close endpoint, .nothing => .closed endpoint.handle
    | _, .handle given => .handle given
    | _, .count count => .accepted count
    | _, .receipt receipt => .received receipt
    | _, .peek seen => .peek seen
    | _, _ => .reset false

def Exchange.handle (exchange : Exchange) (caller : Nat) (request : Request) :
    Option Response × Exchange :=
  match request.errand with
  | .refuse fault => (some (.refused fault), exchange)
  | .snapshot => (some (.mailboxes exchange.engine.snapshot), exchange)
  | .reset =>
    (some (.reset exchange.engine.isHalted), (exchange.perform .reset).2)
  | .call call =>
    let (outcome, after) := exchange.begin caller call
    (outcome.map request.response, after)

namespace Response

def receiptData (stamp : String) (receipt : Receipt) : Json :=
  .object
    [("length", .word receipt.header.length), ("flags", .word receipt.header.flags.bits),
     ("channel", .word receipt.header.channel), ("src_id", .word receipt.header.source),
     ("overrun", .bool receipt.overrun), ("hex", .text (Text.hex receipt.payload)),
     ("text", .option .text (Bytes.text? receipt.payload)), ("received_at", .text stamp)]

/-- The reply that tells of a response. Receipts carry the time of day. -/
def reply (stamp : String) : Response → Reply
  | .standard _ handles => .success handles.toJson
  | .reaped _ count => .success (.nat count)
  | .handle given => .success (.field "handle" (.word given))
  | .accepted count => .success (.field "accepted" (.nat count))
  | .received receipt => .success (receiptData stamp receipt)
  | .peek seen => .success seen.toJson
  | .tapped state => .success (.field "enabled" (.bool state))
  | .closed given => .success (.field "closed" (.word given))
  | .mailboxes snapshots => .success (.array (snapshots.map Snapshot.toJson))
  | .reset wasHalted => .success (.field "was_halted" (.bool wasHalted))
  | .fault cause => .ofFault cause
  | .refused cause => .failure (Payload.refusal cause) Status.noDescriptor.code

end Response

end Mailroom
