import Mailroom.Engine.Operation
import Mailroom.Waiting.Queues

/-!
The exchange: an engine together with those who wait for it. A call that cannot go on is parked
before anyone else gets a turn, so no wake is missed. When it is woken it tries again from the
start; when its deadline comes it tries once more.
-/

namespace Mailroom

inductive Transfer where
  | send (endpoint : Endpoint) (payload : Bytes) (flags channel : UInt16)
  | receive (endpoint : Endpoint) (room : Nat)
  deriving DecidableEq, Repr, Inhabited

namespace Transfer

def pid : Transfer → Pid
  | .send endpoint .. => endpoint.pid
  | .receive endpoint _ => endpoint.pid

def kind : Transfer → BlockingKind
  | .send .. => .send
  | .receive .. => .receive

def attempt : Transfer → Step Answer
  | .send endpoint payload flags channel =>
    Operation.step (.send endpoint payload flags channel)
  | .receive endpoint room => Operation.step (.receive endpoint room)

def unavailable : Transfer → Fault
  | .send .. => .wouldBlock
  | .receive .. => .noData

def condition : Transfer → Step Condition
  | .send endpoint .. => Engine.sendCondition endpoint
  | .receive endpoint _ => Engine.receiveCondition endpoint

end Transfer

inductive Call where
  | now (operation : Operation)
  | transfer (transfer : Transfer) (timeout : Timeout)
  deriving DecidableEq, Repr, Inhabited

structure Suspended where
  caller : Nat
  transfer : Transfer
  deadline : Option Nat
  condition : Condition
  deriving DecidableEq, Repr, Inhabited

inductive WaitRequest where
  | park (condition : Condition)
  | wake (wakeup : Wakeup) (woken : Nat)
  deriving DecidableEq, Repr, Inhabited

structure Finished where
  caller : Nat
  outcome : Except Fault Answer
  time : Nat

structure Exchange where
  engine : Engine
  waits : WaitQueues := {}
  clock : Nat := 0
  suspended : Table Nat Suspended := ∅
  /-- Woken waiters whose calls are due, in the order they were woken. -/
  ready : List Nat := []
  requests : List WaitRequest := []
  deriving Inhabited

namespace Exchange

def start (limits : Limits) : Exchange := { engine := .start limits }

def emit (exchange : Exchange) (event : Event) : Exchange :=
  { exchange with engine := exchange.engine.emit event }

def wake (exchange : Exchange) (wakeup : Wakeup) : Exchange :=
  let (woken, waits) := exchange.waits.wake wakeup.condition wakeup.scope
  { exchange with
    waits
    ready := exchange.ready ++ woken
    requests := .wake wakeup woken.length :: exchange.requests }

def flush (exchange : Exchange) : Exchange :=
  let (wakeups, engine) := exchange.engine.drainWakeups
  wakeups.foldl wake { exchange with engine }

def perform (exchange : Exchange) (operation : Operation) : Except Fault Answer × Exchange :=
  let (outcome, engine) := operation.step exchange.engine
  (outcome, flush { exchange with engine })

/-- Parks a call. Wakeups that the engine may have left are not handed out here. -/
def park (exchange : Exchange) (caller : Nat) (transfer : Transfer) (deadline : Option Nat)
    (condition : Condition) : Exchange :=
  let (waiter, waits) := exchange.waits.park condition
  emit
    { exchange with
      waits
      suspended := exchange.suspended.insert waiter { caller, transfer, deadline, condition }
      requests := .park condition :: exchange.requests }
    (.waiting transfer.pid condition.mailbox transfer.kind)

/-- One attempt. The call ends, or is parked if it may wait and waiting may help. -/
def attempt (exchange : Exchange) (caller : Nat) (transfer : Transfer) (deadline : Option Nat)
    (mayWait : Bool) : Option (Except Fault Answer) × Exchange :=
  match transfer.attempt exchange.engine with
  | (.ok answer, engine) => (some (.ok answer), flush { exchange with engine })
  | (.error fault, engine) =>
    if fault = transfer.unavailable && mayWait then
      match transfer.condition engine with
      | (.ok condition, engine) =>
        (none, park { exchange with engine } caller transfer deadline condition)
      | (.error fault, engine) => (some (.error fault), flush { exchange with engine })
    else (some (.error fault), flush { exchange with engine })

def begin (exchange : Exchange) (caller : Nat) : Call → Option (Except Fault Answer) × Exchange
  | .now operation =>
    let (outcome, after) := exchange.perform operation
    (some outcome, after)
  | .transfer transfer timeout =>
    exchange.attempt caller transfer (timeout.duration?.map (exchange.clock + ·))
      (!timeout.isPoll)

def forget (exchange : Exchange) (waiter : Nat) : Exchange :=
  { exchange with
    waits := exchange.waits.abandon waiter
    suspended := exchange.suspended.erase waiter }

def resume (exchange : Exchange) (waiter : Nat) (call : Suspended) :
    Option (Except Fault Answer) × Exchange :=
  ((exchange.forget waiter).emit
    (.woken call.transfer.pid call.condition.mailbox call.transfer.kind)).attempt
      call.caller call.transfer call.deadline true

/-- Ends a call whose deadline has come, after one more attempt. -/
def expire (exchange : Exchange) (waiter : Nat) (call : Suspended) :
    Except Fault Answer × Exchange :=
  let left := exchange.forget waiter
  match call.transfer.attempt left.engine with
  | (.ok answer, engine) => (.ok answer, flush { left with engine })
  | (.error fault, engine) =>
    let after := flush { left with engine }
    if fault = call.transfer.unavailable then
      (.error .timedOut,
        after.emit (.timedOut call.transfer.pid call.condition.mailbox call.transfer.kind))
    else (.error fault, after)

/-- Takes the first woken waiter in line. There is an end to report unless its call is parked
again, or was abandoned before its turn. -/
def resumeNext (exchange : Exchange) : Option Finished × Exchange :=
  match exchange.ready with
  | [] => (none, exchange)
  | waiter :: ready =>
    let waiting := { exchange with ready }
    match exchange.suspended[waiter]? with
    | none => (none, waiting)
    | some call =>
      match waiting.resume waiter call with
      | (some outcome, after) => (some ⟨call.caller, outcome, after.clock⟩, after)
      | (none, after) => (none, after)

/-- A caller gives up. Its call is neither resumed nor reported. -/
def abandon (exchange : Exchange) (caller : Nat) : Exchange :=
  (exchange.suspended.toList.filter fun entry => entry.2.caller = caller).foldl
    (fun exchange entry => exchange.forget entry.1) exchange

def blocked (exchange : Exchange) : List Nat :=
  (exchange.suspended.toList.map fun entry => entry.2.caller).mergeSort

def drainRequests (exchange : Exchange) : List WaitRequest × Exchange :=
  (exchange.requests.reverse, { exchange with requests := [] })

def drainEvents (exchange : Exchange) : List Event × Exchange :=
  let (events, engine) := exchange.engine.drainEvents
  (events, { exchange with engine })

end Exchange

end Mailroom
