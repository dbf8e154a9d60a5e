import Mailroom.Mailbox.Subscribers
import Mailroom.Mode
import Mailroom.Name

/-!
A mailbox: a queue that all receivers share, and the subscribers that have rings of their own.
A message is accepted whole or not at all.
-/

namespace Mailroom

inductive View where
  | queue
  | subscriber (endpoint : Endpoint)
  | tap (endpoint : Endpoint)
  deriving DecidableEq, Repr, Inhabited

def View.freesSenderSpace : View → Bool
  | .tap _ => false
  | .queue | .subscriber _ => true

structure Acceptance where
  sequence : Nat
  queued : Bool
  fanout : Replication
  taps : Replication
  deriving DecidableEq, Repr, Inhabited

structure RingState where
  depth : Nat
  used : Nat
  capacity : Nat
  nextLength : Option UInt16
  deriving DecidableEq, Repr, Inhabited

def RingState.of (ring : Ring) : RingState :=
  { depth := ring.depth
    used := ring.used
    capacity := ring.capacity
    nextLength := ring.front?.map fun frame => frame.header.length }

structure Mailbox where
  id : MailboxId
  name : Name
  capacity : UInt16
  policy : Policy
  creator : Pid
  persistent : Bool
  references : Nat
  nextSequence : Nat
  queue : Ring
  subscribers : Subscribers
  deriving Inhabited

namespace Mailbox

def empty (id : MailboxId) (name : Name) (capacity : UInt16) (policy : Policy) (creator : Pid)
    (persistent : Bool) : Mailbox :=
  { id, name, capacity, policy, creator, persistent
    references := 0
    nextSequence := 0
    queue := { capacity := capacity.toNat }
    subscribers := ∅ }

def isUnreferenced (mailbox : Mailbox) : Bool := mailbox.references = 0 && !mailbox.persistent

def view (mailbox : Mailbox) (endpoint : Endpoint) (mode : Mode) : View :=
  if mode.isTap then .tap endpoint
  else if mailbox.policy = .queue then .queue
  else .subscriber endpoint

def attach (mailbox : Mailbox) (endpoint : Endpoint) (mode : Mode) : Mailbox :=
  let capacity := mailbox.capacity.toNat
  let subscribers :=
    match mailbox.view endpoint mode with
    | .tap endpoint => mailbox.subscribers.addTap endpoint capacity
    | .subscriber endpoint =>
      if mode.canRead then mailbox.subscribers.addFanout endpoint capacity
      else mailbox.subscribers
    | .queue => mailbox.subscribers
  { mailbox with references := mailbox.references + 1, subscribers }

def detach (mailbox : Mailbox) (endpoint : Endpoint) : Except Fault Unit × Mailbox :=
  let rest := { mailbox with subscribers := mailbox.subscribers.erase endpoint }
  if rest.references = 0 then
    (.error (.internal (mailbox.name.canonical ++ " reference count underflow")), rest)
  else (.ok (), { rest with references := rest.references - 1 })

def hasRoom (mailbox : Mailbox) (cost : Nat) : Bool :=
  match mailbox.policy with
  | .queue => mailbox.queue.hasRoom cost
  | .fanoutDrop => true
  | .fanoutBlock => mailbox.subscribers.allHaveRoom cost

/-- Hands an accepted frame to the queue or to the readers, as the policy says. -/
def distribute (mailbox : Mailbox) (frame : Frame) :
    Except Fault (Bool × Replication) × Mailbox :=
  match mailbox.policy with
  | .queue =>
    match mailbox.queue.push frame with
    | .ok queue => (.ok (true, {}), { mailbox with queue })
    | .error fault => (.error fault, mailbox)
  | .fanoutDrop =>
    match mailbox.subscribers.replicateReaders frame with
    | (.ok fanout, subscribers) => (.ok (false, fanout), { mailbox with subscribers })
    | (.error fault, subscribers) => (.error fault, { mailbox with subscribers })
  | .fanoutBlock =>
    match mailbox.subscribers.replicateReaders frame with
    | (.ok fanout, subscribers) =>
      let after := { mailbox with subscribers }
      if fanout.overrun = [] then (.ok (false, fanout), after)
      else
        (.error (.internal
          (mailbox.name.canonical ++ " lost a blocking fan-out copy after the room check")), after)
    | (.error fault, subscribers) => (.error fault, { mailbox with subscribers })

def post (mailbox : Mailbox) (header : Header) (payload : Bytes) :
    Except Fault Acceptance × Mailbox :=
  let frame : Frame := { sequence := mailbox.nextSequence, header, payload }
  let numbered := { mailbox with nextSequence := mailbox.nextSequence + 1 }
  match numbered.subscribers.replicateTaps frame with
  | (.error fault, subscribers) => (.error fault, { numbered with subscribers })
  | (.ok taps, subscribers) =>
    match distribute { numbered with subscribers } frame with
    | (.error fault, after) => (.error fault, after)
    | (.ok (queued, fanout), after) =>
      (.ok { sequence := frame.sequence, queued, fanout, taps }, after)

/-- Accepts a message from a handle. On a fan-out the handle counts as a sender from its first
message of an acceptable size on, also if there is no room for it now. -/
def accept (mailbox : Mailbox) (source : Endpoint) (flags : Flags) (channel : UInt16)
    (payload : Bytes) : Except Fault Acceptance × Mailbox :=
  match mailbox.queue.costOf payload.length with
  | .error fault => (.error fault, mailbox)
  | .ok cost =>
    if payload.length > 0xffff then
      (.error (.messageTooLarge cost mailbox.queue.capacity), mailbox)
    else
      let marked :=
        if mailbox.policy = .queue then mailbox
        else { mailbox with subscribers := mailbox.subscribers.markSender source }
      if marked.hasRoom cost then
        marked.post ⟨UInt16.ofNat payload.length, flags, source.pid, channel⟩ payload
      else (.error .wouldBlock, marked)

def take (mailbox : Mailbox) (view : View) (room : Nat) :
    Except Fault (Option Receipt) × Mailbox :=
  match view with
  | .queue =>
    let (outcome, queue) := mailbox.queue.pop
    (outcome.map fun frame => frame.map fun frame => frame.deliver room, { mailbox with queue })
  | .subscriber endpoint | .tap endpoint =>
    let (outcome, subscribers) := mailbox.subscribers.take endpoint room
    (outcome, { mailbox with subscribers })

def stat (mailbox : Mailbox) (view : View) : Except Fault RingState :=
  match view with
  | .queue => .ok (.of mailbox.queue)
  | .subscriber endpoint | .tap endpoint =>
    match mailbox.subscribers[endpoint]? with
    | some subscription => .ok (.of subscription.ring)
    | none =>
      .error (.internal (s!"pid {endpoint.pid} handle {endpoint.handle} has no subscription on " ++
        mailbox.name.canonical))

def pending (mailbox : Mailbox) : Nat := mailbox.queue.depth + mailbox.subscribers.pending

def discard (mailbox : Mailbox) : Mailbox :=
  { mailbox with queue := mailbox.queue.clear, subscribers := mailbox.subscribers.clear }

end Mailbox

end Mailroom
