import Mailroom.Ring

/-!
Subscribers of a mailbox: taps that watch it and readers of a fan-out, each with a ring of its
own. A copy that does not fit is lost, and the subscriber's next delivery says so.
-/

namespace Mailroom

inductive SubscriptionKind where
  | tap (enabled : Bool)
  | fanout
  deriving DecidableEq, Repr, Inhabited

structure Subscription where
  kind : SubscriptionKind
  ring : Ring
  lossPending : Bool := false
  dropped : Nat := 0
  sender : Bool := false
  deriving DecidableEq, Repr, Inhabited

namespace Subscription

def isTap (subscription : Subscription) : Bool :=
  match subscription.kind with
  | .tap _ => true
  | .fanout => false

def isLiveTap (subscription : Subscription) : Bool := subscription.kind = .tap true

def isReader (subscription : Subscription) : Bool :=
  subscription.kind = .fanout && !subscription.sender

/-- Puts a copy into the ring, or notes that it was lost. Tells whether it was put. -/
def offer (subscription : Subscription) (frame : Frame) : Except Fault Bool × Subscription :=
  match subscription.ring.push frame with
  | .ok ring => (.ok true, { subscription with ring })
  | .error .wouldBlock =>
    (.ok false, { subscription with lossPending := true, dropped := subscription.dropped + 1 })
  | .error fault => (.error fault, subscription)

def take (subscription : Subscription) (room : Nat) :
    Except Fault (Option Receipt) × Subscription :=
  match subscription.ring.pop with
  | (.error fault, ring) => (.error fault, { subscription with ring })
  | (.ok none, ring) => (.ok none, { subscription with ring })
  | (.ok (some frame), ring) =>
    let receipt := frame.deliver room
    let flags :=
      if subscription.lossPending then receipt.header.flags.union .overrun
      else receipt.header.flags
    (.ok (some { receipt with header := { receipt.header with flags } }),
      { subscription with ring, lossPending := false })

/-- A subscriber that begins to send gives up its unread copies and gets no more. -/
def becomeSender (subscription : Subscription) : Subscription :=
  if subscription.isReader then
    { subscription with sender := true, ring := subscription.ring.clear, lossPending := false }
  else subscription

end Subscription

structure Replication where
  delivered : Nat := 0
  overrun : List Endpoint := []
  deriving DecidableEq, Repr, Inhabited

def Replication.fedAnyone (replication : Replication) : Bool := 0 < replication.delivered

abbrev Subscribers := Table Endpoint Subscription

namespace Subscribers

def addTap (subscribers : Subscribers) (endpoint : Endpoint) (capacity : Nat) : Subscribers :=
  subscribers.insert endpoint { kind := .tap false, ring := { capacity } }

def addFanout (subscribers : Subscribers) (endpoint : Endpoint) (capacity : Nat) : Subscribers :=
  subscribers.insert endpoint { kind := .fanout, ring := { capacity } }

def setTap (subscribers : Subscribers) (endpoint : Endpoint) (enabled : Bool) :
    Except Fault Subscribers :=
  match subscribers[endpoint]? with
  | some subscription =>
    if subscription.isTap then
      .ok (subscribers.insert endpoint { subscription with kind := .tap enabled })
    else .error (.tapUnsupported endpoint.handle)
  | none => .error (.tapUnsupported endpoint.handle)

def markSender (subscribers : Subscribers) (endpoint : Endpoint) : Subscribers :=
  subscribers.modify endpoint Subscription.becomeSender

def tapCount (subscribers : Subscribers) : Nat :=
  subscribers.toList.countP fun entry => entry.2.isTap

def readerCount (subscribers : Subscribers) : Nat :=
  subscribers.toList.countP fun entry => entry.2.isReader

def allHaveRoom (subscribers : Subscribers) (cost : Nat) : Bool :=
  subscribers.toList.all fun entry => !entry.2.isReader || entry.2.ring.hasRoom cost

/-- Offers a frame to the listed subscribers in turn and stops at the first fault. -/
def feed (frame : Frame) :
    List (Endpoint × Subscription) → Replication → Subscribers →
      Except Fault Replication × Subscribers
  | [], replication, subscribers => (.ok replication, subscribers)
  | (endpoint, subscription) :: rest, replication, subscribers =>
    match subscription.offer frame with
    | (.error fault, after) => (.error fault, subscribers.insert endpoint after)
    | (.ok true, after) =>
      feed frame rest { replication with delivered := replication.delivered + 1 }
        (subscribers.insert endpoint after)
    | (.ok false, after) =>
      feed frame rest { replication with overrun := replication.overrun ++ [endpoint] }
        (subscribers.insert endpoint after)

def replicate (subscribers : Subscribers) (wanted : Subscription → Bool) (frame : Frame) :
    Except Fault Replication × Subscribers :=
  feed frame (subscribers.toList.filter fun entry => wanted entry.2) {} subscribers

def replicateReaders (subscribers : Subscribers) (frame : Frame) :
    Except Fault Replication × Subscribers :=
  subscribers.replicate Subscription.isReader frame

def replicateTaps (subscribers : Subscribers) (frame : Frame) :
    Except Fault Replication × Subscribers :=
  subscribers.replicate Subscription.isLiveTap frame

def take (subscribers : Subscribers) (endpoint : Endpoint) (room : Nat) :
    Except Fault (Option Receipt) × Subscribers :=
  match subscribers[endpoint]? with
  | some subscription =>
    let (outcome, after) := subscription.take room
    (outcome, subscribers.insert endpoint after)
  | none =>
    (.error (.internal s!"pid {endpoint.pid} handle {endpoint.handle} has no subscription"),
      subscribers)

def pending (subscribers : Subscribers) : Nat :=
  subscribers.toList.foldr (fun entry total => entry.2.ring.depth + total) 0

def clear (subscribers : Subscribers) : Subscribers :=
  subscribers.map fun _ subscription => { subscription with ring := subscription.ring.clear }

end Subscribers

end Mailroom
