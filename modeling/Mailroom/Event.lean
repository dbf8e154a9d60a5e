import Mailroom.Mode

/-!
The event stream: what an engine tells those who watch it. A watcher's buffer holds a bounded
number of events, and the oldest give way.
-/

namespace Mailroom

inductive BlockingKind where
  | send
  | receive
  deriving DecidableEq, Repr, Inhabited

def BlockingKind.all : List BlockingKind := [.send, .receive]

def BlockingKind.label : BlockingKind → String
  | .send => "send"
  | .receive => "recv"

inductive Exhaustion where
  | descriptorPoolFull
  | handleLimit
  deriving DecidableEq, Repr, Inhabited

def Exhaustion.all : List Exhaustion := [.descriptorPoolFull, .handleLimit]

def Exhaustion.label : Exhaustion → String
  | .descriptorPoolFull => "descriptor_pool_full"
  | .handleLimit => "handle_limit"

inductive Event where
  | created (mailbox : MailboxId) (name : String) (capacity : UInt16) (policy : Policy)
      (creator : Pid)
  | destroyed (mailbox : MailboxId) (name : String) (discarded : Nat)
  | sent (pid : Pid) (mailbox : MailboxId) (bytes : Nat) (channel : UInt16)
  | received (pid : Pid) (mailbox : MailboxId) (bytes : Nat) (overrun : Bool)
  | waiting (pid : Pid) (mailbox : MailboxId) (kind : BlockingKind)
  | woken (pid : Pid) (mailbox : MailboxId) (kind : BlockingKind)
  | timedOut (pid : Pid) (mailbox : MailboxId) (kind : BlockingKind)
  | overrun (mailbox : MailboxId) (pid : Pid) (handle : Handle)
  | tapped (pid : Pid) (mailbox : MailboxId) (handle : Handle) (enabled : Bool)
  | exhausted (pid : Pid) (reason : Exhaustion)
  deriving DecidableEq, Repr, Inhabited

structure Heard where
  lost : Nat
  events : List Event
  deriving DecidableEq, Repr, Inhabited

/-- A buffer has room for a power of two, the first that is not below the capacity. -/
def Heard.bufferSize (eventCapacity : Nat) : Nat := eventCapacity.nextPowerOfTwo

def Heard.of (eventCapacity : Nat) (events : List Event) : Heard :=
  let lost := events.length - bufferSize eventCapacity
  { lost, events := events.drop lost }

end Mailroom
