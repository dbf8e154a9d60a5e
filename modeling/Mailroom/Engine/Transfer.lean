import Mailroom.Engine.State

/-!
Moving messages through handles: send, receive, peek and tap. None of them waits; where a call
could wait, its condition says for what.
-/

namespace Mailroom

structure Peek where
  depth : Nat
  used : Nat
  capacity : Nat
  nextLength : UInt16
  deriving DecidableEq, Repr, Inhabited

namespace Engine

/-- What follows from an accepted message: who may go on, and what watchers hear. -/
def announce (engine : Engine) (endpoint : Endpoint) (id : MailboxId) (channel : UInt16)
    (bytes : Nat) (acceptance : Acceptance) : Engine :=
  let queued := if acceptance.queued then engine.wake ⟨.readable, id⟩ .one else engine
  let copied :=
    if acceptance.fanout.fedAnyone || acceptance.taps.fedAnyone then
      queued.wake ⟨.subscriber, id⟩ .all
    else queued
  let missed := acceptance.fanout.overrun ++ acceptance.taps.overrun
  (copied.emitAll (missed.map fun subscriber => .overrun id subscriber.pid subscriber.handle)).emit
    (.sent endpoint.pid id bytes channel)

def trySend (endpoint : Endpoint) (payload : Bytes) (flags channel : UInt16) : Step Nat :=
  Step.guarded do
    let binding ← bindingOf endpoint
    if binding.mode.canWrite then
      let acceptance ← onMailbox binding.mailbox fun mailbox =>
        mailbox.accept endpoint (Flags.ofSender flags) channel payload
      Step.change fun engine =>
        engine.announce endpoint binding.mailbox channel payload.length acceptance
      return payload.length
    else Step.fail (.permissionDenied endpoint.handle .write)

def readableView (endpoint : Endpoint) : Step (Binding × View) := do
  let binding ← bindingOf endpoint
  if binding.mode.canRead || binding.mode.isTap then
    let mailbox ← mailboxOf binding.mailbox
    return (binding, mailbox.view endpoint binding.mode)
  else Step.fail (.permissionDenied endpoint.handle .read)

def acknowledge (engine : Engine) (endpoint : Endpoint) (id : MailboxId) (view : View)
    (receipt : Receipt) : Engine :=
  let freed := if view.freesSenderSpace then engine.wake ⟨.writable, id⟩ .all else engine
  freed.emit (.received endpoint.pid id receipt.payload.length receipt.overrun)

/-- Receives the oldest message of a handle's view, cut to `room` bytes. -/
def tryReceive (endpoint : Endpoint) (room : Nat) : Step Receipt := Step.guarded do
  let (binding, view) ← readableView endpoint
  match ← onMailbox binding.mailbox fun mailbox => mailbox.take view room with
  | some receipt =>
    Step.change fun engine => engine.acknowledge endpoint binding.mailbox view receipt
    return receipt
  | none => Step.fail .noData

def peek (endpoint : Endpoint) : Step Peek := Step.guarded do
  let (binding, view) ← readableView endpoint
  let mailbox ← mailboxOf binding.mailbox
  let state ← Step.inspect fun _ => mailbox.stat view
  return ⟨state.depth, state.used, state.capacity, state.nextLength.getD 0⟩

def tap (endpoint : Endpoint) (enabled : Bool) : Step Unit := Step.guarded do
  let binding ← bindingOf endpoint
  if binding.mode.isTap then
    onMailbox binding.mailbox fun mailbox =>
      match mailbox.subscribers.setTap endpoint enabled with
      | .ok subscribers => (.ok (), { mailbox with subscribers })
      | .error fault => (.error fault, mailbox)
    Step.change fun engine =>
      engine.emit (.tapped endpoint.pid binding.mailbox endpoint.handle enabled)
  else Step.fail (.tapUnsupported endpoint.handle)

def receiveCondition (endpoint : Endpoint) : Step Condition := Step.guarded do
  let (binding, view) ← readableView endpoint
  match view with
  | .queue => return ⟨.readable, binding.mailbox⟩
  | .subscriber _ | .tap _ => return ⟨.subscriber, binding.mailbox⟩

def sendCondition (endpoint : Endpoint) : Step Condition := Step.guarded do
  let binding ← bindingOf endpoint
  return ⟨.writable, binding.mailbox⟩

end Engine

end Mailroom
