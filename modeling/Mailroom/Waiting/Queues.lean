import Mailroom.Waiting.Condition

/-!
Wait queues: who waits for which condition, in the order they came. A waiter that is gone stays
in its queue until the next one parks there or a wake passes over it.
-/

namespace Mailroom

inductive WaiterState where
  | waiting
  | woken
  deriving DecidableEq, Repr, Inhabited

inductive WakeReason where
  | woke
  | timedOut
  deriving DecidableEq, Repr, Inhabited

structure WaitQueues where
  queues : Table Condition (List Nat) := ∅
  waiters : Table Nat WaiterState := ∅
  next : Nat := 0
  deriving Inhabited

namespace WaitQueues

def isWaiting (waits : WaitQueues) (waiter : Nat) : Bool :=
  waits.waiters[waiter]? = some .waiting

def queueOf (waits : WaitQueues) (condition : Condition) : List Nat :=
  waits.queues[condition]?.getD []

def waitingFor (waits : WaitQueues) (condition : Condition) : List Nat :=
  (waits.queueOf condition).filter waits.isWaiting

/-- A new waiter at the end of a queue, out of which those who are gone fall. -/
def park (waits : WaitQueues) (condition : Condition) : Nat × WaitQueues :=
  (waits.next,
    { queues := waits.queues.insert condition (waits.waitingFor condition ++ [waits.next])
      waiters := waits.waiters.insert waits.next .waiting
      next := waits.next + 1 })

def wakeFront (scope : WakeScope) :
    List Nat → Table Nat WaiterState → List Nat × List Nat × Table Nat WaiterState
  | [], waiters => ([], [], waiters)
  | waiter :: rest, waiters =>
    if waiters[waiter]? = some .waiting then
      let after := waiters.insert waiter .woken
      match scope with
      | .one => ([waiter], rest, after)
      | .all =>
        let (woken, left, states) := wakeFront scope rest after
        (waiter :: woken, left, states)
    else wakeFront scope rest waiters

/-- Wakes one or all of those who wait for a condition, in order. A queue left empty goes. -/
def wake (waits : WaitQueues) (condition : Condition) (scope : WakeScope) :
    List Nat × WaitQueues :=
  let (woken, left, waiters) := wakeFront scope (waits.queueOf condition) waits.waiters
  let queues :=
    if left = [] then waits.queues.erase condition else waits.queues.insert condition left
  (woken, { waits with queues, waiters })

def abandon (waits : WaitQueues) (waiter : Nat) : WaitQueues :=
  { waits with waiters := waits.waiters.erase waiter }

/-- Ends a suspension whose deadline has come. A wake that came first counts. -/
def suspend (waits : WaitQueues) (waiter : Nat) : WakeReason × WaitQueues :=
  let reason := if waits.waiters[waiter]? = some .woken then .woke else .timedOut
  (reason, waits.abandon waiter)

def conditions (waits : WaitQueues) : Nat := waits.queues.size

def text (waits : WaitQueues) : String :=
  "WaitQueues \x7b conditions: " ++ toString waits.conditions ++ " \x7d"

end WaitQueues

end Mailroom
