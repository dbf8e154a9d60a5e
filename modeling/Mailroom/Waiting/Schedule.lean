import Mailroom.Waiting.Exchange

/-!
One fair schedule of an exchange: woken calls run in the order they were woken, each until it
ends or is parked, and the clock stops at every deadline on its way.
-/

namespace Mailroom.Exchange

def settleWithin : Nat → Exchange → List Finished × Exchange
  | 0, exchange => ([], exchange)
  | turns + 1, exchange =>
    if exchange.ready = [] then ([], exchange)
    else
      let (finished, next) := exchange.resumeNext
      let (others, after) := settleWithin turns next
      (finished.toList ++ others, after)

/-- Every turn ends a call or shortens the line, and a call that ends can wake each of the
others once, so this many turns are enough. -/
def turnsEnough (exchange : Exchange) : Nat :=
  (exchange.suspended.size + 1) * (exchange.suspended.size + 1) + exchange.ready.length

def settle (exchange : Exchange) : List Finished × Exchange :=
  settleWithin exchange.turnsEnough exchange

def nextDue? (exchange : Exchange) (time : Nat) : Option (Nat × Suspended × Nat) :=
  exchange.suspended.toList.foldl
    (fun first entry =>
      match entry.2.deadline with
      | none => first
      | some deadline =>
        if deadline ≤ time ∧ (first.all fun found => deadline < found.2.2) then
          some (entry.1, entry.2, deadline)
        else first)
    none

def firstDeadline? (exchange : Exchange) : Option Nat :=
  (exchange.suspended.toList.filterMap fun entry => entry.2.deadline).min?

def expireWithin (time : Nat) : Nat → Exchange → List Finished × Exchange
  | 0, exchange => ([], exchange)
  | calls + 1, exchange =>
    match exchange.nextDue? time with
    | none => ([], exchange)
    | some (waiter, call, deadline) =>
      let (outcome, expired) := expire { exchange with clock := deadline } waiter call
      let (woken, settled) := expired.settle
      let (others, after) := expireWithin time calls settled
      (⟨call.caller, outcome, deadline⟩ :: woken ++ others, after)

def advanceTo (exchange : Exchange) (time : Nat) : List Finished × Exchange :=
  let (finished, after) := expireWithin time exchange.suspended.size exchange
  (finished, { after with clock := time })

end Mailroom.Exchange
