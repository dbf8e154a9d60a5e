import Mailroom.Trap.Service
import Mailroom.Waiting.Schedule

/-!
A machine: an exchange, the memories of its tasks, and the traps that are not yet answered. Plain
calls and traps share one numbering of callers.
-/

namespace Mailroom

inductive Ending where
  | outcome (outcome : Except Fault Answer)
  | trapped (frame : TrapFrame) (changes : List Memory.Change)

structure Report where
  caller : Nat
  time : Nat
  ending : Ending

structure Machine where
  exchange : Exchange
  memories : Table Pid Memory := ∅
  traps : Table Nat Trap := ∅
  deriving Inhabited

namespace Machine

def start (limits : Limits) : Machine := { exchange := .start limits }

def memoryOf (machine : Machine) (pid : Pid) : Memory := machine.memories[pid]?.getD {}

def setMemory (machine : Machine) (pid : Pid) (memory : Memory) : Machine :=
  { machine with memories := machine.memories.insert pid memory }

/-- Reports a finished call. A trap is answered in its task's memory at this moment. -/
def reportOne (machine : Machine) (finished : Finished) : Report × Machine :=
  match machine.traps[finished.caller]? with
  | none => (⟨finished.caller, finished.time, .outcome finished.outcome⟩, machine)
  | some trap =>
    let before := machine.memoryOf trap.pid
    let (frame, after) := trap.finish before finished.outcome
    (⟨finished.caller, finished.time, .trapped frame (before.changes after)⟩,
      { machine.setMemory trap.pid after with traps := machine.traps.erase finished.caller })

def reportAll : List Finished → Machine → List Report × Machine
  | [], machine => ([], machine)
  | finished :: rest, machine =>
    let (report, after) := machine.reportOne finished
    let (reports, last) := reportAll rest after
    (report :: reports, last)

def settle (machine : Machine) (finished : List Finished) : List Report × Machine :=
  let (woken, exchange) := machine.exchange.settle
  reportAll (finished ++ woken) { machine with exchange }

def call (machine : Machine) (caller : Nat) (call : Call) : List Report × Machine :=
  let (outcome, exchange) := machine.exchange.begin caller call
  settle { machine with exchange }
    (outcome.toList.map fun outcome => ⟨caller, outcome, exchange.clock⟩)

def trap (machine : Machine) (caller : Nat) (trap : Trap) : List Report × Machine :=
  let memory := machine.memoryOf trap.pid
  match trap.prepare memory with
  | .ok call => { machine with traps := machine.traps.insert caller trap }.call caller call
  | .error fault =>
    let (frame, after) := trap.refuse memory fault
    let (reports, last) := (machine.setMemory trap.pid after).settle []
    (⟨caller, machine.exchange.clock, .trapped frame (memory.changes after)⟩ :: reports, last)

def advance (machine : Machine) (millis : Nat) : List Report × Machine :=
  let (finished, exchange) := machine.exchange.advanceTo (machine.exchange.clock + millis)
  reportAll finished { machine with exchange }

def abandon (machine : Machine) (caller : Nat) : Machine :=
  { machine with
    exchange := machine.exchange.abandon caller
    traps := machine.traps.erase caller }

end Machine

end Mailroom
