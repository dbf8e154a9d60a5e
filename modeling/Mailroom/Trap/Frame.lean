import Mailroom.Trap.Selector

/-!
Trap frames: what a task hands over when it calls the service, and gets back. The first register
holds the status, the following ones arguments and then results.
-/

namespace Mailroom

structure TrapFrame where
  service : UInt8
  selector : UInt8
  registers : Vector UInt32 8
  deriving DecidableEq, Repr, Inhabited

namespace TrapFrame

def mailboxService : UInt8 := 5

def r0 (frame : TrapFrame) : UInt32 := frame.registers.get ⟨0, by decide⟩

def r1 (frame : TrapFrame) : UInt32 := frame.registers.get ⟨1, by decide⟩

def r2 (frame : TrapFrame) : UInt32 := frame.registers.get ⟨2, by decide⟩

def r3 (frame : TrapFrame) : UInt32 := frame.registers.get ⟨3, by decide⟩

def r4 (frame : TrapFrame) : UInt32 := frame.registers.get ⟨4, by decide⟩

def r5 (frame : TrapFrame) : UInt32 := frame.registers.get ⟨5, by decide⟩

def r6 (frame : TrapFrame) : UInt32 := frame.registers.get ⟨6, by decide⟩

/-- Puts words into the registers from `index` on. Those without a register are dropped. -/
def fill (registers : Vector UInt32 8) : Nat → List UInt32 → Vector UInt32 8
  | _, [] => registers
  | index, word :: words => fill (registers.setIfInBounds index word) (index + 1) words

def registersOf (words : List UInt32) : Vector UInt32 8 := fill (Vector.replicate 8 0) 0 words

def call (selector : Selector) (arguments : List UInt32) : TrapFrame :=
  { service := mailboxService
    selector := selector.code
    registers := fill (Vector.replicate 8 0) 1 arguments }

def status? (frame : TrapFrame) : Option Status :=
  if frame.r0.toNat ≤ 0xffff then Status.ofCode? frame.r0.toUInt16 else none

def setStatus (frame : TrapFrame) (status : Status) : TrapFrame :=
  { frame with registers := frame.registers.setIfInBounds 0 status.code.toUInt32 }

def setResults (frame : TrapFrame) (results : List UInt32) : TrapFrame :=
  { frame with registers := fill frame.registers 1 results }

end TrapFrame

end Mailroom
