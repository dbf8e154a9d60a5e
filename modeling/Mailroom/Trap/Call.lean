import Mailroom.Trap.Frame
import Mailroom.Trap.Memory
import Mailroom.Waiting.Condition

/-!
Trap calls: what the registers of a frame, and the memory they point at, ask for.
-/

namespace Mailroom

inductive TrapCall where
  | openName (name : String) (mode : UInt16)
  | bindName (name : String) (capacity mode : UInt16)
  | send (handle : Handle) (payload : Bytes) (flags channel : UInt16) (timeout : Timeout)
  | receive (handle : Handle) (buffer : UInt32) (room : Nat) (timeout : Timeout) (info : UInt32)
  | peek (handle : Handle)
  | tap (handle : Handle) (enabled : Bool)
  | close (handle : Handle)
  deriving DecidableEq, Repr, Inhabited

namespace TrapCall

def narrow (register : UInt32) (fault : Fault) : Except Fault UInt16 :=
  if register.toNat ≤ 0xffff then .ok register.toUInt16 else .error fault

/-- A number that is no handle is reported as the largest handle. -/
def handleOf (pid : Pid) (register : UInt32) : Except Fault Handle :=
  narrow register (.invalidHandle pid 0xffff)

def modeOf (register : UInt32) : Except Fault UInt16 := narrow register (.invalidMode register)

def capacityOf (register : UInt32) : Except Fault UInt16 :=
  narrow register (.invalidCapacity register)

/-- A wait too long for 16 bits has no end. -/
def timeoutOf (register : UInt32) : Timeout :=
  if register.toNat ≤ 0xffff then .ofWord register.toUInt16 else .infinite

def decode (pid : Pid) (frame : TrapFrame) (memory : Memory) : Except Fault TrapCall :=
  if frame.service ≠ TrapFrame.mailboxService then
    .error (.internal ("trap for module 0x" ++ Text.hexNumeral 2 frame.service.toNat ++
      " routed to mailbox"))
  else do
    match ← Selector.ofCode frame.selector with
    | .openName =>
      let name ← memory.terminatedText frame.r1 Name.maxBytes
      return .openName name (← modeOf frame.r2)
    | .bindName =>
      let name ← memory.terminatedText frame.r1 Name.maxBytes
      let capacity ← capacityOf frame.r2
      return .bindName name capacity (← modeOf frame.r3)
    | .send =>
      let handle ← handleOf pid frame.r1
      let payload ← memory.read frame.r2 frame.r3.toNat
      return .send handle payload frame.r4.toUInt16 frame.r5.toUInt16
        (timeoutOf frame.r6)
    | .receive =>
      let handle ← handleOf pid frame.r1
      return .receive handle frame.r2 frame.r3.toNat (timeoutOf frame.r4) frame.r5
    | .peek => return .peek (← handleOf pid frame.r1)
    | .tap => return .tap (← handleOf pid frame.r1) (frame.r2 &&& 1 ≠ 0)
    | .close => return .close (← handleOf pid frame.r1)

end TrapCall

end Mailroom
