import Mailroom.Trap.Call
import Mailroom.Waiting.Exchange

/-!
The trap service: a trap is read and checked, becomes a call to the exchange, and is answered in
the task's registers and memory once the call has an outcome. A receive has an information block
besides its buffer, which tells of success and of failure.
-/

namespace Mailroom

structure Trap where
  pid : Pid
  frame : TrapFrame
  deriving DecidableEq, Repr, Inhabited

namespace Trap

def isReceive (trap : Trap) : Bool :=
  trap.frame.service = TrapFrame.mailboxService && trap.frame.selector = Selector.receive.code

def buffer (trap : Trap) : UInt32 := trap.frame.r2

def info (trap : Trap) : UInt32 := trap.frame.r5

def writeInfo (memory : Memory) (address : UInt32) (block : InfoBlock) : Except Fault Memory :=
  if address = 0 then .ok memory else memory.write address block.encode

/-- Both destinations of a receive are checked before anything is taken. -/
def checkDestinations (memory : Memory) (buffer : UInt32) (room : Nat) (info : UInt32) :
    Except Fault Unit :=
  match memory.check buffer room with
  | .error fault => .error fault
  | .ok () => if info = 0 then .ok () else memory.check info InfoBlock.size

def callOf (pid : Pid) (memory : Memory) : TrapCall → Except Fault Call
  | .openName name mode => .ok (.now (.openName pid name mode))
  | .bindName name capacity mode => .ok (.now (.bindName pid name capacity mode))
  | .send handle payload flags channel timeout =>
    .ok (.transfer (.send ⟨pid, handle⟩ payload flags channel) timeout)
  | .receive handle buffer room timeout info =>
    (checkDestinations memory buffer room info).map fun () =>
      .transfer (.receive ⟨pid, handle⟩ room) timeout
  | .peek handle => .ok (.now (.peek ⟨pid, handle⟩))
  | .tap handle enabled => .ok (.now (.tap ⟨pid, handle⟩ enabled))
  | .close handle => .ok (.now (.close ⟨pid, handle⟩))

def prepare (trap : Trap) (memory : Memory) : Except Fault Call := do
  callOf trap.pid memory (← TrapCall.decode trap.pid trap.frame memory)

def results : Answer → List UInt32
  | .nothing => []
  | .handle handle => [handle.toUInt32]
  | .count count => [UInt32.ofNat count]
  | .receipt receipt =>
    [receipt.header.length.toUInt32, receipt.header.flags.bits.toUInt32,
      receipt.header.channel.toUInt32, receipt.header.source.toUInt32]
  | .peek peek => [UInt32.ofNat peek.depth, UInt32.ofNat peek.used, peek.nextLength.toUInt32]
  | .condition _ | .standard _ => []

def report (frame : TrapFrame) : Except Fault Answer → TrapFrame
  | .ok answer => (frame.setResults (results answer)).setStatus .ok
  | .error fault => frame.setStatus fault.status

/-- Answers a trap that did not become a call. The information block is written if it can be. -/
def refuse (trap : Trap) (memory : Memory) (fault : Fault) : TrapFrame × Memory :=
  let told :=
    if trap.isReceive then
      match writeInfo memory trap.info (.failed fault.status) with
      | .ok written => written
      | .error _ => memory
    else memory
  (report trap.frame (.error fault), told)

def store (trap : Trap) (memory : Memory) : Except Fault Answer → Except Fault Answer × Memory
  | .ok (.receipt receipt) =>
    match memory.write trap.buffer receipt.payload with
    | .error fault => (.error fault, memory)
    | .ok filled =>
      match writeInfo filled trap.info (.ofReceipt receipt) with
      | .error fault => (.error fault, filled)
      | .ok written => (.ok (.receipt receipt), written)
  | .ok answer => (.ok answer, memory)
  | .error fault =>
    match writeInfo memory trap.info (.failed fault.status) with
    | .error other => (.error other, memory)
    | .ok written => (.error fault, written)

def finish (trap : Trap) (memory : Memory) (outcome : Except Fault Answer) : TrapFrame × Memory :=
  if trap.isReceive then
    let (told, written) := trap.store memory outcome
    (report trap.frame told, written)
  else (report trap.frame outcome, memory)

end Trap

end Mailroom
