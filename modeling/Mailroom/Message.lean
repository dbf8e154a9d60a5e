import Mailroom.Bytes
import Mailroom.Fault
import Mailroom.Text.Pieces

/-!
Messages: an eight-byte header before the payload, the frame a mailbox stores, the receipt a
receiver gets, and the information block that a task finds beside its buffer.
-/

namespace Mailroom

structure Flags where
  bits : UInt16
  deriving DecidableEq, Repr, Inhabited

namespace Flags

def none : Flags := ⟨0⟩
def stdout : Flags := ⟨0x1⟩
def stderr : Flags := ⟨0x2⟩
def outOfBand : Flags := ⟨0x4⟩

def overrun : Flags := ⟨0x8⟩

def names : Text.BitNames :=
  [("STDOUT", stdout.bits), ("STDERR", stderr.bits), ("OOB", outOfBand.bits),
   ("OVERRUN", overrun.bits)]

def union (left right : Flags) : Flags := ⟨left.bits ||| right.bits⟩

def has (flags part : Flags) : Bool := flags.bits &&& part.bits = part.bits

def ofSender (word : UInt16) : Flags :=
  ⟨word &&& ((stdout.union stderr).union outOfBand).bits⟩

end Flags

structure Header where
  length : UInt16
  flags : Flags
  source : Pid
  channel : UInt16
  deriving DecidableEq, Repr, Inhabited

namespace Header

def size : Nat := 8

def encode (header : Header) : Bytes :=
  Bytes.ofWord header.length ++ Bytes.ofWord header.flags.bits ++
    Bytes.ofWord header.source ++ Bytes.ofWord header.channel

/-- Reads the first eight bytes. Flag bits without a meaning are kept. -/
def decode : Bytes → Except Fault Header
  | l₀ :: l₁ :: f₀ :: f₁ :: s₀ :: s₁ :: c₀ :: c₁ :: _ =>
    .ok ⟨Bytes.word l₀ l₁, ⟨Bytes.word f₀ f₁⟩, Bytes.word s₀ s₁, Bytes.word c₀ c₁⟩
  | short => .error (.internal s!"short header: {short.length} bytes")

end Header

def framedSize (payloadLength : Nat) : Nat := Header.size + payloadLength

structure Receipt where
  header : Header
  payload : Bytes
  deriving DecidableEq, Repr, Inhabited

def Receipt.overrun (receipt : Receipt) : Bool := receipt.header.flags.has .overrun

structure Frame where
  sequence : Nat
  header : Header
  payload : Bytes
  deriving DecidableEq, Repr, Inhabited

namespace Frame

def cost (frame : Frame) : Nat := framedSize frame.payload.length

/-- Hands a frame to a receiver with room for `room` bytes. What does not fit is lost, and the
overrun flag says so. -/
def deliver (frame : Frame) (room : Nat) : Receipt :=
  let payload := frame.payload.take room
  let flags :=
    if frame.payload.length > room then frame.header.flags.union .overrun else frame.header.flags
  { header := { frame.header with length := UInt16.ofNat payload.length, flags }
    payload }

end Frame

structure InfoBlock where
  status : UInt16 := 0
  length : UInt16 := 0
  flags : UInt16 := 0
  channel : UInt16 := 0
  source : Pid := 0
  deriving DecidableEq, Repr, Inhabited

namespace InfoBlock

def size : Nat := 20

def failed (status : Status) : InfoBlock := { status := status.code }

def ofReceipt (receipt : Receipt) : InfoBlock :=
  { status := Status.ok.code
    length := receipt.header.length
    flags := receipt.header.flags.bits
    channel := receipt.header.channel
    source := receipt.header.source }

def encode (block : InfoBlock) : Bytes :=
  Bytes.ofWideWord block.status ++ Bytes.ofWideWord block.length ++
    Bytes.ofWideWord block.flags ++ Bytes.ofWideWord block.channel ++
    Bytes.ofWideWord block.source

theorem length_encode (block : InfoBlock) : block.encode.length = size := rfl

end InfoBlock

end Mailroom
