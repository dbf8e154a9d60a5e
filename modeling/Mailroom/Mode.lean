import Mailroom.Fault
import Mailroom.Text.Pieces

/-!
Access modes: what a handle may do, and which delivery policy it asks of its mailbox.
-/

namespace Mailroom

/-- How a mailbox hands out the messages it accepts: one queue for all receivers, or a ring for
each subscriber where a full ring misses the message or makes the sender wait. -/
inductive Policy where
  | queue
  | fanoutDrop
  | fanoutBlock
  deriving DecidableEq, Repr, Inhabited

def Policy.all : List Policy := [.queue, .fanoutDrop, .fanoutBlock]

def Policy.label : Policy → String
  | .queue => "queue"
  | .fanoutDrop => "fanout_drop"
  | .fanoutBlock => "fanout_block"

structure Mode where
  bits : UInt16
  deriving DecidableEq, Repr, Inhabited

namespace Mode

def readOnly : Mode := ⟨0x01⟩
def writeOnly : Mode := ⟨0x02⟩
def readWrite : Mode := ⟨0x03⟩
def tap : Mode := ⟨0x04⟩
def fanout : Mode := ⟨0x08⟩
def fanoutDrop : Mode := ⟨0x10⟩
def fanoutBlock : Mode := ⟨0x20⟩

def known : UInt16 := 0x3f

def names : Text.BitNames :=
  [("RDONLY", readOnly.bits), ("WRONLY", writeOnly.bits), ("RDWR", readWrite.bits),
   ("TAP", tap.bits), ("FANOUT", fanout.bits), ("FANOUT_DROP", fanoutDrop.bits),
   ("FANOUT_BLOCK", fanoutBlock.bits)]

def union (left right : Mode) : Mode := ⟨left.bits ||| right.bits⟩

def has (mode part : Mode) : Bool := mode.bits &&& part.bits = part.bits

def meets (mode part : Mode) : Bool := mode.bits &&& part.bits ≠ 0

/-- A mode word has known bits only and some access. Drop and block exclude each other and
belong to fan-out. -/
def wellFormed (mode : Mode) : Bool :=
  mode.bits &&& ~~~known = 0 &&
  mode.meets (readWrite.union tap) &&
  !mode.has (fanoutDrop.union fanoutBlock) &&
  (!mode.meets (fanoutDrop.union fanoutBlock) || mode.has fanout)

def ofWord (word : UInt16) : Except Fault Mode :=
  if (Mode.mk word).wellFormed then .ok ⟨word⟩ else .error (.invalidMode word.toUInt32)

def canRead (mode : Mode) : Bool := mode.has readOnly

def canWrite (mode : Mode) : Bool := mode.has writeOnly

def isTap (mode : Mode) : Bool := mode.has tap

def policy (mode : Mode) : Policy :=
  if !mode.has fanout then .queue
  else if mode.has fanoutBlock then .fanoutBlock
  else .fanoutDrop

end Mode

end Mailroom
