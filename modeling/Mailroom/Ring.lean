import Mailroom.Message

/-!
Rings: first in, first out stores of frames. A ring counts the bytes its frames take up and
never holds more than its capacity.
-/

namespace Mailroom

structure Ring where
  capacity : Nat
  used : Nat := 0
  frames : List Frame := []
  deriving DecidableEq, Repr, Inhabited

namespace Ring

def free (ring : Ring) : Nat := ring.capacity - ring.used

def depth (ring : Ring) : Nat := ring.frames.length

def hasRoom (ring : Ring) (cost : Nat) : Bool := cost ≤ ring.free

def costOf (ring : Ring) (payloadLength : Nat) : Except Fault Nat :=
  let cost := framedSize payloadLength
  if cost > ring.capacity then .error (.messageTooLarge cost ring.capacity) else .ok cost

def push (ring : Ring) (frame : Frame) : Except Fault Ring :=
  if frame.header.length.toNat ≠ frame.payload.length then
    .error (.internal (s!"header length {frame.header.length} does not match payload of " ++
      s!"{frame.payload.length} bytes"))
  else
    match ring.costOf frame.payload.length with
    | .error fault => .error fault
    | .ok cost =>
      if ring.hasRoom cost then
        .ok { ring with used := ring.used + cost, frames := ring.frames ++ [frame] }
      else .error .wouldBlock

/-- Takes the oldest frame, if there is one. A counter below the frame's cost is a broken
invariant. -/
def pop (ring : Ring) : Except Fault (Option Frame) × Ring :=
  match ring.frames with
  | [] => (.ok none, ring)
  | frame :: frames =>
    if frame.cost ≤ ring.used then
      (.ok (some frame), { ring with used := ring.used - frame.cost, frames })
    else
      (.error (.internal s!"ring accounting underflow: used {ring.used} < frame {frame.cost}"),
        { ring with frames })

def front? (ring : Ring) : Option Frame := ring.frames.head?

def clear (ring : Ring) : Ring := { ring with used := 0, frames := [] }

end Ring

end Mailroom
