import Mailroom.Bytes
import Mailroom.Name

/-!
The memory of a task: a run of bytes from address zero. Access is checked before it happens, and
no write changes the size.
-/

namespace Mailroom

structure Memory where
  bytes : Bytes := []
  deriving DecidableEq, Repr, Inhabited

namespace Memory

def size (memory : Memory) : Nat := memory.bytes.length

def zeros (size : Nat) : Memory := ⟨List.replicate size 0⟩

def covers (memory : Memory) (address : UInt32) (length : Nat) : Bool :=
  address.toNat + length ≤ memory.size

def check (memory : Memory) (address : UInt32) (length : Nat) : Except Fault Unit :=
  if memory.covers address length then .ok () else .error (.badAddress address)

def read (memory : Memory) (address : UInt32) (length : Nat) : Except Fault Bytes :=
  if memory.covers address length then .ok ((memory.bytes.drop address.toNat).take length)
  else .error (.badAddress address)

def splice (bytes : Bytes) (start : Nat) (data : Bytes) : Bytes :=
  bytes.take start ++ data ++ bytes.drop (start + data.length)

def write (memory : Memory) (address : UInt32) (data : Bytes) : Except Fault Memory :=
  if memory.covers address data.length then .ok ⟨splice memory.bytes address.toNat data⟩
  else .error (.badAddress address)

/-- What can be seen of a text of at most `limit` bytes and its terminator. The address after
the last of these bytes is a 64-bit word. -/
def window (memory : Memory) (address : UInt32) (limit : Nat) : Bytes :=
  (memory.bytes.take ((address.toNat + limit + 1) % (Text.largestSize + 1))).drop address.toNat

def terminatedText (memory : Memory) (address : UInt32) (limit : Nat) : Except Fault String :=
  if memory.size ≤ address.toNat then .error (.badAddress address)
  else
    let window := memory.window address limit
    if 0 ∈ window then
      match Bytes.text? (window.takeWhile (· ≠ 0)) with
      | some text => .ok text
      | none => .error NameFault.notText.fault
    else if window.length > limit then .error (NameFault.unterminated limit).fault
    else .error (.badAddress address)

structure Change where
  start : Nat
  bytes : Bytes
  deriving DecidableEq, Repr, Inhabited

def Change.extend (position : Nat) (byte : UInt8) : List Change → List Change
  | [] => [⟨position, [byte]⟩]
  | next :: later =>
    if next.start = position + 1 then ⟨position, byte :: next.bytes⟩ :: later
    else ⟨position, [byte]⟩ :: next :: later

def changes (before after : Memory) : List Change :=
  (before.bytes.zip after.bytes).zipIdx.foldr
    (fun ((old, new), position) later =>
      if old = new then later else Change.extend position new later)
    []

theorem length_splice (bytes data : Bytes) (start : Nat)
    (inside : start + data.length ≤ bytes.length) :
    (splice bytes start data).length = bytes.length := by
  simp only [splice, List.length_append, List.length_take, List.length_drop]
  omega

theorem size_write {memory after : Memory} {address : UInt32} {data : Bytes}
    (written : memory.write address data = .ok after) : after.size = memory.size := by
  unfold write at written
  split at written
  next inside =>
    cases written
    exact length_splice _ _ _ (of_decide_eq_true inside)
  next => cases written

end Memory

end Mailroom
