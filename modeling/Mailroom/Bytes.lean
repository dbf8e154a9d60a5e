import Mailroom.Text.Quoted

/-!
Byte strings: little-endian words, the text that UTF-8 bytes stand for, and hexadecimal with two
digits a byte, written in lower case and read in either case.
-/

namespace Mailroom

abbrev Bytes := List UInt8

namespace Bytes

def ofText (text : String) : Bytes := text.toUTF8.toList

def text? (bytes : Bytes) : Option String := String.fromUTF8? ⟨bytes.toArray⟩

def ofWord (word : UInt16) : Bytes := [word.toUInt8, (word >>> 8).toUInt8]

def word (low high : UInt8) : UInt16 := low.toUInt16 ||| (high.toUInt16 <<< 8)

def ofWideWord (word : UInt16) : Bytes := ofWord word ++ [0, 0]

end Bytes

namespace Text

inductive HexFault where
  | oddLength
  | badDigit (byte : UInt8) (position : Nat)
  deriving DecidableEq, Repr

/-- A bad digit is shown as the Latin-1 character of its byte. -/
def HexFault.message : HexFault → String
  | .oddLength => "Odd number of digits"
  | .badDigit byte position =>
    "Invalid character " ++ quoteChar (Char.ofNat byte.toNat) ++ " at position " ++
      toString position

def hexDigit (value : Nat) : Char :=
  if value < 10 then Char.ofNat ('0'.toNat + value) else Char.ofNat ('a'.toNat + (value - 10))

def hexDigits (bytes : Bytes) : List Char :=
  bytes.flatMap fun byte => [hexDigit (byte.toNat / 16), hexDigit (byte.toNat % 16)]

def hex (bytes : Bytes) : String := String.ofList (hexDigits bytes)

def halfByte (byte : UInt8) (position : Nat) : Except HexFault Nat :=
  match digit? 16 (Char.ofNat byte.toNat) with
  | some value => .ok value
  | none => .error (.badDigit byte position)

def hexPairs : Nat → Bytes → Except HexFault Bytes
  | _, [] => .ok []
  | _, [_] => .error .oddLength
  | position, high :: low :: rest => do
    let upper ← halfByte high position
    let lower ← halfByte low (position + 1)
    let others ← hexPairs (position + 2) rest
    return UInt8.ofNat (upper * 16 + lower) :: others

/-- The bytes that a hexadecimal text stands for; its length is checked first. -/
def unhex (digits : Bytes) : Except HexFault Bytes :=
  if digits.length % 2 = 0 then hexPairs 0 digits else .error .oddLength

end Text

end Mailroom
