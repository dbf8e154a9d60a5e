import Mailroom.Json.Reader
import Mailroom.Text.Numeral

/-!
Deferred values: a value that stands before the field that tells its type is set aside until the
type is known. All of it has to make sense by then, also the parts that the type does not ask for:
strings have values, numbers are not too large, and nesting has an end.
-/

namespace Mailroom.Json

def leadingDigits : List Char → Nat → Nat × Nat
  | [], number => (number, 0)
  | char :: rest, number =>
    let grown := number * 10 + (char.toNat - '0'.toNat)
    if grown ≤ Text.largestSize then leadingDigits rest grown else (number, rest.length + 1)

def scientific (literal : List Char) : Nat × Int :=
  let unsigned := literal.dropWhile (· = '-')
  let whole := unsigned.takeWhile Char.isDigit
  let (fraction, rest) :=
    (readFraction (unsigned.dropWhile Char.isDigit)).getD ([], [])
  let places := fraction.drop 1
  let exponent : Int := match rest with
    | _ :: '-' :: digits => -((Text.digits? 10 digits 0).getD 0 : Nat)
    | _ :: '+' :: digits => ((Text.digits? 10 digits 0).getD 0 : Nat)
    | _ :: digits => ((Text.digits? 10 digits 0).getD 0 : Nat)
    | [] => 0
  let (number, dropped) := leadingDigits whole 0
  let (number, unused) := leadingDigits places number
  (number, dropped - (places.length - unused) + exponent)

/-- Whether a written number is too large for binary floating point of 64 bits. The digits and
the power of ten are rounded before they are multiplied. -/
def isTooLarge (literal : List Char) : Bool :=
  let (number, power) := scientific literal
  if number = 0 ∨ power < 0 then false
  else if power > 308 then true
  else Text.nearest53 number * Text.nearest53 (Nat.pow 10 power.toNat) ≥ Text.infinityFrom

mutual

/-- Whether a value can be set aside where lists and objects may still nest `levels` deep. -/
def isDeferrable : Nat → Json → Bool
  | _, .illegible _ => false
  | _, .decimal literal => !isTooLarge literal.toList
  | levels + 1, .array items => areDeferrable levels items
  | levels + 1, .object fields => haveDeferrable levels fields
  | 0, .array _ | 0, .object _ => false
  | _, .null | _, .bool _ | _, .integer _ | _, .text _ => true

def areDeferrable : Nat → List Json → Bool
  | _, [] => true
  | levels, item :: items => isDeferrable levels item && areDeferrable levels items

def haveDeferrable : Nat → List (String × Json) → Bool
  | _, [] => true
  | levels, (_, value) :: fields => isDeferrable levels value && haveDeferrable levels fields

end

end Mailroom.Json
