/-!
Numerals in messages and names: hexadecimal text of a least width, decimal numerals with an optional
plus sign and an upper limit, and the numbers that are too large for binary floating point of 64
bits.
-/

namespace Mailroom.Text

def largestSize : Nat := 0xffffffffffffffff

def hexNumeral (width number : Nat) : String :=
  let digits := Nat.toDigits 16 number
  String.ofList (List.replicate (width - digits.length) '0' ++ digits)

def digit? (base : Nat) (char : Char) : Option Nat :=
  let value :=
    if '0' ≤ char ∧ char ≤ '9' then some (char.toNat - '0'.toNat)
    else if 'a' ≤ char ∧ char ≤ 'z' then some (char.toNat - 'a'.toNat + 10)
    else if 'A' ≤ char ∧ char ≤ 'Z' then some (char.toNat - 'A'.toNat + 10)
    else none
  value.filter (· < base)

def digits? (base : Nat) : List Char → Nat → Option Nat
  | [], total => some total
  | char :: rest, total =>
    match digit? base char with
    | some value => digits? base rest (total * base + value)
    | none => none

def numeral? (base limit : Nat) (chars : List Char) : Option Nat :=
  let body := match chars with
    | '+' :: rest => rest
    | other => other
  if body = [] then none else (digits? base body 0).filter (· ≤ limit)

def wordNumeral? (chars : List Char) : Option UInt16 :=
  (numeral? 10 0xffff chars).map UInt16.ofNat

/-- Numbers from here on round to infinity: the largest finite number and half a unit. -/
def infinityFrom : Nat := Nat.pow 2 1024 - Nat.pow 2 970

/-- The nearest number of 53 significant bits. A tie goes to the even neighbour. -/
def nearest53 (number : Nat) : Nat :=
  let unit := Nat.pow 2 (number.log2 + 1 - 53)
  let below := number / unit
  let rest := 2 * (number % unit)
  if unit < rest ∨ unit = rest ∧ below % 2 = 1 then (below + 1) * unit else below * unit

end Mailroom.Text
