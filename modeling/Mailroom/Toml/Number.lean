import Mailroom.Text.Numeral
import Mailroom.Toml.Value

/-!
TOML numbers: integers of 64 bits in four bases, and floating-point numbers by their written form.
Underscores may stand between digits.
-/

namespace Mailroom.Toml

def readDigits (base : Nat) : List Char → Option (List Char × List Char)
  | [] => none
  | char :: rest =>
    if (Text.digit? base char).isSome then
      match rest with
      | '_' :: after =>
        match readDigits base after with
        | some (digits, left) => some (char :: digits, left)
        | none => some ([char], rest)
      | after =>
        match readDigits base after with
        | some (digits, left) => some (char :: digits, left)
        | none => some ([char], after)
    else none

def readSign : List Char → Bool × List Char
  | '+' :: rest => (false, rest)
  | '-' :: rest => (true, rest)
  | rest => (false, rest)

def readWhole (chars : List Char) : Option (List Char × List Char) :=
  match chars with
  | '0' :: rest => some (['0'], rest)
  | _ => readDigits 10 chars

def valueOf (base : Nat) (digits : List Char) : Nat := (Text.digits? base digits 0).getD 0

def fitted (negative : Bool) (size : Nat) : Option Toml :=
  if negative then if size ≤ 0x8000000000000000 then some (.integer (-size)) else none
  else if size < 0x8000000000000000 then some (.integer size)
  else none

def readInteger (chars : List Char) : Option (Toml × List Char) :=
  match chars with
  | '0' :: 'x' :: rest => inBase 16 rest
  | '0' :: 'o' :: rest => inBase 8 rest
  | '0' :: 'b' :: rest => inBase 2 rest
  | _ =>
    let (negative, rest) := readSign chars
    (readWhole rest).bind fun (digits, left) =>
      (fitted negative (valueOf 10 digits)).map (·, left)
where
  inBase (base : Nat) (rest : List Char) : Option (Toml × List Char) :=
    (readDigits base rest).bind fun (digits, left) =>
      (fitted false (valueOf base digits)).map (·, left)

def readFraction : List Char → Option (List Char × List Char)
  | '.' :: rest => readDigits 10 rest
  | rest => some ([], rest)

def readExponent : List Char → Option (Option Int × List Char)
  | [] => some (none, [])
  | letter :: rest =>
    if letter = 'e' ∨ letter = 'E' then
      let (negative, unsigned) := readSign rest
      (readDigits 10 unsigned).map fun (digits, left) =>
        let size : Int := valueOf 10 digits
        (some (if negative then -size else size), left)
    else some (none, letter :: rest)

/-- Whether `digits` times ten to the `exponent` is too large for a number of 64 bits in binary
floating point: at least half a unit above the largest. -/
def overflows (digits : Nat) (exponent : Int) : Bool :=
  let magnitude : Int := (Nat.toDigits 10 digits).length + exponent
  if digits = 0 ∨ magnitude < 300 then false
  else if magnitude > 310 then true
  else if 0 ≤ exponent then digits * Nat.pow 10 exponent.toNat ≥ Text.infinityFrom
  else digits ≥ Text.infinityFrom * Nat.pow 10 (-exponent).toNat

def readSpecial (chars : List Char) : Option (Toml × List Char) :=
  match (readSign chars).2 with
  | 'i' :: 'n' :: 'f' :: rest => some (.decimal "inf", rest)
  | 'n' :: 'a' :: 'n' :: rest => some (.decimal "nan", rest)
  | _ => none

/-- What a floating-point number may be. One that begins like a number but is too large is
refused for good. -/
inductive FloatReading where
  | absent
  | tooLarge
  | number (value : Toml) (rest : List Char)

def readFloat (chars : List Char) : FloatReading :=
  let (negative, unsigned) := readSign chars
  let parts : Option (List Char × List Char × Option Int × List Char) := do
    let (whole, rest) ← readWhole unsigned
    let (fraction, rest) ← readFraction rest
    let (exponent, rest) ← readExponent rest
    if fraction = [] ∧ exponent.isNone then none else return (whole, fraction, exponent, rest)
  match parts with
  | none =>
    match readSpecial chars with
    | some (value, rest) => .number value rest
    | none => .absent
  | some (whole, fraction, exponent, rest) =>
    let power := exponent.getD 0 - fraction.length
    if !negative && overflows (valueOf 10 (whole ++ fraction)) power then .tooLarge
    else .number (.decimal (String.ofList (chars.take (chars.length - rest.length)))) rest

end Mailroom.Toml
