import Mailroom.Text.Numeral
import Mailroom.Toml.Value

/-!
TOML moments: a date, a time of day, or a date with a time and perhaps an offset from universal
time.
-/

namespace Mailroom.Toml

def readPair (limit : Nat) : List Char → Option (Nat × List Char)
  | tens :: units :: rest =>
    match Text.digits? 10 [tens, units] 0 with
    | some value => if value ≤ limit then some (value, rest) else none
    | none => none
  | _ => none

def readChar (wanted : Char) : List Char → Option (List Char)
  | char :: rest => if char = wanted then some rest else none
  | [] => none

def isLeapYear (year : Nat) : Bool :=
  year % 4 = 0 && (year % 100 ≠ 0 || year % 400 = 0)

def daysIn (year month : Nat) : Nat :=
  if month = 2 then if isLeapYear year then 29 else 28
  else if month ∈ [4, 6, 9, 11] then 30
  else 31

def readDate : List Char → Option (List Char)
  | a :: b :: c :: d :: '-' :: rest => do
    let year ← Text.digits? 10 [a, b, c, d] 0
    let (month, rest) ← readPair 12 rest
    let rest ← readChar '-' rest
    let (day, rest) ← readPair 31 rest
    if 1 ≤ month ∧ 1 ≤ day ∧ day ≤ daysIn year month then return rest else none
  | _ => none

def readSecondFraction : List Char → List Char
  | '.' :: rest => if (rest.takeWhile Char.isDigit) = [] then '.' :: rest else
      rest.dropWhile Char.isDigit
  | rest => rest

def readTime (chars : List Char) : Option (List Char) := do
  let (_, rest) ← readPair 23 chars
  let rest ← readChar ':' rest
  let (_, rest) ← readPair 59 rest
  let rest ← readChar ':' rest
  let (_, rest) ← readPair 60 rest
  return readSecondFraction rest

/-- What follows an offset, if there is one. An offset that has begun must be whole. -/
def readOffset : List Char → Option (List Char)
  | 'Z' :: rest | 'z' :: rest => some rest
  | '+' :: rest | '-' :: rest => do
    let (_, rest) ← readPair 23 rest
    let rest ← readChar ':' rest
    let (_, rest) ← readPair 59 rest
    return rest
  | rest => some rest

def readTimeAfterDate (rest : List Char) : Option (List Char) :=
  match rest with
  | 'T' :: after | 't' :: after | ' ' :: after =>
    match readTime after with
    | some after => readOffset after
    | none => some rest
  | _ => some rest

def readMoment (chars : List Char) : Option (Toml × List Char) :=
  let rest := match readDate chars with
    | some rest => readTimeAfterDate rest
    | none => readTime chars
  rest.map fun rest => (.moment (String.ofList (chars.take (chars.length - rest.length))), rest)

end Mailroom.Toml
