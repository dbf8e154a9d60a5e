import Mailroom.Json.Value
import Mailroom.Text.Numeral

/-!
Reading JSON text. Whole numbers that fit 64 bits are integers; all other numbers keep their
written form. A string may not hold a bare control character, and one with half of a surrogate
pair has no value: it may stand only where nobody reads it.
-/

namespace Mailroom.Json

def isSpace (char : Char) : Bool :=
  char = ' ' || char = '\t' || char = '\n' || char = '\r'

def skipSpace (chars : List Char) : List Char := chars.dropWhile isSpace

def hexUnit? (first second third fourth : Char) : Option Nat :=
  Text.digits? 16 [first, second, third, fourth] 0

def unescape? (char : Char) : Option Char :=
  if char = '"' then some '"'
  else if char = '\\' then some '\\'
  else if char = '/' then some '/'
  else if char = 'b' then some '\x08'
  else if char = 'f' then some '\x0c'
  else if char = 'n' then some '\n'
  else if char = 'r' then some '\r'
  else if char = 't' then some '\t'
  else none

def readString : List Char → Option (List Char × List Char)
  | [] => none
  | '"' :: rest => some ([], rest)
  | '\\' :: 'u' :: a :: b :: c :: d :: rest =>
    match hexUnit? a b c d with
    | none => none
    | some unit =>
      if 0xdc00 ≤ unit ∧ unit ≤ 0xdfff then none
      else if 0xd800 ≤ unit ∧ unit ≤ 0xdbff then
        match rest with
        | '\\' :: 'u' :: e :: f :: g :: h :: rest =>
          match hexUnit? e f g h with
          | none => none
          | some low =>
            if 0xdc00 ≤ low ∧ low ≤ 0xdfff then
              let code := 0x10000 + (unit - 0xd800) * 0x400 + (low - 0xdc00)
              (readString rest).map fun (body, after) => (Char.ofNat code :: body, after)
            else none
        | _ => none
      else (readString rest).map fun (body, after) => (Char.ofNat unit :: body, after)
  | '\\' :: char :: rest =>
    match unescape? char with
    | none => none
    | some plain => (readString rest).map fun (body, after) => (plain :: body, after)
  | char :: rest =>
    if char.toNat < 0x20 ∨ char = '\\' then none
    else (readString rest).map fun (body, after) => (char :: body, after)

def skipString : List Char → Option (List Char)
  | [] => none
  | '"' :: rest => some rest
  | '\\' :: 'u' :: a :: b :: c :: d :: rest =>
    if (hexUnit? a b c d).isSome then skipString rest else none
  | '\\' :: char :: rest => if (unescape? char).isSome then skipString rest else none
  | char :: rest => if char.toNat < 0x20 ∨ char = '\\' then none else skipString rest

def readKey (chars : List Char) : Option (Option String × List Char) :=
  match readString chars with
  | some (body, after) => some (some (String.ofList body), after)
  | none => (skipString chars).map (none, ·)

def written (chars rest : List Char) : Json :=
  .illegible (String.ofList (chars.take (chars.length - rest.length)))

def ofFields? (fields : List (Option String × Json)) : Option Json :=
  (fields.mapM keyed?).map Json.object
where
  keyed? : Option String × Json → Option (String × Json)
    | (key, value) => key.map fun key => (key, value)

def readFraction : List Char → Option (List Char × List Char)
  | '.' :: rest =>
    let digits := rest.takeWhile Char.isDigit
    if digits = [] then none else some ('.' :: digits, rest.dropWhile Char.isDigit)
  | rest => some ([], rest)

def readExponent : List Char → Option (List Char × List Char)
  | [] => some ([], [])
  | letter :: rest =>
    if letter = 'e' ∨ letter = 'E' then
      let (sign, digits) := match rest with
        | '+' :: after => (['+'], after)
        | '-' :: after => (['-'], after)
        | after => ([], after)
      let run := digits.takeWhile Char.isDigit
      if run = [] then none
      else some (letter :: sign ++ run, digits.dropWhile Char.isDigit)
    else some ([], letter :: rest)

def wholeNumber (negative : Bool) (digits : List Char) : Json :=
  let size := (Text.digits? 10 digits 0).getD 0
  if negative then
    if size = 0 ∨ size > 0x8000000000000000 then .decimal (String.ofList ('-' :: digits))
    else .integer (-size)
  else if size ≤ Text.largestSize then .integer size
  else .decimal (String.ofList digits)

def readNumber (chars : List Char) : Option (Json × List Char) := do
  let (negative, unsigned) := match chars with
    | '-' :: rest => (true, rest)
    | rest => (false, rest)
  let digits := unsigned.takeWhile Char.isDigit
  if digits = [] ∨ digits.length > 1 ∧ digits.head? = some '0' then none
  else
    let (fraction, rest) ← readFraction (unsigned.dropWhile Char.isDigit)
    let (exponent, rest) ← readExponent rest
    if fraction = [] ∧ exponent = [] then return (wholeNumber negative digits, rest)
    else
      let sign := if negative then ['-'] else []
      return (.decimal (String.ofList (sign ++ digits ++ fraction ++ exponent)), rest)

mutual

def readValue : Nat → List Char → Option (Json × List Char)
  | 0, _ => none
  | fuel + 1, chars =>
    match skipSpace chars with
    | 'n' :: 'u' :: 'l' :: 'l' :: rest => some (.null, rest)
    | 't' :: 'r' :: 'u' :: 'e' :: rest => some (.bool true, rest)
    | 'f' :: 'a' :: 'l' :: 's' :: 'e' :: rest => some (.bool false, rest)
    | '"' :: rest =>
      (readKey rest).map fun (value, after) =>
        ((value.map Json.text).getD (written ('"' :: rest) after), after)
    | '[' :: rest =>
      match skipSpace rest with
      | ']' :: after => some (.array [], after)
      | items => (readItems fuel items).map fun (items, after) => (.array items, after)
    | '{' :: rest =>
      match skipSpace rest with
      | '}' :: after => some (.object [], after)
      | inside =>
        (readFields fuel inside).map fun (fields, after) =>
          ((ofFields? fields).getD (written ('{' :: inside) after), after)
    | other => readNumber other

def readItems : Nat → List Char → Option (List Json × List Char)
  | 0, _ => none
  | fuel + 1, chars =>
    match readValue fuel chars with
    | none => none
    | some (item, rest) =>
      match skipSpace rest with
      | ']' :: after => some ([item], after)
      | ',' :: others =>
        (readItems fuel others).map fun (items, after) => (item :: items, after)
      | _ => none

def readFields : Nat → List Char → Option (List (Option String × Json) × List Char)
  | 0, _ => none
  | fuel + 1, chars =>
    match skipSpace chars with
    | '"' :: rest =>
      match readKey rest with
      | none => none
      | some (key, rest) =>
        match skipSpace rest with
        | ':' :: rest =>
          match readValue fuel rest with
          | none => none
          | some (value, rest) =>
            match skipSpace rest with
            | '}' :: after => some ([(key, value)], after)
            | ',' :: others =>
              (readFields fuel others).map fun (fields, after) => ((key, value) :: fields, after)
            | _ => none
        | _ => none
    | _ => none

end

/-- The value that a whole text stands for. Nesting and items take at least a character each,
so the text's length bounds the depth of reading. -/
def parseChars? (chars : List Char) : Option Json :=
  match readValue (2 * chars.length + 2) chars with
  | some (value, rest) => if skipSpace rest = [] then some value else none
  | none => none

def parse? (text : String) : Option Json := parseChars? text.toList

end Mailroom.Json
