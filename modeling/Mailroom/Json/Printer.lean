import Mailroom.Json.Value
import Mailroom.Text.Numeral

/-!
JSON as one line of text: no blanks, controls escaped, every other character as it is.
-/

namespace Mailroom.Json

def escape (char : Char) : List Char :=
  if char = '"' then ['\\', '"']
  else if char = '\\' then ['\\', '\\']
  else if char = '\x08' then ['\\', 'b']
  else if char = '\t' then ['\\', 't']
  else if char = '\n' then ['\\', 'n']
  else if char = '\x0c' then ['\\', 'f']
  else if char = '\r' then ['\\', 'r']
  else if char.toNat < 0x20 then
    ['\\', 'u', '0', '0', Nat.digitChar (char.toNat / 16), Nat.digitChar (char.toNat % 16)]
  else [char]

def stringChars (value : String) : List Char :=
  '"' :: value.toList.flatMap escape ++ ['"']

mutual

def chars : Json → List Char
  | .null => ['n', 'u', 'l', 'l']
  | .bool true => ['t', 'r', 'u', 'e']
  | .bool false => ['f', 'a', 'l', 's', 'e']
  | .integer value => (toString value).toList
  | .decimal literal => literal.toList
  | .text value => stringChars value
  | .array [] => ['[', ']']
  | .array (item :: items) => '[' :: (chars item ++ itemChars items)
  | .object [] => ['{', '}']
  | .object (field :: fields) => '{' :: (fieldChars field ++ fieldsChars fields)
  | .illegible written => written.toList

def itemChars : List Json → List Char
  | [] => [']']
  | item :: items => ',' :: (chars item ++ itemChars items)

def fieldChars : String × Json → List Char
  | (key, value) => stringChars key ++ ':' :: chars value

def fieldsChars : List (String × Json) → List Char
  | [] => ['}']
  | field :: fields => ',' :: (fieldChars field ++ fieldsChars fields)

end

def render (value : Json) : String := String.ofList value.chars

end Mailroom.Json
