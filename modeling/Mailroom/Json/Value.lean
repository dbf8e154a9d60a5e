import Mailroom.Text.Numeral

/-!
JSON values. Objects keep their fields in order and may hold a key more than once, as a text may.
What is read from a value is typed: words of a width, alternatives by name, and records with
required, nullable and optional fields, written as an object or as the list of the fields.
-/

namespace Mailroom

inductive Json where
  | null
  | bool (value : Bool)
  | integer (value : Int)
  /-- A number with a fraction or an exponent, or beyond 64 bits, as it is written. -/
  | decimal (literal : String)
  | text (value : String)
  | array (items : List Json)
  | object (fields : List (String × Json))
  /-- What is JSON by its form and yet has no value, as it is written: a string with half of a
  surrogate pair, or an object with such a key. -/
  | illegible (written : String)
  deriving Repr, Inhabited

namespace Json

def nat (value : Nat) : Json := .integer value

def word (value : UInt16) : Json := .nat value.toNat

def option {α : Type} (encode : α → Json) : Option α → Json
  | some value => encode value
  | none => .null

def field (key : String) (value : Json) : Json := .object [(key, value)]

def nat? (limit : Nat) : Json → Option Nat
  | .integer (.ofNat value) => if value ≤ limit then some value else none
  | _ => none

def word? (value : Json) : Option UInt16 := (value.nat? 0xffff).map UInt16.ofNat

def wideWord? (value : Json) : Option UInt32 := (value.nat? 0xffffffff).map UInt32.ofNat

def size? (value : Json) : Option Nat := value.nat? Text.largestSize

def bool? : Json → Option Bool
  | .bool value => some value
  | _ => none

def text? : Json → Option String
  | .text value => some value
  | _ => none

def array? : Json → Option (List Json)
  | .array items => some items
  | _ => none

def orNull? {α : Type} (decode : Json → Option α) : Json → Option (Option α)
  | .null => some none
  | value => (decode value).map some

def orElse? {α : Type} (fallback : α) (decode : Json → Option α) : Option Json → Option α
  | none => some fallback
  | some value => decode value

def valuesOf (key : String) (fields : List (String × Json)) : List Json :=
  (fields.filter fun field => field.1 = key).map Prod.snd

def label? {α : Type} (alternatives : List α) (label : α → String) : Json → Option α
  | .text name => alternatives.find? fun alternative => label alternative = name
  | .object [(name, .null)] => alternatives.find? fun alternative => label alternative = name
  | _ => none

def looseLabel? {α : Type} (alternatives : List α) (label : α → String) : Json → Option α
  | .object [(name, .object [])] => label? alternatives label (.text name)
  | value => label? alternatives label value

/-- Whether a field may be missing. A nullable field that is missing is null, but a list of
fields may not leave it out. -/
inductive Presence where
  | required
  | nullable
  | optional
  deriving DecidableEq, Repr

def objectField? (fields : List (String × Json)) (key : String × Presence) :
    Option (Option Json) :=
  match valuesOf key.1 fields, key.2 with
  | [value], _ => some (some value)
  | [], .required => none
  | [], .nullable => some (some .null)
  | [], .optional => some none
  | _ :: _ :: _, _ => none

/-- The values of fields given by their places. Only optional fields may be left out at the
end, and nothing may follow the last. -/
def listFields? : List (String × Presence) → List Json → Option (List (Option Json))
  | [], [] => some []
  | [], _ :: _ => none
  | _ :: keys, item :: items => (listFields? keys items).map (some item :: ·)
  | (_, .optional) :: keys, [] => (listFields? keys []).map (none :: ·)
  | _ :: _, [] => none

def record? (keys : List (String × Presence)) : Json → Option (List (Option Json))
  | .object fields => keys.mapM (objectField? fields)
  | .array items => listFields? keys items
  | _ => none

def fields? (keys : List String) (value : Json) : Option (List Json) :=
  (record? (keys.map (·, .required)) value).bind fun found => found.mapM id

/-- A record that says by one field what else it holds: an object with that field, or a list
that begins with it. -/
def tagged? (tag : String) : Json → Option (String × Json)
  | .object fields =>
    match valuesOf tag fields with
    | [.text name] => some (name, .object (fields.filter fun field => field.1 ≠ tag))
    | _ => none
  | .array (.text name :: items) => some (name, .array items)
  | _ => none

end Json

end Mailroom
