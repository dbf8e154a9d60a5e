import Mailroom.Text.Numeral

/-!
TOML values, and the rules by which a document's tables grow. A table remembers how it came to
be, for that decides who may still add to it. What is read from a value is typed: words, sizes, and
records whose fields may all be left out.
-/

namespace Mailroom

namespace Toml

/-- How a table came to be: on the way to another table's header, by a dotted key, by a header of
its own, or inline. -/
inductive Origin where
  | implied
  | dotted
  | header
  | inline
  deriving DecidableEq, Repr, Inhabited

end Toml

inductive Toml where
  | text (value : String)
  | integer (value : Int)
  | decimal (literal : String)
  | bool (value : Bool)
  | moment (literal : String)
  | array (items : List Toml)
  | table (origin : Toml.Origin) (entries : List (String × Toml))
  | tables (items : List (List (String × Toml)))
  deriving Repr, Inhabited

namespace Toml

abbrev Entries := List (String × Toml)

def Entries.value? (entries : Entries) (key : String) : Option Toml :=
  (List.find? (fun entry => entry.1 = key) entries).map Prod.snd

def Entries.put (entries : Entries) (key : String) (value : Toml) : Entries :=
  match entries with
  | [] => [(key, value)]
  | entry :: rest => if entry.1 = key then (key, value) :: rest else entry :: put rest key value

abbrev Edit := Origin → Entries → Option (Origin × Entries)

/-- Edits the table at the end of a path and makes the tables that are missing on the way. Dotted
keys do not lead through tables with a header, and nothing leads through an inline table. -/
def Edit.at (edit : Edit) (dotted : Bool) : List String → Edit
  | [], origin, entries => edit origin entries
  | key :: path, origin, entries =>
    match entries.value? key with
    | none => do
      let (made, inner) ← Edit.at edit dotted path (if dotted then .dotted else .implied) []
      return (origin, entries.put key (.table made inner))
    | some (.table found inner) =>
      if found = .inline ∨ dotted ∧ found = .header then none
      else do
        let (made, inner) ← Edit.at edit dotted path found inner
        return (origin, entries.put key (.table made inner))
    | some (.tables (latest :: earlier)) => do
      let (_, inner) ← Edit.at edit dotted path .header latest
      return (origin, entries.put key (.tables (inner :: earlier)))
    | some _ => none

def assign (path : List String) (key : String) (value : Toml) : Edit :=
  Edit.at
    (fun origin entries =>
      if path ≠ [] ∧ origin ≠ .dotted then none
      else if (entries.value? key).isSome then none
      else some (origin, entries ++ [(key, value)]))
    true path

/-- Opens a table by its header. Only a table that was implied so far may have one. -/
def openTable (path : List String) (key : String) : Edit :=
  Edit.at
    (fun origin entries =>
      match entries.value? key with
      | none => some (origin, entries ++ [(key, .table .header [])])
      | some (.table .implied inner) => some (origin, entries.put key (.table .header inner))
      | some _ => none)
    false path

def openItem (path : List String) (key : String) : Edit :=
  Edit.at
    (fun origin entries =>
      match entries.value? key with
      | none => some (origin, entries ++ [(key, .tables [[]])])
      | some (.tables items) => some (origin, entries.put key (.tables ([] :: items)))
      | some _ => none)
    false path

def nat? (limit : Nat) : Toml → Option Nat
  | .integer (.ofNat value) => if value ≤ limit then some value else none
  | _ => none

def word? (value : Toml) : Option UInt16 := (value.nat? 0xffff).map UInt16.ofNat

def size? (value : Toml) : Option Nat := value.nat? Text.largestSize

def bool? : Toml → Option Bool
  | .bool value => some value
  | _ => none

def text? : Toml → Option String
  | .text value => some value
  | _ => none

/-- The fields of a record: by their names in a table, or by their places in an array, where more
may follow. A moment is a record without any of them. -/
def record? (keys : List String) : Toml → Option (List (Option Toml))
  | .table _ entries => some (keys.map fun key => Toml.Entries.value? entries key)
  | .array items => some (keys.mapIdx fun place _ => items[place]?)
  | .tables items =>
    some (keys.mapIdx fun place _ => (items.reverse[place]?).map (Toml.table .header))
  | .moment _ => some (keys.map fun _ => none)
  | _ => none

def orElse? {α : Type} (usual : α) (decode : Toml → Option α) : Option Toml → Option α
  | none => some usual
  | some value => decode value

end Toml

end Mailroom
