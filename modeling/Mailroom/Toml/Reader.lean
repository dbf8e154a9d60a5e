import Mailroom.Toml.Moment
import Mailroom.Toml.Number
import Mailroom.Toml.Strings

/-!
Reading TOML documents: lines of keys and values under table headers. Names may be dotted, and a
value may nest arrays and inline tables to a bounded depth.
-/

namespace Mailroom.Toml

/-- Dotted names have fewer parts than this, and values nest less deep. -/
def depthLimit : Nat := 80

def skipSpace (chars : List Char) : List Char := chars.dropWhile isSpace

def skipTrivia (comment : Bool) : List Char → Option (List Char)
  | [] => some []
  | '\n' :: rest => skipTrivia false rest
  | '\r' :: '\n' :: rest => skipTrivia false rest
  | char :: rest =>
    if comment then if isPlain char then skipTrivia true rest else none
    else if isSpace char then skipTrivia false rest
    else if char = '#' then skipTrivia true rest
    else some (char :: rest)

def endLine (chars : List Char) : Option (List Char) :=
  let rest := match skipSpace chars with
    | '#' :: comment => comment.dropWhile isPlain
    | other => other
  match rest with
  | [] => some []
  | '\n' :: after => some after
  | '\r' :: '\n' :: after => some after
  | _ => none

def isBareKey (char : Char) : Bool :=
  ('a' ≤ char && char ≤ 'z') || ('A' ≤ char && char ≤ 'Z') || char.isDigit || char = '-' ||
    char = '_'

def readPart (chars : List Char) : Option (String × List Char) :=
  let part := match skipSpace chars with
    | '"' :: rest => readBasic rest
    | '\'' :: rest => readLiteral rest
    | other =>
      let bare := other.takeWhile isBareKey
      if bare = [] then none else some (bare, other.dropWhile isBareKey)
  part.map fun (body, rest) => (String.ofList body, skipSpace rest)

def readParts : Nat → List Char → Option (List String × List Char)
  | 0, _ => none
  | fuel + 1, chars =>
    match readPart chars with
    | none => none
    | some (part, '.' :: rest) =>
      (readParts fuel rest).map fun (parts, after) => (part :: parts, after)
    | some (part, rest) => some ([part], rest)

def readName (chars : List Char) : Option (List String × String × List Char) :=
  match readParts (depthLimit - 1) chars with
  | none => none
  | some (parts, rest) => parts.getLast?.map fun last => (parts.dropLast, last, rest)

def readScalar (chars : List Char) : Option (Toml × List Char) :=
  match chars with
  | 't' :: 'r' :: 'u' :: 'e' :: rest => some (.bool true, rest)
  | 'f' :: 'a' :: 'l' :: 's' :: 'e' :: rest => some (.bool false, rest)
  | '"' :: _ | '\'' :: _ =>
    (readString chars).map fun (body, rest) => (.text (String.ofList body), rest)
  | _ =>
    match readMoment chars with
    | some found => some found
    | none =>
      match readFloat chars with
      | .number value rest => some (value, rest)
      | .tooLarge => none
      | .absent => readInteger chars

mutual

def readValue : Nat → Nat → List Char → Option (Toml × List Char)
  | 0, _, _ => none
  | fuel + 1, depth, chars =>
    match chars with
    | '[' :: rest =>
      if depth + 1 < depthLimit then
        (readItems fuel (depth + 1) rest).map fun (items, after) => (.array items, after)
      else none
    | '\x7b' :: rest =>
      if depth + 1 < depthLimit then
        match skipSpace rest with
        | '\x7d' :: after => some (.table .inline [], after)
        | fields =>
          (readFields fuel (depth + 1) [] fields).map fun (entries, after) =>
            (.table .inline entries, after)
      else none
    | other => readScalar other

def readItems : Nat → Nat → List Char → Option (List Toml × List Char)
  | 0, _, _ => none
  | fuel + 1, depth, chars =>
    match skipTrivia false chars with
    | none => none
    | some (']' :: after) => some ([], after)
    | some items =>
      match readValue fuel depth items with
      | none => none
      | some (item, rest) =>
        match skipTrivia false rest with
        | some (']' :: after) => some ([item], after)
        | some (',' :: others) =>
          (readItems fuel depth others).map fun (items, after) => (item :: items, after)
        | _ => none

def readFields : Nat → Nat → Entries → List Char → Option (Entries × List Char)
  | 0, _, _, _ => none
  | fuel + 1, depth, entries, chars =>
    match readName chars with
    | some (path, key, '=' :: rest) =>
      match readValue fuel depth (skipSpace rest) with
      | none => none
      | some (value, rest) =>
        match assign path key value .inline entries with
        | none => none
        | some (_, grown) =>
          match skipSpace rest with
          | '\x7d' :: after => some (grown, after)
          | ',' :: others => readFields fuel depth grown others
          | _ => none
    | _ => none

end

structure Draft where
  current : List String := []
  entries : Entries := []
  deriving Inhabited

def Draft.edit (draft : Draft) (edit : Edit) : Option Draft :=
  (edit .header draft.entries).map fun (_, entries) => { draft with entries }

def readHeader (brackets : Nat) (chars : List Char) :
    Option (List String × String × List Char) :=
  match readName chars with
  | some (path, key, rest) =>
    if rest.take brackets = List.replicate brackets ']' then
      (endLine (rest.drop brackets)).map fun after => (path, key, after)
    else none
  | none => none

def readLine (fuel : Nat) (draft : Draft) (chars : List Char) : Option (Draft × List Char) :=
  match chars with
  | '[' :: '[' :: rest => do
    let (path, key, after) ← readHeader 2 rest
    let edited ← draft.edit (openItem path key)
    return ({ edited with current := path ++ [key] }, after)
  | '[' :: rest => do
    let (path, key, after) ← readHeader 1 rest
    let edited ← draft.edit (openTable path key)
    return ({ edited with current := path ++ [key] }, after)
  | _ =>
    match readName chars with
    | some (path, key, '=' :: rest) => do
      let (value, after) ← readValue fuel 0 (skipSpace rest)
      let left ← endLine after
      let edited ← draft.edit (Edit.at (assign path key value) false draft.current)
      return (edited, left)
    | _ => none

/-- The lines of a document after a draft of it. Each takes at least one character. -/
def readLines : Nat → Draft → List Char → Option Entries
  | 0, _, _ => none
  | fuel + 1, draft, chars =>
    match skipTrivia false chars with
    | none => none
    | some [] => some draft.entries
    | some rest =>
      match readLine (2 * rest.length + 2) draft rest with
      | none => none
      | some (grown, after) => readLines fuel grown after

def byteOrderMark : Char := '\ufeff'

def parse? (text : String) : Option Entries :=
  let chars := match text.toList with
    | first :: rest => if first = byteOrderMark then rest else first :: rest
    | [] => []
  readLines (chars.length + 1) {} chars

end Mailroom.Toml
