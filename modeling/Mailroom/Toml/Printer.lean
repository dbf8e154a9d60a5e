import Mailroom.Text.Numeral

/-!
Writing TOML strings in the plainest of the four kinds that can hold them.
-/

namespace Mailroom.Toml

structure Features where
  singleRun : Nat := 0
  doubleRun : Nat := 0
  controls : Bool := false
  backslash : Bool := false
  newline : Bool := false
  deriving DecidableEq, Repr, Inhabited

def longestRun (wanted : Char) : List Char → Nat → Nat → Nat
  | [], current, longest => max current longest
  | char :: rest, current, longest =>
    if char = wanted then longestRun wanted rest (current + 1) longest
    else longestRun wanted rest 0 (max current longest)

def isControl (char : Char) : Bool := char.toNat < 0x20 || char.toNat = 0x7f

def Features.of (chars : List Char) : Features :=
  { singleRun := longestRun '\'' chars 0 0
    doubleRun := longestRun '"' chars 0 0
    controls := chars.any fun char => isControl char && char ≠ '\t' && char ≠ '\n'
    backslash := '\\' ∈ chars
    newline := '\n' ∈ chars }

inductive Style where
  | basic
  | literal
  | basicBlock
  | literalBlock
  deriving DecidableEq, Repr

/-- The first kind that needs no escapes but for tabs, or else a kind with escapes. -/
def Features.style (features : Features) : Style :=
  if !features.controls && !features.backslash && features.doubleRun = 0 && !features.newline then
    .basic
  else if !features.controls && features.singleRun = 0 && !features.newline then .literal
  else if !features.controls && !features.backslash && features.doubleRun ≤ 2 then .basicBlock
  else if !features.controls && features.singleRun ≤ 2 then .literalBlock
  else if features.newline then .basicBlock
  else .basic

def escape (char : Char) : List Char :=
  if char = '\x08' then ['\\', 'b']
  else if char = '\t' then ['\\', 't']
  else if char = '\n' then ['\\', 'n']
  else if char = '\x0c' then ['\\', 'f']
  else if char = '\r' then ['\\', 'r']
  else if char = '\\' then ['\\', '\\']
  else if isControl char then
    ['\\', 'u', '0', '0', (Nat.digitChar (char.toNat / 16)).toUpper,
      (Nat.digitChar (char.toNat % 16)).toUpper]
  else [char]

def escapeAll (quotes : Nat) (newlines : Bool) : Nat → List Char → List Char
  | _, [] => []
  | run, '"' :: rest =>
    if run < quotes then '"' :: escapeAll quotes newlines (run + 1) rest
    else '\\' :: '"' :: escapeAll quotes newlines 0 rest
  | _, '\n' :: rest =>
    (if newlines then ['\n'] else escape '\n') ++ escapeAll quotes newlines 0 rest
  | _, char :: rest => escape char ++ escapeAll quotes newlines 0 rest

def stringChars (chars : List Char) : List Char :=
  let features := Features.of chars
  let opening := if features.newline then ['\n'] else []
  match features.style with
  | .basic => '"' :: escapeAll 0 false 0 chars ++ ['"']
  | .literal => '\'' :: chars ++ ['\'']
  | .basicBlock => ['"', '"', '"'] ++ opening ++ escapeAll 2 true 0 chars ++ ['"', '"', '"']
  | .literalBlock => ['\'', '\'', '\''] ++ opening ++ chars ++ ['\'', '\'', '\'']

def renderText (text : String) : String := String.ofList (stringChars text.toList)

end Mailroom.Toml
