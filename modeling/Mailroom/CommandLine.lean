import Mailroom.Text.Numeral

/-!
Command lines: options by long or short names, with or without values, among plain words. A
double dash ends the options. A grammar may name commands, the first of which takes what follows.
-/

namespace Mailroom.CommandLine

inductive Arity where
  | flag
  | single
  | repeated
  deriving DecidableEq, Repr, Inhabited

structure OptionRule where
  name : String
  short : Option Char := none
  arity : Arity := .single
  deriving DecidableEq, Repr, Inhabited

structure Grammar where
  options : List OptionRule := []
  words : Nat := 0
  commands : List String := []
  deriving DecidableEq, Repr, Inhabited

structure Parsed where
  given : List (String × String) := []
  words : List String := []
  command : Option (String × List String) := none
  deriving DecidableEq, Repr, Inhabited

namespace Grammar

def long? (grammar : Grammar) (name : String) : Option OptionRule :=
  grammar.options.find? fun rule => rule.name = name

def short? (grammar : Grammar) (char : Char) : Option OptionRule :=
  grammar.options.find? fun rule => rule.short = some char

inductive Pending where
  | complete
  | awaits (name : String)
  deriving DecidableEq, Repr

def readLong (grammar : Grammar) (body : List Char) :
    Option (List (String × String) × Pending) :=
  match grammar.long? (String.ofList (body.takeWhile (· ≠ '='))) with
  | none => none
  | some rule =>
    match body.dropWhile (· ≠ '='), rule.arity with
    | [], .flag => some ([(rule.name, "")], .complete)
    | [], _ => some ([], .awaits rule.name)
    | _ :: _, .flag => none
    | _ :: value, _ => some ([(rule.name, String.ofList value)], .complete)

/-- Reads a run of short options, without the dash. The first that takes a value takes the rest
of the run, less an equals sign. -/
def readShort (grammar : Grammar) : List Char → Option (List (String × String) × Pending)
  | [] => some ([], .complete)
  | char :: rest =>
    match grammar.short? char with
    | none => none
    | some rule =>
      if rule.arity = .flag then
        (readShort grammar rest).map fun (given, pending) => ((rule.name, "") :: given, pending)
      else match rest with
        | [] => some ([], .awaits rule.name)
        | '=' :: value => some ([(rule.name, String.ofList value)], .complete)
        | value => some ([(rule.name, String.ofList value)], .complete)

/-- Whether an argument is an option by its form. A single dash is a plain word. -/
def looksLikeOption (argument : String) : Bool :=
  match argument.toList with
  | '-' :: _ :: _ => true
  | _ => false

/-- Reads arguments after those already parsed. An option that awaits its value does not take an
argument that looks like an option. -/
def scan (grammar : Grammar) : List String → Pending → Parsed → Option Parsed
  | [], .complete, parsed => some parsed
  | [], .awaits _, _ => none
  | argument :: rest, .awaits name, parsed =>
    if looksLikeOption argument then none
    else scan grammar rest .complete { parsed with given := parsed.given ++ [(name, argument)] }
  | argument :: rest, .complete, parsed =>
    if argument ∈ grammar.commands then some { parsed with command := some (argument, rest) }
    else if argument = "--" then some { parsed with words := parsed.words ++ rest }
    else
      let options := match argument.toList with
        | '-' :: '-' :: body => some (grammar.readLong body)
        | '-' :: char :: body => some (grammar.readShort (char :: body))
        | _ => none
      match options with
      | none => scan grammar rest .complete { parsed with words := parsed.words ++ [argument] }
      | some none => none
      | some (some (given, pending)) =>
        scan grammar rest pending { parsed with given := parsed.given ++ given }

def repeats (grammar : Grammar) (parsed : Parsed) : Bool :=
  grammar.options.any fun rule =>
    rule.arity ≠ .repeated && 1 < parsed.given.countP fun entry => entry.1 = rule.name

def parse (grammar : Grammar) (arguments : List String) : Option Parsed :=
  match grammar.scan arguments .complete {} with
  | none => none
  | some parsed =>
    if grammar.repeats parsed ∨ parsed.words.length ≠ grammar.words ∨
        parsed.command.isSome ≠ !grammar.commands.isEmpty then none
    else some parsed

end Grammar

namespace Parsed

def valuesOf (parsed : Parsed) (name : String) : List String :=
  (parsed.given.filter fun entry => entry.1 = name).map Prod.snd

def value? (parsed : Parsed) (name : String) : Option String := (parsed.valuesOf name).head?

def has (parsed : Parsed) (name : String) : Bool := (parsed.value? name).isSome

def valueOr {α : Type} (parsed : Parsed) (name : String) (usual : α) (read : String → Option α) :
    Option α :=
  match parsed.value? name with
  | none => some usual
  | some text => read text

end Parsed

/-- A 16-bit word as a decimal integer with an optional sign. Zero may be negative. -/
def word? (text : String) : Option UInt16 :=
  match text.toList with
  | '-' :: digits =>
    if digits ≠ [] ∧ Text.digits? 10 digits 0 = some 0 then some 0 else none
  | digits => Text.wordNumeral? digits

def size? (text : String) : Option Nat := Text.numeral? 10 Text.largestSize text.toList

end Mailroom.CommandLine
