import Mailroom.Text.Numeral

/-!
TOML strings: basic ones with escapes and literal ones without, each on one line between single
delimiters or over several lines between triple ones.
-/

namespace Mailroom.Toml

def isPlain (char : Char) : Bool :=
  char = '\t' || (0x20 ≤ char.toNat && char.toNat ≠ 0x7f)

def isSpace (char : Char) : Bool := char = ' ' || char = '\t'

def unescape? (char : Char) : Option Char :=
  if char = 'b' then some '\x08'
  else if char = 't' then some '\t'
  else if char = 'n' then some '\n'
  else if char = 'f' then some '\x0c'
  else if char = 'r' then some '\r'
  else if char = '"' then some '"'
  else if char = '\\' then some '\\'
  else none

def codePoint? (digits : List Char) : Option Char :=
  match Text.digits? 16 digits 0 with
  | some code => if code.isValidChar then some (Char.ofNat code) else none
  | none => none

def consTo (char : Char) (read : Option (List Char × List Char)) : Option (List Char × List Char) :=
  read.map fun (body, rest) => (char :: body, rest)

def readBasic : List Char → Option (List Char × List Char)
  | [] => none
  | '"' :: rest => some ([], rest)
  | '\\' :: 'u' :: a :: b :: c :: d :: rest =>
    (codePoint? [a, b, c, d]).bind fun char => consTo char (readBasic rest)
  | '\\' :: 'U' :: a :: b :: c :: d :: e :: f :: g :: h :: rest =>
    (codePoint? [a, b, c, d, e, f, g, h]).bind fun char => consTo char (readBasic rest)
  | '\\' :: letter :: rest =>
    (unescape? letter).bind fun char => consTo char (readBasic rest)
  | char :: rest => if isPlain char && char ≠ '\\' then consTo char (readBasic rest) else none

def readLiteral : List Char → Option (List Char × List Char)
  | [] => none
  | '\'' :: rest => some ([], rest)
  | char :: rest => if isPlain char then consTo char (readLiteral rest) else none

/-- Up to two quotes right before a closing delimiter belong to the string. -/
def closeBlock (quote : Char) : List Char → List Char × List Char
  | first :: second :: rest =>
    if first = quote ∧ second = quote then ([quote, quote], rest)
    else if first = quote then ([quote], second :: rest)
    else ([], first :: second :: rest)
  | [only] => if only = quote then ([quote], []) else ([], [only])
  | [] => ([], [])

/-- Where a string over several lines is: in its text, between a backslash and the end of its
line, or in the blanks that a backslash at the end of a line swallows. -/
inductive Fold where
  | text
  | line
  | blanks
  deriving DecidableEq, Repr

def readBasicBlock : Fold → List Char → Option (List Char × List Char)
  | _, [] => none
  | .line, '\n' :: rest => readBasicBlock .blanks rest
  | .line, '\r' :: '\n' :: rest => readBasicBlock .blanks rest
  | .line, char :: rest => if isSpace char then readBasicBlock .line rest else none
  | .text, '\n' :: rest => consTo '\n' (readBasicBlock .text rest)
  | .blanks, '\n' :: rest => readBasicBlock .blanks rest
  | .text, '\r' :: '\n' :: rest => consTo '\n' (readBasicBlock .text rest)
  | .blanks, '\r' :: '\n' :: rest => readBasicBlock .blanks rest
  | _, '"' :: '"' :: '"' :: rest => some (closeBlock '"' rest)
  | _, '"' :: rest => consTo '"' (readBasicBlock .text rest)
  | _, '\\' :: 'u' :: a :: b :: c :: d :: rest =>
    (codePoint? [a, b, c, d]).bind fun char => consTo char (readBasicBlock .text rest)
  | _, '\\' :: 'U' :: a :: b :: c :: d :: e :: f :: g :: h :: rest =>
    (codePoint? [a, b, c, d, e, f, g, h]).bind fun char =>
      consTo char (readBasicBlock .text rest)
  | _, '\\' :: '\n' :: rest => readBasicBlock .blanks rest
  | _, '\\' :: '\r' :: '\n' :: rest => readBasicBlock .blanks rest
  | _, '\\' :: letter :: rest =>
    if isSpace letter then readBasicBlock .line rest
    else (unescape? letter).bind fun char => consTo char (readBasicBlock .text rest)
  | fold, char :: rest =>
    if fold = .blanks ∧ isSpace char then readBasicBlock .blanks rest
    else if isPlain char && char ≠ '\\' then consTo char (readBasicBlock .text rest)
    else none

def readLiteralBlock : List Char → Option (List Char × List Char)
  | [] => none
  | '\'' :: '\'' :: '\'' :: rest => some (closeBlock '\'' rest)
  | '\n' :: rest => consTo '\n' (readLiteralBlock rest)
  | '\r' :: '\n' :: rest => consTo '\n' (readLiteralBlock rest)
  | char :: rest => if isPlain char then consTo char (readLiteralBlock rest) else none

def dropNewline : List Char → List Char
  | '\n' :: rest => rest
  | '\r' :: '\n' :: rest => rest
  | chars => chars

def readString : List Char → Option (List Char × List Char)
  | '"' :: '"' :: '"' :: rest => readBasicBlock .text (dropNewline rest)
  | '"' :: rest => readBasic rest
  | '\'' :: '\'' :: '\'' :: rest => readLiteralBlock (dropNewline rest)
  | '\'' :: rest => readLiteral rest
  | _ => none

end Mailroom.Toml
