import Mailroom.Text.Numeral

/-!
Text in pieces: blanks in the sense of the Unicode property White_Space are trimmed, a separator
cuts a text, and a set of named bits is its names joined by bars, with one hexadecimal numeral for
the bits without a name.
-/

namespace Mailroom.Text

def blankRanges : List (Nat × Nat) :=
  [(0x9, 0xd), (0x20, 0x20), (0x85, 0x85), (0xa0, 0xa0), (0x1680, 0x1680), (0x2000, 0x200a),
   (0x2028, 0x2029), (0x202f, 0x202f), (0x205f, 0x205f), (0x3000, 0x3000)]

def isBlank (char : Char) : Bool :=
  blankRanges.any fun (first, last) => first ≤ char.toNat && char.toNat ≤ last

def trim (chars : List Char) : List Char :=
  ((chars.dropWhile isBlank).reverse.dropWhile isBlank).reverse

def pieces (separator : Char) : List Char → List (List Char)
  | [] => [[]]
  | char :: rest =>
    if char = separator then [] :: pieces separator rest
    else match pieces separator rest with
      | [] => [[char]]
      | piece :: others => (char :: piece) :: others

abbrev BitNames := List (String × UInt16)

/-- A name is written when all its bits are set and one of them is not yet written. The second
part holds the bits that no name accounts for. -/
def flagNames (source : UInt16) : BitNames → UInt16 → List String × UInt16
  | [], remaining => ([], remaining)
  | (name, bits) :: names, remaining =>
    if source &&& bits = bits ∧ remaining &&& bits ≠ 0 then
      let (others, rest) := flagNames source names (remaining &&& ~~~bits)
      (name :: others, rest)
    else flagNames source names remaining

def writeFlags (names : BitNames) (bits : UInt16) : String :=
  let (named, rest) := flagNames bits names bits
  " | ".intercalate (named ++ if rest = 0 then [] else ["0x" ++ hexNumeral 1 rest.toNat])

def readFlag? (names : BitNames) (chars : List Char) : Option UInt16 :=
  match chars with
  | '0' :: 'x' :: digits => (numeral? 16 0xffff digits).map UInt16.ofNat
  | _ => (names.find? fun entry => entry.1.toList = chars).map Prod.snd

/-- Blank text is the empty set; otherwise every piece between bars is a name or a numeral. -/
def readFlags? (names : BitNames) (text : String) : Option UInt16 :=
  if trim text.toList = [] then some 0
  else ((pieces '|' text.toList).mapM fun piece => readFlag? names (trim piece)).map
    (List.foldl (· ||| ·) 0)

end Mailroom.Text
