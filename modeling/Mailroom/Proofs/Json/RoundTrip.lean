import Mailroom.Json.Printer
import Mailroom.Json.Reader
import Mailroom.Proofs.Text.Numeral

/-!
Reading undoes printing: a value whose numbers are whole and fit 64 bits comes back from the line
that it is printed as, whatever characters its strings hold.
-/

namespace Mailroom.Json

/-- Values that are read back as they are. -/
inductive Legible : Json → Prop
  | null : Legible .null
  | bool (value : Bool) : Legible (.bool value)
  | integer {value : Int} (low : -0x8000000000000000 ≤ value) (high : value ≤ Text.largestSize) :
      Legible (.integer value)
  | text (value : String) : Legible (.text value)
  | array {items : List Json} (legible : ∀ item ∈ items, Legible item) : Legible (.array items)
  | object {fields : List (String × Json)} (legible : ∀ field ∈ fields, Legible field.2) :
      Legible (.object fields)

def Stops (rest : List Char) : Prop :=
  ∀ char ∈ rest.head?, char.isDigit = false ∧ char ∉ ['.', 'e', 'E']

theorem stops_nil : Stops [] := by simp [Stops]

theorem stops_cons {char : Char} {rest : List Char} (mark : char ∈ [',', ']', '}']) :
    Stops (char :: rest) := by
  simp only [List.mem_cons, List.not_mem_nil, or_false] at mark
  rcases mark with rfl | rfl | rfl <;> simp [Stops]

theorem skipSpace_cons {char : Char} (rest : List Char) (mark : isSpace char = false) :
    skipSpace (char :: rest) = char :: rest := by
  simp [skipSpace, mark]

section Strings

theorem hexUnit_control : ∀ code < 0x20,
    hexUnit? '0' '0' (Nat.digitChar (code / 16)) (Nat.digitChar (code % 16)) = some code := by
  decide

theorem readString_short {letter char : Char} (short : unescape? letter = some char)
    (other : letter ≠ 'u') (rest : List Char) :
    readString (['\\', letter] ++ rest) =
      (readString rest).map fun (body, after) => (char :: body, after) := by
  rw [List.cons_append, List.singleton_append, readString]
  · simp only [short]
  · intro a b c d after same
    exact absurd same other

theorem readString_control {char : Char} (control : char.toNat < 0x20) (rest : List Char) :
    readString (['\\', 'u', '0', '0', Nat.digitChar (char.toNat / 16),
      Nat.digitChar (char.toNat % 16)] ++ rest) =
      (readString rest).map fun (body, after) => (char :: body, after) := by
  have low : ¬ (0xdc00 ≤ char.toNat ∧ char.toNat ≤ 0xdfff) := by omega
  have high : ¬ (0xd800 ≤ char.toNat ∧ char.toNat ≤ 0xdbff) := by omega
  simp only [List.cons_append, List.nil_append, readString, hexUnit_control _ control, if_neg low,
    if_neg high, Char.ofNat_toNat]

theorem readString_bare {char : Char} (quote : char ≠ '"') (backslash : char ≠ '\\')
    (legible : ¬ char.toNat < 0x20) (rest : List Char) :
    readString ([char] ++ rest) =
      (readString rest).map fun (body, after) => (char :: body, after) := by
  rw [List.singleton_append, readString]
  · simp [legible, backslash]
  · exact quote
  · intro a b c d after same
    exact absurd same backslash
  · intro letter after same
    exact absurd same backslash

theorem readString_escape (char : Char) (rest : List Char) :
    readString (escape char ++ rest) =
      (readString rest).map fun (body, after) => (char :: body, after) := by
  unfold escape
  split_ifs with quote backslash _ _ _ _ _ control
  on_goal 8 => exact readString_control control rest
  on_goal 8 => exact readString_bare quote backslash control rest
  all_goals
    subst char
    exact readString_short (by decide) (by decide) rest

theorem readString_escaped (body : List Char) (rest : List Char) :
    readString (body.flatMap escape ++ '"' :: rest) = some (body, rest) := by
  induction body with
  | nil => simp [readString]
  | cons char body ih =>
      rw [List.flatMap_cons, List.append_assoc, readString_escape, ih]
      rfl

theorem readKey_written (value : String) (rest : List Char) :
    readKey (value.toList.flatMap escape ++ '"' :: rest) = some (some value, rest) := by
  rw [readKey, readString_escaped]
  simp only [String.ofList_toList]

end Strings

section Numbers

theorem stops_takeWhile {rest : List Char} (stops : Stops rest) :
    rest.takeWhile Char.isDigit = [] ∧ rest.dropWhile Char.isDigit = rest := by
  cases rest with
  | nil => exact ⟨rfl, rfl⟩
  | cons char rest =>
      have other : char.isDigit = false := (stops char (by simp)).1
      simp [other]

theorem readFraction_stops {rest : List Char} (stops : Stops rest) :
    readFraction rest = some ([], rest) := by
  cases rest with
  | nil => rfl
  | cons char rest =>
      have other := (stops char (by simp)).2
      rw [readFraction]
      rintro after ⟨rfl, _⟩
      simp at other

theorem readExponent_stops {rest : List Char} (stops : Stops rest) :
    readExponent rest = some ([], rest) := by
  cases rest with
  | nil => rfl
  | cons char rest =>
      have other := (stops char (by simp)).2
      simp only [List.mem_cons, List.not_mem_nil, or_false, not_or] at other
      simp [readExponent, other.2]

theorem toDigits_front {number : Nat} (long : 1 < (Nat.toDigits 10 number).length) :
    (Nat.toDigits 10 number).head? ≠ some '0' := by
  intro front
  obtain ⟨rest, digits⟩ := List.head?_eq_some_iff.mp front
  have decimal : ∀ char ∈ rest, char.isDigit = true := fun char member =>
    Text.toDigits_decimal number char (digits ▸ List.mem_cons_of_mem '0' member)
  have value : Nat.ofDigitChars 10 ('0' :: rest) 0 = number := by
    rw [← digits, Text.toDigits_value]
  have bound : number < 10 ^ rest.length := by
    have bound := Text.ofDigitChars_lt decimal 0
    rwa [show Nat.ofDigitChars 10 rest 0 = number from value, Nat.zero_add, Nat.one_mul] at bound
  rw [digits, List.length_cons] at long
  have short := (Nat.length_toDigits_le_iff (by decide) (Nat.lt_of_succ_lt_succ long)).mpr bound
  rw [digits, List.length_cons] at short
  omega

theorem digits_value (number : Nat) : Text.digits? 10 (Nat.toDigits 10 number) 0 = some number :=
  (Text.digits_iff _).mpr ⟨Text.toDigits_decimal number, Text.toDigits_value number⟩

theorem exists_digits (number : Nat) :
    ∃ first digits, Nat.toDigits 10 number = first :: digits ∧ first.isDigit = true := by
  obtain ⟨first, digits, run⟩ := List.exists_cons_of_ne_nil (Nat.toDigits_ne_nil (n := number))
  exact ⟨first, digits, run, Text.toDigits_decimal number first (run ▸ List.mem_cons_self)⟩

theorem readNumber_whole (negative : Bool) (number : Nat) {rest : List Char}
    (stops : Stops rest) :
    readNumber ((if negative then ['-'] else []) ++ (Nat.toDigits 10 number ++ rest)) =
      some (wholeNumber negative (Nat.toDigits 10 number), rest) := by
  have decimal := Text.toDigits_decimal number
  have run : (Nat.toDigits 10 number ++ rest).takeWhile Char.isDigit = Nat.toDigits 10 number := by
    rw [List.takeWhile_append_of_pos decimal, (stops_takeWhile stops).1, List.append_nil]
  have left : (Nat.toDigits 10 number ++ rest).dropWhile Char.isDigit = rest := by
    rw [List.dropWhile_append_of_pos decimal, (stops_takeWhile stops).2]
  have unsigned : ∀ after, Nat.toDigits 10 number ++ rest ≠ '-' :: after := by
    intro after same
    obtain ⟨first, digits, written, digit⟩ := exists_digits number
    rw [written] at same
    cases same
    cases digit
  cases negative <;>
    simpa [readNumber, run, left, readFraction_stops stops, readExponent_stops stops] using
      toDigits_front

theorem wholeNumber_written {value : Int} (low : -0x8000000000000000 ≤ value)
    (high : value ≤ Text.largestSize) :
    wholeNumber (value < 0) (Nat.toDigits 10 value.natAbs) = .integer value := by
  simp only [wholeNumber, digits_value, Option.getD_some]
  by_cases negative : value < 0
  · have fits : ¬ (value.natAbs = 0 ∨ value.natAbs > 0x8000000000000000) := by omega
    rw [if_pos (decide_eq_true negative), if_neg fits]
    exact congrArg Json.integer (by omega)
  · have fits : value.natAbs ≤ Text.largestSize := by omega
    rw [if_neg (by simpa using negative), if_pos fits]
    exact congrArg Json.integer (by omega)

theorem integer_written (value : Int) :
    (toString value).toList =
      (if value < 0 then ['-'] else []) ++ Nat.toDigits 10 value.natAbs := by
  by_cases negative : value < 0
  · have size : (-value).toNat = value.natAbs := by omega
    simp [Int.toString_eq_repr, Int.repr_eq_if, negative, Int.not_le.mpr negative, size]
  · have size : value.toNat = value.natAbs := by omega
    simp [Int.toString_eq_repr, Int.repr_eq_if, negative, Int.not_lt.mp negative, size]

theorem readNumber_written {value : Int} (low : -0x8000000000000000 ≤ value)
    (high : value ≤ Text.largestSize) {rest : List Char} (stops : Stops rest) :
    readNumber ((toString value).toList ++ rest) = some (.integer value, rest) := by
  have read := readNumber_whole (value < 0) value.natAbs stops
  rw [wholeNumber_written low high] at read
  simpa only [integer_written, List.append_assoc, decide_eq_true_eq] using read

theorem integer_front (value : Int) : ∃ first digits,
    (toString value).toList = first :: digits ∧ (first = '-' ∨ first.isDigit = true) := by
  obtain ⟨first, digits, run, digit⟩ := exists_digits value.natAbs
  rw [integer_written, run]
  split
  · exact ⟨'-', first :: digits, rfl, Or.inl rfl⟩
  · exact ⟨first, digits, rfl, Or.inr digit⟩

theorem numeric_mark {first : Char} (numeric : first = '-' ∨ first.isDigit = true) :
    isSpace first = false ∧ first ≠ ']' := by
  rcases numeric with rfl | digit
  · decide
  · simp only [isSpace, Bool.or_eq_false_iff, decide_eq_false_iff_not]
    refine ⟨⟨⟨⟨?_, ?_⟩, ?_⟩, ?_⟩, ?_⟩ <;> rintro rfl <;> cases digit

end Numbers

section Values

def IsRead (value : Json) : Prop :=
  ∀ fuel rest, value.chars.length ≤ fuel → Stops rest →
    readValue fuel (value.chars ++ rest) = some (value, rest)

theorem isRead_null : IsRead .null := by
  intro fuel rest enough _
  cases fuel with
  | zero => simp [chars] at enough
  | succ fuel => simp [chars, readValue, skipSpace, isSpace]

theorem isRead_bool (value : Bool) : IsRead (.bool value) := by
  intro fuel rest enough _
  cases fuel with
  | zero => cases value <;> simp [chars] at enough
  | succ fuel => cases value <;> simp [chars, readValue, skipSpace, isSpace]

theorem isRead_text (value : String) : IsRead (.text value) := by
  intro fuel rest enough _
  cases fuel with
  | zero => simp [chars, stringChars] at enough
  | succ fuel =>
      have read := readKey_written value rest
      simp [chars, stringChars, readValue, skipSpace, isSpace, read]

theorem isRead_integer {value : Int} (low : -0x8000000000000000 ≤ value)
    (high : value ≤ Text.largestSize) : IsRead (.integer value) := by
  intro fuel rest enough stops
  have read := readNumber_written low high stops
  obtain ⟨first, digits, written, numeric⟩ := integer_front value
  rw [chars, written] at enough ⊢
  rw [written] at read
  cases fuel with
  | zero => simp at enough
  | succ fuel =>
      rw [List.cons_append] at read ⊢
      rw [readValue, skipSpace_cons _ (numeric_mark numeric).1]
      split
      on_goal 7 => exact read
      all_goals
        rename_i same
        obtain ⟨rfl, _⟩ := List.cons.inj same
        simp at numeric

theorem Legible.front {value : Json} (legible : Legible value) :
    ∃ first more, value.chars = first :: more ∧ isSpace first = false ∧ first ≠ ']' := by
  cases legible with
  | null => exact ⟨_, _, rfl, by decide, by decide⟩
  | bool value => cases value <;> exact ⟨_, _, rfl, by decide, by decide⟩
  | integer low high =>
      obtain ⟨first, digits, written, numeric⟩ := integer_front _
      exact ⟨first, digits, written, numeric_mark numeric⟩
  | text value => exact ⟨_, _, rfl, by decide, by decide⟩
  | @array items legible => cases items <;> exact ⟨_, _, rfl, by decide, by decide⟩
  | @object fields legible => cases fields <;> exact ⟨_, _, rfl, by decide, by decide⟩

theorem readItems_written {item : Json} {items : List Json}
    (read : ∀ value ∈ item :: items, IsRead value) {fuel : Nat}
    (enough : item.chars.length + (itemChars items).length ≤ fuel) (rest : List Char) :
    readItems fuel (item.chars ++ (itemChars items ++ rest)) = some (item :: items, rest) := by
  induction items generalizing item fuel with
  | nil =>
      cases fuel with
      | zero => simp [itemChars] at enough
      | succ fuel =>
          have first := read item List.mem_cons_self fuel (']' :: rest)
            (by simpa [itemChars] using enough) (stops_cons (by simp))
          simp [readItems, itemChars, first, skipSpace, isSpace]
  | cons next items ih =>
      cases fuel with
      | zero => simp [itemChars] at enough
      | succ fuel =>
          simp only [itemChars, List.length_append, List.length_cons] at enough
          have first := read item List.mem_cons_self fuel
            (',' :: (next.chars ++ (itemChars items ++ rest))) (by omega) (stops_cons (by simp))
          have others : readItems fuel (next.chars ++ (itemChars items ++ rest)) =
              some (next :: items, rest) :=
            ih (fun value member => read value (List.mem_cons_of_mem _ member)) (by omega)
          simp [readItems, itemChars, first, skipSpace, isSpace, others]

theorem isRead_array {items : List Json} (legible : ∀ item ∈ items, Legible item)
    (read : ∀ item ∈ items, IsRead item) : IsRead (.array items) := by
  intro fuel rest enough _
  cases fuel with
  | zero => cases items <;> simp [chars] at enough
  | succ fuel =>
      cases items with
      | nil => simp [chars, readValue, skipSpace, isSpace]
      | cons item items =>
          obtain ⟨first, more, written, mark, other⟩ := (legible item List.mem_cons_self).front
          simp only [chars, List.length_cons, List.length_append] at enough
          have inside : readItems fuel (item.chars ++ (itemChars items ++ rest)) =
              some (item :: items, rest) := readItems_written read (by omega) rest
          simp only [written, List.cons_append] at inside
          have bracket : isSpace '[' = false := rfl
          simp [chars, readValue, skipSpace_cons, written, bracket, mark, other, inside]

theorem readFields_written {field : String × Json} {fields : List (String × Json)}
    (read : ∀ other ∈ field :: fields, IsRead other.2) {fuel : Nat}
    (enough : (fieldChars field).length + (fieldsChars fields).length ≤ fuel) (rest : List Char) :
    readFields fuel (fieldChars field ++ (fieldsChars fields ++ rest)) =
      some ((field :: fields).map fun other => (some other.1, other.2), rest) := by
  induction fields generalizing field fuel with
  | nil =>
      cases fuel with
      | zero => simp [fieldsChars] at enough
      | succ fuel =>
          obtain ⟨key, value⟩ := field
          have first : IsRead value := read (key, value) List.mem_cons_self
          simp only [fieldsChars, fieldChars, stringChars, List.cons_append, List.length_cons,
            List.length_append] at enough
          have name := readKey_written key (':' :: (value.chars ++ '}' :: rest))
          have held := first fuel ('}' :: rest) (by omega) (stops_cons (by simp))
          simp [readFields, fieldsChars, fieldChars, stringChars, name, held, skipSpace, isSpace]
  | cons next fields ih =>
      cases fuel with
      | zero => simp [fieldsChars] at enough
      | succ fuel =>
          obtain ⟨key, value⟩ := field
          have first : IsRead value := read (key, value) List.mem_cons_self
          simp only [fieldsChars, fieldChars, stringChars, List.cons_append, List.length_cons,
            List.length_append] at enough
          let more := ',' :: (fieldChars next ++ (fieldsChars fields ++ rest))
          have name := readKey_written key (':' :: (value.chars ++ more))
          have held := first fuel more (by omega) (stops_cons (by simp))
          have others : readFields fuel (fieldChars next ++ (fieldsChars fields ++ rest)) = _ :=
            ih (fun other member => read other (List.mem_cons_of_mem _ member)) (by omega)
          simp [readFields, fieldsChars, fieldChars, stringChars, more, name, held, others,
            skipSpace, isSpace]

theorem ofFields?_known (fields : List (String × Json)) :
    ofFields? (fields.map fun field => (some field.1, field.2)) = some (.object fields) := by
  have known : (fields.map fun field => (some field.1, field.2)).mapM ofFields?.keyed? =
      some fields := by
    induction fields with
    | nil => rfl
    | cons field fields ih => simp [List.mapM_cons, ofFields?.keyed?, ih]
  rw [ofFields?, known]
  rfl

theorem isRead_object {fields : List (String × Json)}
    (read : ∀ field ∈ fields, IsRead field.2) : IsRead (.object fields) := by
  intro fuel rest enough _
  cases fuel with
  | zero => cases fields <;> simp [chars] at enough
  | succ fuel =>
      cases fields with
      | nil => simp [chars, readValue, skipSpace, isSpace]
      | cons field fields =>
          simp only [chars, List.length_cons, List.length_append] at enough
          have inside : readFields fuel (fieldChars field ++ (fieldsChars fields ++ rest)) = _ :=
            readFields_written read (by omega) rest
          have known := ofFields?_known (field :: fields)
          rw [List.map_cons] at known
          obtain ⟨more, written⟩ : ∃ more, fieldChars field = '"' :: more := by
            obtain ⟨key, value⟩ := field
            exact ⟨_, by rw [fieldChars, stringChars]; rfl⟩
          rw [written, List.cons_append] at inside
          have brace : isSpace '{' = false := rfl
          have quote : isSpace '"' = false := rfl
          simp [chars, readValue, skipSpace_cons, written, brace, quote, inside, known]

theorem Legible.isRead {value : Json} (legible : Legible value) : IsRead value := by
  induction legible with
  | null => exact isRead_null
  | bool value => exact isRead_bool value
  | integer low high => exact isRead_integer low high
  | text value => exact isRead_text value
  | array legible each => exact isRead_array legible each
  | object _ each => exact isRead_object each

/-- The text of a value stands for that value. -/
theorem parse?_render {value : Json} (legible : Legible value) :
    parse? value.render = some value := by
  have read : readValue (2 * value.chars.length + 2) (value.chars ++ []) = some (value, []) :=
    legible.isRead _ _ (by omega) stops_nil
  rw [List.append_nil] at read
  rw [parse?, parseChars?, render, String.toList_ofList, read]
  rfl

end Values

end Mailroom.Json
