import Mailroom.Text.Numeral
import Std.Data.String.ToNat
import Mathlib.Data.String.Basic
import Mathlib.Tactic.Ring
import Mathlib.Tactic.SplitIfs

/-!
Decimal numerals. Digits are read as the number they stand for in base ten, and a word is read from
its digits, leading zeros and a plus sign allowed; the shortest of its numerals is the one that is
written.
-/

namespace Mailroom.Text

theorem digit_ten (char : Char) :
    digit? 10 char = if char.isDigit then some (char.toNat - '0'.toNat) else none := by
  have digit : ('0' ≤ char ∧ char ≤ '9') ↔ char.isDigit = true := Char.isDigit_iff_toNat.symm
  simp only [digit?, digit, Char.reduceToNat]
  split_ifs with decimal
  · have bounds : 48 ≤ char.toNat ∧ char.toNat ≤ 57 := Char.isDigit_iff_toNat.mp decimal
    simp only [Option.filter, decide_eq_true_eq]
    exact if_pos (by omega)
  all_goals simp [Option.filter]

theorem digits_iff (digits : List Char) {total value : Nat} :
    digits? 10 digits total = some value ↔
      (∀ char ∈ digits, char.isDigit = true) ∧ Nat.ofDigitChars 10 digits total = value := by
  induction digits generalizing total with
  | nil => simp [digits?]
  | cons char rest ih =>
      rw [digits?, digit_ten, Nat.ofDigitChars_cons, Nat.mul_comm 10 total]
      by_cases digit : char.isDigit = true
      · simp [digit, ih]
      · simp [digit]

/-- Digits, at least one, that stand for a word. -/
structure IsDecimal (word : UInt16) (digits : List Char) : Prop where
  filled : digits ≠ []
  decimal : ∀ char ∈ digits, char.isDigit = true
  value : Nat.ofDigitChars 10 digits 0 = word.toNat

def IsNumeral (word : UInt16) (chars : List Char) : Prop :=
  IsDecimal word chars ∨ ∃ digits, chars = '+' :: digits ∧ IsDecimal word digits

theorem isDecimal_iff (digits : List Char) (word : UInt16) :
    (if digits = [] then none else (digits? 10 digits 0).filter (· ≤ 0xffff)).map UInt16.ofNat =
      some word ↔ IsDecimal word digits := by
  by_cases empty : digits = []
  · simp only [empty, if_true, Option.map_none, reduceCtorEq, false_iff]
    exact fun decimal => decimal.filled rfl
  · rw [if_neg empty]
    constructor
    · intro reads
      obtain ⟨number, kept, rfl⟩ := Option.map_eq_some_iff.mp reads
      obtain ⟨reads, small⟩ := Option.filter_eq_some_iff.mp kept
      obtain ⟨decimal, rfl⟩ := (digits_iff digits).mp reads
      refine ⟨empty, decimal, (UInt16.toNat_ofNat_of_lt' ?_).symm⟩
      exact Nat.lt_succ_of_le (by simpa using small)
    · intro decimal
      have reads := (digits_iff digits).mpr ⟨decimal.decimal, decimal.value⟩
      have small : word.toNat ≤ 0xffff := Nat.le_of_lt_succ word.toNat_lt
      rw [reads, Option.filter_some_pos (by simpa using small), Option.map_some,
        UInt16.ofNat_toNat]

theorem wordNumeral_iff (chars : List Char) (word : UInt16) :
    wordNumeral? chars = some word ↔ IsNumeral word chars := by
  unfold wordNumeral? numeral?
  dsimp only
  rw [isDecimal_iff]
  split
  · rename_i rest
    have signed : ¬ IsDecimal word ('+' :: rest) := fun decimal =>
      absurd (decimal.decimal '+' List.mem_cons_self) (by decide)
    simp [IsNumeral, signed]
  · rename_i unsigned
    have bare : ¬ ∃ digits, chars = '+' :: digits ∧ IsDecimal word digits := by
      rintro ⟨digits, rfl, _⟩
      exact unsigned digits rfl
    simp [IsNumeral, bare]

theorem IsNumeral.filled {word : UInt16} {chars : List Char} (numeral : IsNumeral word chars) :
    chars ≠ [] := by
  rcases numeral with decimal | ⟨digits, rfl, _⟩
  · exact decimal.filled
  · simp

theorem toDigits_decimal (number : Nat) :
    ∀ char ∈ Nat.toDigits 10 number, char.isDigit = true := fun _ member =>
  Nat.isDigit_of_mem_toDigits (by decide) (by decide) member

theorem toDigits_value (number : Nat) : Nat.ofDigitChars 10 (Nat.toDigits 10 number) 0 = number :=
  Nat.ofDigitChars_toDigits (by decide) (by decide)

theorem digits_written (number : Nat) : (toString number).toList = Nat.toDigits 10 number := by
  rw [Nat.toString_eq_ofList_toDigits, String.toList_ofList]

theorem written_isDecimal (word : UInt16) : IsDecimal word (toString word).toList := by
  have written : (toString word).toList = Nat.toDigits 10 word.toNat := digits_written word.toNat
  rw [written]
  exact ⟨Nat.toDigits_ne_nil, toDigits_decimal _, toDigits_value _⟩

theorem ofDigitChars_lt {digits : List Char} (decimal : ∀ char ∈ digits, char.isDigit = true)
    (total : Nat) : Nat.ofDigitChars 10 digits total < (total + 1) * 10 ^ digits.length := by
  induction digits generalizing total with
  | nil => simp
  | cons char rest ih =>
      have later := ih (fun other member => decimal other (List.mem_cons_of_mem _ member))
        (10 * total + (char.toNat - '0'.toNat))
      have bounds : 48 ≤ char.toNat ∧ char.toNat ≤ 57 :=
        Char.isDigit_iff_toNat.mp (decimal char List.mem_cons_self)
      rw [Nat.ofDigitChars_cons]
      calc _ < _ := later
        _ ≤ (total + 1) * 10 * 10 ^ rest.length := by
          refine Nat.mul_le_mul_right _ ?_
          simp only [Char.reduceToNat]
          omega
        _ = (total + 1) * 10 ^ (char :: rest).length := by
          rw [List.length_cons, Nat.pow_succ]
          ring

theorem length_le_size (chars : List Char) : chars.length ≤ (String.ofList chars).utf8ByteSize := by
  rw [String.utf8ByteSize_ofList]
  induction chars with
  | nil => simp
  | cons char rest ih =>
      have positive := char.utf8Size_pos
      rw [String.utf8Len_cons, List.length_cons]
      omega

theorem size_of_digits {digits : List Char} (decimal : ∀ char ∈ digits, char.isDigit = true) :
    (String.ofList digits).utf8ByteSize = digits.length := by
  rw [String.utf8ByteSize_ofList]
  induction digits with
  | nil => rfl
  | cons char rest ih =>
      have bounds := Char.isDigit_iff_toNat.mp (decimal char List.mem_cons_self)
      have ascii : char.utf8Size = 1 := Char.utf8Size_eq_one_iff.mpr
        (UInt32.le_iff_toNat_le.mpr (Nat.le_trans bounds.2 (by decide)))
      have later := ih fun other member => decimal other (List.mem_cons_of_mem _ member)
      rw [String.utf8Len_cons, later, ascii, List.length_cons]

theorem size_written (word : UInt16) :
    (toString word).utf8ByteSize = (Nat.toDigits 10 word.toNat).length := by
  have written : toString word = String.ofList (Nat.toDigits 10 word.toNat) :=
    Nat.toString_eq_ofList_toDigits
  rw [written, size_of_digits (toDigits_decimal _)]

theorem size_written_le (word : UInt16) : (toString word).utf8ByteSize ≤ 5 := by
  have bound := word.toNat_lt
  rw [size_written, Nat.length_toDigits_le_iff (by decide) (by decide)]
  omega

theorem IsNumeral.size_ge {word : UInt16} {text : String} (numeral : IsNumeral word text.toList) :
    (toString word).utf8ByteSize ≤ text.utf8ByteSize := by
  have shortest : ∀ {digits : List Char}, IsDecimal word digits →
      (toString word).utf8ByteSize ≤ digits.length := by
    intro digits decimal
    have bound := ofDigitChars_lt decimal.decimal 0
    rw [decimal.value, Nat.zero_add, Nat.one_mul] at bound
    rw [size_written]
    have filled := List.length_pos_iff.mpr decimal.filled
    exact (Nat.length_toDigits_le_iff (by decide) filled).mpr bound
  have long : text.toList.length ≤ text.utf8ByteSize := by
    have whole := length_le_size text.toList
    rwa [String.ofList_toList] at whole
  rcases numeral with decimal | ⟨digits, signed, decimal⟩
  · exact Nat.le_trans (shortest decimal) long
  · rw [signed, List.length_cons] at long
    exact Nat.le_trans (shortest decimal) (Nat.le_of_succ_le long)

end Mailroom.Text
