import Mailroom.Bytes
import Mailroom.Proofs.Host.Lines
import Mailroom.Text.Numeral

/-!
Hexadecimal texts and the bytes they stand for. A text is read exactly as those bytes that are
written like it but for the case of letters, so what is written is always read back.
-/

namespace Mailroom.Text

def IsHexDigit (char : Char) : Prop :=
  ('0' ≤ char ∧ char ≤ '9') ∨ ('a' ≤ char ∧ char ≤ 'f') ∨ ('A' ≤ char ∧ char ≤ 'F')

instance (char : Char) : Decidable (IsHexDigit char) := inferInstanceAs (Decidable (_ ∨ _ ∨ _))

variable {char : Char} {value : Nat}

theorem toNat_le_of_le {char last : Char} (below : char ≤ last) : char.toNat ≤ last.toNat :=
  UInt32.le_iff_toNat_le.mp below

theorem digit_small (reads : digit? 16 char = some value) : value < 16 := by
  simpa using (Option.filter_eq_some_iff.mp reads).2

theorem digit_ascii (reads : digit? 16 char = some value) : char.toNat < 128 := by
  have inside := (Option.filter_eq_some_iff.mp reads).1
  split_ifs at inside with digit lower upper
  · exact Nat.lt_of_le_of_lt (toNat_le_of_le digit.2) (by decide)
  · exact Nat.lt_of_le_of_lt (toNat_le_of_le lower.2) (by decide)
  · exact Nat.lt_of_le_of_lt (toNat_le_of_le upper.2) (by decide)

theorem hexDigit_ascii (small : value < 16) : (hexDigit value).toNat < 128 := by
  revert value
  decide

theorem toLower_ascii (ascii : char.toLower.toNat < 128) : char.toNat < 128 := by
  unfold Char.toLower at ascii
  split at ascii
  · rename_i upper
    exact Nat.lt_of_le_of_lt (UInt32.le_iff_toNat_le.mp upper.2) (by decide)
  · exact ascii

theorem digit_table : ∀ code < 128,
    (∀ value < 16, digit? 16 (Char.ofNat code) = some value ↔
      (Char.ofNat code).toLower = hexDigit value) ∧
    (IsHexDigit (Char.ofNat code) ↔ digit? 16 (Char.ofNat code) ≠ none) := by
  decide +kernel

theorem digit_iff : digit? 16 char = some value ↔ value < 16 ∧ char.toLower = hexDigit value := by
  constructor
  · intro reads
    have small := digit_small reads
    have row := (digit_table char.toNat (digit_ascii reads)).1 value small
    rw [Char.ofNat_toNat] at row
    exact ⟨small, row.mp reads⟩
  · rintro ⟨small, lower⟩
    have ascii : char.toNat < 128 := toLower_ascii (lower ▸ hexDigit_ascii small)
    have row := (digit_table char.toNat ascii).1 value small
    rw [Char.ofNat_toNat] at row
    exact row.mpr lower

theorem isHexDigit_of_digit (reads : digit? 16 char = some value) : IsHexDigit char := by
  have row := (digit_table char.toNat (digit_ascii reads)).2
  rw [Char.ofNat_toNat] at row
  exact row.mpr (by simp [reads])

theorem halfByte_iff (byte : UInt8) (position : Nat) : halfByte byte position = .ok value ↔
    value < 16 ∧ (Char.ofNat byte.toNat).toLower = hexDigit value := by
  rw [← digit_iff, halfByte]
  cases digit? 16 (Char.ofNat byte.toNat) <;> simp

theorem hexDigits_cons (byte : UInt8) (bytes : Bytes) : hexDigits (byte :: bytes) =
    hexDigit (byte.toNat / 16) :: hexDigit (byte.toNat % 16) :: hexDigits bytes := rfl

def lowered (raw : Bytes) : List Char := raw.map fun byte => (Char.ofNat byte.toNat).toLower

theorem hexPairs_iff (raw : Bytes) {position : Nat} {bytes : Bytes} :
    hexPairs position raw = .ok bytes ↔ lowered raw = hexDigits bytes := by
  fun_induction hexPairs position raw generalizing bytes with
  | case1 position => cases bytes <;> simp [lowered, hexDigits]
  | case2 position => cases bytes <;> simp [lowered, hexDigits]
  | case3 position high low rest ih =>
      constructor
      · intro reads
        cases first : halfByte high position with
        | error fault => simp [first, bind, Except.bind] at reads
        | ok upper =>
        cases second : halfByte low (position + 1) with
        | error fault => simp [first, second, bind, Except.bind] at reads
        | ok lower =>
        cases others : hexPairs (position + 2) rest with
        | error fault => simp [first, second, others, bind, Except.bind] at reads
        | ok tail =>
        obtain rfl : UInt8.ofNat (upper * 16 + lower) :: tail = bytes := by
          simpa [first, second, others, bind, Except.bind, pure, Except.pure] using reads
        obtain ⟨upperSmall, upperDigit⟩ := (halfByte_iff high position).mp first
        obtain ⟨lowerSmall, lowerDigit⟩ := (halfByte_iff low (position + 1)).mp second
        have number : (UInt8.ofNat (upper * 16 + lower)).toNat = upper * 16 + lower :=
          UInt8.toNat_ofNat_of_lt' (by simp only [UInt8.size]; omega)
        have highHalf : (upper * 16 + lower) / 16 = upper := by omega
        have lowHalf : (upper * 16 + lower) % 16 = lower := by omega
        rw [hexDigits_cons, number, highHalf, lowHalf, ← upperDigit, ← lowerDigit, ← ih.mp others]
        rfl
      · intro written
        cases bytes with
        | nil => cases written
        | cons byte tail =>
            rw [hexDigits_cons] at written
            obtain ⟨upperDigit, written⟩ := List.cons.inj written
            obtain ⟨lowerDigit, written⟩ := List.cons.inj written
            have bound := byte.toNat_lt
            have first := (halfByte_iff high position).mpr ⟨by omega, upperDigit⟩
            have second := (halfByte_iff low (position + 1)).mpr ⟨by omega, lowerDigit⟩
            have whole : byte.toNat / 16 * 16 + byte.toNat % 16 = byte.toNat := by omega
            simp [first, second, ih.mpr written, bind, Except.bind, pure, Except.pure, whole]

theorem encoded_of_ascii (ascii : char.toNat < 128) :
    String.utf8EncodeChar char = [UInt8.ofNat char.toNat] := by
  have small : char.val.toNat ≤ 0x7f := Nat.le_of_lt_succ ascii
  simp only [String.utf8EncodeChar, small, if_true]
  rfl

theorem ascii_of_encoded (small : ∀ byte ∈ String.utf8EncodeChar char, byte.toNat < 128) :
    char.toNat < 128 := by
  by_contra large
  have large : 0x7f < char.val.toNat := Nat.lt_of_succ_le (Nat.le_of_not_lt large)
  simp only [String.utf8EncodeChar] at small
  split_ifs at small <;> simp at small <;> omega

theorem lowered_of_ascii {chars : List Char} (ascii : ∀ char ∈ chars, char.toNat < 128) :
    lowered (chars.flatMap String.utf8EncodeChar) = chars.map Char.toLower := by
  induction chars with
  | nil => rfl
  | cons char rest ih =>
      have small := ascii char List.mem_cons_self
      have same : (UInt8.ofNat char.toNat).toNat = char.toNat :=
        UInt8.toNat_ofNat_of_lt' (by simp only [UInt8.size]; omega)
      have later := ih fun other member => ascii other (List.mem_cons_of_mem _ member)
      rw [lowered] at later ⊢
      simp [encoded_of_ascii small, same, later]

theorem hexDigits_ascii {bytes : Bytes} (member : char ∈ hexDigits bytes) :
    char.toNat < 128 := by
  obtain ⟨byte, _, member⟩ := List.mem_flatMap.mp member
  have bound := byte.toNat_lt
  simp only [List.mem_cons, List.not_mem_nil, or_false] at member
  rcases member with rfl | rfl <;> exact hexDigit_ascii (by omega)

theorem lowered_encoded (chars : List Char) (bytes : Bytes) :
    lowered (chars.flatMap String.utf8EncodeChar) = hexDigits bytes ↔
      chars.map Char.toLower = hexDigits bytes := by
  constructor
  · intro written
    rw [← written, lowered_of_ascii]
    intro char member
    refine ascii_of_encoded fun byte inside => ?_
    have inside : (Char.ofNat byte.toNat).toLower ∈ hexDigits bytes :=
      written ▸ List.mem_map_of_mem (List.mem_flatMap.mpr ⟨char, member, inside⟩)
    have small := toLower_ascii (hexDigits_ascii inside)
    have valid : byte.toNat.isValidChar := Or.inl (Nat.lt_trans byte.toNat_lt (by decide))
    rw [Char.ofNat, dif_pos valid] at small
    exact small
  · intro written
    rw [← written, lowered_of_ascii]
    intro char member
    exact toLower_ascii (hexDigits_ascii (written ▸ List.mem_map_of_mem member))

theorem length_hexDigits (bytes : Bytes) : (hexDigits bytes).length = 2 * bytes.length := by
  induction bytes with
  | nil => rfl
  | cons byte rest ih =>
      rw [hexDigits_cons, List.length_cons, List.length_cons, List.length_cons, ih]
      omega

theorem toLower_eq_hex {digits : String} {bytes : Bytes} :
    digits.toLower = hex bytes ↔ digits.toList.map Char.toLower = hexDigits bytes := by
  have lower : digits.toLower = digits.map Char.toLower := rfl
  rw [← String.toList_inj, lower, String.toList_map, hex, String.toList_ofList]

/-- A text is read as some bytes exactly if it is how they are written, in letters of any case. -/
theorem unhex_iff {digits : String} {bytes : Bytes} :
    unhex (Bytes.ofText digits) = .ok bytes ↔ digits.toLower = hex bytes := by
  rw [toLower_eq_hex, ← lowered_encoded, ← Bytes.ofText_eq, ← hexPairs_iff (Bytes.ofText digits),
    unhex]
  constructor
  · intro reads
    split at reads
    · exact reads
    · cases reads
  · intro reads
    have length := congrArg List.length ((hexPairs_iff _).mp reads)
    rw [lowered, List.length_map, length_hexDigits] at length
    rw [if_pos (by omega), reads]

theorem hexDigit_lower (small : value < 16) :
    (hexDigit value).toLower = hexDigit value ∧
      (hexDigit value).toUpper.toLower = hexDigit value := by
  revert value
  decide

theorem hexDigits_lower (bytes : Bytes) :
    (hexDigits bytes).map Char.toLower = hexDigits bytes ∧
      ((hexDigits bytes).map Char.toUpper).map Char.toLower = hexDigits bytes := by
  induction bytes with
  | nil => exact ⟨rfl, rfl⟩
  | cons byte rest ih =>
      have bound := byte.toNat_lt
      obtain ⟨upper, upperBack⟩ := @hexDigit_lower (byte.toNat / 16) (by omega)
      obtain ⟨lower, lowerBack⟩ := @hexDigit_lower (byte.toNat % 16) (by omega)
      simp only [hexDigits_cons, List.map_cons, upper, upperBack, lower, lowerBack, ih, and_self]

theorem unhex_hex (bytes : Bytes) : unhex (Bytes.ofText (hex bytes)) = .ok bytes ∧
    unhex (Bytes.ofText (hex bytes).toUpper) = .ok bytes := by
  obtain ⟨lower, upper⟩ := hexDigits_lower bytes
  rw [unhex_iff, unhex_iff, toLower_eq_hex, toLower_eq_hex, String.toUpper, String.toList_map, hex,
    String.toList_ofList]
  exact ⟨lower, upper⟩

theorem unhex_refuses {digits : String}
    (bad : digits.length % 2 = 1 ∨ ∃ char ∈ digits.toList, ¬ IsHexDigit char) :
    ∃ fault, unhex (Bytes.ofText digits) = .error fault := by
  cases reads : unhex (Bytes.ofText digits) with
  | error fault => exact ⟨fault, rfl⟩
  | ok bytes =>
      have written := toLower_eq_hex.mp (unhex_iff.mp reads)
      rcases bad with odd | ⟨char, member, other⟩
      · have length := congrArg List.length written
        rw [List.length_map, length_hexDigits, String.length_toList] at length
        omega
      · have member : char.toLower ∈ hexDigits bytes := written ▸ List.mem_map_of_mem member
        obtain ⟨byte, _, member⟩ := List.mem_flatMap.mp member
        have bound := byte.toNat_lt
        simp only [List.mem_cons, List.not_mem_nil, or_false] at member
        rcases member with upper | lower
        · exact absurd (isHexDigit_of_digit (digit_iff.mpr ⟨by omega, upper⟩)) other
        · exact absurd (isHexDigit_of_digit (digit_iff.mpr ⟨by omega, lower⟩)) other

end Mailroom.Text
