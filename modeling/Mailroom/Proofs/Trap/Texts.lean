import Mailroom.Proofs.Bytes
import Mailroom.Proofs.Trap.Memory

/-!
Texts in memory. A text ends before the first zero byte from its address on, and the reader looks
at one byte more than a text may have, as far as memory goes. Main statement: which memories hold
a text there, and which of the reader's faults stands for what.
-/

namespace Mailroom.Memory

structure RunsOn (memory : Memory) (address : UInt32) (length : Nat) : Prop where
  inside : address.toNat + length ≤ memory.size
  nonzero : ∀ offset < length, memory.bytes[address.toNat + offset]? ≠ some 0

/-- So many bytes stand before the first zero byte from an address on. -/
structure EndsAfter (memory : Memory) (address : UInt32) (length : Nat) : Prop where
  runsOn : memory.RunsOn address length
  zero : memory.bytes[address.toNat + length]? = some 0

def stretch (memory : Memory) (address : UInt32) (length : Nat) : Bytes :=
  (memory.bytes.drop address.toNat).take length

variable {memory : Memory} {address : UInt32} {limit length other : Nat}

theorem EndsAfter.inside (ends : memory.EndsAfter address length) :
    address.toNat < memory.size :=
  Nat.lt_of_le_of_lt (Nat.le_add_right _ length) (List.getElem?_eq_some_iff.mp ends.zero).1

theorem EndsAfter.le_of_runsOn (ends : memory.EndsAfter address length)
    (runsOn : memory.RunsOn address other) : other ≤ length := by
  by_contra shorter
  exact runsOn.nonzero length (Nat.lt_of_not_le shorter) ends.zero

theorem EndsAfter.unique (ends : memory.EndsAfter address length)
    (also : memory.EndsAfter address other) : length = other :=
  Nat.le_antisymm (also.le_of_runsOn ends.runsOn) (ends.le_of_runsOn also.runsOn)

theorem stretch_at (memory : Memory) (address : UInt32) (within : other < length) :
    (memory.stretch address length)[other]? = memory.bytes[address.toNat + other]? := by
  rw [stretch, List.getElem?_take_of_lt within, List.getElem?_drop]

theorem length_stretch (memory : Memory) (address : UInt32) (length : Nat) :
    (memory.stretch address length).length = min length (memory.size - address.toNat) := by
  rw [stretch, List.length_take, List.length_drop, size]

theorem window_stretch (memory : Memory) (address : UInt32) (small : limit < 2 ^ 63) :
    memory.window address limit = memory.stretch address (limit + 1) := by
  rw [window_eq memory address small, stretch, size, ← List.length_drop]
  exact List.take_eq_take_min.symm

theorem EndsAfter.stretch_eq (ends : memory.EndsAfter address length) (short : length ≤ limit) :
    ∃ rest, memory.stretch address (limit + 1) = memory.stretch address length ++ 0 :: rest := by
  obtain ⟨inside, zero⟩ := List.getElem?_eq_some_iff.mp
    ((memory.stretch_at address (Nat.lt_succ_of_le short)).trans ends.zero)
  refine ⟨(memory.stretch address (limit + 1)).drop (length + 1), ?_⟩
  have front : (memory.stretch address (limit + 1)).take length =
      memory.stretch address length := by
    rw [stretch, List.take_take, Nat.min_eq_left (Nat.le_succ_of_le short), stretch]
  have back := List.drop_eq_getElem_cons inside
  rw [zero] at back
  rw [← front, ← back, List.take_append_drop]

theorem RunsOn.zero_not_mem (runsOn : memory.RunsOn address length) :
    0 ∉ memory.stretch address length := by
  intro zero
  obtain ⟨offset, bound, zero⟩ := List.mem_iff_getElem.mp zero
  have short : offset < length := by
    rw [length_stretch] at bound
    omega
  refine runsOn.nonzero offset short ?_
  rw [← memory.stretch_at address short]
  exact List.getElem?_eq_some_iff.mpr ⟨bound, zero⟩

theorem exists_endsAfter (zero : 0 ∈ memory.stretch address (limit + 1)) :
    ∃ length ≤ limit, memory.EndsAfter address length := by
  obtain ⟨before, rest, parts, nonzero⟩ := List.eq_append_cons_of_mem zero
  have total := memory.length_stretch address (limit + 1)
  rw [parts, List.length_append, List.length_cons] at total
  have seen : ∀ offset ≤ before.length, memory.bytes[address.toNat + offset]? =
      (before ++ 0 :: rest)[offset]? := by
    intro offset bound
    rw [← parts, memory.stretch_at address (by omega)]
  refine ⟨before.length, by omega, ⟨by omega, ?_⟩, ?_⟩
  · intro offset bound zero
    rw [seen offset bound.le, List.getElem?_append_left bound] at zero
    exact nonzero (List.mem_of_getElem? zero)
  · rw [seen _ le_rfl, List.getElem?_append_right le_rfl, Nat.sub_self]
    rfl

section Reading

variable (small : limit < 2 ^ 63)

include small

theorem EndsAfter.scanned (ends : memory.EndsAfter address length) (short : length ≤ limit) :
    0 ∈ memory.window address limit ∧
      (memory.window address limit).takeWhile (· ≠ 0) = memory.stretch address length := by
  obtain ⟨rest, seen⟩ := ends.stretch_eq short
  have nonzero : ∀ byte ∈ memory.stretch address length, decide (byte ≠ 0) = true := by
    intro byte member
    exact decide_eq_true fun zero => ends.runsOn.zero_not_mem (zero ▸ member)
  rw [memory.window_stretch address small, seen, List.takeWhile_append_of_pos nonzero]
  simp

theorem EndsAfter.terminatedText_ok (ends : memory.EndsAfter address length)
    (short : length ≤ limit) {text : String}
    (writes : Bytes.ofText text = memory.stretch address length) :
    memory.terminatedText address limit = .ok text := by
  obtain ⟨zero, before⟩ := ends.scanned small short
  simp only [terminatedText, if_neg ends.inside.not_ge, if_pos zero, before,
    Bytes.text_iff.mpr writes]

theorem EndsAfter.terminatedText_notText (ends : memory.EndsAfter address length)
    (short : length ≤ limit)
    (garbled : ∀ text, Bytes.ofText text ≠ memory.stretch address length) :
    memory.terminatedText address limit = .error NameFault.notText.fault := by
  obtain ⟨zero, before⟩ := ends.scanned small short
  have unread : Bytes.text? (memory.stretch address length) = none := by
    rw [Option.eq_none_iff_forall_ne_some]
    exact fun text read => garbled text (Bytes.text_iff.mp read)
  simp only [terminatedText, if_neg ends.inside.not_ge, if_pos zero, before, unread]

theorem RunsOn.terminatedText_eq (runsOn : memory.RunsOn address (limit + 1)) :
    memory.terminatedText address limit = .error (NameFault.unterminated limit).fault := by
  have inside := runsOn.inside
  have outside : ¬ memory.size ≤ address.toNat := by omega
  have long : (memory.stretch address (limit + 1)).length > limit := by
    rw [length_stretch]
    omega
  rw [terminatedText, if_neg outside]
  simp only [memory.window_stretch address small, if_neg runsOn.zero_not_mem, if_pos long]

theorem terminatedText_cut (endless : ∀ length ≤ limit, ¬ memory.EndsAfter address length)
    (short : ¬ memory.RunsOn address (limit + 1)) :
    memory.terminatedText address limit = .error (.badAddress address) := by
  have unseen : 0 ∉ memory.stretch address (limit + 1) := by
    intro zero
    obtain ⟨length, bound, ends⟩ := exists_endsAfter zero
    exact endless length bound ends
  by_cases outside : memory.size ≤ address.toNat
  · rw [terminatedText, if_pos outside]
  · have cut : ¬ (memory.stretch address (limit + 1)).length > limit := by
      intro long
      rw [length_stretch] at long
      refine short ⟨by omega, fun offset bound zero => unseen ?_⟩
      rw [← memory.stretch_at address bound] at zero
      exact List.mem_of_getElem? zero
    rw [terminatedText, if_neg outside]
    simp only [memory.window_stretch address small, if_neg unseen, if_neg cut]

end Reading

theorem terminatedText_cases (memory : Memory) (address : UInt32) (small : limit < 2 ^ 63) :
    let result := memory.terminatedText address limit
    (∃ length ≤ limit, memory.EndsAfter address length ∧
      ∃ text, Bytes.ofText text = memory.stretch address length ∧ result = .ok text) ∨
    (∃ length ≤ limit, memory.EndsAfter address length ∧
      (∀ text, Bytes.ofText text ≠ memory.stretch address length) ∧
      result = .error NameFault.notText.fault) ∨
    (memory.RunsOn address (limit + 1) ∧
      result = .error (NameFault.unterminated limit).fault) ∨
    result = .error (.badAddress address) := by
  intro result
  by_cases ended : ∃ length ≤ limit, memory.EndsAfter address length
  · obtain ⟨length, short, ends⟩ := ended
    by_cases written : ∃ text, Bytes.ofText text = memory.stretch address length
    · obtain ⟨text, writes⟩ := written
      exact Or.inl ⟨length, short, ends, text, writes, ends.terminatedText_ok small short writes⟩
    · have garbled := not_exists.mp written
      exact Or.inr (Or.inl
        ⟨length, short, ends, garbled, ends.terminatedText_notText small short garbled⟩)
  · by_cases runsOn : memory.RunsOn address (limit + 1)
    · exact Or.inr (Or.inr (Or.inl ⟨runsOn, runsOn.terminatedText_eq small⟩))
    · have endless : ∀ length ≤ limit, ¬ memory.EndsAfter address length :=
        fun length short ends => ended ⟨length, short, ends⟩
      exact Or.inr (Or.inr (Or.inr (terminatedText_cut small endless runsOn)))

/-- A text is read exactly if a zero byte ends it in time and its bytes write it. A name is refused
as too long if there are more bytes than it may have and none of them is zero, and as no text if
the bytes before the zero write none. In all other cases memory ends too early. -/
theorem terminatedText_exact (memory : Memory) (address : UInt32) {limit : Nat}
    (small : limit < 2 ^ 63) :
    let result := memory.terminatedText address limit
    (∀ text, result = .ok text ↔ address.toNat < memory.size ∧
      ∃ length ≤ limit, memory.EndsAfter address length ∧
        Bytes.ofText text = memory.stretch address length) ∧
    (∀ reason, result = .error (.invalidName reason) ↔ address.toNat < memory.size ∧
      ((memory.RunsOn address (limit + 1) ∧ reason = (NameFault.unterminated limit).message) ∨
        ((∃ length ≤ limit, memory.EndsAfter address length ∧
            ∀ text, Bytes.ofText text ≠ memory.stretch address length) ∧
          reason = NameFault.notText.message))) ∧
    ((∀ text, result ≠ .ok text) → (∀ reason, result ≠ .error (.invalidName reason)) →
      result = .error (.badAddress address)) := by
  intro result
  refine ⟨fun text => ⟨fun read => ?_, ?_⟩, fun reason => ⟨fun refused => ?_, ?_⟩, ?_⟩
  · rcases memory.terminatedText_cases address small with
      ⟨length, short, ends, _, writes, same⟩ | ⟨_, _, _, _, same⟩ | ⟨_, same⟩ | same
    · cases same.symm.trans read
      exact ⟨ends.inside, length, short, ends, writes⟩
    all_goals cases same.symm.trans read
  · rintro ⟨_, length, short, ends, writes⟩
    exact ends.terminatedText_ok small short writes
  · rcases memory.terminatedText_cases address small with
      ⟨_, _, _, _, _, same⟩ | ⟨length, short, ends, garbled, same⟩ | ⟨runsOn, same⟩ | same
    · cases same.symm.trans refused
    · cases same.symm.trans refused
      exact ⟨ends.inside, Or.inr ⟨⟨length, short, ends, garbled⟩, rfl⟩⟩
    · cases same.symm.trans refused
      have inside := runsOn.inside
      exact ⟨by omega, Or.inl ⟨runsOn, rfl⟩⟩
    · cases same.symm.trans refused
  · rintro ⟨_, ⟨runsOn, rfl⟩ | ⟨⟨length, short, ends, garbled⟩, rfl⟩⟩
    · exact runsOn.terminatedText_eq small
    · exact ends.terminatedText_notText small short garbled
  · intro unread valid
    rcases memory.terminatedText_cases address small with
      ⟨_, _, _, text, _, same⟩ | ⟨_, _, _, _, same⟩ | ⟨_, same⟩ | same
    · exact absurd same (unread text)
    · exact absurd same (valid _)
    · exact absurd same (valid _)
    · exact same

/-- In this memory a text of one byte is read if it may have one and is too long if it may have
none; two bytes before a zero write no text, and behind the last byte there is no zero. -/
theorem edges_exact :
    let memory : Memory := ⟨[0x61, 0xff, 0, 0x62, 0, 0x63]⟩
    memory.terminatedText 3 1 = .ok "b" ∧
    memory.terminatedText 3 0 = .error (.invalidName "name exceeds 0 bytes") ∧
    memory.terminatedText 0 2 = .error (.invalidName "name is not valid UTF-8") ∧
    memory.terminatedText 5 4 = .error (.badAddress 5) := by
  intro memory
  have endless : ∀ length ≤ 4, memory.bytes[(5 : UInt32).toNat + length]? ≠ some 0 := by decide
  have garbled : Bytes.text? [0x61, 0xff] = none := by decide +kernel
  refine ⟨?_, ?_, ?_, ?_⟩
  · exact ((terminatedText_exact memory 3 (by decide)).1 "b").mpr
      ⟨by decide, 1, by decide, ⟨⟨by decide, by decide⟩, by decide⟩, by decide +kernel⟩
  · exact ((terminatedText_exact memory 3 (by decide)).2.1 _).mpr
      ⟨by decide, Or.inl ⟨⟨by decide, by decide⟩, by decide +kernel⟩⟩
  · refine ((terminatedText_exact memory 0 (by decide)).2.1 _).mpr
      ⟨by decide, Or.inr ⟨⟨2, by decide, ⟨⟨by decide, by decide⟩, by decide⟩, ?_⟩, rfl⟩⟩
    intro text writes
    cases garbled.symm.trans (Bytes.text_iff.mpr writes)
  · obtain ⟨read, refused, other⟩ :=
      terminatedText_exact memory 5 (show 4 < 2 ^ 63 by decide)
    refine other (fun text found => ?_) (fun reason found => ?_)
    · obtain ⟨_, length, short, ends, _⟩ := (read text).mp found
      exact endless length short ends.zero
    · obtain ⟨_, ⟨runsOn, _⟩ | ⟨⟨length, short, ends, _⟩, _⟩⟩ := (refused reason).mp found
      · exact absurd runsOn.inside (by decide)
      · exact endless length short ends.zero

end Mailroom.Memory
