import Mailroom.Trap.Memory
import Mathlib.Algebra.Group.Nat.Defs

/-!
Areas of memory: what a write leaves alone, and what a read depends on.
-/

namespace Mailroom

structure Area where
  address : UInt32
  length : Nat

namespace Area

def Covers (area : Area) (position : Nat) : Prop :=
  area.address.toNat ≤ position ∧ position < area.address.toNat + area.length

def Within (area : Area) (memory : Memory) : Prop :=
  area.address.toNat + area.length ≤ memory.size

instance (area : Area) (position : Nat) : Decidable (area.Covers position) :=
  inferInstanceAs (Decidable (_ ∧ _))

end Area

namespace Memory

theorem splice_outside {bytes data : Bytes} {start position : Nat}
    (inside : start + data.length ≤ bytes.length)
    (outside : position < start ∨ start + data.length ≤ position) :
    (splice bytes start data)[position]? = bytes[position]? := by
  have shortened : (bytes.take start).length = start := by
    rw [List.length_take]
    omega
  unfold splice
  rcases outside with before | behind
  · rw [List.append_assoc, List.getElem?_append_left (by omega), List.getElem?_take_of_lt before]
  · rw [List.getElem?_append_right (by simp only [List.length_append]; omega),
      List.getElem?_drop, List.length_append, shortened]
    congr 1
    omega

theorem splice_inside {bytes data : Bytes} {start position : Nat}
    (inside : start + data.length ≤ bytes.length) (reached : start ≤ position)
    (short : position < start + data.length) :
    (splice bytes start data)[position]? = data[position - start]? := by
  have shortened : (bytes.take start).length = start := by
    rw [List.length_take]
    omega
  unfold splice
  rw [List.append_assoc, List.getElem?_append_right (by omega), shortened,
    List.getElem?_append_left (by omega)]

/-- Memory is the same outside these areas, all of which lie within it. -/
structure ChangesOnly (before after : Memory) (areas : List Area) : Prop where
  size_eq : after.size = before.size
  within : ∀ area ∈ areas, area.Within before
  outside : ∀ position, (∀ area ∈ areas, ¬ area.Covers position) →
    after.bytes[position]? = before.bytes[position]?

def AgreesOn (left right : Memory) (area : Area) : Prop :=
  ∀ position, area.Covers position → left.bytes[position]? = right.bytes[position]?

variable {memory after : Memory} {address : UInt32} {data : Bytes}

theorem ChangesOnly.refl (memory : Memory) : memory.ChangesOnly memory [] :=
  ⟨rfl, nofun, fun _ _ => rfl⟩

theorem ChangesOnly.trans {first second third : Memory} {left right : List Area}
    (begins : first.ChangesOnly second left) (ends : second.ChangesOnly third right) :
    first.ChangesOnly third (left ++ right) := by
  refine ⟨ends.size_eq.trans begins.size_eq, ?_, ?_⟩
  · intro area member
    rcases List.mem_append.mp member with earlier | later
    · exact begins.within area earlier
    · have within := ends.within area later
      rw [Area.Within, begins.size_eq] at within
      exact within
  · intro position apart
    rw [ends.outside position fun area member => apart area (List.mem_append_right left member),
      begins.outside position fun area member => apart area (List.mem_append_left right member)]

theorem write_changes (written : memory.write address data = .ok after) :
    memory.ChangesOnly after [⟨address, data.length⟩] := by
  refine ⟨size_write written, ?_, ?_⟩ <;> unfold write at written <;> split at written
  · rename_i covers
    intro area member
    cases List.mem_singleton.mp member
    have inside : address.toNat + data.length ≤ memory.size := of_decide_eq_true covers
    exact inside
  · cases written
  · rename_i covers
    cases written
    intro position apart
    have outside := apart _ List.mem_cons_self
    simp only [Area.Covers] at outside
    exact splice_outside (of_decide_eq_true covers) (by omega)
  · cases written

theorem write_at (written : memory.write address data = .ok after) (position : Nat) :
    after.bytes[position]? =
      if (⟨address, data.length⟩ : Area).Covers position then data[position - address.toNat]?
      else memory.bytes[position]? := by
  split
  · rename_i covered
    unfold write at written
    split at written
    · rename_i covers
      cases written
      exact splice_inside (of_decide_eq_true covers) covered.1 covered.2
    · cases written
  · rename_i apart
    refine (write_changes written).outside position ?_
    intro area member
    cases List.mem_singleton.mp member
    exact apart

theorem read_of_write (written : memory.write address data = .ok after) :
    after.read address data.length = .ok data := by
  have changes := write_changes written
  have covers : after.covers address data.length = true := by
    rw [Memory.covers, changes.size_eq]
    exact decide_eq_true (changes.within _ List.mem_cons_self)
  rw [read, if_pos covers]
  congr 1
  apply List.ext_getElem?
  intro position
  by_cases within : position < data.length
  · have covered : (⟨address, data.length⟩ : Area).Covers (address.toNat + position) :=
      ⟨Nat.le_add_right _ _, Nat.add_lt_add_left within _⟩
    rw [List.getElem?_take_of_lt within, List.getElem?_drop, write_at written, if_pos covered,
      Nat.add_sub_cancel_left]
  · rw [List.getElem?_take_eq_none (Nat.le_of_not_lt within),
      List.getElem?_eq_none (Nat.le_of_not_lt within)]

theorem write_of_covers (covers : memory.covers address data.length = true) :
    ∃ after, memory.write address data = .ok after :=
  ⟨_, by rw [write, if_pos covers]⟩

theorem AgreesOn.drop_take {left right : Memory} {address : UInt32} {length : Nat}
    (agrees : left.AgreesOn right ⟨address, length⟩) :
    (left.bytes.drop address.toNat).take length = (right.bytes.drop address.toNat).take length := by
  apply List.ext_getElem?
  intro position
  by_cases within : position < length
  · rw [List.getElem?_take_of_lt within, List.getElem?_take_of_lt within, List.getElem?_drop,
      List.getElem?_drop]
    exact agrees _ ⟨Nat.le_add_right _ _, Nat.add_lt_add_left within _⟩
  · rw [List.getElem?_take_eq_none (Nat.le_of_not_lt within),
      List.getElem?_take_eq_none (Nat.le_of_not_lt within)]

theorem window_eq (memory : Memory) (address : UInt32) {limit : Nat} (small : limit < 2 ^ 63) :
    memory.window address limit =
      (memory.bytes.drop address.toNat).take
        (min (limit + 1) (memory.size - address.toNat)) := by
  have narrow := address.toNat_lt
  have last : (address.toNat + limit + 1) % (Text.largestSize + 1) =
      address.toNat + (limit + 1) := by
    rw [Nat.mod_eq_of_lt (by simp only [Text.largestSize]; omega)]
    omega
  rw [window, last, List.drop_take, Nat.add_sub_cancel_left, size, ← List.length_drop]
  exact List.take_eq_take_min

variable {left right : Memory} {length : Nat}

theorem covers_congr (same : left.size = right.size) (address : UInt32) (length : Nat) :
    left.covers address length = right.covers address length := by
  rw [covers, covers, same]

theorem check_congr (same : left.size = right.size) (address : UInt32) (length : Nat) :
    left.check address length = right.check address length := by
  rw [check, check, covers_congr same]

theorem read_congr (same : left.size = right.size)
    (agrees : right.covers address length = true → left.AgreesOn right ⟨address, length⟩) :
    left.read address length = right.read address length := by
  rw [read, read, covers_congr same]
  split
  · rename_i covers
    rw [(agrees covers).drop_take]
  · rfl

theorem terminatedText_congr (same : left.size = right.size)
    (agrees : address.toNat < right.size → left.AgreesOn right
      ⟨address, min (Name.maxBytes + 1) (right.size - address.toNat)⟩) :
    left.terminatedText address Name.maxBytes = right.terminatedText address Name.maxBytes := by
  rw [terminatedText, terminatedText, same]
  split
  · rfl
  · rename_i inside
    have window : left.window address Name.maxBytes = right.window address Name.maxBytes := by
      have small : Name.maxBytes < 2 ^ 63 := by decide
      rw [window_eq _ _ small, window_eq _ _ small, same,
        (agrees (Nat.lt_of_not_le inside)).drop_take]
    rw [window]

end Memory

end Mailroom
