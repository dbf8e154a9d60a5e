import Mathlib.Algebra.GroupWithZero.Nat
import Mailroom.Ring

/-!
What a ring keeps through every change: its counter is the sum of its frames' costs and stays
within the capacity, and every header tells the length of its payload. Main statements: when a
frame goes in, and that taking one out never finds the counter too low.
-/

namespace Mailroom

def Frame.IsMeasured (frame : Frame) : Prop := frame.header.length.toNat = frame.payload.length

def Frame.mismatch (frame : Frame) : Fault :=
  .internal (s!"header length {frame.header.length} does not match payload of " ++
    s!"{frame.payload.length} bytes")

namespace Ring

def load (frames : List Frame) : Nat := (frames.map Frame.cost).sum

structure Sound (ring : Ring) : Prop where
  used_eq : ring.used = load ring.frames
  used_le : ring.used ≤ ring.capacity
  measured : ∀ frame ∈ ring.frames, frame.IsMeasured

@[simp] theorem load_nil : load [] = 0 := rfl

@[simp] theorem load_cons (frame : Frame) (frames : List Frame) :
    load (frame :: frames) = frame.cost + load frames := by
  simp [load]

@[simp] theorem load_append (left right : List Frame) :
    load (left ++ right) = load left + load right := by
  simp [load]

theorem sound_empty (capacity : Nat) : Sound { capacity } :=
  ⟨rfl, Nat.zero_le _, by simp⟩

theorem Sound.clear {ring : Ring} (_sound : ring.Sound) : ring.clear.Sound :=
  ⟨rfl, Nat.zero_le _, by simp [Ring.clear]⟩

def appended (ring : Ring) (frame : Frame) : Ring :=
  { ring with used := ring.used + frame.cost, frames := ring.frames ++ [frame] }

theorem hasRoom_iff {ring : Ring} {cost : Nat} : ring.hasRoom cost = true ↔ cost ≤ ring.free :=
  decide_eq_true_iff

theorem hasRoom_false_iff {ring : Ring} {cost : Nat} :
    ring.hasRoom cost = false ↔ ring.free < cost := by
  rw [← Bool.not_eq_true, hasRoom_iff, Nat.not_le]

theorem costOf_of_le {ring : Ring} {length : Nat} (fits : framedSize length ≤ ring.capacity) :
    ring.costOf length = .ok (framedSize length) := by
  simp [costOf, Nat.not_lt.mpr fits]

theorem push_of_room {ring : Ring} {frame : Frame} (measured : frame.IsMeasured)
    (room : frame.cost ≤ ring.free) : ring.push frame = .ok (ring.appended frame) := by
  have fits : framedSize frame.payload.length ≤ ring.capacity :=
    Nat.le_trans room (Nat.sub_le _ _)
  have same : ¬ frame.header.length.toNat ≠ frame.payload.length := not_not_intro measured
  have free : ring.hasRoom (framedSize frame.payload.length) = true := hasRoom_iff.mpr room
  simp only [push, same, if_false, costOf_of_le fits, free, if_true]
  rfl

theorem push_of_full {ring : Ring} {frame : Frame} (measured : frame.IsMeasured)
    (fits : frame.cost ≤ ring.capacity) (full : ring.free < frame.cost) :
    ring.push frame = .error .wouldBlock := by
  have same : ¬ frame.header.length.toNat ≠ frame.payload.length := not_not_intro measured
  have taken : ring.hasRoom (framedSize frame.payload.length) = false := hasRoom_false_iff.mpr full
  simp only [push, same, if_false, costOf_of_le fits, taken, Bool.false_eq_true]

theorem push_of_mismatch {ring : Ring} {frame : Frame} (unmeasured : ¬ frame.IsMeasured) :
    ring.push frame = .error frame.mismatch :=
  if_pos unmeasured

theorem push_of_large {ring : Ring} {frame : Frame} (measured : frame.IsMeasured)
    (large : ring.capacity < frame.cost) :
    ring.push frame = .error (.messageTooLarge frame.cost ring.capacity) := by
  have same : ¬ frame.header.length.toNat ≠ frame.payload.length := not_not_intro measured
  have costly : ring.costOf frame.payload.length =
      .error (.messageTooLarge frame.cost ring.capacity) := if_pos large
  simp only [push, same, if_false, costly]

/-- A push is refused for the first of three reasons that holds, or the frame goes in. -/
theorem push_cases (ring : Ring) (frame : Frame) :
    (¬ frame.IsMeasured ∧ ring.push frame = .error frame.mismatch) ∨
    (frame.IsMeasured ∧ ring.capacity < frame.cost ∧
      ring.push frame = .error (.messageTooLarge frame.cost ring.capacity)) ∨
    (frame.IsMeasured ∧ frame.cost ≤ ring.capacity ∧ ring.free < frame.cost ∧
      ring.push frame = .error .wouldBlock) ∨
    (frame.IsMeasured ∧ frame.cost ≤ ring.free ∧
      ring.push frame = .ok (ring.appended frame)) := by
  by_cases measured : frame.IsMeasured
  · by_cases fits : frame.cost ≤ ring.capacity
    · by_cases room : frame.cost ≤ ring.free
      · exact .inr (.inr (.inr ⟨measured, room, push_of_room measured room⟩))
      · have full : ring.free < frame.cost := Nat.lt_of_not_le room
        exact .inr (.inr (.inl ⟨measured, fits, full, push_of_full measured fits full⟩))
    · have large : ring.capacity < frame.cost := Nat.lt_of_not_le fits
      exact .inr (.inl ⟨measured, large, push_of_large measured large⟩)
  · exact .inl ⟨measured, push_of_mismatch measured⟩

theorem eq_appended_of_push {ring after : Ring} {frame : Frame}
    (pushed : ring.push frame = .ok after) : after = ring.appended frame := by
  rcases ring.push_cases frame with
    ⟨_, refused⟩ | ⟨_, _, refused⟩ | ⟨_, _, _, refused⟩ | ⟨_, _, stored⟩
  · cases refused.symm.trans pushed
  · cases refused.symm.trans pushed
  · cases refused.symm.trans pushed
  · exact Except.ok.inj (pushed.symm.trans stored)

theorem Sound.appended {ring : Ring} {frame : Frame} (sound : ring.Sound)
    (measured : frame.IsMeasured) (room : frame.cost ≤ ring.free) :
    (ring.appended frame).Sound := by
  have bound := sound.used_le
  refine ⟨?_, ?_, ?_⟩
  · simp [Ring.appended, sound.used_eq]
  · simp only [Ring.free] at room
    simp only [Ring.appended]
    omega
  · intro other member
    simp only [Ring.appended, List.mem_append, List.mem_singleton] at member
    rcases member with earlier | last
    · exact sound.measured other earlier
    · exact last ▸ measured

theorem Sound.room_iff {ring : Ring} (sound : ring.Sound) (frame : Frame) :
    frame.cost ≤ ring.free ↔ load (ring.frames ++ [frame]) ≤ ring.capacity := by
  have used := sound.used_eq
  have bound := sound.used_le
  rw [load_append, load_cons, load_nil, free]
  omega

theorem pop_nil {ring : Ring} (empty : ring.frames = []) : ring.pop = (.ok none, ring) := by
  simp [pop, empty]

def dropped (ring : Ring) : Ring :=
  { ring with used := load ring.frames.tail, frames := ring.frames.tail }

theorem Sound.pop_cons {ring : Ring} {frame : Frame} {frames : List Frame} (sound : ring.Sound)
    (front : ring.frames = frame :: frames) : ring.pop = (.ok (some frame), ring.dropped) := by
  have used : ring.used = frame.cost + load frames := by
    rw [sound.used_eq, front, load_cons]
  have enough : frame.cost ≤ ring.used := by omega
  have rest : ring.used - frame.cost = load frames := by omega
  simp [pop, front, enough, rest, dropped]

theorem Sound.dropped {ring : Ring} (sound : ring.Sound) : ring.dropped.Sound := by
  have used := sound.used_eq
  have bound := sound.used_le
  refine ⟨rfl, ?_, ?_⟩
  · cases front : ring.frames with
    | nil => simp [Ring.dropped, front]
    | cons frame frames =>
        rw [front, load_cons] at used
        simp only [Ring.dropped, front, List.tail_cons]
        omega
  · intro frame member
    exact sound.measured frame (List.mem_of_mem_tail member)

theorem Sound.pop {ring : Ring} (sound : ring.Sound) :
    ∃ frame?, ring.pop = (.ok frame?, ring.dropped) ∧ frame? = ring.frames.head? := by
  cases front : ring.frames with
  | nil =>
      refine ⟨none, ?_, rfl⟩
      have used := sound.used_eq
      rw [front] at used
      have same : ring.dropped = ring := by
        obtain ⟨capacity, counted, frames⟩ := ring
        simp_all [Ring.dropped]
      rw [pop_nil front, same]
  | cons frame frames => exact ⟨some frame, sound.pop_cons front, rfl⟩

end Ring

end Mailroom
