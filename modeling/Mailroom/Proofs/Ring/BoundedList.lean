import Mailroom.Proofs.Ring

/-!
A ring beside a plain list of frames. A ring keeps a counter of its own, which frames that come
and go change; the list is added up anew for every frame that comes. Main statement: whatever is
done with the two, they give the same answers and hold the same frames.
-/

namespace Mailroom

namespace Ring

inductive Use where
  | push (frame : Frame)
  | pop
  | front
  | clear

inductive Answer where
  | pushed (outcome : Except Fault Unit)
  | popped (outcome : Except Fault (Option Frame))
  | seen (frame? : Option Frame)
  | cleared (count : Nat)

def perform (ring : Ring) : Use → Answer × Ring
  | .push frame =>
    match ring.push frame with
    | .ok after => (.pushed (.ok ()), after)
    | .error fault => (.pushed (.error fault), ring)
  | .pop => (.popped ring.pop.1, ring.pop.2)
  | .front => (.seen ring.front?, ring)
  | .clear => (.cleared ring.depth, ring.clear)

def run {State : Type} (perform : State → Use → Answer × State) :
    State → List Use → List Answer × State
  | state, [] => ([], state)
  | state, use :: uses =>
    let (answer, after) := perform state use
    let (answers, last) := run perform after uses
    (answer :: answers, last)

end Ring

namespace BoundedList

open Mailroom.Ring (Use Answer)

def bytes (frames : List Frame) : Nat := (frames.map fun frame => 8 + frame.payload.length).sum

def perform (capacity : Nat) (frames : List Frame) : Use → Answer × List Frame
  | .push frame =>
    if frame.header.length.toNat ≠ frame.payload.length then
      (.pushed (.error frame.mismatch), frames)
    else if capacity < 8 + frame.payload.length then
      (.pushed (.error (.messageTooLarge (8 + frame.payload.length) capacity)), frames)
    else if capacity < bytes (frames ++ [frame]) then
      (.pushed (.error .wouldBlock), frames)
    else (.pushed (.ok ()), frames ++ [frame])
  | .pop => (.popped (.ok frames.head?), frames.tail)
  | .front => (.seen frames.head?, frames)
  | .clear => (.cleared frames.length, [])

end BoundedList

namespace Ring

variable {ring : Ring}

theorem perform_capacity (ring : Ring) (use : Use) :
    (ring.perform use).2.capacity = ring.capacity := by
  cases use with
  | push frame =>
      simp only [perform]
      split
      · rename_i after pushed
        rw [eq_appended_of_push pushed]
        rfl
      · rfl
  | pop =>
      simp only [perform, pop]
      split
      · rfl
      · split <;> rfl
  | front => rfl
  | clear => rfl

theorem Sound.performed (sound : ring.Sound) (use : Use) : (ring.perform use).2.Sound := by
  cases use with
  | push frame =>
      rcases ring.push_cases frame with
        ⟨_, refused⟩ | ⟨_, _, refused⟩ | ⟨_, _, _, refused⟩ | ⟨measured, room, stored⟩
      · simpa only [perform, refused] using sound
      · simpa only [perform, refused] using sound
      · simpa only [perform, refused] using sound
      · simpa only [perform, stored] using sound.appended measured room
  | pop =>
      obtain ⟨frame?, popped, _⟩ := sound.pop
      simpa only [perform, popped] using sound.dropped
  | front => exact sound
  | clear => exact sound.clear

theorem Sound.perform_push (sound : ring.Sound) (frame : Frame) :
    BoundedList.perform ring.capacity ring.frames (.push frame) =
      ((ring.perform (.push frame)).1, (ring.perform (.push frame)).2.frames) := by
  have room_iff : frame.cost ≤ ring.free ↔
      BoundedList.bytes (ring.frames ++ [frame]) ≤ ring.capacity := sound.room_iff frame
  rcases ring.push_cases frame with
    ⟨unmeasured, refused⟩ | ⟨measured, large, refused⟩ | ⟨measured, fits, full, refused⟩ |
      ⟨measured, room, stored⟩
  · have different : frame.header.length.toNat ≠ frame.payload.length := unmeasured
    simp only [perform, refused, BoundedList.perform, ne_eq, different, not_false_eq_true, if_true]
  · have same : frame.header.length.toNat = frame.payload.length := measured
    have large : ring.capacity < 8 + frame.payload.length := large
    simp only [perform, refused, BoundedList.perform, ne_eq, same, not_true, if_false, large,
      if_true]
    rfl
  · have same : frame.header.length.toNat = frame.payload.length := measured
    have small : ¬ ring.capacity < 8 + frame.payload.length := Nat.not_lt_of_le fits
    have heavy : ring.capacity < BoundedList.bytes (ring.frames ++ [frame]) := by
      rw [← Nat.not_le, ← room_iff]
      exact Nat.not_le_of_lt full
    simp only [perform, refused, BoundedList.perform, ne_eq, same, not_true, if_false, small, heavy,
      if_true]
  · have same : frame.header.length.toNat = frame.payload.length := measured
    have fits : frame.cost ≤ ring.capacity := Nat.le_trans room (Nat.sub_le _ _)
    have small : ¬ ring.capacity < 8 + frame.payload.length := Nat.not_lt_of_le fits
    have within : ¬ ring.capacity < BoundedList.bytes (ring.frames ++ [frame]) :=
      Nat.not_lt_of_le (room_iff.mp room)
    simp only [perform, stored, BoundedList.perform, ne_eq, same, not_true, if_false, small, within]
    rfl

theorem Sound.perform_frames (sound : ring.Sound) (use : Use) :
    BoundedList.perform ring.capacity ring.frames use =
      ((ring.perform use).1, (ring.perform use).2.frames) := by
  cases use with
  | push frame => exact sound.perform_push frame
  | pop =>
      obtain ⟨frame?, popped, oldest⟩ := sound.pop
      simp only [perform, popped, oldest]
      rfl
  | front => rfl
  | clear => rfl

theorem Sound.run_frames (sound : ring.Sound) (uses : List Use) :
    (run perform ring uses).2.Sound ∧ (run perform ring uses).2.capacity = ring.capacity ∧
      run (BoundedList.perform ring.capacity) ring.frames uses =
        ((run perform ring uses).1, (run perform ring uses).2.frames) := by
  induction uses generalizing ring with
  | nil => exact ⟨sound, rfl, rfl⟩
  | cons use uses ih =>
      obtain ⟨last, capacity, same⟩ := ih (sound.performed use)
      rw [ring.perform_capacity use] at capacity same
      refine ⟨last, capacity, ?_⟩
      simp only [run, sound.perform_frames use, same]

/-- Whatever is done with a ring, it gives the answers of a plain list that is added up anew for
every push, and holds the same frames. Its counter is their sum, which never passes the capacity:
what is used and what is free are the capacity together. -/
theorem behaves_as_bounded_list (capacity : Nat) (uses : List Use) :
    let done := run perform { capacity } uses
    let listed := run (BoundedList.perform capacity) [] uses
    done.1 = listed.1 ∧
      done.2 = { capacity, used := BoundedList.bytes listed.2, frames := listed.2 } ∧
      done.2.used ≤ done.2.capacity ∧ done.2.used + done.2.free = done.2.capacity := by
  intro done listed
  obtain ⟨sound, capacity_eq, same⟩ := (sound_empty capacity).run_frames uses
  have same : listed = (done.1, done.2.frames) := same
  have used : done.2.used = BoundedList.bytes done.2.frames := sound.used_eq
  have within : done.2.used ≤ done.2.capacity := sound.used_le
  rw [same]
  refine ⟨rfl, ?_, within, Nat.add_sub_of_le within⟩
  calc done.2
    _ = ⟨done.2.capacity, done.2.used, done.2.frames⟩ := rfl
    _ = ⟨capacity, BoundedList.bytes done.2.frames, done.2.frames⟩ := by rw [used, capacity_eq]

/-- Eight bytes beside a header fill a ring of sixteen, and nine are never stored. -/
example :
    let frame (payload : Bytes) : Frame :=
      ⟨0, ⟨UInt16.ofNat payload.length, .none, 1, 0⟩, payload⟩
    run perform { capacity := 16 }
        [.push (frame (List.replicate 9 0)), .push (frame (List.replicate 8 1)),
          .push (frame []), .pop, .push (frame [])] =
      ([.pushed (.error (.messageTooLarge 17 16)), .pushed (.ok ()), .pushed (.error .wouldBlock),
          .popped (.ok (some (frame (List.replicate 8 1)))), .pushed (.ok ())],
        ⟨16, 8, [frame []]⟩) := by
  rfl

end Ring

end Mailroom
