import Mathlib.Data.List.Forall2
import Mailroom.Proofs.Mailbox

/-!
Messages as their senders gave them, what receivers get of them, and the law of first in, first
out: what was in a store and what was put into it comes out in order, or is still there.
-/

namespace Mailroom

namespace Flags

theorem union_overrun (flags : Flags) :
    (flags.union .overrun).union .overrun = flags.union .overrun := by
  simp [union, UInt16.or_assoc]

theorem has_union_overrun (flags : Flags) : (flags.union .overrun).has .overrun = true := by
  have absorbed : (flags.bits ||| overrun.bits) &&& overrun.bits = overrun.bits := by
    apply UInt16.toBitVec_inj.mp
    ext i
    simp
    grind
  exact decide_eq_true absorbed

theorem has_ofSender_overrun (word : UInt16) : (ofSender word).has .overrun = false := by
  have apart : ((stdout.union stderr).union outOfBand).bits &&& overrun.bits = 0 := by decide
  simp only [has, ofSender, UInt16.and_assoc, apart]
  simp [overrun]

end Flags

structure Message where
  source : Pid
  channel : UInt16
  flags : Flags
  payload : Bytes
  deriving DecidableEq, Repr, Inhabited

def Message.cost (message : Message) : Nat := framedSize message.payload.length

def Frame.message (frame : Frame) : Message :=
  ⟨frame.header.source, frame.header.channel, frame.header.flags, frame.payload⟩

def Ring.messages (ring : Ring) : List Message := ring.frames.map Frame.message

/-- What a receiver got who had room for so many bytes. A lossy delivery is the first one after
copies for the receiver were lost. -/
structure Delivery where
  room : Nat
  lossy : Bool
  receipt : Receipt
  deriving DecidableEq, Repr, Inhabited

structure Message.Yields (message : Message) (delivery : Delivery) : Prop where
  payload_eq : delivery.receipt.payload = message.payload.take delivery.room
  length_eq : delivery.receipt.header.length.toNat = delivery.receipt.payload.length
  source_eq : delivery.receipt.header.source = message.source
  channel_eq : delivery.receipt.header.channel = message.channel
  flags_eq : delivery.receipt.header.flags =
    if delivery.room < message.payload.length ∨ delivery.lossy = true then
      message.flags.union .overrun
    else message.flags
  overrun_iff : delivery.receipt.overrun = true ↔
    delivery.room < message.payload.length ∨ delivery.lossy = true

def Message.IsUnmarked (message : Message) : Prop := message.flags.has .overrun = false

theorem Frame.receipt_flags (frame : Frame) (room : Nat) (lossy : Bool) :
    (frame.receipt room lossy).header.flags =
      if room < frame.payload.length ∨ lossy = true then frame.header.flags.union .overrun
      else frame.header.flags := by
  by_cases cut : room < frame.payload.length <;>
    cases lossy <;> simp [receipt, deliver, cut, Flags.union_overrun]

theorem Frame.yields {frame : Frame} (measured : frame.IsMeasured)
    (unmarked : frame.message.IsUnmarked) (room : Nat) (lossy : Bool) :
    frame.message.Yields ⟨room, lossy, frame.receipt room lossy⟩ := by
  have flags := frame.receipt_flags room lossy
  refine ⟨rfl, ?_, rfl, rfl, flags, ?_⟩
  · have shorter : (frame.payload.take room).length ≤ frame.payload.length :=
      List.length_take_le' room frame.payload
    have bound := frame.header.length.toNat_lt
    rw [Frame.IsMeasured] at measured
    exact UInt16.toNat_ofNat_of_lt' (by simp only [UInt16.size]; omega)
  · rw [Receipt.overrun, flags]
    split
    · rename_i marked
      exact iff_of_true (Flags.has_union_overrun _) marked
    · rename_i clear
      have kept : frame.header.flags.has .overrun = false := unmarked
      rw [kept]
      exact iff_of_false Bool.false_ne_true clear

/-- A store of messages held `before`, these were put into it and those came out, and now it holds
`after`: each that came out is the next one in order, and none is lost or comes twice. -/
def Carries (before put after : List Message) (got : List Delivery) : Prop :=
  ∃ taken, before ++ put = taken ++ after ∧ List.Forall₂ Message.Yields taken got

theorem Carries.refl (messages : List Message) : Carries messages [] messages [] :=
  ⟨[], by simp, .nil⟩

theorem Carries.trans {first second third put putLater : List Message}
    {got gotLater : List Delivery} (left : Carries first put second got)
    (right : Carries second putLater third gotLater) :
    Carries first (put ++ putLater) third (got ++ gotLater) := by
  obtain ⟨taken, leftEq, yields⟩ := left
  obtain ⟨takenLater, rightEq, yieldsLater⟩ := right
  refine ⟨taken ++ takenLater, ?_, List.rel_append yields yieldsLater⟩
  calc first ++ (put ++ putLater) = (first ++ put) ++ putLater := (List.append_assoc ..).symm
    _ = taken ++ (second ++ putLater) := by rw [leftEq, List.append_assoc]
    _ = (taken ++ takenLater) ++ third := by rw [rightEq, List.append_assoc]

theorem Carries.mem {put after : List Message} {got : List Delivery}
    (carries : Carries [] put after got) {message : Message} (member : message ∈ after) :
    message ∈ put := by
  obtain ⟨taken, same, _⟩ := carries
  rw [List.nil_append] at same
  rw [same]
  exact List.mem_append_right taken member

theorem Ring.appended_carries (ring : Ring) (frame : Frame) :
    Carries ring.messages [frame.message] (ring.appended frame).messages [] :=
  ⟨[], by simp [messages, appended], .nil⟩

theorem Ring.dropped_carries {ring : Ring} {frame : Frame} {rest : List Frame}
    (sound : ring.Sound) (unmarked : ∀ message ∈ ring.messages, message.IsUnmarked)
    (front : ring.frames = frame :: rest) (room : Nat) (lossy : Bool) :
    Carries ring.messages [] ring.dropped.messages
      [⟨room, lossy, frame.receipt room lossy⟩] := by
  have measured := sound.measured frame (by simp [front])
  have plain := unmarked frame.message (by simp [messages, front])
  refine ⟨[frame.message], ?_, .cons (Frame.yields measured plain room lossy) .nil⟩
  simp [messages, dropped, front]

end Mailroom
