import Mailroom.Proofs.Engine.Consistency

/-!
A look through a handle tells what receives through it will get. Both go to one ring, and what a
look tells of it, its counter and the header in front, is true of the frames that the receives
take out. Main statement: the look fails as the receive fails, and otherwise foretells them all.
-/

namespace Mailroom

theorem Frame.IsMeasured.length_le {frame : Frame} (measured : frame.IsMeasured) :
    frame.payload.length ≤ 0xffff := by
  have bound := frame.header.length.toNat_lt
  rw [measured] at bound
  omega

theorem Frame.receipt_payload_of_fits {frame : Frame} {room : Nat}
    (fits : frame.payload.length ≤ room) (lossy : Bool) :
    (frame.receipt room lossy).payload = frame.payload := List.take_of_length_le fits

theorem Ring.Sound.peek_nothing {ring : Ring} (sound : ring.Sound) (empty : ring.depth = 0) :
    (Peek.of ring).used = 0 ∧ (Peek.of ring).nextLength = 0 := by
  have nothing : ring.frames = [] := List.length_eq_zero_iff.mp empty
  refine ⟨?_, by simp [Peek.of, RingState.of, front?, nothing]⟩
  have used := sound.used_eq
  rwa [nothing, load_nil] at used

theorem Ring.Sound.peek_front {ring : Ring} (sound : ring.Sound) {frame : Frame}
    (front : ring.frames.head? = some frame) :
    (Peek.of ring).nextLength.toNat = frame.payload.length := by
  have measured : frame.header.length.toNat = frame.payload.length :=
    sound.measured frame (List.mem_of_head? front)
  simpa [Peek.of, RingState.of, front?, front] using measured

theorem Ring.Sound.peek_tells {ring : Ring} (sound : ring.Sound) {receipts : List Receipt}
    (payloads : receipts.map Receipt.payload = ring.frames.map Frame.payload) :
    receipts.length = (Peek.of ring).depth ∧
    (receipts.map fun receipt => framedSize receipt.payload.length).sum = (Peek.of ring).used ∧
    ∀ first ∈ receipts.head?, first.payload.length = (Peek.of ring).nextLength.toNat := by
  refine ⟨?_, ?_, ?_⟩
  · have counts := congrArg List.length payloads
    rwa [List.length_map, List.length_map] at counts
  · have costs := congrArg (List.map fun payload : Bytes => framedSize payload.length) payloads
    rw [List.map_map, List.map_map] at costs
    calc (receipts.map fun receipt => framedSize receipt.payload.length).sum
      _ = load ring.frames := congrArg List.sum costs
      _ = ring.used := sound.used_eq.symm
  · intro first here
    have fronts : receipts.head?.map Receipt.payload = ring.frames.head?.map Frame.payload := by
      rw [← List.head?_map, payloads, List.head?_map]
    rw [here] at fronts
    obtain ⟨frame, front, same⟩ := Option.map_eq_some_iff.mp fronts.symm
    rw [sound.peek_front front, same]

theorem Mailbox.Traffic.view_eq {before after : Mailbox} (traffic : before.Traffic after)
    (endpoint : Endpoint) (mode : Mode) : after.view endpoint mode = before.view endpoint mode := by
  simp only [Mailbox.view, traffic.policy_eq]

namespace Engine

def receiveEach (endpoint : Endpoint) : List Nat → Step (List Receipt)
  | [] => Step.pure []
  | room :: rooms => do
    let receipt ← tryReceive endpoint room
    let receipts ← receiveEach endpoint rooms
    return receipt :: receipts

variable {engine : Engine} {endpoint : Endpoint} {ring : Ring}

theorem Sees.unique {other : Ring} (first : engine.Sees endpoint ring)
    (second : engine.Sees endpoint other) : ring = other := by
  obtain ⟨binding, mailbox, reader, seen⟩ := first
  obtain ⟨binding', mailbox', reader', seen'⟩ := second
  cases reader.held.symm.trans reader'.held
  cases reader.found.symm.trans reader'.found
  exact Option.some.inj (seen.symm.trans seen')

theorem Sees.ring_sound (sound : engine.scene.Sound) (sees : engine.Sees endpoint ring) :
    ring.Sound := by
  obtain ⟨binding, mailbox, reader, seen⟩ := sees
  exact (sound.supports.serves binding.mailbox mailbox reader.found).sound.ring seen

theorem Sees.receive_empty (sound : engine.scene.Sound) (running : engine.halted = none)
    (sees : engine.Sees endpoint ring) (empty : ring.frames = []) (room : Nat) :
    tryReceive endpoint room engine = (.error .noData, engine) := by
  cases ran : tryReceive endpoint room engine with
  | mk outcome after =>
      cases tryReceive_ends sound running ran with
      | refused unread other mild =>
          obtain ⟨binding, mailbox, reader, _⟩ := sees
          exact absurd reader (unread binding mailbox)
      | empty reader seen nothing => rfl
      | received reader seen front delivered =>
          cases sees.unique ⟨_, _, reader, seen⟩
          cases empty.symm.trans front

theorem Sees.receive_front (sound : engine.scene.Sound) (running : engine.halted = none)
    (sees : engine.Sees endpoint ring) {frame : Frame} {rest : List Frame}
    (front : ring.frames = frame :: rest) (room : Nat) :
    ∃ lossy after, tryReceive endpoint room engine = (.ok (frame.receipt room lossy), after) ∧
      after.scene.Sound ∧ after.halted = none ∧ after.Sees endpoint ring.dropped := by
  cases ran : tryReceive endpoint room engine with
  | mk outcome after =>
      have receives := tryReceive_ends sound running ran
      have passes := (receives.passes sound).2
      cases receives with
      | refused unread other mild =>
          obtain ⟨binding, mailbox, reader, _⟩ := sees
          exact absurd reader (unread binding mailbox)
      | empty reader seen nothing =>
          cases sees.unique ⟨_, _, reader, seen⟩
          cases nothing.symm.trans front
      | @received binding mailbox _ _ _ receipt reader seen first delivered =>
          cases sees.unique ⟨_, _, reader, seen⟩
          cases front.symm.trans first
          have serves := sound.supports.serves binding.mailbox mailbox reader.found
          let view := mailbox.view endpoint binding.mode
          have traffic := serves.sound.withdrawn_traffic view
          refine ⟨_, _, by rw [delivered], passes.sound, passes.halted_eq.trans running, binding,
            mailbox.withdrawn view, ⟨?_, ?_, reader.readable⟩, ?_⟩
          · rw [acknowledge_eq]
            exact reader.held
          · rw [acknowledge_eq]
            exact engine.registry.update_here (traffic.id_eq.trans serves.id_eq)
          · rw [traffic.view_eq endpoint binding.mode]
            exact Mailbox.withdrawn_ring seen (by simp [first])

theorem sees_or_refused (sound : engine.scene.Sound) (endpoint : Endpoint) :
    (engine.halted = none ∧ ∃ ring, engine.Sees endpoint ring) ∨
    ∃ fault, fault ≠ .noData ∧ peek endpoint engine = (.error fault, engine) ∧
      ∀ room, tryReceive endpoint room engine = (.error fault, engine) := by
  cases halted : engine.halted with
  | some reason =>
      exact Or.inr ⟨.internal ("engine halted: " ++ reason), by simp, Step.guarded_halted halted,
        fun _ => Step.guarded_halted halted⟩
  | none =>
      rcases readableView_cases sound endpoint with
        ⟨binding, mailbox, reader, _⟩ | ⟨fault, failed, _, other, mild⟩
      · obtain ⟨ring, seen⟩ := reader.ring sound
        exact Or.inl ⟨rfl, ring, binding, mailbox, reader, seen⟩
      · refine Or.inr ⟨fault, other, ?_, fun room => ?_⟩
        · rw [peek_eq]
          exact Step.guarded_running halted (Step.bind_error failed) (mild_error mild)
        · rw [tryReceive_eq]
          exact Step.guarded_running halted (Step.bind_error failed) (mild_error mild)

theorem Sees.receive_fault (sound : engine.scene.Sound) (running : engine.halted = none)
    (sees : engine.Sees endpoint ring) {room : Nat} {fault : Fault}
    (failed : (tryReceive endpoint room engine).1 = .error fault) : fault = .noData := by
  cases front : ring.frames with
  | nil =>
      rw [sees.receive_empty sound running front room] at failed
      exact (Except.error.inj failed).symm
  | cons frame rest =>
      obtain ⟨lossy, after, received, _⟩ := sees.receive_front sound running front room
      rw [received] at failed
      cases failed

theorem receiveEach_drains {rooms : List Nat} (sound : engine.scene.Sound)
    (running : engine.halted = none) (sees : engine.Sees endpoint ring)
    (asked : rooms.length = ring.depth) (ample : ∀ room ∈ rooms, 0xffff ≤ room) :
    ∃ receipts after, receiveEach endpoint rooms engine = (.ok receipts, after) ∧
      receipts.map Receipt.payload = ring.frames.map Frame.payload ∧
      ∀ room, tryReceive endpoint room after = (.error .noData, after) := by
  induction rooms generalizing engine ring with
  | nil =>
      have empty : ring.frames = [] := List.length_eq_zero_iff.mp asked.symm
      exact ⟨[], engine, rfl, by simp [empty], sees.receive_empty sound running empty⟩
  | cons room rooms ih =>
      obtain ⟨frame, rest, front⟩ := List.exists_cons_of_length_eq_add_one asked.symm
      have measured : frame.IsMeasured :=
        (sees.ring_sound sound).measured frame (by simp [front])
      have fits : frame.payload.length ≤ room :=
        measured.length_le.trans (ample room List.mem_cons_self)
      obtain ⟨lossy, middle, first, soundThen, runningThen, seesThen⟩ :=
        sees.receive_front sound running front room
      have fewer : rooms.length = ring.dropped.depth := by
        simp only [Ring.depth, Ring.dropped, front, List.length_cons, List.tail_cons] at asked ⊢
        omega
      obtain ⟨receipts, after, others, payloads, nothing⟩ := ih soundThen runningThen seesThen fewer
        fun room member => ample room (List.mem_cons_of_mem _ member)
      refine ⟨frame.receipt room lossy :: receipts, after, ?_, ?_, nothing⟩
      · rw [receiveEach, Step.bind_ok first, Step.bind_ok others]
        rfl
      · rw [List.map_cons, payloads, Frame.receipt_payload_of_fits fits, front]
        simp [Ring.dropped, front]

/-- Looking changes nothing and fails as receiving does, unless receiving only finds no message.
Otherwise it says how many messages receives with room enough will get before one finds none,
what they take up, and how long the first of them is. -/
theorem peek_predicts_receive (limits : Limits) (operations : List Operation)
    (few : ((start limits).run operations).registrations ≤ Registry.mostNumbers)
    (endpoint : Endpoint) :
    let engine := (start limits).run operations
    (peek endpoint engine).2 = engine ∧
    (∀ room fault, (peek endpoint engine).1 = .error fault ↔
      (tryReceive endpoint room engine).1 = .error fault ∧ fault ≠ .noData) ∧
    ∀ seen, (peek endpoint engine).1 = .ok seen →
      (∀ rooms : List Nat, rooms.length = seen.depth → (∀ room ∈ rooms, 0xffff ≤ room) →
        ∃ receipts after, receiveEach endpoint rooms engine = (.ok receipts, after) ∧
          receipts.length = seen.depth ∧
          (receipts.map fun receipt => framedSize receipt.payload.length).sum = seen.used ∧
          (∀ first ∈ receipts.head?, first.payload.length = seen.nextLength.toNat) ∧
          ∀ room, tryReceive endpoint room after = (.error .noData, after)) ∧
      (seen.depth = 0 → seen.used = 0 ∧ seen.nextLength = 0) := by
  intro engine
  have sound : engine.scene.Sound := run_sound operations (start_sound limits) few
  rcases sees_or_refused sound endpoint with
    ⟨running, ring, sees⟩ | ⟨fault, other, looked, received⟩
  · have ringSound := sees.ring_sound sound
    rw [sees.peek sound running]
    refine ⟨rfl, fun room fault => ⟨nofun, ?_⟩, ?_⟩
    · rintro ⟨failed, other⟩
      exact absurd (sees.receive_fault sound running failed) other
    · rintro seen ⟨rfl⟩
      refine ⟨fun rooms asked ample => ?_, ringSound.peek_nothing⟩
      obtain ⟨receipts, after, received, payloads, nothing⟩ :=
        receiveEach_drains sound running sees asked ample
      obtain ⟨counts, costs, fronts⟩ := ringSound.peek_tells payloads
      exact ⟨receipts, after, received, counts, costs, fronts, nothing⟩
  · rw [looked]
    refine ⟨rfl, fun room failure => ?_, nofun⟩
    rw [received room]
    constructor
    · rintro ⟨rfl⟩
      exact ⟨rfl, other⟩
    · rintro ⟨⟨rfl⟩, _⟩
      rfl

def laggingFeed : List Operation :=
  [.bindName 1 "shared:feed" 32 0x2a, .openName 3 "shared:feed" 4, .tap ⟨3, 1⟩ true,
    .send ⟨1, 1⟩ [104, 105, 33] 0 0, .send ⟨1, 1⟩ [7] 0 0]

theorem laggingFeed_drained :
    (peek ⟨3, 1⟩ ((start {}).run laggingFeed)).1 = .ok ⟨2, 20, 32, 3⟩ ∧
    ∃ receipts after,
      receiveEach ⟨3, 1⟩ [0xffff, 0x10000] ((start {}).run laggingFeed) = (.ok receipts, after) ∧
        (receipts.map fun receipt => framedSize receipt.payload.length).sum = 20 := by
  have looked : (peek ⟨3, 1⟩ ((start {}).run laggingFeed)).1 = .ok ⟨2, 20, 32, 3⟩ := by
    decide +kernel
  obtain ⟨_, _, foretold⟩ := peek_predicts_receive {} laggingFeed (by decide +kernel) ⟨3, 1⟩
  obtain ⟨receipts, after, received, _, costs, _⟩ :=
    (foretold _ looked).1 [0xffff, 0x10000] rfl (by decide)
  exact ⟨looked, receipts, after, received, costs⟩

end Engine

end Mailroom
