import Mailroom.Proofs.Engine.Transfer
import Mailroom.Waiting.Exchange

/-!
One attempt of a call that may have to wait. If waiting may help, the attempt has left no wakeups,
there is a condition to wait for, and the mailbox is in the call's way.
-/

namespace Mailroom

def Transfer.endpoint : Transfer → Endpoint
  | .send endpoint .. => endpoint
  | .receive endpoint _ => endpoint

namespace Mailbox

/-- A reader other than the sender whose ring has no room for a message of this cost. -/
def HeldBackBy (mailbox : Mailbox) (source : Endpoint) (cost : Nat) (reader : Endpoint) : Prop :=
  reader ≠ source ∧ ∃ subscription, mailbox.subscribers[reader]? = some subscription ∧
    subscription.isReader = true ∧ subscription.ring.free < cost

def Stalls (mailbox : Mailbox) (source : Endpoint) (cost : Nat) : Prop :=
  match mailbox.policy with
  | .queue => mailbox.queue.free < cost
  | .fanoutDrop => False
  | .fanoutBlock => ∃ reader, mailbox.HeldBackBy source cost reader

theorem stalls_of_full {mailbox : Mailbox} {source : Endpoint} {cost : Nat}
    (full : (mailbox.marked source).hasRoom cost = false) :
    (mailbox.marked source).Stalls source cost := by
  unfold hasRoom at full
  unfold Stalls
  rw [marked_policy] at full ⊢
  cases policy : mailbox.policy with
  | queue =>
      rw [policy] at full
      exact Ring.hasRoom_false_iff.mp full
  | fanoutDrop =>
      rw [policy] at full
      cases full
  | fanoutBlock =>
      rw [policy] at full
      have short : ¬ (mailbox.marked source).subscribers.allHaveRoom cost = true := by
        simp [full]
      rw [Subscribers.allHaveRoom_iff] at short
      push Not at short
      obtain ⟨reader, subscription, found, reads, less⟩ := short
      refine ⟨reader, ?_, subscription, found, reads, less⟩
      intro same
      rw [marked_at, if_pos ⟨by simp [policy], same.symm⟩] at found
      obtain ⟨earlier, _, rfl⟩ := Option.map_eq_some_iff.mp found
      rw [Subscription.becomeSender_isReader] at reads
      cases reads

theorem not_stalls_of_room {mailbox : Mailbox} {source : Endpoint} {cost : Nat}
    (room : mailbox.hasRoom cost = true) : ¬ mailbox.Stalls source cost := by
  unfold hasRoom at room
  unfold Stalls
  cases policy : mailbox.policy with
  | queue =>
      rw [policy] at room
      exact Nat.not_lt.mpr (Ring.hasRoom_iff.mp room)
  | fanoutDrop => exact not_false
  | fanoutBlock =>
      rw [policy] at room
      rintro ⟨reader, _, subscription, found, reads, less⟩
      have free := (Subscribers.allHaveRoom_iff _ _).mp room reader subscription found reads
      exact Nat.not_lt.mpr free less

def Awaits (mailbox : Mailbox) (binding : Binding) (transfer : Transfer) (condition : Condition) :
    Prop :=
  condition.mailbox = binding.mailbox ∧
    match transfer with
    | .send .. => condition.kind = .writable
    | .receive endpoint _ =>
      Engine.reads binding.mode = true ∧
        condition.kind = Engine.awaited (mailbox.view endpoint binding.mode)

theorem Awaits.lasts {earlier later : Mailbox} {binding : Binding} {transfer : Transfer}
    {condition : Condition} (awaits : earlier.Awaits binding transfer condition)
    (lasts : earlier.Lasts later) : later.Awaits binding transfer condition := by
  refine ⟨awaits.1, ?_⟩
  cases transfer with
  | send => exact awaits.2
  | receive endpoint room =>
      have same : later.view endpoint binding.mode = earlier.view endpoint binding.mode := by
        simp only [view, lasts.policy_eq]
      change Engine.reads binding.mode = true ∧ condition.kind = _
      rw [same]
      exact awaits.2

end Mailbox

namespace Engine

/-- Why a call cannot go on now, although its handle is in order. -/
structure Stuck (engine : Engine) (transfer : Transfer) (condition : Condition)
    (binding : Binding) (mailbox : Mailbox) : Prop where
  held : engine.handles.binding? transfer.endpoint = some binding
  found : engine.registry.get? binding.mailbox = some mailbox
  awaits : mailbox.Awaits binding transfer condition
  full : ∀ endpoint payload flags channel, transfer = .send endpoint payload flags channel →
    mailbox.Stalls endpoint (framedSize payload.length)
  empty : ∀ endpoint room, transfer = .receive endpoint room →
    ∃ ring, mailbox.ringOf? (mailbox.view endpoint binding.mode) = some ring ∧ ring.frames = []

variable {engine after : Engine} {transfer : Transfer} {outcome : Except Fault Answer}

def Waits (before after : Engine) (transfer : Transfer) : Prop :=
  after.wakeups = before.wakeups ∧ ∃ condition binding mailbox,
    transfer.condition after = (.ok condition, after) ∧
      after.Stuck transfer condition binding mailbox

theorem Sends.waits {endpoint : Endpoint} {payload : Bytes} {flags channel : UInt16}
    {outcome : Except Fault Nat} (sends : engine.Sends endpoint payload flags channel outcome after)
    (sound : engine.scene.Sound) (running : engine.halted = none)
    (unavailable : outcome = .error .wouldBlock) :
    engine.Waits after (.send endpoint payload flags channel) := by
  cases sends with
  | refused other mild => exact absurd (Except.error.inj unavailable) other
  | sent held found fits room letter => cases unavailable
  | @full binding mailbox held found fits full =>
      have serves := sound.supports.serves binding.mailbox mailbox found
      have same : (mailbox.marked endpoint).id = binding.mailbox :=
        (serves.sound.marked_traffic endpoint).id_eq.trans serves.id_eq
      refine ⟨rfl, ⟨.writable, binding.mailbox⟩, binding, mailbox.marked endpoint,
        sendCondition_of running held, held, ?_, ⟨rfl, rfl⟩, ?_, ?_⟩
      · exact engine.registry.update_here same
      · intro source message _ _ sending
        cases sending
        exact Mailbox.stalls_of_full full
      · intro source room sending
        cases sending

theorem Receives.waits {endpoint : Endpoint} {room : Nat} {outcome : Except Fault Receipt}
    (receives : engine.Receives endpoint room outcome after) (sound : engine.scene.Sound)
    (running : engine.halted = none) (unavailable : outcome = .error .noData) :
    engine.Waits after (.receive endpoint room) := by
  cases receives with
  | refused unread other mild => exact absurd (Except.error.inj unavailable) other
  | received reader seen front delivered => cases unavailable
  | @empty binding mailbox ring reader seen empty =>
      refine ⟨rfl, _, binding, mailbox, receiveCondition_of sound running reader, reader.held,
        reader.found, ⟨rfl, reader.readable, rfl⟩, ?_, ?_⟩
      · intro source message _ _ receiving
        cases receiving
      · intro source _ receiving
        cases receiving
        exact ⟨ring, seen, empty⟩

theorem attempt_obeys {R : Engine → Engine → Prop} (admits : Admits R Conveys)
    (transfer : Transfer) : Step.Obeys R transfer.attempt := by
  cases transfer with
  | send endpoint payload flags channel =>
      exact (trySend_obeys admits endpoint payload flags channel).map Answer.count
  | receive endpoint room => exact (tryReceive_obeys admits endpoint room).map Answer.receipt

theorem condition_obeys {R : Engine → Engine → Prop} (course : Step.Course R)
    (transfer : Transfer) : Step.Obeys R transfer.condition := by
  cases transfer with
  | send endpoint payload flags channel => exact sendCondition_obeys course endpoint
  | receive endpoint room => exact receiveCondition_obeys course endpoint

theorem attempt_ends (sound : engine.scene.Sound) (running : engine.halted = none)
    (ran : transfer.attempt engine = (outcome, after)) :
    Mild outcome ∧ engine.scene.Passes after.scene ∧
      (outcome = .error transfer.unavailable → engine.Waits after transfer) := by
  cases transfer with
  | send endpoint payload flags channel =>
      have ran : (trySend endpoint payload flags channel >>= fun count =>
        Pure.pure (Answer.count count)) engine = (outcome, after) := ran
      rcases Step.bind_cases ran with ⟨count, middle, sent, rest⟩ | ⟨fault, failed, rfl⟩
      · cases rest
        have passes := (trySend_ends sound running sent).passes sound
        exact ⟨mild_ok _, passes.2, nofun⟩
      · have sends := trySend_ends sound running failed
        obtain ⟨mild, passes⟩ := sends.passes sound
        refine ⟨mild.fault, passes, ?_⟩
        intro unavailable
        cases unavailable
        exact sends.waits sound running rfl
  | receive endpoint room =>
      have ran : (tryReceive endpoint room >>= fun receipt =>
        Pure.pure (Answer.receipt receipt)) engine = (outcome, after) := ran
      rcases Step.bind_cases ran with ⟨receipt, middle, received, rest⟩ | ⟨fault, failed, rfl⟩
      · cases rest
        have passes := (tryReceive_ends sound running received).passes sound
        exact ⟨mild_ok _, passes.2, nofun⟩
      · have receives := tryReceive_ends sound running failed
        obtain ⟨mild, passes⟩ := receives.passes sound
        refine ⟨mild.fault, passes, ?_⟩
        intro unavailable
        cases unavailable
        exact receives.waits sound running rfl

def Drains (before after : Engine) (endpoint : Endpoint) : Prop :=
  ∀ binding mailbox, before.Reads endpoint binding mailbox →
    mailbox.view endpoint binding.mode = .queue →
      (∃ later, after.registry.get? binding.mailbox = some later ∧
        later.queue.depth = mailbox.queue.depth - 1) ∧
      after.wakeups.count ⟨⟨.readable, binding.mailbox⟩, .one⟩ =
        before.wakeups.count ⟨⟨.readable, binding.mailbox⟩, .one⟩

theorem Receives.drains {endpoint : Endpoint} {room : Nat} {outcome : Except Fault Receipt}
    (receives : engine.Receives endpoint room outcome after) (sound : engine.scene.Sound) :
    engine.Drains after endpoint := by
  intro binding mailbox reader queued
  cases receives with
  | refused unread other mild => exact absurd reader (unread _ _)
  | empty second seen empty =>
      cases reader.held.symm.trans second.held
      cases reader.found.symm.trans second.found
      rw [queued] at seen
      cases seen
      refine ⟨⟨mailbox, reader.found, ?_⟩, rfl⟩
      simp [Ring.depth, empty]
  | @received other present ring frame rest receipt second seen front delivered =>
      cases reader.held.symm.trans second.held
      cases reader.found.symm.trans second.found
      have serves := sound.supports.serves binding.mailbox mailbox reader.found
      rw [queued]
      rw [acknowledge_eq]
      constructor
      · exact ⟨mailbox.withdrawn .queue, engine.registry.update_here serves.id_eq,
          List.length_tail⟩
      · simp [Mailbox.acknowledging, View.freesSenderSpace]

theorem attempt_drains (sound : engine.scene.Sound) (running : engine.halted = none)
    {endpoint : Endpoint} {room : Nat}
    (ran : (Transfer.receive endpoint room).attempt engine = (outcome, after)) :
    engine.Drains after endpoint := by
  have ran : (tryReceive endpoint room >>= fun receipt =>
    Pure.pure (Answer.receipt receipt)) engine = (outcome, after) := ran
  rcases Step.bind_cases ran with ⟨receipt, middle, received, rest⟩ | ⟨fault, failed, rfl⟩
  · cases rest
    exact (tryReceive_ends sound running received).drains sound
  · exact (tryReceive_ends sound running failed).drains sound

end Engine

end Mailroom
