import Mailroom.Proofs.Engine.Intact
import Mailroom.Proofs.Engine.Transfer

/-!
What a refused send leaves behind: the engine as it was, with one exception. A handle that reads a
blocking fan-out becomes a sender before the room is looked at, and then loses the messages that
wait for it although its own message is refused.
-/

namespace Mailroom

namespace Mailbox

def ReadBy (mailbox : Mailbox) (endpoint : Endpoint) : Prop :=
  ∃ subscription, mailbox.subscribers[endpoint]? = some subscription ∧ subscription.isReader = true

theorem marked_eq_iff (mailbox : Mailbox) (source : Endpoint) :
    mailbox.marked source = mailbox ↔ mailbox.policy = .queue ∨ ¬ mailbox.ReadBy source := by
  constructor
  · intro same
    by_contra apart
    push Not at apart
    obtain ⟨fanned, subscription, there, reads⟩ := apart
    have marked := mailbox.marked_at source source
    rw [if_pos ⟨fanned, rfl⟩, same, there, Option.map_some, Option.some.injEq] at marked
    rw [marked, Subscription.becomeSender_isReader] at reads
    cases reads
  · rintro (queued | unread)
    · simp only [marked, queued, if_true]
    · have kept : mailbox.subscribers.markSender source = mailbox.subscribers := by
        apply Table.ext_at
        intro endpoint
        rw [Subscribers.markSender, Table.modify_at]
        split
        · rename_i same
          subst same
          cases there : mailbox.subscribers[source]? with
          | none => rfl
          | some subscription =>
              have other : ¬ subscription.isReader = true := fun reads =>
                unread ⟨subscription, there, reads⟩
              have same : subscription.becomeSender = subscription := if_neg other
              rw [Option.map_some, same]
        · rfl
      simp only [marked, kept, ite_self]

end Mailbox

namespace Engine

variable {engine after : Engine} {endpoint : Endpoint}

def ReadsBlocking (engine : Engine) (endpoint : Endpoint) : Prop :=
  ∃ binding mailbox, engine.handles.binding? endpoint = some binding ∧
    engine.registry.get? binding.mailbox = some mailbox ∧ mailbox.policy = .fanoutBlock ∧
    mailbox.ReadBy endpoint

/-- The calling handle counts as a sender from now on, and nothing else has changed. -/
def MarksOnly (engine : Engine) (endpoint : Endpoint) (after : Engine) : Prop :=
  ∃ binding mailbox, engine.handles.binding? endpoint = some binding ∧
    engine.registry.get? binding.mailbox = some mailbox ∧
    after = { engine with registry := engine.registry.update (mailbox.marked endpoint) }

theorem update_eq_iff {id : MailboxId} {before later : Mailbox}
    (found : engine.registry.get? id = some before) (beforeId : before.id = id)
    (laterId : later.id = id) :
    { engine with registry := engine.registry.update later } = engine ↔ later = before := by
  constructor
  · intro same
    have here := engine.registry.update_here laterId
    have registries := congrArg Engine.registry same
    simp only at registries
    rw [registries, found] at here
    exact (Option.some.inj here).symm
  · rintro rfl
    exact update_same found beforeId

theorem Sends.refusal {payload : Bytes} {flags channel : UInt16} {fault : Fault}
    (sends : engine.Sends endpoint payload flags channel (.error fault) after)
    (intact : engine.Intact) :
    (after = engine ↔ ¬ (fault = .wouldBlock ∧ engine.ReadsBlocking endpoint)) ∧
      (after ≠ engine → engine.MarksOnly endpoint after) := by
  cases sends with
  | refused other mild => exact ⟨iff_of_true rfl fun both => other both.1, absurd rfl⟩
  | @full binding mailbox held found fits full =>
      refine ⟨?_, fun _ => ⟨binding, mailbox, held, found, rfl⟩⟩
      have same := (intact binding.mailbox mailbox found).1
      have markedId : (mailbox.marked endpoint).id = binding.mailbox := by
        rw [Mailbox.marked_id, same]
      have blocking : mailbox.policy ≠ .queue → mailbox.policy = .fanoutBlock := by
        intro fanned
        rw [Mailbox.hasRoom, Mailbox.marked_policy] at full
        cases policy : mailbox.policy with
        | queue => exact absurd policy fanned
        | fanoutDrop => simp [policy] at full
        | fanoutBlock => rfl
      rw [update_eq_iff found same markedId, Mailbox.marked_eq_iff]
      constructor
      · rintro kept ⟨_, other, there, otherHeld, otherFound, blocks, read⟩
        cases held.symm.trans otherHeld
        cases found.symm.trans otherFound
        rcases kept with queued | unread
        · rw [queued] at blocks
          cases blocks
        · exact unread read
      · intro spared
        by_cases queued : mailbox.policy = .queue
        · exact Or.inl queued
        · exact Or.inr fun read =>
            spared ⟨rfl, binding, mailbox, held, found, blocking queued, read⟩

theorem trySend_dangling {binding : Binding} (payload : Bytes) (flags channel : UInt16)
    (running : engine.halted = none) (held : engine.handles.binding? endpoint = some binding)
    (writes : binding.mode.canWrite = true)
    (missing : engine.registry.get? binding.mailbox = none) :
    ∃ reason later, trySend endpoint payload flags channel engine =
      (.error (.internal reason), later) := by
  have inner : (onMailbox binding.mailbox (acceptance endpoint payload flags channel) >>=
      fun accepted =>
        Step.change (fun engine =>
          engine.announce endpoint binding.mailbox channel payload.length accepted) >>= fun _ =>
          (Pure.pure payload.length : Step Nat)) engine =
      (.error (.internal ("dangling binding to " ++ binding.mailbox.text)), engine) :=
    Step.bind_error (onMailbox_missing _ missing)
  cases ran : trySend endpoint payload flags channel engine with
  | mk outcome later =>
      rw [trySend_eq] at ran
      simp only [Step.guarded, running, Step.bind_ok (bindingOf_held held), writes, if_true, inner]
        at ran
      cases ran
      exact ⟨_, _, rfl⟩

theorem refused_send_unchanged_iff (limits : Limits) (operations : List Operation)
    {payload : Bytes} {flags channel : UInt16} {fault : Fault}
    (ran : trySend endpoint payload flags channel ((start limits).run operations) =
      (.error fault, after))
    (mild : fault.isInternal = false) :
    (after = (start limits).run operations ↔
      ¬ (fault = .wouldBlock ∧ ((start limits).run operations).ReadsBlocking endpoint)) ∧
    (after ≠ (start limits).run operations →
      ((start limits).run operations).MarksOnly endpoint after) := by
  have intact := run_intact limits operations
  generalize (start limits).run operations = engine at ran intact ⊢
  have running : engine.halted = none := by
    cases halted : engine.halted with
    | none => rfl
    | some reason =>
        rw [trySend_eq, Step.guarded_halted halted] at ran
        cases ran
        cases mild
  refine (trySend_cases ?_ running ran).refusal intact
  intro binding held writes
  cases found : engine.registry.get? binding.mailbox with
  | some mailbox => exact ⟨mailbox, rfl, intact _ _ found⟩
  | none =>
      obtain ⟨reason, later, broken⟩ :=
        trySend_dangling payload flags channel running held writes found
      rw [broken] at ran
      cases ran
      cases mild

def crowdedFeed : Engine :=
  (start {}).run
    [.bindName 1 "shared:feed" 32 0x2a, .openName 2 "shared:feed" 3, .openName 3 "shared:feed" 1,
      .send ⟨1, 1⟩ (List.replicate 16 0) 0 0]

def crowdedAnswer : Except Fault Nat × Engine :=
  trySend ⟨2, 1⟩ (List.replicate 16 0) 0 0 crowdedFeed

theorem crowdedAnswer_refused : crowdedAnswer.1 = .error .wouldBlock := by decide +kernel

theorem crowdedAnswer_depths :
    (peek ⟨2, 1⟩ crowdedFeed).1.map Peek.depth = .ok 1 ∧
      (peek ⟨2, 1⟩ crowdedAnswer.2).1.map Peek.depth = .ok 0 := by decide +kernel

theorem crowdedAnswer_differs : crowdedAnswer.2 ≠ crowdedFeed := by
  intro same
  have depths := crowdedAnswer_depths
  rw [same, depths.1] at depths
  cases depths.2

theorem crowdedFeed_reader_silenced :
    crowdedFeed.ReadsBlocking ⟨2, 1⟩ ∧ crowdedFeed.MarksOnly ⟨2, 1⟩ crowdedAnswer.2 := by
  have ran : trySend ⟨2, 1⟩ (List.replicate 16 0) 0 0 crowdedFeed =
      (.error .wouldBlock, crowdedAnswer.2) := Prod.ext crowdedAnswer_refused rfl
  obtain ⟨unchanged, marked⟩ := refused_send_unchanged_iff {} _ ran rfl
  refine ⟨?_, marked crowdedAnswer_differs⟩
  by_contra spared
  exact crowdedAnswer_differs (unchanged.mpr fun both => spared both.2)

/-- A refused send can cost the sender the messages that wait for it. -/
theorem refused_send_discards :
    ¬ ∀ (limits : Limits) (operations : List Operation) (endpoint : Endpoint) (payload : Bytes)
      (flags channel : UInt16) (fault : Fault) (after : Engine),
      trySend endpoint payload flags channel ((start limits).run operations) =
        (.error fault, after) → fault.isInternal = false → after = (start limits).run operations :=
    by
  intro always
  exact crowdedAnswer_differs (always {} _ ⟨2, 1⟩ _ 0 0 .wouldBlock crowdedAnswer.2
    (Prod.ext crowdedAnswer_refused rfl) rfl)

end Engine

end Mailroom
