import Mailroom.Proofs.Engine.Handles
import Mailroom.Proofs.Waiting.Attempts

/-!
Calls that may wait, when they fail: what they can say, and that a failed send put nothing into a
ring and a failed receive took nothing out of one.
-/

namespace Mailroom

def Fault.isWaiting : Fault → Bool
  | .wouldBlock | .noData | .timedOut => true
  | _ => false

theorem Subscription.becomeSender_sublist (subscription : Subscription) :
    subscription.becomeSender.ring.frames.Sublist subscription.ring.frames := by
  unfold becomeSender
  split
  · exact List.nil_sublist _
  · exact List.Sublist.refl _

namespace Mailbox

def AddsNothing (before after : Mailbox) : Prop :=
  ∀ view ring, after.ringOf? view = some ring →
    ∃ former, before.ringOf? view = some former ∧ ring.frames.Sublist former.frames

theorem AddsNothing.refl (mailbox : Mailbox) : mailbox.AddsNothing mailbox :=
  fun _ ring found => ⟨ring, found, List.Sublist.refl _⟩

theorem marked_addsNothing (mailbox : Mailbox) (source : Endpoint) :
    mailbox.AddsNothing (mailbox.marked source) := by
  intro view ring found
  cases view with
  | queue =>
      cases found
      rw [marked_queue]
      exact ⟨mailbox.queue, rfl, List.Sublist.refl _⟩
  | subscriber endpoint | tap endpoint =>
      obtain ⟨subscription, present, rfl⟩ := Option.map_eq_some_iff.mp found
      rw [marked_at] at present
      split at present
      · obtain ⟨former, there, rfl⟩ := Option.map_eq_some_iff.mp present
        exact ⟨former.ring, Option.map_eq_some_iff.mpr ⟨former, there, rfl⟩,
          former.becomeSender_sublist⟩
      · exact ⟨subscription.ring, Option.map_eq_some_iff.mpr ⟨subscription, present, rfl⟩,
          List.Sublist.refl _⟩

variable {mailbox later : Mailbox} {fault : Fault}

theorem Sound.accept_fails (sound : mailbox.Sound) {source : Endpoint} {flags : Flags}
    {channel : UInt16} {payload : Bytes}
    (ran : mailbox.accept source flags channel payload = (.error fault, later)) :
    fault ≠ .timedOut ∧ later.id = mailbox.id ∧ mailbox.AddsNothing later := by
  by_cases fits : framedSize payload.length ≤ mailbox.capacity.toNat
  · rw [sound.accept_fitting source flags channel fits] at ran
    split at ran <;> cases ran
    exact ⟨nofun, mailbox.marked_id source, mailbox.marked_addsNothing source⟩
  · rw [sound.accept_large source flags channel (Nat.lt_of_not_le fits)] at ran
    cases ran
    exact ⟨nofun, rfl, .refl mailbox⟩

theorem Sound.take_fails (sound : mailbox.Sound) {view : View} {room : Nat}
    {outcome : Except Fault (Option Receipt)} (ran : mailbox.take view room = (outcome, later))
    (nothing : ∀ receipt, outcome ≠ .ok (some receipt)) :
    later = mailbox ∧ ∀ fault, outcome = .error fault → fault.isWaiting = false := by
  cases found : mailbox.ringOf? view with
  | none =>
      cases view with
      | queue => cases found
      | subscriber endpoint | tap endpoint =>
          have absent : mailbox.subscribers[endpoint]? = none := Option.map_eq_none_iff.mp found
          simp only [take, Subscribers.take, absent] at ran
          cases ran
          refine ⟨rfl, ?_⟩
          intro fault failed
          cases failed
          rfl
  | some ring =>
      by_cases empty : ring.frames = []
      · rw [take_of_empty room found empty] at ran
        cases ran
        refine ⟨rfl, ?_⟩
        intro fault failed
        cases failed
      · obtain ⟨frame, rest, front⟩ := List.exists_cons_of_ne_nil empty
        rw [sound.take_of_front room found front] at ran
        cases ran
        exact absurd rfl (nothing _)

end Mailbox

namespace Engine

open Step

def AddsNothing (before after : Engine) : Prop :=
  ∀ id later, after.registry.get? id = some later →
    ∃ earlier, before.registry.get? id = some earlier ∧ earlier.AddsNothing later

theorem AddsNothing.refl (engine : Engine) : engine.AddsNothing engine :=
  fun _ mailbox found => ⟨mailbox, found, .refl mailbox⟩

variable {engine : Engine} {endpoint : Endpoint}

theorem addsNothing_update {id : MailboxId} {before after : Mailbox}
    (found : engine.registry.get? id = some before) (same : after.id = id)
    (adds : before.AddsNothing after) :
    engine.AddsNothing { engine with registry := engine.registry.update after } := by
  intro other later there
  rw [Registry.update_get] at there
  split at there
  · rename_i here
    cases there
    exact ⟨before, by rw [← here, same, found], adds⟩
  · exact ⟨later, there, .refl later⟩

theorem fails_bindingOf {P : Fault → Engine → Prop}
    (invalid : P (.invalidHandle endpoint.pid endpoint.handle) engine) :
    Fails P (bindingOf endpoint) engine := by
  cases held : engine.handles.binding? endpoint with
  | none => exact fails_of_error (bindingOf_free held) invalid
  | some binding => exact fails_of_ok (bindingOf_held held)

theorem bindingOf_engine {outcome : Except Fault Binding} {after : Engine}
    (ran : bindingOf endpoint engine = (outcome, after)) : after = engine :=
  (congrArg Prod.snd ran).symm

theorem fails_readableView {P : Fault → Engine → Prop}
    (invalid : P (.invalidHandle endpoint.pid endpoint.handle) engine)
    (denied : P (.permissionDenied endpoint.handle .read) engine)
    (missing : ∀ reason, P (.internal reason) engine) :
    Fails P (readableView endpoint) engine := by
  refine fails_bind (fails_bindingOf invalid) fun binding middle begun => ?_
  cases bindingOf_engine begun
  split
  · refine fails_bind ?_ fun _ _ _ => fails_of_ok rfl
    cases found : engine.registry.get? binding.mailbox with
    | none => exact fails_of_error (mailboxOf_missing found) (missing _)
    | some mailbox => exact fails_of_ok (mailboxOf_found found)
  · exact fails_of_error rfl denied

theorem trySend_fails (intact : engine.Intact) (payload : Bytes) (flags channel : UInt16) :
    Fails (fun fault after => fault ≠ .timedOut ∧ engine.AddsNothing after)
      (trySend endpoint payload flags channel) engine := by
  rw [trySend_eq]
  have untouched := AddsNothing.refl engine
  refine fails_guarded ?_ (fun _ => ⟨nofun, untouched⟩) fun _ _ _ fails => fails
  refine fails_bind (fails_bindingOf ⟨nofun, untouched⟩) fun binding middle begun => ?_
  cases bindingOf_engine begun
  split
  · refine fails_bind (fails_onMailbox (fun _ => ⟨nofun, untouched⟩) ?_) fun _ _ _ =>
      fails_of_ok rfl
    intro mailbox found fault later ran
    obtain ⟨same, sound⟩ := intact _ mailbox found
    obtain ⟨untimed, kept, adds⟩ := sound.accept_fails ran
    exact ⟨untimed, addsNothing_update found (kept.trans same) adds⟩
  · exact fails_of_error rfl ⟨nofun, untouched⟩

theorem readableView_engine {outcome : Except Fault (Binding × View)} {after : Engine}
    (ran : readableView endpoint engine = (outcome, after)) : after = engine := by
  rcases bind_cases ran with ⟨binding, middle, begun, rest⟩ | ⟨fault, failed, _⟩
  · cases bindingOf_engine begun
    split at rest
    · rcases bind_cases rest with ⟨mailbox, last, looked, answered⟩ | ⟨fault, missing, _⟩
      · cases answered
        exact (congrArg Prod.snd looked).symm
      · exact (congrArg Prod.snd missing).symm
    · exact (congrArg Prod.snd rest).symm
  · exact bindingOf_engine failed

theorem readableView_answers {after : Engine} {binding : Binding} {view : View}
    (ran : readableView endpoint engine = (.ok (binding, view), after)) :
    ∃ mailbox, engine.Reads endpoint binding mailbox ∧
      view = mailbox.view endpoint binding.mode := by
  obtain ⟨held, middle, begun, rest⟩ := bind_answers ran
  cases bindingOf_engine begun
  cases known : engine.handles.binding? endpoint with
  | none =>
      rw [bindingOf_free known] at begun
      cases begun
  | some other =>
      cases (bindingOf_held known).symm.trans begun
      split at rest
      · rename_i readable
        cases found : engine.registry.get? held.mailbox with
        | none =>
            rw [bind_error (mailboxOf_missing found)] at rest
            cases rest
        | some mailbox =>
            rw [bind_ok (mailboxOf_found found)] at rest
            cases rest
            exact ⟨mailbox, ⟨known, found, readable⟩, rfl⟩
      · cases rest

theorem tryReceive_fails (intact : engine.Intact) (room : Nat) :
    Fails (fun fault after => fault ≠ .timedOut ∧ after.registry = engine.registry)
      (tryReceive endpoint room) engine := by
  rw [tryReceive_eq]
  refine fails_guarded ?_ (fun _ => ⟨nofun, rfl⟩) fun _ _ _ fails => fails
  refine fails_bind (fails_readableView ⟨nofun, rfl⟩ ⟨nofun, rfl⟩ fun _ => ⟨nofun, rfl⟩) ?_
  intro seen middle viewed
  cases readableView_engine viewed
  cases found : engine.registry.get? seen.1.mailbox with
  | none =>
      exact fails_of_error (bind_error (onMailbox_missing _ found)) ⟨nofun, rfl⟩
  | some mailbox =>
      obtain ⟨same, sound⟩ := intact _ mailbox found
      cases ran : mailbox.take seen.2 room with
      | mk outcome later =>
          have taken := onMailbox_found (fun mailbox => mailbox.take seen.2 room) found ran
          have left : (∀ receipt, outcome ≠ .ok (some receipt)) →
              ({ engine with registry := engine.registry.update later } : Engine).registry =
                engine.registry := by
            intro nothing
            rw [(sound.take_fails ran nothing).1, update_same found same]
          cases outcome with
          | ok taken? =>
              cases taken? with
              | some receipt =>
                  refine fails_bind (fails_of_ok taken) fun answer middle answered => ?_
                  cases taken.symm.trans answered
                  exact fails_of_ok rfl
              | none =>
                  refine fails_of_error (bind_ok taken) ⟨nofun, left nofun⟩
          | error fault =>
              have unwaiting := (sound.take_fails ran nofun).2 fault rfl
              refine fails_of_error (bind_error taken) ⟨?_, left nofun⟩
              rintro rfl
              cases unwaiting

theorem registry_course :
    Course fun before after : Engine => after.registry = before.registry :=
  ⟨fun _ => rfl, fun first second => second.trans first, fun _ _ => rfl⟩

theorem sendCondition_fails :
    Fails (fun fault _ => fault.isWaiting = false) (sendCondition endpoint) engine :=
  fails_guarded (fails_bind (fails_bindingOf rfl) fun _ _ _ => fails_of_ok rfl) (fun _ => rfl)
    fun _ _ _ calm => calm

theorem receiveCondition_fails :
    Fails (fun fault _ => fault.isWaiting = false) (receiveCondition endpoint) engine := by
  refine fails_guarded ?_ (fun _ => rfl) fun _ _ _ calm => calm
  refine fails_bind (fails_readableView rfl rfl fun _ => rfl) fun seen _ _ => ?_
  obtain ⟨binding, view⟩ := seen
  cases view <;> exact fails_of_ok rfl

end Engine

namespace Transfer

open Step

/-- What a call that fails must not do: take from a ring if it receives, put into one if it
sends. -/
def Spares : Transfer → Engine → Engine → Prop
  | .send .., before, after => before.AddsNothing after
  | .receive .., before, after => after.registry = before.registry

theorem Spares.with_registry {transfer : Transfer} {before after later : Engine}
    (spares : transfer.Spares before after) (same : later.registry = after.registry) :
    transfer.Spares before later := by
  cases transfer with
  | send =>
      intro id mailbox found
      rw [same] at found
      exact spares id mailbox found
  | receive => exact same.trans spares

theorem attempt_fails {engine : Engine} (intact : engine.Intact) (transfer : Transfer) :
    Fails (fun fault after => fault ≠ .timedOut ∧ transfer.Spares engine after) transfer.attempt
      engine := by
  cases transfer with
  | send endpoint payload flags channel =>
      exact fails_bind (Engine.trySend_fails intact payload flags channel)
        fun _ _ _ => fails_of_ok rfl
  | receive endpoint room =>
      exact fails_bind (Engine.tryReceive_fails intact room) fun _ _ _ => fails_of_ok rfl

theorem condition_fails (transfer : Transfer) (engine : Engine) :
    Fails (fun fault _ => fault.isWaiting = false) transfer.condition engine := by
  cases transfer with
  | send => exact Engine.sendCondition_fails
  | receive => exact Engine.receiveCondition_fails

theorem unavailable_isWaiting (transfer : Transfer) : transfer.unavailable.isWaiting = true := by
  cases transfer <;> rfl

end Transfer

end Mailroom
