import Mailroom.Proofs.Engine.Edits
import Mailroom.Proofs.Traffic

/-!
What holds however long an engine runs, also when identifiers have come round: every mailbox is
registered under its own identifier, and its rings keep their books.
-/

namespace Mailroom

namespace Mailbox

@[simp] theorem marked_id (mailbox : Mailbox) (source : Endpoint) :
    (mailbox.marked source).id = mailbox.id := by
  unfold marked
  split <;> rfl

theorem Sound.detach_sound {mailbox : Mailbox} (sound : mailbox.Sound) (endpoint : Endpoint) :
    (mailbox.detach endpoint).2.Sound ∧ (mailbox.detach endpoint).2.id = mailbox.id := by
  have erased := sound.detached endpoint
  by_cases zero : mailbox.references = 0
  · have left : (mailbox.detach endpoint).2 =
        { mailbox with subscribers := mailbox.subscribers.erase endpoint } := by
      simp only [detach, zero, if_true]
    rw [left]
    exact ⟨⟨erased.queue_capacity, erased.queue_sound, erased.ring_capacity, erased.ring_sound⟩,
      rfl⟩
  · rw [detach_eq endpoint zero]
    exact ⟨erased, rfl⟩

theorem Loosens.sound {before after : Mailbox} (loosens : before.Loosens after)
    (sound : before.Sound) : after.Sound ∧ after.id = before.id := by
  cases loosens with
  | detached endpoint => exact sound.detach_sound endpoint
  | unpinned =>
      exact ⟨⟨sound.queue_capacity, sound.queue_sound, sound.ring_capacity, sound.ring_sound⟩, rfl⟩

theorem Moves.traffic {before after : Mailbox} (moves : before.Moves after)
    (sound : before.Sound) : before.Traffic after := by
  cases moves with
  | same => exact .refl sound
  | accepted source flags channel payload =>
      by_cases fits : framedSize payload.length ≤ before.capacity.toNat
      · rw [sound.accept_fitting source flags channel fits]
        have marked := sound.marked_traffic source
        split
        · rename_i room
          have measured := letter_measured source flags channel fits
          have within : framedSize payload.length ≤ (before.marked source).capacity.toNat := by
            rw [marked.capacity_eq]
            exact fits
          exact marked.trans (marked.sound.posted_traffic measured within room)
        · exact marked
      · rw [sound.accept_large source flags channel (Nat.lt_of_not_le fits)]
        exact .refl sound
  | taken view room =>
      cases found : before.ringOf? view with
      | none =>
          rw [take_of_missing room found]
          exact .refl sound
      | some ring =>
          by_cases empty : ring.frames = []
          · rw [take_of_empty room found empty]
            exact .refl sound
          · obtain ⟨frame, rest, front⟩ := List.exists_cons_of_ne_nil empty
            rw [sound.take_of_front room found front]
            exact sound.withdrawn_traffic view
  | @switched endpoint enabled subscribers set =>
      cases found : before.subscribers[endpoint]? with
      | none => simp [Subscribers.setTap, found] at set
      | some subscription =>
          cases tapped : subscription.isTap with
          | false => simp [Subscribers.setTap, found, tapped] at set
          | true =>
              rw [setTap_eq found tapped] at set
              cases set
              exact sound.switched_traffic found tapped enabled

end Mailbox

namespace Engine

def Intact (engine : Engine) : Prop :=
  ∀ id mailbox, engine.registry.get? id = some mailbox → mailbox.id = id ∧ mailbox.Sound

theorem start_intact (limits : Limits) : (start limits).Intact := by
  intro id mailbox found
  simp [start, Registry.withLimit, Registry.get?] at found

theorem Intact.update {engine : Engine} (intact : engine.Intact) {mailbox : Mailbox}
    (sound : mailbox.Sound) :
    Intact { engine with registry := engine.registry.update mailbox } := by
  intro id other found
  rw [Registry.update_get] at found
  split at found
  · rename_i same
    cases found
    exact ⟨same, sound⟩
  · exact intact id other found

theorem Intact.destroy {engine : Engine} (intact : engine.Intact) (id : MailboxId) :
    (engine.destroy id).Intact := by
  cases found : engine.registry.get? id with
  | none =>
      have absent : engine.registry.remove id = (none, engine.registry) := by
        simp only [Registry.remove, found]
      rw [destroy_of_absent id absent]
      exact intact
  | some mailbox =>
      have same : mailbox.id = id := (intact id mailbox found).1
      subst same
      rw [destroy_of_found mailbox.id (Registry.remove_eq found)]
      intro other later there
      rw [Registry.removed_get] at there
      split at there
      · cases there
      · exact intact other later there

theorem Opens.intact {before after : Engine} (opens : before.Opens after)
    (intact : before.Intact) : after.Intact := by
  cases opens with
  | stopped | told | searched | missed => exact intact
  | made name capacity policy creator persistent =>
      intro id mailbox found
      have found : Registry.get? (before.registry.added _) id = some mailbox := found
      rw [Registry.added_get] at found
      split at found
      · rename_i same
        cases found
        exact ⟨same, Mailbox.sound_empty _ _ _ _ _ _⟩
      · exact intact id mailbox found
  | attached free given found => exact intact.update ((intact _ _ found).2.attach _ _)

theorem Closes.intact {before after : Engine} (closes : before.Closes after)
    (intact : before.Intact) : after.Intact := by
  cases closes with
  | stopped | woken | unbound => exact intact
  | loosened found loosens => exact intact.update (loosens.sound (intact _ _ found).2).1
  | destroyed id => exact intact.destroy id

theorem Edit.intact {before after : Engine} (edit : before.Edit after) (intact : before.Intact) :
    after.Intact := by
  cases edit with
  | opens opens => exact opens.intact intact
  | closes closes => exact closes.intact intact
  | told => exact intact
  | moved found moves => exact intact.update (moves.traffic (intact _ _ found).2).sound

theorem Edited.intact {before after : Engine} (edited : before.Edited after)
    (intact : before.Intact) : after.Intact := by
  induction edited with
  | refl => exact intact
  | tail _ edit ih => exact edit.intact ih

theorem intact_course : Step.Course fun before after : Engine => before.Intact → after.Intact :=
  ⟨fun _ intact => intact, fun first second intact => second (first intact),
    fun _ _ intact => intact⟩

theorem run_intact (limits : Limits) (operations : List Operation) :
    ((start limits).run operations).Intact :=
  (run_edited operations (start limits)).intact (start_intact limits)

end Engine

end Mailroom
