import Mailroom.Proofs.Registry

/-!
Messages that come, go and are copied leave alone what a mailbox is and who holds it.
-/

namespace Mailroom.Mailbox

theorem take_of_missing {mailbox : Mailbox} {view : View} (room : Nat)
    (missing : mailbox.ringOf? view = none) : (mailbox.take view room).2 = mailbox := by
  cases view with
  | queue => cases missing
  | subscriber endpoint | tap endpoint =>
      have absent : mailbox.subscribers[endpoint]? = none := Option.map_eq_none_iff.mp missing
      simp only [take, Subscribers.take, absent]

theorem Traffic.refl {mailbox : Mailbox} (sound : mailbox.Sound) : mailbox.Traffic mailbox :=
  ⟨rfl, rfl, rfl, rfl, rfl, rfl, fun _ => rfl, sound⟩

theorem Traffic.trans {first second third : Mailbox} (left : first.Traffic second)
    (right : second.Traffic third) : first.Traffic third :=
  ⟨right.id_eq.trans left.id_eq, right.name_eq.trans left.name_eq,
    right.capacity_eq.trans left.capacity_eq, right.policy_eq.trans left.policy_eq,
    right.persistent_eq.trans left.persistent_eq, right.references_eq.trans left.references_eq,
    fun endpoint => (right.tapped_eq endpoint).trans (left.tapped_eq endpoint), right.sound⟩

theorem Sound.marked_traffic {mailbox : Mailbox} (sound : mailbox.Sound) (source : Endpoint) :
    mailbox.Traffic (mailbox.marked source) := by
  have tapped : ∀ endpoint : Endpoint,
      (mailbox.marked source).tapped? endpoint = mailbox.tapped? endpoint := by
    intro endpoint
    rw [tapped?, marked_at]
    split
    · rw [Option.map_map, tapped?]
      congr 1
      funext subscription
      exact Subscription.becomeSender_isTap subscription
    · rfl
  have marked := sound.marked source
  unfold Mailbox.marked at tapped marked ⊢
  split at tapped
  · rename_i queued
    rw [if_pos queued]
    exact Traffic.refl sound
  · rename_i fanned
    rw [if_neg fanned] at marked ⊢
    exact ⟨rfl, rfl, rfl, rfl, rfl, rfl, tapped, marked⟩

theorem Sound.posted_traffic {mailbox : Mailbox} (sound : mailbox.Sound) {frame : Frame}
    (measured : frame.IsMeasured) (fits : frame.cost ≤ mailbox.capacity.toNat)
    (room : mailbox.hasRoom frame.cost = true) : mailbox.Traffic (mailbox.posted frame) := by
  refine ⟨rfl, rfl, rfl, rfl, rfl, rfl, ?_, sound.posted measured fits room⟩
  intro endpoint
  rw [tapped?, posted_at, Option.map_map, tapped?]
  congr 1
  funext subscription
  simp only [Function.comp_apply]
  split <;> simp

theorem Sound.withdrawn_traffic {mailbox : Mailbox} (sound : mailbox.Sound) (view : View) :
    mailbox.Traffic (mailbox.withdrawn view) := by
  have tapped : ∀ endpoint : Endpoint,
      (mailbox.withdrawn view).tapped? endpoint = mailbox.tapped? endpoint := by
    intro endpoint
    rw [tapped?, withdrawn_at]
    split
    · rw [Option.map_map, tapped?]
      congr 1
      funext subscription
      exact Subscription.taken_isTap subscription
    · rfl
  have withdrawn := sound.withdrawn view
  cases view <;> exact ⟨rfl, rfl, rfl, rfl, rfl, rfl, tapped, withdrawn⟩

theorem Sound.switched_traffic {mailbox : Mailbox} (sound : mailbox.Sound) {endpoint : Endpoint}
    {subscription : Subscription} (found : mailbox.subscribers[endpoint]? = some subscription)
    (tapped : subscription.isTap = true) (enabled : Bool) :
    mailbox.Traffic (mailbox.switched endpoint enabled) := by
  refine ⟨rfl, rfl, rfl, rfl, rfl, rfl, ?_, sound.switched endpoint enabled⟩
  intro other
  rw [tapped?, switched_at]
  split
  · rename_i same
    subst same
    rw [found, tapped?, found]
    simp only [Option.map_some, tapped]
    rfl
  · rfl

end Mailroom.Mailbox
