import Mailroom.Proofs.Engine.Intact
import Mailroom.Proofs.Engine.Passage

/-!
What operations do that move no message. Whatever is opened is new and empty, whatever stays is as
it was, and nobody loses a copy.
-/

namespace Mailroom

structure Subscription.IsNew (subscription : Subscription) : Prop where
  empty : subscription.ring.frames = []
  reported : subscription.lossPending = false
  dropped_eq : subscription.dropped = 0
  silent : subscription.sender = false
  off : subscription.kind ≠ .tap true

namespace Mailbox

theorem freshSeat_isNew (mailbox : Mailbox) (mode : Mode) : (mailbox.freshSeat mode).IsNew := by
  refine ⟨rfl, rfl, rfl, rfl, ?_⟩
  cases tapped : mode.isTap <;> simp [freshSeat, tapped]

structure Rests (before after : Mailbox) : Prop where
  lasts : before.Lasts after
  queue_eq : after.queue = before.queue

theorem Rests.refl (mailbox : Mailbox) : mailbox.Rests mailbox := ⟨.refl mailbox, rfl⟩

theorem Rests.trans {first second third : Mailbox} (left : first.Rests second)
    (right : second.Rests third) : first.Rests third :=
  ⟨left.lasts.trans right.lasts, right.queue_eq.trans left.queue_eq⟩

theorem attach_rests (mailbox : Mailbox) (endpoint : Endpoint) (mode : Mode) :
    mailbox.Rests (mailbox.attach endpoint mode) := by
  rw [attach_eq]
  exact ⟨⟨rfl, rfl, rfl⟩, rfl⟩

theorem Loosens.rests {before after : Mailbox} (loosens : before.Loosens after) :
    before.Rests after := by
  cases loosens with
  | detached endpoint =>
      simp only [detach]
      split <;> exact ⟨⟨rfl, rfl, rfl⟩, rfl⟩
  | unpinned => exact ⟨⟨rfl, rfl, rfl⟩, rfl⟩

theorem Loosens.seats {before after : Mailbox} (loosens : before.Loosens after)
    {endpoint : Endpoint} {subscription : Subscription}
    (there : after.subscribers[endpoint]? = some subscription) :
    before.subscribers[endpoint]? = some subscription := by
  cases loosens with
  | detached other =>
      have erased : (before.subscribers.erase other)[endpoint]? = some subscription := by
        simp only [detach] at there
        split at there <;> exact there
      rw [Table.erase_at] at erased
      split at erased
      · cases erased
      · exact erased
  | unpinned => exact there

end Mailbox

namespace Engine

theorem intact_of_sound {engine : Engine} (sound : engine.scene.Sound) : engine.Intact :=
  fun id mailbox found =>
    have serves := sound.supports.serves id mailbox found
    ⟨serves.id_eq, serves.sound⟩

def Spares (before after : Engine) : Prop :=
  ∃ news, after.events = news ++ before.events ∧ ∀ event ∈ news, event.isOverrun = false

theorem Spares.refl (engine : Engine) : engine.Spares engine := ⟨[], rfl, by simp⟩

theorem Spares.trans {first second third : Engine} (left : first.Spares second)
    (right : second.Spares third) : first.Spares third := by
  obtain ⟨older, olderEq, olderOthers⟩ := left
  obtain ⟨newer, newerEq, newerOthers⟩ := right
  refine ⟨newer ++ older, by rw [newerEq, olderEq, List.append_assoc], ?_⟩
  intro event member
  rcases List.mem_append.mp member with late | early
  · exact newerOthers event late
  · exact olderOthers event early

theorem spares_emit (engine : Engine) {event : Event} (other : event.isOverrun = false) :
    engine.Spares (engine.emit event) := ⟨[event], rfl, by simpa using other⟩

structure Widens (before after : Engine) : Prop where
  bound : ∀ endpoint binding, before.handles.binding? endpoint = some binding →
    after.handles.binding? endpoint = some binding
  kept : ∀ id earlier, before.registry.get? id = some earlier →
    ∃ later, after.registry.get? id = some later ∧ earlier.Rests later
  made : ∀ id later, after.registry.get? id = some later → before.registry.get? id = none →
    later.queue.frames = []
  seats : ∀ id later, after.registry.get? id = some later →
    ∀ (endpoint : Endpoint) (subscription : Subscription),
      later.subscribers[endpoint]? = some subscription →
        (∃ earlier, before.registry.get? id = some earlier ∧
          earlier.subscribers[endpoint]? = some subscription) ∨
        (before.handles.binding? endpoint = none ∧ subscription.IsNew)
  spares : before.Spares after

theorem Widens.trans {first second third : Engine} (left : first.Widens second)
    (right : second.Widens third) : first.Widens third := by
  refine ⟨?_, ?_, ?_, ?_, left.spares.trans right.spares⟩
  · intro endpoint binding held
    exact right.bound endpoint binding (left.bound endpoint binding held)
  · intro id earlier found
    obtain ⟨middle, there, rests⟩ := left.kept id earlier found
    obtain ⟨later, last, still⟩ := right.kept id middle there
    exact ⟨later, last, rests.trans still⟩
  · intro id later found missing
    cases between : second.registry.get? id with
    | none => exact right.made id later found between
    | some middle =>
        obtain ⟨last, there, rests⟩ := right.kept id middle between
        cases found.symm.trans there
        rw [rests.queue_eq]
        exact left.made id middle between missing
  · intro id later found endpoint subscription there
    rcases right.seats id later found endpoint subscription there with
      ⟨middle, between, seated⟩ | ⟨free, new⟩
    · exact left.seats id middle between endpoint subscription seated
    · right
      refine ⟨?_, new⟩
      cases held : first.handles.binding? endpoint with
      | none => rfl
      | some binding =>
          rw [left.bound endpoint binding held] at free
          cases free

structure Narrows (before after : Engine) : Prop where
  bound : ∀ endpoint binding, after.handles.binding? endpoint = some binding →
    before.handles.binding? endpoint = some binding
  kept : ∀ id later, after.registry.get? id = some later →
    ∃ earlier, before.registry.get? id = some earlier ∧ earlier.Rests later ∧
      ∀ (endpoint : Endpoint) (subscription : Subscription),
        later.subscribers[endpoint]? = some subscription →
          earlier.subscribers[endpoint]? = some subscription
  spares : before.Spares after

theorem Narrows.trans {first second third : Engine} (left : first.Narrows second)
    (right : second.Narrows third) : first.Narrows third := by
  refine ⟨?_, ?_, left.spares.trans right.spares⟩
  · intro endpoint binding held
    exact left.bound endpoint binding (right.bound endpoint binding held)
  · intro id later found
    obtain ⟨middle, between, rests, seats⟩ := right.kept id later found
    obtain ⟨earlier, there, rested, seated⟩ := left.kept id middle between
    exact ⟨earlier, there, rested.trans rests,
      fun endpoint subscription present => seated _ _ (seats _ _ present)⟩

theorem widens_same {before after : Engine} (registry_eq : after.registry = before.registry)
    (bound : ∀ endpoint binding, before.handles.binding? endpoint = some binding →
      after.handles.binding? endpoint = some binding)
    (spares : before.Spares after) : before.Widens after := by
  refine ⟨bound, ?_, ?_, ?_, spares⟩
  · intro id earlier found
    exact ⟨earlier, by rw [registry_eq]; exact found, .refl earlier⟩
  · intro id later found missing
    rw [registry_eq, missing] at found
    cases found
  · intro id later found endpoint subscription there
    exact Or.inl ⟨later, by rw [← registry_eq]; exact found, there⟩

theorem bound_given {engine : Engine} {handles : HandleTable} {endpoint : Endpoint}
    {binding : Binding} (free : engine.handles.binding? endpoint = none)
    (given : handles.binding? = Function.update engine.handles.binding? endpoint (some binding))
    (other : Endpoint) (held? : Binding)
    (held : engine.handles.binding? other = some held?) : handles.binding? other = some held? := by
  rw [given, Function.update_apply, if_neg, held]
  rintro rfl
  rw [free] at held
  cases held

theorem Opens.widens {before after : Engine} (opens : before.Opens after) (intact : before.Intact)
    (numbered : before.registry.Numbered before.registrations)
    (few : after.registrations ≤ Registry.mostNumbers) : before.Widens after := by
  cases opens with
  | stopped reason? => exact widens_same rfl (fun _ _ held => held) ⟨[], rfl, by simp⟩
  | told plain =>
      have other := Event.isPlain_overrun plain
      exact widens_same rfl (fun _ _ held => held) (spares_emit before other)
  | searched same =>
      exact widens_same rfl (fun _ _ held => by rw [same]; exact held) ⟨[], rfl, by simp⟩
  | missed free given missing => exact widens_same rfl (bound_given free given) ⟨[], rfl, by simp⟩
  | made name capacity policy creator persistent =>
      rw [emit_created] at few
      have unused := numbered.unused (Nat.lt_of_succ_le few)
      refine ⟨fun _ _ held => held, ?_, ?_, ?_, ⟨[_], rfl, by simp [Event.isOverrun]⟩⟩
      · intro id earlier found
        refine ⟨earlier, ?_, .refl earlier⟩
        refine (Registry.added_get _ _ id).trans ?_
        rw [if_neg, found]
        rintro rfl
        rw [unused] at found
        cases found
      · intro id later found missing
        have found : Registry.get? (before.registry.added _) id = some later := found
        rw [Registry.added_get, missing] at found
        split at found
        · cases found
          rfl
        · cases found
      · intro id later found endpoint subscription there
        have found : Registry.get? (before.registry.added _) id = some later := found
        rw [Registry.added_get] at found
        split at found
        · cases found
          simp [Mailbox.empty] at there
        · exact Or.inl ⟨later, found, there⟩
  | @attached handles endpoint binding mailbox free given found =>
      have same : (mailbox.attach endpoint binding.mode).id = binding.mailbox := by
        rw [Mailbox.attach_eq]
        exact (intact _ _ found).1
      refine ⟨bound_given free given, ?_, ?_, ?_, ⟨[], rfl, by simp⟩⟩
      · intro id earlier there
        by_cases here : id = binding.mailbox
        · subst here
          cases found.symm.trans there
          exact ⟨_, before.registry.update_here same, mailbox.attach_rests _ _⟩
        · refine ⟨earlier, ?_, .refl earlier⟩
          exact (before.registry.update_elsewhere same here).trans there
      · intro id later there missing
        have there : Registry.get? (before.registry.update _) id = some later := there
        rw [Registry.update_get, same, missing] at there
        split at there
        · rename_i here
          rw [here, missing] at found
          cases found
        · cases there
      · intro id later there other subscription seated
        have there : Registry.get? (before.registry.update _) id = some later := there
        rw [Registry.update_get, same] at there
        split at there
        · rename_i here
          cases there
          rw [Mailbox.attach_at] at seated
          split at seated
          · rename_i both
            cases seated
            rw [← both.2]
            exact Or.inr ⟨free, mailbox.freshSeat_isNew _⟩
          · exact Or.inl ⟨mailbox, here ▸ found, seated⟩
        · exact Or.inl ⟨later, there, seated⟩

theorem Opens.numbered {before after : Engine} (opens : before.Opens after)
    (intact : before.Intact) (numbered : before.registry.Numbered before.registrations)
    (few : after.registrations ≤ Registry.mostNumbers) :
    after.registry.Numbered after.registrations := by
  cases opens with
  | stopped | searched | missed => exact numbered
  | told plain =>
      rw [emit_registrations before (Event.isPlain_created plain)]
      exact numbered
  | made name capacity policy creator persistent =>
      rw [emit_created] at few ⊢
      exact numbered.added (Nat.lt_of_succ_le few) _
  | @attached handles endpoint binding mailbox free given found =>
      have same : (mailbox.attach endpoint binding.mode).id = binding.mailbox := by
        rw [Mailbox.attach_eq]
        exact (intact _ _ found).1
      exact Registry.Numbered.update numbered (by rw [same]; exact found)

theorem Closes.numbered {before after : Engine} (closes : before.Closes after)
    (intact : before.Intact) (numbered : before.registry.Numbered before.registrations) :
    after.registry.Numbered after.registrations := by
  cases closes with
  | stopped | woken | unbound => exact numbered
  | @loosened id earlier later found loosens =>
      obtain ⟨here, sound⟩ := intact id earlier found
      have same : later.id = id := (loosens.sound sound).2.trans here
      exact Registry.Numbered.update numbered (by rw [same]; exact found)
  | destroyed id =>
      rw [destroy_registrations]
      cases found : before.registry.get? id with
      | none =>
          have absent : before.registry.remove id = (none, before.registry) := by
            simp only [Registry.remove, found]
          rw [destroy_of_absent id absent]
          exact numbered
      | some mailbox =>
          have same : mailbox.id = id := (intact id mailbox found).1
          subst same
          rw [destroy_of_found mailbox.id (Registry.remove_eq found)]
          exact numbered.removed mailbox

theorem Edit.numbered {before after : Engine} (edit : before.Edit after) (intact : before.Intact)
    (numbered : before.registry.Numbered before.registrations)
    (few : after.registrations ≤ Registry.mostNumbers) :
    after.registry.Numbered after.registrations := by
  cases edit with
  | opens opens => exact opens.numbered intact numbered few
  | closes closes => exact closes.numbered intact numbered
  | told other =>
      rw [emit_registrations before other]
      exact numbered
  | @moved id earlier later found moves =>
      obtain ⟨here, sound⟩ := intact id earlier found
      have same : later.id = id := (moves.traffic sound).id_eq.trans here
      exact Registry.Numbered.update numbered (by rw [same]; exact found)

theorem Opened.widens {before after : Engine} (opened : before.Opened after)
    (intact : before.Intact) (numbered : before.registry.Numbered before.registrations)
    (few : after.registrations ≤ Registry.mostNumbers) : before.Widens after := by
  suffices both : before.Widens after ∧ after.registry.Numbered after.registrations from both.1
  induction opened with
  | refl => exact ⟨widens_same rfl (fun _ _ held => held) (.refl before), numbered⟩
  | @tail middle last opened opens ih =>
      have sooner := Nat.le_trans (Edit.opens opens).registrations_le few
      obtain ⟨widens, still⟩ := ih sooner
      have whole := (Opened.edited opened).intact intact
      exact ⟨widens.trans (opens.widens whole still few), opens.numbered whole still few⟩

theorem narrows_same {before after : Engine} (registry_eq : after.registry = before.registry)
    (bound : ∀ endpoint binding, after.handles.binding? endpoint = some binding →
      before.handles.binding? endpoint = some binding)
    (spares : before.Spares after) : before.Narrows after := by
  refine ⟨bound, ?_, spares⟩
  intro id later found
  exact ⟨later, by rw [← registry_eq]; exact found, .refl later, fun _ _ there => there⟩

theorem Closes.narrows {before after : Engine} (closes : before.Closes after)
    (intact : before.Intact) : before.Narrows after := by
  cases closes with
  | stopped | woken => exact narrows_same rfl (fun _ _ held => held) ⟨[], rfl, by simp⟩
  | unbound fewer => exact narrows_same rfl fewer ⟨[], rfl, by simp⟩
  | @loosened id earlier later found loosens =>
      obtain ⟨here, sound⟩ := intact id earlier found
      have same : later.id = id := (loosens.sound sound).2.trans here
      refine ⟨fun _ _ held => held, ?_, ⟨[], rfl, by simp⟩⟩
      intro other mailbox there
      have there : Registry.get? (before.registry.update later) other = some mailbox := there
      rw [Registry.update_get, same] at there
      split at there
      · rename_i equal
        cases there
        exact ⟨earlier, equal ▸ found, loosens.rests, fun _ _ seated => loosens.seats seated⟩
      · exact ⟨mailbox, there, .refl mailbox, fun _ _ seated => seated⟩
  | destroyed id =>
      cases removed : before.registry.remove id with
      | mk mailbox? registry =>
          cases mailbox? with
          | none =>
              rw [destroy_of_absent id removed]
              exact narrows_same rfl (fun _ _ held => held) (.refl before)
          | some mailbox =>
              rw [destroy_of_found id removed]
              refine ⟨fun _ _ held => held, ?_, ⟨[_], rfl, by simp [Event.isOverrun]⟩⟩
              intro other later there
              have stood := Registry.remove_fewer removed there
              exact ⟨later, stood, .refl later, fun _ _ seated => seated⟩

theorem Closed.narrows {before after : Engine} (closed : before.Closed after)
    (intact : before.Intact) : before.Narrows after := by
  induction closed with
  | refl => exact narrows_same rfl (fun _ _ held => held) (.refl before)
  | tail closed closes ih =>
      exact ih.trans (closes.narrows ((Closed.edited closed).intact intact))

structure Calm (before after : Engine) : Prop where
  bound : ∀ endpoint binding, after.handles.binding? endpoint = some binding →
    before.handles.binding? endpoint = none ∨ before.handles.binding? endpoint = some binding
  queues : ∀ id later, after.registry.get? id = some later →
    (before.registry.get? id = none ∧ later.queue.frames = []) ∨
    ∃ earlier, before.registry.get? id = some earlier ∧ earlier.Rests later
  seats : ∀ id later, after.registry.get? id = some later →
    ∀ (endpoint : Endpoint) (subscription : Subscription),
      later.subscribers[endpoint]? = some subscription →
        (before.handles.binding? endpoint = none ∧ subscription.IsNew) ∨
        ∃ earlier, before.registry.get? id = some earlier ∧ earlier.Rests later ∧
          earlier.subscribers[endpoint]? = some subscription
  spares : before.Spares after

theorem Calm.refl (engine : Engine) : engine.Calm engine :=
  ⟨fun _ _ => Or.inr, fun _ later found => Or.inr ⟨later, found, .refl later⟩,
    fun _ later found _ _ there => Or.inr ⟨later, found, .refl later, there⟩, .refl engine⟩

theorem Widens.calm {before middle after : Engine} (widens : before.Widens middle)
    (narrows : middle.Narrows after) : before.Calm after := by
  refine ⟨?_, ?_, ?_, widens.spares.trans narrows.spares⟩
  · intro endpoint binding held
    have between := narrows.bound endpoint binding held
    cases earlier : before.handles.binding? endpoint with
    | none => exact Or.inl rfl
    | some other =>
        cases (widens.bound endpoint other earlier).symm.trans between
        exact Or.inr rfl
  · intro id later found
    obtain ⟨between, there, rests, _⟩ := narrows.kept id later found
    cases present : before.registry.get? id with
    | none =>
        refine Or.inl ⟨rfl, ?_⟩
        rw [rests.queue_eq]
        exact widens.made id between there present
    | some earlier =>
        obtain ⟨same, stays, rested⟩ := widens.kept id earlier present
        cases there.symm.trans stays
        exact Or.inr ⟨earlier, rfl, rested.trans rests⟩
  · intro id later found endpoint subscription seated
    obtain ⟨between, there, rests, seats⟩ := narrows.kept id later found
    rcases widens.seats id between there endpoint subscription (seats _ _ seated) with
      ⟨earlier, present, had⟩ | new
    · obtain ⟨same, stays, rested⟩ := widens.kept id earlier present
      cases there.symm.trans stays
      exact Or.inr ⟨earlier, present, rested.trans rests, had⟩
    · exact Or.inl new

theorem Reshaped.calm {before after : Engine} (reshaped : before.Reshaped after)
    (intact : before.Intact) (numbered : before.registry.Numbered before.registrations)
    (few : after.registrations ≤ Registry.mostNumbers) : before.Calm after := by
  obtain ⟨middle, opened, closed⟩ := reshaped
  have sooner := Nat.le_trans closed.edited.registrations_le few
  exact (opened.widens intact numbered sooner).calm (closed.narrows (opened.edited.intact intact))

end Engine

end Mailroom
