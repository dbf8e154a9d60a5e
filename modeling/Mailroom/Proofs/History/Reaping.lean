import Mailroom.Proofs.Engine.Handles
import Mailroom.Proofs.History.Standing

/-!
What a reaped task leaves behind: nothing of its own but the mailboxes that others hold, which go
with their last handle, and everything of the others as it was.
-/

namespace Mailroom.Engine

open Step

/-- The state in which a task was reaped, and the state after that. -/
structure Reaped (pid : Pid) (before after : Engine) : Prop where
  unbound : ∀ handle : Handle, after.handles.binding? ⟨pid, handle⟩ = none
  unsubscribed : ∀ id mailbox, after.registry.get? id = some mailbox →
    ∀ handle : Handle, mailbox.subscribers[(⟨pid, handle⟩ : Endpoint)]? = none
  orphans : ∀ id mailbox, after.registry.get? id = some mailbox → mailbox.name.owner = some pid →
    mailbox.persistent = false ∧ ∃ endpoint binding, endpoint.pid ≠ pid ∧
      after.handles.binding? endpoint = some binding ∧ binding.mailbox = id
  others : ∀ endpoint : Endpoint, endpoint.pid ≠ pid →
    after.handles.binding? endpoint = before.handles.binding? endpoint ∧
    ∀ binding, after.handles.binding? endpoint = some binding →
      ∃ mailbox, after.registry.get? binding.mailbox = some mailbox
  contents : ∀ id later, after.registry.get? id = some later →
    ∃ earlier, before.registry.get? id = some earlier ∧ earlier.Rests later ∧
      ∀ endpoint : Endpoint, endpoint.pid ≠ pid →
        later.subscribers[endpoint]? = earlier.subscribers[endpoint]?
  rings : ∀ id earlier, before.registry.get? id = some earlier →
    ∀ (endpoint : Endpoint) (subscription : Subscription), endpoint.pid ≠ pid →
      earlier.subscribers[endpoint]? = some subscription →
        ∃ later, after.registry.get? id = some later ∧
          later.subscribers[endpoint]? = some subscription

variable {engine before after : Engine} {pid : Pid} {id : MailboxId}

def SparesOthers (pid : Pid) (before after : Engine) : Prop :=
  ∀ endpoint : Endpoint, endpoint.pid ≠ pid →
    after.handles.binding? endpoint = before.handles.binding? endpoint

theorem sparesOthers_same (handles_eq : after.handles = before.handles) :
    SparesOthers pid before after := by
  intro endpoint _
  rw [handles_eq]

theorem sparesOthers_closes (pid : Pid) : Admits (SparesOthers pid) (ClosesFor pid) := by
  refine ⟨⟨fun _ _ _ => rfl, fun first second endpoint apart => ?_, fun _ _ _ _ => rfl⟩,
    fun closes => ?_⟩
  · rw [second endpoint apart, first endpoint apart]
  · cases closes with
    | woken | detached => exact sparesOthers_same rfl
    | taken others fewer => exact others
    | destroyed => exact sparesOthers_same (destroy_rest _ _).2.2

theorem unpin_sparesOthers (id : MailboxId) : Obeys (SparesOthers pid) (unpin id) := by
  have course := (sparesOthers_closes pid).course
  refine course.bind (onMailbox_obeys course id fun _ _ _ => sparesOthers_same rfl) fun _ =>
    course.bind (course.inspect _) fun mailbox => change_obeys fun engine => ?_
  split
  · exact sparesOthers_same (destroy_rest _ _).2.2
  · exact course.refl engine

theorem reapTask_sparesOthers (pid : Pid) : Obeys (SparesOthers pid) (reapTask pid) :=
  reapTask_obeys pid (sparesOthers_closes pid) unpin_sparesOthers

theorem Narrows.seats (narrows : before.Narrows after) (sound : before.scene.Sound)
    (soundAfter : after.scene.Sound) {earlier : Mailbox} {endpoint : Endpoint}
    {subscription : Subscription} (found : before.registry.get? id = some earlier)
    (there : earlier.subscribers[endpoint]? = some subscription)
    (still : after.handles.binding? endpoint = before.handles.binding? endpoint) :
    ∃ later, after.registry.get? id = some later ∧
      later.subscribers[endpoint]? = some subscription := by
  obtain ⟨binding, held, rfl, seats, kind⟩ :=
    (subscribed_iff sound found endpoint subscription.isTap).mp ⟨subscription, there, rfl⟩
  rw [← still] at held
  obtain ⟨later, present⟩ := soundAfter.supports.present endpoint binding held
  obtain ⟨same, stood, rests, seated⟩ := narrows.kept binding.mailbox later present
  cases found.symm.trans stood
  have seatsLater : later.seats binding.mode = true := by
    rw [Mailbox.seats, rests.lasts.policy_eq]
    exact seats
  obtain ⟨other, occupied, _⟩ := (subscribed_iff soundAfter present endpoint subscription.isTap).mpr
    ⟨binding, held, rfl, seatsLater, kind⟩
  cases there.symm.trans (seated endpoint other occupied)
  exact ⟨later, present, occupied⟩

theorem unsubscribed_of_unbound (sound : engine.scene.Sound)
    (unbound : ∀ handle : Handle, engine.handles.binding? ⟨pid, handle⟩ = none) {mailbox : Mailbox}
    (found : engine.registry.get? id = some mailbox) (handle : Handle) :
    mailbox.subscribers[(⟨pid, handle⟩ : Endpoint)]? = none := by
  cases there : mailbox.subscribers[(⟨pid, handle⟩ : Endpoint)]? with
  | none => rfl
  | some subscription =>
      obtain ⟨binding, held, _⟩ := (subscribed_iff sound found ⟨pid, handle⟩ _).mp
        ⟨subscription, there, rfl⟩
      cases held.symm.trans (unbound handle)

theorem held_by_other (sound : engine.scene.Sound)
    (unbound : ∀ handle : Handle, engine.handles.binding? ⟨pid, handle⟩ = none) {mailbox : Mailbox}
    (found : engine.registry.get? id = some mailbox) (unpinned : mailbox.persistent = false) :
    ∃ endpoint binding, endpoint.pid ≠ pid ∧
      engine.handles.binding? endpoint = some binding ∧ binding.mailbox = id := by
  rcases referenced_or_persistent sound found with referenced | pinned
  · obtain ⟨⟨holder, handle⟩, binding, held, leads⟩ := isHeld_of_referenced sound found referenced
    refine ⟨⟨holder, handle⟩, binding, ?_, held, leads⟩
    rintro rfl
    cases held.symm.trans (unbound handle)
  · cases unpinned.symm.trans pinned

theorem Narrows.contents (narrows : before.Narrows after) (sound : before.scene.Sound)
    (soundAfter : after.scene.Sound) (others : SparesOthers pid before after) {later : Mailbox}
    (found : after.registry.get? id = some later) :
    ∃ earlier, before.registry.get? id = some earlier ∧ earlier.Rests later ∧
      ∀ endpoint : Endpoint, endpoint.pid ≠ pid →
        later.subscribers[endpoint]? = earlier.subscribers[endpoint]? := by
  obtain ⟨earlier, there, rests, seated⟩ := narrows.kept id later found
  refine ⟨earlier, there, rests, fun endpoint apart => ?_⟩
  cases had : earlier.subscribers[endpoint]? with
  | some subscription =>
      obtain ⟨same, stands, has⟩ :=
        narrows.seats sound soundAfter there had (others endpoint apart)
      cases found.symm.trans stands
      exact has
  | none =>
      cases has : later.subscribers[endpoint]? with
      | none => rfl
      | some subscription => cases had.symm.trans (seated endpoint subscription has)

theorem reapTask_reaped (sound : engine.scene.Sound) (running : engine.halted = none) (pid : Pid) :
    (reapTask pid engine).1 = .ok (engine.handles.count pid) ∧
      (reapTask pid engine).2.scene.Sound ∧ Reaped pid engine (reapTask pid engine).2 := by
  obtain ⟨last, after, ends, reaped, onward, _⟩ := reapTask_ends sound running pid
  have soundAfter : (reapTask pid engine).2.scene.Sound := by
    rw [ends]
    exact onward.sound
  have unbound := fun handle => reapTask_unbound running ⟨pid, handle⟩
  have others := reapTask_sparesOthers pid engine
  have narrows := (reapTask_closed pid engine).narrows (intact_of_sound sound)
  have unpinned : ∀ id mailbox, (reapTask pid engine).2.registry.get? id = some mailbox →
      mailbox.name.owner = some pid → mailbox.persistent = false :=
    fun id mailbox found owned => reapTask_unpinned sound running found owned
  refine ⟨by rw [ends, HandleTable.length_held], soundAfter, ?_⟩
  exact {
    unbound
    unsubscribed := fun id mailbox found => unsubscribed_of_unbound soundAfter unbound found
    orphans := fun id mailbox found owned =>
      ⟨unpinned id mailbox found owned,
        held_by_other soundAfter unbound found (unpinned id mailbox found owned)⟩
    others := fun endpoint apart =>
      ⟨others endpoint apart, fun binding => soundAfter.supports.present endpoint binding⟩
    contents := fun id later found => narrows.contents sound soundAfter others found
    rings := fun id earlier found endpoint subscription apart there =>
      narrows.seats sound soundAfter found there (others endpoint apart) }

structure Loose (pid : Pid) (id : MailboxId) (engine : Engine) : Prop where
  numbered : id.number.toNat ≤ engine.registrations
  unpinned : ∀ mailbox, engine.registry.get? id = some mailbox →
    mailbox.name.owner = some pid ∧ mailbox.persistent = false

theorem Loose.step (loose : Loose pid id engine) (sound : engine.scene.Sound)
    (operation : Operation)
    (few : (operation.step engine).2.registrations ≤ Registry.mostNumbers) :
    Loose pid id (operation.step engine).2 := by
  refine ⟨Nat.le_trans loose.numbered (operation_grows operation engine), ?_⟩
  intro later found
  by_cases reset : operation = .reset
  · subst reset
    cases (reset_nothing sound id).symm.trans found
  by_cases reaped : operation = .reap pid
  · subst reaped
    cases halted : engine.halted with
    | none =>
        have narrows := (reapTask_closed pid engine).narrows (intact_of_sound sound)
        have left : ((Operation.reap pid).step engine).2 = (reapTask pid engine).2 :=
          map_after (reapTask pid) Answer.count engine
        obtain ⟨earlier, there, rests, _⟩ := narrows.kept id later (left ▸ found)
        have owned := rests.lasts.name_eq ▸ (loose.unpinned earlier there).1
        exact ⟨owned, (reap_orphans sound halted found owned).1⟩
    | some reason =>
        rcases operation_halted halted (.reap pid) with same | reset | ⟨_, halt⟩
        · exact loose.unpinned later (same ▸ found)
        · cases reset
        · cases halt
  · have keeps := operation_keepsPins sound few reaped reset
    rcases keeps.known id later found with ⟨earlier, there, stays⟩ | ⟨new, _⟩
    · obtain ⟨owned, unpinned⟩ := loose.unpinned earlier there
      exact ⟨stays.name_eq ▸ owned, (stays.persistent_eq owned).trans unpinned⟩
    · exact absurd new (Nat.not_lt.mpr loose.numbered)

theorem Loose.run (loose : Loose pid id engine) (sound : engine.scene.Sound)
    (later : List Operation) (few : (engine.run later).registrations ≤ Registry.mostNumbers) :
    Loose pid id (engine.run later) := by
  induction later generalizing engine with
  | nil => exact loose
  | cons operation rest ih =>
      have sooner : (operation.step engine).2.registrations ≤ Registry.mostNumbers :=
        Nat.le_trans (run_grows rest _) few
      exact ih (loose.step sound operation sooner) (operation_sound sound operation sooner) few

/-- What is not pinned is there exactly as long as a handle is open on it. -/
theorem Loose.there_iff (loose : Loose pid id engine) (sound : engine.scene.Sound) :
    (∃ mailbox, engine.registry.get? id = some mailbox) ↔ engine.IsHeld id := by
  constructor
  · rintro ⟨mailbox, found⟩
    rcases referenced_or_persistent sound found with referenced | pinned
    · exact isHeld_of_referenced sound found referenced
    · cases (loose.unpinned mailbox found).2.symm.trans pinned
  · rintro ⟨endpoint, binding, held, rfl⟩
    exact sound.supports.present endpoint binding held

/-- Reaping a task tells how many handles it held and leaves the others alone. The mailboxes it
owned are there from then on, whatever happens, exactly as long as a handle is open on them. -/
theorem reap_complete (limits : Limits) (past : List Operation)
    (asked : ∀ operation ∈ past, operation.halts = false)
    (few : ((start limits).run past).registrations ≤ Registry.mostNumbers) (pid : Pid) :
    let before := (start limits).run past
    let after := (reapTask pid before).2
    (reapTask pid before).1 = .ok (before.handles.count pid) ∧ Reaped pid before after ∧
      ∀ id mailbox, after.registry.get? id = some mailbox → mailbox.name.owner = some pid →
        ∀ later, (after.run later).registrations ≤ Registry.mostNumbers →
          ((∃ still, (after.run later).registry.get? id = some still) ↔
            (after.run later).IsHeld id) := by
  intro before after
  have sound : before.scene.Sound := run_sound past (start_sound limits) few
  have running : before.halted = none := run_running past asked (start_sound limits) rfl few
  obtain ⟨counts, soundAfter, reaped⟩ := reapTask_reaped sound running pid
  refine ⟨counts, reaped, ?_⟩
  intro id mailbox found owned later enough
  have loose : Loose pid id after := by
    refine ⟨(soundAfter.numbered.within id mailbox found).2, ?_⟩
    intro other there
    cases found.symm.trans there
    exact ⟨owned, (reaped.orphans id mailbox found owned).1⟩
  exact (loose.run soundAfter later enough).there_iff (run_sound later soundAfter enough)

/-- Task 4 holds its output twice, watches a feed and has bound a mailbox of its own; task 5 has the
output and the feed open too. -/
theorem shared_output_reaped :
    let before := (start {}).run
      [.register 4, .bindName 5 "shared:feed" 32 0x2b, .openName 4 "shared:feed" 4,
        .openName 5 "svc:stdio.out@4" 1, .send ⟨4, 2⟩ [104] 0 0, .openName 4 "svc:stdio.out" 1,
        .bindName 4 "app:own@4" 16 3]
    let after := (reapTask 4 before).2
    (reapTask 4 before).1 = .ok (before.handles.count 4) ∧ Reaped 4 before after ∧
      ∀ id mailbox, after.registry.get? id = some mailbox → mailbox.name.owner = some 4 →
        ∀ later, (after.run later).registrations ≤ Registry.mostNumbers →
          ((∃ still, (after.run later).registry.get? id = some still) ↔
            (after.run later).IsHeld id) :=
  reap_complete {} _ (by decide) (by decide +kernel) 4

end Mailroom.Engine
