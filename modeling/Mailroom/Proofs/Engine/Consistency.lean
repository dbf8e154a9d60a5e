import Mailroom.Proofs.Engine.Lifecycle
import Mailroom.Proofs.Engine.Transfer

/-!
Runs of an engine. Names, mailboxes, handles, reference counts and subscribers agree after every
run that registers no more mailboxes than there are numbers, and no operation that tasks can ask
for ever finds them in disagreement.
-/

namespace Mailroom

/-- The operator's own operation, which no task can ask for. -/
def Operation.halts : Operation → Bool
  | .halt _ => true
  | _ => false

namespace Engine

open Scene

theorem start_sound (limits : Limits) : (start limits).scene.Sound := by
  have nothing := HandleTable.withLimit_binding limits.normalized.handlesPerTask
  refine ⟨?_, ?_, Registry.numbered_nothing _, HandleTable.sound_withLimit _⟩
  · change Registry.Supports _ (HandleTable.withLimit limits.normalized.handlesPerTask).binding?
    rw [nothing]
    exact Registry.supports_nothing _
  · intro id mailbox found _
    simp [start, scene, expecting, Registry.withLimit, Registry.get?] at found

/-- Whatever is asked of a running engine, it ends without a fatal fault and in a sound state. A
registration asks for up to four numbers, and the last of them must not have come round. -/
theorem operation_passes {engine : Engine} (sound : engine.scene.Sound)
    (running : engine.halted = none) {operation : Operation} (caller : operation.halts = false)
    (outcome : Except Fault Answer) (after : Engine)
    (ran : operation.step engine = (outcome, after))
    (fits : (∃ pid, operation = .register pid) →
      after.registrations ≤ Registry.mostNumbers) :
    Mild outcome ∧ after.halted = none ∧
      (after.registrations ≤ Registry.mostNumbers → engine.scene.Passes after.scene) := by
  have ends : ∀ {α : Type} {step : Step α} (form : α → Answer), Succeeds step engine →
      (step >>= fun answer => Pure.pure (form answer)) engine = (outcome, after) →
        Mild outcome ∧ after.halted = none ∧
          (after.registrations ≤ Registry.mostNumbers → engine.scene.Passes after.scene) := by
    intro α step form succeeds ran
    obtain ⟨mild, halted, passes⟩ := succeeds.map form outcome after ran
    exact ⟨mild, halted.trans running, passes⟩
  cases operation with
  | openName pid name mode =>
      exact ends .handle (openName_succeeds sound running pid name mode) ran
  | bindName pid name capacity mode =>
      exact ends .handle (bindName_succeeds sound running pid name capacity mode) ran
  | send endpoint payload flags channel =>
      exact ends .count (trySend_succeeds sound running endpoint payload flags channel) ran
  | receive endpoint room =>
      exact ends .receipt (tryReceive_succeeds sound running endpoint room) ran
  | peek endpoint =>
      exact ends .peek (succeeds_of_still sound (peek_ends sound running endpoint)) ran
  | tap endpoint enabled =>
      exact ends (fun _ => .nothing) (tap_succeeds sound running endpoint enabled) ran
  | close endpoint => exact ends (fun _ => .nothing) (close_succeeds sound running endpoint) ran
  | receiveCondition endpoint =>
      exact ends .condition
        (succeeds_of_still sound (receiveCondition_ends sound running endpoint)) ran
  | sendCondition endpoint =>
      exact ends .condition (succeeds_of_still sound (sendCondition_ends running endpoint)) ran
  | register pid =>
      have few := fits ⟨pid, rfl⟩
      rcases Step.bind_cases ran with ⟨handles, middle, begun, rest⟩ | ⟨fault, begun, rfl⟩
      · cases rest
        obtain ⟨_, passes⟩ := registerTask_succeeds sound running pid _ _ begun few
        exact ⟨mild_ok _, passes.halted_eq.trans running, fun _ => passes⟩
      · obtain ⟨mild, passes⟩ := registerTask_succeeds sound running pid _ _ begun few
        exact ⟨mild.fault, passes.halted_eq.trans running, fun _ => passes⟩
  | reap pid => exact ends .count (reapTask_succeeds sound running pid) ran
  | halt reason => cases caller
  | reset =>
      cases ran
      have passes := reset_passes sound running
      exact ⟨mild_ok _, passes.halted_eq.trans running, fun _ => passes⟩

theorem operation_refused {engine : Engine} {reason : String}
    (halted : engine.halted = some reason) (operation : Operation) :
    operation.step engine = (.error (.internal ("engine halted: " ++ reason)), engine) ∨
      operation = .reset ∨ ∃ reason, operation = .halt reason := by
  have refused : ∀ {α : Type} (step : Step α) (form : α → Answer),
      (Step.guarded step >>= fun answer => Pure.pure (form answer)) engine =
        (.error (.internal ("engine halted: " ++ reason)), engine) :=
    fun step form => Step.bind_error (Step.guarded_halted halted)
  cases operation with
  | openName | bindName | send | receive | peek | tap | close | receiveCondition | sendCondition
    | reap => exact Or.inl (refused _ _)
  | register pid =>
      left
      have first : ensureControl pid engine = (.error _, engine) := Step.guarded_halted halted
      have all : registerTask pid engine = (.error _, engine) := Step.bind_error first
      exact Step.bind_error all
  | halt reason => exact Or.inr (Or.inr ⟨reason, rfl⟩)
  | reset => exact Or.inr (Or.inl rfl)

theorem operation_halted {engine : Engine} {reason : String} (halted : engine.halted = some reason)
    (operation : Operation) :
    (operation.step engine).2 = engine ∨ operation = .reset ∨ ∃ reason, operation = .halt reason :=
  (operation_refused halted operation).imp_left (congrArg Prod.snd)

theorem operation_sound {engine : Engine} (sound : engine.scene.Sound) (operation : Operation)
    (few : (operation.step engine).2.registrations ≤ Registry.mostNumbers) :
    (operation.step engine).2.scene.Sound := by
  by_cases halting : ∃ reason, operation = .halt reason
  · obtain ⟨reason, rfl⟩ := halting
    exact ⟨sound.supports, sound.tidy, sound.numbered, sound.handles⟩
  · cases halted : engine.halted with
    | none =>
        have caller : operation.halts = false := by
          cases operation <;> first | rfl | exact absurd ⟨_, rfl⟩ halting
        obtain ⟨_, _, passes⟩ := operation_passes sound halted caller _ _ rfl fun _ => few
        exact (passes few).sound
    | some reason =>
        rcases operation_halted halted operation with same | rfl | halts
        · rw [same]
          exact sound
        · exact reset_sound sound
        · exact absurd halts halting

theorem run_sound (operations : List Operation) {engine : Engine} (sound : engine.scene.Sound)
    (few : (engine.run operations).registrations ≤ Registry.mostNumbers) :
    (engine.run operations).scene.Sound := by
  induction operations generalizing engine with
  | nil => exact sound
  | cons operation rest ih =>
      have sooner : (operation.step engine).2.registrations ≤ Registry.mostNumbers :=
        Nat.le_trans (run_grows rest _) few
      exact ih (operation_sound sound operation sooner) few

theorem run_running (operations : List Operation)
    (asked : ∀ operation ∈ operations, operation.halts = false) {engine : Engine}
    (sound : engine.scene.Sound) (running : engine.halted = none)
    (few : (engine.run operations).registrations ≤ Registry.mostNumbers) :
    (engine.run operations).halted = none := by
  induction operations generalizing engine with
  | nil => exact running
  | cons operation rest ih =>
      have sooner : (operation.step engine).2.registrations ≤ Registry.mostNumbers :=
        Nat.le_trans (run_grows rest _) few
      obtain ⟨_, still, _⟩ := operation_passes sound running (asked operation List.mem_cons_self)
        _ _ rfl fun _ => sooner
      exact ih (fun later member => asked later (List.mem_cons_of_mem _ member))
        (operation_sound sound operation sooner) still few

/-- Names, mailboxes, handles, reference counts and subscribers agree. -/
structure Consistent (engine : Engine) : Prop where
  present : ∀ endpoint binding, engine.handles.binding? endpoint = some binding →
    ∃ mailbox, engine.registry.get? binding.mailbox = some mailbox
  counted : ∀ id mailbox, engine.registry.get? id = some mailbox →
    mailbox.references = Set.ncard {endpoint : Endpoint | ∃ binding,
      engine.handles.binding? endpoint = some binding ∧ binding.mailbox = id}
  named : ∀ id mailbox, engine.registry.get? id = some mailbox →
    mailbox.id = id ∧ engine.registry.resolve? mailbox.name = some id
  resolved : ∀ name id, engine.registry.resolve? name = some id →
    ∃ mailbox, engine.registry.get? id = some mailbox ∧ mailbox.name = name
  tapped : ∀ id mailbox, engine.registry.get? id = some mailbox → ∀ endpoint : Endpoint,
    (∃ subscription enabled, mailbox.subscribers[endpoint]? = some subscription ∧
      subscription.kind = .tap enabled) ↔
    ∃ binding, engine.handles.binding? endpoint = some binding ∧ binding.mailbox = id ∧
      binding.mode.isTap = true
  fanned : ∀ id mailbox, engine.registry.get? id = some mailbox → ∀ endpoint : Endpoint,
    (∃ subscription, mailbox.subscribers[endpoint]? = some subscription ∧
      subscription.kind = .fanout) ↔
    ∃ binding, engine.handles.binding? endpoint = some binding ∧ binding.mailbox = id ∧
      binding.mode.isTap = false ∧ binding.mode.canRead = true ∧ mailbox.policy ≠ .queue
  sized : ∀ id mailbox, engine.registry.get? id = some mailbox →
    ∀ (endpoint : Endpoint) (subscription : Subscription),
      mailbox.subscribers[endpoint]? = some subscription →
        subscription.ring.capacity = mailbox.capacity.toNat
  kept : ∀ id mailbox, engine.registry.get? id = some mailbox →
    0 < mailbox.references ∨ mailbox.persistent = true

section Held

variable {engine : Engine} (sound : engine.scene.Sound) {id : MailboxId} {mailbox : Mailbox}
  (found : engine.registry.get? id = some mailbox) (endpoint : Endpoint)

include sound found

theorem subscribed_iff (isTap : Bool) :
    (∃ subscription, mailbox.subscribers[endpoint]? = some subscription ∧
      subscription.isTap = isTap) ↔
    ∃ binding, engine.handles.binding? endpoint = some binding ∧ binding.mailbox = id ∧
      mailbox.seats binding.mode = true ∧ binding.mode.isTap = isTap := by
  have serves := sound.supports.serves id mailbox found
  have seated := serves.seated endpoint
  have left : (∃ subscription, mailbox.subscribers[endpoint]? = some subscription ∧
      subscription.isTap = isTap) ↔ mailbox.tapped? endpoint = some isTap :=
    Option.map_eq_some_iff.symm
  change mailbox.tapped? endpoint = mailbox.wanted? (engine.handles.binding? endpoint) at seated
  rw [left, seated, Mailbox.wanted?, Option.bind_eq_some_iff]
  simp only [serves.id_eq]
  constructor
  · rintro ⟨binding, held, called⟩
    split at called
    · rename_i both
      exact ⟨binding, held, both.1, both.2, Option.some.inj called⟩
    · cases called
  · rintro ⟨binding, held, leads, seat, same⟩
    exact ⟨binding, held, by rw [if_pos ⟨leads, seat⟩, same]⟩

theorem tapped_iff :
    (∃ subscription enabled, mailbox.subscribers[endpoint]? = some subscription ∧
      subscription.kind = .tap enabled) ↔
    ∃ binding, engine.handles.binding? endpoint = some binding ∧ binding.mailbox = id ∧
      binding.mode.isTap = true := by
  constructor
  · rintro ⟨subscription, enabled, there, kind⟩
    obtain ⟨binding, held, leads, _, tapped⟩ := (subscribed_iff sound found endpoint true).mp
      ⟨subscription, there, by simp [Subscription.isTap, kind]⟩
    exact ⟨binding, held, leads, tapped⟩
  · rintro ⟨binding, held, leads, tapped⟩
    obtain ⟨subscription, there, isTap⟩ := (subscribed_iff sound found endpoint true).mpr
      ⟨binding, held, leads, by simp [Mailbox.seats, tapped], tapped⟩
    cases kind : subscription.kind with
    | tap enabled => exact ⟨subscription, enabled, there, kind⟩
    | fanout => simp [Subscription.isTap, kind] at isTap

theorem fanned_iff :
    (∃ subscription, mailbox.subscribers[endpoint]? = some subscription ∧
      subscription.kind = .fanout) ↔
    ∃ binding, engine.handles.binding? endpoint = some binding ∧ binding.mailbox = id ∧
      binding.mode.isTap = false ∧ binding.mode.canRead = true ∧ mailbox.policy ≠ .queue := by
  constructor
  · rintro ⟨subscription, there, kind⟩
    obtain ⟨binding, held, leads, seat, untapped⟩ :=
      (subscribed_iff sound found endpoint false).mp
        ⟨subscription, there, by simp [Subscription.isTap, kind]⟩
    simp only [Mailbox.seats, untapped, Bool.false_or, Bool.and_eq_true,
      decide_eq_true_eq] at seat
    exact ⟨binding, held, leads, untapped, seat.1, seat.2⟩
  · rintro ⟨binding, held, leads, untapped, reads, fanned⟩
    obtain ⟨subscription, there, isTap⟩ := (subscribed_iff sound found endpoint false).mpr
      ⟨binding, held, leads, by simp [Mailbox.seats, reads, fanned], untapped⟩
    cases kind : subscription.kind with
    | tap enabled => simp [Subscription.isTap, kind] at isTap
    | fanout => exact ⟨subscription, there, kind⟩

theorem referenced_or_persistent : 0 < mailbox.references ∨ mailbox.persistent = true := by
  have held : mailbox.isUnreferenced = false :=
    sound.tidy id mailbox found (by simp [scene, expecting])
  simp only [Mailbox.isUnreferenced, Bool.and_eq_false_iff, decide_eq_false_iff_not,
    Bool.not_eq_false'] at held
  rcases held with counted | pinned
  · exact Or.inl (Nat.pos_of_ne_zero counted)
  · exact Or.inr pinned

end Held

theorem consistent_of_sound {engine : Engine} (sound : engine.scene.Sound) :
    engine.Consistent where
  present := sound.supports.present
  counted id mailbox found := (sound.supports.serves id mailbox found).references_eq
  named id mailbox found :=
    ⟨sound.supports.id_eq found, sound.supports.named id mailbox found⟩
  resolved := sound.supports.resolved
  tapped _ _ found := tapped_iff sound found
  fanned _ _ found := fanned_iff sound found
  sized id mailbox found := (sound.supports.serves id mailbox found).sound.ring_capacity
  kept _ _ found := referenced_or_persistent sound found

/-- Every engine that has registered no more mailboxes than there are numbers is consistent,
whatever has been asked of it and whether or not that succeeded. -/
theorem run_consistent (limits : Limits) (operations : List Operation)
    (few : ((start limits).run operations).registrations ≤ Registry.mostNumbers) :
    ((start limits).run operations).Consistent :=
  consistent_of_sound (run_sound operations (start_sound limits) few)

/-- A fan-out with a writer, a reader and a tap, one of which goes with its task. -/
theorem shared_feed_consistent :
    ((start {}).run
      [.bindName 1 "shared:feed" 32 0x2a, .openName 2 "shared:feed" 3,
        .openName 3 "shared:feed" 4, .tap ⟨3, 1⟩ true, .send ⟨1, 1⟩ [104, 105] 0 0, .register 4,
        .reap 2]).Consistent :=
  run_consistent _ _ (by decide +kernel)

end Engine

end Mailroom
