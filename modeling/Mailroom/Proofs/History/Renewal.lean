import Mailroom.Proofs.Engine.Quotas
import Mailroom.Proofs.Engine.Renumbering

/-!
A reset gives back a new engine. Whatever has been asked of an engine, after a reset it answers like
one that has just been made with the same limits, except that its mailboxes have higher numbers.
-/

namespace Mailroom

/-- What a host asks of an engine: an operation, or to tell what there is to tell. -/
inductive Inquiry where
  | operate (operation : Operation)
  | drain
  | snapshot
  | count (pid : Pid)
  deriving DecidableEq, Repr, Inhabited

inductive Inquiry.Reply where
  | outcome (outcome : Except Fault Answer)
  | wakeups (wakeups : List Wakeup)
  | snapshots (snapshots : List Snapshot)
  | counts (halted : Bool) (mailboxes handles : Nat)

def Inquiry.run (engine : Engine) : Inquiry → Inquiry.Reply × Engine
  | .operate operation => (.outcome (operation.step engine).1, (operation.step engine).2)
  | .drain => (.wakeups engine.drainWakeups.1, engine.drainWakeups.2)
  | .snapshot => (.snapshots engine.snapshot, engine)
  | .count pid =>
    (.counts engine.isHalted engine.registry.size (engine.handles.count pid), engine)

def Inquiry.Reply.moved (offset : UInt32) : Inquiry.Reply → Inquiry.Reply
  | .outcome result => .outcome (result.map (.moved offset))
  | .wakeups waking => .wakeups (waking.map (.moved offset))
  | .snapshots seen => .snapshots (seen.map (.moved offset))
  | .counts halted mailboxes handles => .counts halted mailboxes handles

namespace Engine

open Scene

def serve (engine : Engine) : List Inquiry → List Inquiry.Reply × Engine
  | [] => ([], engine)
  | inquiry :: rest =>
    let (reply, middle) := inquiry.run engine
    let (replies, after) := middle.serve rest
    (reply :: replies, after)

def renewed (engine : Engine) : Engine := engine.reset.drainWakeups.2

structure Twins (offset : UInt32) (old : List Event) (left right : Engine) : Prop where
  renumbered : Renumbered offset old left right
  leftSound : left.scene.Sound
  rightSound : right.scene.Sound
  reason_eq : right.halted = left.halted

variable {offset : UInt32} {old : List Event} {left right : Engine}

theorem Echoes.exact {α : Type} {move : α → α} {leftOutcome rightOutcome : Except Fault α}
    (echoes : Echoes move leftOutcome rightOutcome) (mild : Mild leftOutcome) :
    rightOutcome = leftOutcome.map move := by
  cases echoes with
  | answered | failed => rfl
  | broken leftFatal _ =>
      rw [Fault.isFatal_of_mild (mild _ rfl)] at leftFatal
      cases leftFatal

theorem Twins.agrees (twins : Twins offset old left right) (operation : Operation)
    (few : (operation.step right).2.registrations ≤ Registry.mostNumbers) :
    (operation.step right).1 = (operation.step left).1.map (.moved offset) ∧
      (operation.step right).2.halted = (operation.step left).2.halted := by
  obtain ⟨echoes, after⟩ := (operation_matches operation).agrees twins.renumbered few
  have fewer : (operation.step left).2.registrations ≤ Registry.mostNumbers := by
    have count := after.registrations_eq
    omega
  by_cases halting : ∃ reason, operation = .halt reason
  · obtain ⟨reason, rfl⟩ := halting
    refine ⟨rfl, ?_⟩
    change some (right.halted.getD reason) = some (left.halted.getD reason)
    rw [twins.reason_eq]
  · have caller : operation.halts = false := by
      cases operation <;> first | rfl | exact absurd ⟨_, rfl⟩ halting
    cases halted : left.halted with
    | none =>
        obtain ⟨mild, leftStill, _⟩ :=
          operation_passes twins.leftSound halted caller _ _ rfl fun _ => fewer
        obtain ⟨_, rightStill, _⟩ :=
          operation_passes twins.rightSound (twins.reason_eq.trans halted) caller _ _ rfl
            fun _ => few
        exact ⟨echoes.exact mild, rightStill.trans leftStill.symm⟩
    | some reason =>
        rcases operation_refused halted operation with leftRefused | rfl | halts
        · rcases operation_refused (twins.reason_eq.trans halted) operation with
            rightRefused | rfl | halts
          · rw [leftRefused, rightRefused]
            exact ⟨rfl, twins.reason_eq⟩
          · exact ⟨rfl, rfl⟩
          · exact absurd halts halting
        · exact ⟨rfl, rfl⟩
        · exact absurd halts halting

theorem Twins.operates (twins : Twins offset old left right) (operation : Operation)
    (few : (operation.step right).2.registrations ≤ Registry.mostNumbers) :
    Twins offset old (operation.step left).2 (operation.step right).2 := by
  obtain ⟨_, after⟩ := (operation_matches operation).agrees twins.renumbered few
  have fewer : (operation.step left).2.registrations ≤ Registry.mostNumbers := by
    have count := after.registrations_eq
    omega
  exact ⟨after, operation_sound twins.leftSound operation fewer,
    operation_sound twins.rightSound operation few, (twins.agrees operation few).2⟩

theorem sound_drained {engine : Engine} (sound : engine.scene.Sound) :
    engine.drainWakeups.2.scene.Sound :=
  ⟨sound.supports, sound.tidy, sound.numbered, sound.handles⟩

theorem snapshot_renumbered (renumbered : Renumbered offset old left right)
    (few : right.registrations ≤ Registry.mostNumbers) :
    right.snapshot = left.snapshot.map (.moved offset) := by
  rw [snapshot, renumbered.toList_eq few, List.map_map, snapshot, List.map_map]
  rfl

theorem inquiry_grows (inquiry : Inquiry) (engine : Engine) :
    engine.registrations ≤ (inquiry.run engine).2.registrations := by
  cases inquiry with
  | operate operation => exact operation_grows operation engine
  | drain | snapshot | count => exact Nat.le_refl _

theorem serve_grows (inquiries : List Inquiry) (engine : Engine) :
    engine.registrations ≤ (engine.serve inquiries).2.registrations := by
  induction inquiries generalizing engine with
  | nil => exact Nat.le_refl _
  | cons inquiry rest ih => exact Nat.le_trans (inquiry_grows inquiry engine) (ih _)

theorem Twins.runs (twins : Twins offset old left right) (inquiry : Inquiry)
    (few : (inquiry.run right).2.registrations ≤ Registry.mostNumbers) :
    (inquiry.run right).1 = (inquiry.run left).1.moved offset ∧
      Twins offset old (inquiry.run left).2 (inquiry.run right).2 := by
  have renumbered := twins.renumbered
  cases inquiry with
  | operate operation =>
      exact ⟨congrArg Inquiry.Reply.outcome (twins.agrees operation few).1,
        twins.operates operation few⟩
  | drain =>
      refine ⟨?_, { renumbered with wakeups_eq := rfl }, sound_drained twins.leftSound,
        sound_drained twins.rightSound, twins.reason_eq⟩
      simp only [Inquiry.run, drainWakeups, renumbered.wakeups_eq, Inquiry.Reply.moved,
        List.map_reverse]
  | snapshot => exact ⟨congrArg Inquiry.Reply.snapshots (snapshot_renumbered renumbered few), twins⟩
  | count pid =>
      refine ⟨?_, twins⟩
      simp only [Inquiry.run, Inquiry.Reply.moved, isHalted, renumbered.halted_eq,
        renumbered.size_eq few, renumbered.handles_eq, HandleTable.moved_count]

theorem Twins.serves (inquiries : List Inquiry) {left right : Engine}
    (twins : Twins offset old left right)
    (few : (right.serve inquiries).2.registrations ≤ Registry.mostNumbers) :
    (right.serve inquiries).1 = (left.serve inquiries).1.map (.moved offset) ∧
      Twins offset old (left.serve inquiries).2 (right.serve inquiries).2 := by
  induction inquiries generalizing left right with
  | nil => exact ⟨rfl, twins⟩
  | cons inquiry rest ih =>
      have sooner : (inquiry.run right).2.registrations ≤ Registry.mostNumbers :=
        Nat.le_trans (serve_grows rest _) few
      obtain ⟨same, onward⟩ := twins.runs inquiry sooner
      obtain ⟨others, last⟩ := ih onward few
      exact ⟨List.cons_eq_cons.mpr ⟨same, others⟩, last⟩

/-- An engine just made and one that is renewed, after however much has been asked of it. -/
theorem renewed_twins (limits : Limits) (past : List Operation)
    (few : ((start limits).run past).registrations ≤ Registry.mostNumbers) :
    Twins (.ofNat ((start limits).run past).registrations)
      ((start limits).run past).renewed.events (start limits)
      ((start limits).run past).renewed := by
  let used := (start limits).run past
  have sound : used.scene.Sound := run_sound past (start_sound limits) few
  have fresh := start_frugal limits
  have frugal : used.reset.Frugal limits := reset_frugal (run_frugal limits past)
  have destroyed := reset_destroyed sound
  have nothing : ∀ id, (reset used).registry.get? id = none := reset_nothing sound
  have unnamed : (reset used).registry.names = ∅ := by
    apply Table.ext_at
    intro name
    rw [Table.empty_at]
    cases leads : (reset used).registry.names[name]? with
    | none => rfl
    | some id =>
        obtain ⟨mailbox, found, _⟩ := destroyed.orderly.resolved name id leads
        cases (nothing id).symm.trans found
  have unheld : (reset used).handles = (start limits).handles := by
    have same : used.reset.handles.limit = (start limits).handles.limit :=
      frugal.handles_limit.trans fresh.handles_limit.symm
    exact congrArg (HandleTable.mk · ∅) same
  have count : used.reset.registrations = used.registrations := destroyed.count_eq
  refine ⟨⟨?_, rfl, ?_, ?_, ?_, ?_, ?_, rfl, ?_, ?_, ?_, ?_⟩, start_sound limits,
    sound_drained (reset_sound sound), rfl⟩
  · exact frugal.limits_eq.trans fresh.limits_eq.symm
  · exact frugal.registry_limit.trans fresh.registry_limit.symm
  · exact unnamed
  · exact fun id => nothing _
  · intro id mailbox found
    simp [start, Registry.withLimit, Registry.get?] at found
  · exact unheld
  · rfl
  · change (UInt32.ofNat used.registrations).toNat = used.reset.registrations
    rw [count]
    refine UInt32.toNat_ofNat_of_lt' (Nat.lt_of_le_of_lt few ?_)
    decide
  · exact (start_sound limits).numbered
  · exact (reset_sound sound).numbered

/-- An engine that is reset and whose wakeups are handed out answers to everything like a new one,
and its snapshots, wakeups and further events are the same, but for one offset of all mailboxes. -/
theorem reset_gives_new_engine (limits : Limits) (past : List Operation) (inquiries : List Inquiry)
    (few : (((start limits).run past).renewed.serve inquiries).2.registrations ≤
      Registry.mostNumbers) :
    let used := (start limits).run past
    let offset := UInt32.ofNat used.registrations
    let fresh := (start limits).serve inquiries
    let again := used.renewed.serve inquiries
    again.1 = fresh.1.map (.moved offset) ∧
      again.2.snapshot = fresh.2.snapshot.map (.moved offset) ∧
      again.2.wakeups = fresh.2.wakeups.map (.moved offset) ∧
      again.2.events = fresh.2.events.map (.moved offset) ++ used.renewed.events ∧
      (∀ id : MailboxId, again.2.registry.get? (id.moved offset) =
        (fresh.2.registry.get? id).map (.moved offset)) ∧
      again.2.handles = fresh.2.handles.moved offset := by
  have sooner : ((start limits).run past).registrations ≤ Registry.mostNumbers := by
    refine Nat.le_trans ?_ (Nat.le_trans (serve_grows inquiries _) few)
    exact (reset_closed _).edited.registrations_le
  obtain ⟨same, twins⟩ := (renewed_twins limits past sooner).serves inquiries few
  have renumbered := twins.renumbered
  exact ⟨same, snapshot_renumbered renumbered few, renumbered.wakeups_eq, renumbered.events_eq,
    renumbered.get_eq, renumbered.handles_eq⟩

/-- An engine with mail, a registered task and wakeups is halted; after the reset the same names are
bound again, a fan-out is fed, a task goes and the engine is reset once more. -/
theorem halted_engine_renewed :
    let past : List Operation :=
      [.register 3, .bindName 1 "shared:jobs" 64 3, .send ⟨1, 1⟩ [7] 0 0, .openName 2 "app:none" 3,
        .halt "operator", .peek ⟨1, 1⟩]
    let inquiries : List Inquiry :=
      [.operate (.bindName 1 "shared:jobs" 32 0x0b), .operate (.openName 2 "shared:jobs" 4),
        .operate (.tap ⟨2, 1⟩ true), .operate (.register 4), .operate (.openName 2 "shared:jobs" 1),
        .operate (.send ⟨1, 1⟩ [8, 9] 0 0), .snapshot, .drain,
        .operate (.receiveCondition ⟨2, 2⟩), .operate (.receive ⟨2, 2⟩ 16), .operate (.reap 4),
        .count 2, .operate (.halt "once more"), .operate (.peek ⟨2, 1⟩), .operate .reset]
    let used := (start {}).run past
    let offset := UInt32.ofNat used.registrations
    let fresh := (start {}).serve inquiries
    let again := used.renewed.serve inquiries
    again.1 = fresh.1.map (.moved offset) ∧
      again.2.snapshot = fresh.2.snapshot.map (.moved offset) ∧
      again.2.wakeups = fresh.2.wakeups.map (.moved offset) ∧
      again.2.events = fresh.2.events.map (.moved offset) ++ used.renewed.events ∧
      (∀ id : MailboxId, again.2.registry.get? (id.moved offset) =
        (fresh.2.registry.get? id).map (.moved offset)) ∧
      again.2.handles = fresh.2.handles.moved offset :=
  reset_gives_new_engine {} _ _ (by decide +kernel)

end Engine

end Mailroom
