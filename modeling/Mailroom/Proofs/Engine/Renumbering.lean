import Mailroom.Proofs.Engine.Consistency
import Mailroom.Proofs.Renumbering

/-!
Two engines whose mailboxes differ by an offset of their numbers only. Every operation does the
same in both, as long as the higher numbers do not come round.
-/

namespace Mailroom

@[simp] theorem Event.moved_isCreated (offset : UInt32) (event : Event) :
    (event.moved offset).isCreated = event.isCreated := by
  cases event <;> rfl

namespace Engine

open Step

/-- The right engine is the left one with all mailboxes moved by the offset. Before it began like
the left one it had seen the old events. -/
structure Renumbered (offset : UInt32) (old : List Event) (left right : Engine) : Prop where
  limits_eq : right.limits = left.limits
  halted_eq : right.halted.isSome = left.halted.isSome
  limit_eq : right.registry.limit = left.registry.limit
  names_eq : right.registry.names = left.registry.names.map fun _ id => id.moved offset
  get_eq : ∀ id : MailboxId, right.registry.get? (id.moved offset) =
    (left.registry.get? id).map (.moved offset)
  keyed : ∀ id mailbox, left.registry.get? id = some mailbox → mailbox.id = id
  handles_eq : right.handles = left.handles.moved offset
  wakeups_eq : right.wakeups = left.wakeups.map (.moved offset)
  events_eq : right.events = left.events.map (.moved offset) ++ old
  offset_eq : offset.toNat = old.countP Event.isCreated
  leftNumbered : left.registry.Numbered left.registrations
  rightNumbered : right.registry.Numbered right.registrations

variable {offset : UInt32} {old : List Event} {left right : Engine}

namespace Renumbered

theorem registrations_eq (renumbered : Renumbered offset old left right) :
    right.registrations = left.registrations + offset.toNat := by
  rw [registrations, renumbered.events_eq, List.countP_append, List.countP_map,
    renumbered.offset_eq, registrations]
  congr 2
  funext event
  exact Event.moved_isCreated offset event

theorem resolve_eq (renumbered : Renumbered offset old left right) (name : Name) :
    right.registry.resolve? name = (left.registry.resolve? name).map (.moved offset) := by
  rw [Registry.resolve?, renumbered.names_eq, Table.map_at]
  rfl

theorem entries_eq (renumbered : Renumbered offset old left right)
    (few : right.registrations ≤ Registry.mostNumbers) :
    right.registry.mailboxes.toList =
      left.registry.mailboxes.toList.map (Prod.map (.moved offset) (.moved offset)) := by
  let moved : MailboxId × Mailbox → MailboxId × Mailbox := Prod.map (.moved offset) (.moved offset)
  let sooner (one other : MailboxId × Mailbox) : Prop := one.1.number < other.1.number
  have count := renumbered.registrations_eq
  have below : ∀ entry ∈ left.registry.mailboxes.toList,
      (moved entry).1.number.toNat = entry.1.number.toNat + offset.toNat := by
    intro entry member
    have bound := renumbered.leftNumbered.within entry.1 entry.2 (Table.mem_toList.mp member)
    refine MailboxId.toNat_moved ?_
    simp only [Registry.mostNumbers] at few
    omega
  have ordered : ∀ table : Table MailboxId Mailbox, table.toList.Pairwise sooner :=
    fun table => table.ordered_keys_toList.imp MailboxId.compare_lt.mp
  have movedOrdered : (left.registry.mailboxes.toList.map moved).Pairwise sooner := by
    refine List.pairwise_map.mpr ((ordered _).imp_of_mem fun oneMember otherMember less => ?_)
    simp only [sooner, UInt32.lt_iff_toNat_lt] at less ⊢
    rw [below _ oneMember, below _ otherMember]
    exact Nat.add_lt_add_right less _
  have distinct : ∀ {entries : List (MailboxId × Mailbox)}, entries.Pairwise sooner →
      entries.Nodup := by
    intro entries pairwise
    refine pairwise.imp fun less same => ?_
    rw [same] at less
    exact UInt32.lt_irrefl _ less
  refine List.Perm.eq_of_pairwise (fun one other _ _ less more => ?_) (ordered _) movedOrdered
    ((List.perm_ext_iff_of_nodup (distinct (ordered _)) (distinct movedOrdered)).mpr ?_)
  · exact absurd more (UInt32.lt_asymm less)
  · rintro ⟨number, mailbox⟩
    obtain ⟨id, rfl⟩ := @MailboxId.moved_surjective offset number
    have found := renumbered.get_eq id
    rw [Table.mem_toList, List.mem_map]
    constructor
    · intro there
      rw [Registry.get?, there] at found
      obtain ⟨earlier, present, rfl⟩ := Option.map_eq_some_iff.mp found.symm
      exact ⟨(id, earlier), Table.mem_toList.mpr present, rfl⟩
    · rintro ⟨⟨other, earlier⟩, member, same⟩
      obtain ⟨ids, rfl⟩ := Prod.mk.inj same
      cases MailboxId.moved_injective ids
      have present : left.registry.get? id = some earlier := Table.mem_toList.mp member
      rw [present] at found
      exact found

theorem toList_eq (renumbered : Renumbered offset old left right)
    (few : right.registrations ≤ Registry.mostNumbers) :
    right.registry.toList = left.registry.toList.map (.moved offset) := by
  rw [Registry.toList, Table.values_eq, renumbered.entries_eq few, Registry.toList,
    Table.values_eq, List.map_map, List.map_map]
  rfl

theorem size_eq (renumbered : Renumbered offset old left right)
    (few : right.registrations ≤ Registry.mostNumbers) :
    right.registry.size = left.registry.size := by
  have lengths := congrArg List.length (renumbered.entries_eq few)
  rw [List.length_map, Std.ExtTreeMap.length_toList, Std.ExtTreeMap.length_toList] at lengths
  exact lengths

theorem next_eq (renumbered : Renumbered offset old left right)
    (few : right.registrations < Registry.mostNumbers) :
    (⟨right.registry.nextId⟩ : MailboxId) =
      (⟨left.registry.nextId⟩ : MailboxId).moved offset := by
  have count := renumbered.registrations_eq
  have rightNext := renumbered.rightNumbered.next_eq few
  have leftNext := renumbered.leftNumbered.next_eq (by omega)
  have below : left.registry.nextId.toNat + offset.toNat < 4294967296 := by
    simp only [Registry.mostNumbers] at few
    omega
  have moves := @MailboxId.toNat_moved offset ⟨left.registry.nextId⟩ below
  refine congrArg MailboxId.mk (UInt32.toNat_inj.mp (rightNext.trans (Eq.trans ?_ moves.symm)))
  simp only [leftNext]
  omega

variable (renumbered : Renumbered offset old left right)

include renumbered

theorem halts {leftReason rightReason : Option String}
    (same : rightReason.isSome = leftReason.isSome) :
    Renumbered offset old { left with halted := leftReason } { right with halted := rightReason } :=
  { renumbered with halted_eq := same }

theorem hands (handles : HandleTable) :
    Renumbered offset old { left with handles } { right with handles := handles.moved offset } :=
  { renumbered with handles_eq := rfl }

theorem tells (news : List Wakeup) (events : List Event)
    (others : ∀ event ∈ events, event.isCreated = false) :
    Renumbered offset old
      { left with wakeups := news ++ left.wakeups, events := events ++ left.events }
      { right with
        wakeups := news.map (.moved offset) ++ right.wakeups
        events := events.map (.moved offset) ++ right.events } := by
  have quiet : events.countP Event.isCreated = 0 := by
    rw [List.countP_eq_zero]
    intro event member
    simp [others event member]
  have movedQuiet : (events.map (.moved offset)).countP Event.isCreated = 0 := by
    rw [List.countP_eq_zero]
    intro event member
    obtain ⟨earlier, listed, rfl⟩ := List.mem_map.mp member
    simp [others earlier listed]
  refine { renumbered with
    wakeups_eq := ?_, events_eq := ?_, leftNumbered := ?_, rightNumbered := ?_ }
  · rw [List.map_append, renumbered.wakeups_eq]
  · rw [List.map_append, renumbered.events_eq, List.append_assoc]
  · rw [registrations, List.countP_append, quiet, Nat.zero_add]
    exact renumbered.leftNumbered
  · rw [registrations, List.countP_append, movedQuiet, Nat.zero_add]
    exact renumbered.rightNumbered

theorem updates {id : MailboxId} {before after : Mailbox}
    (found : left.registry.get? id = some before) (same : after.id = before.id) :
    Renumbered offset old { left with registry := left.registry.update after }
      { right with registry := right.registry.update (after.moved offset) } := by
  have here : after.id = id := same.trans (renumbered.keyed id before found)
  have there : right.registry.get? (after.moved offset).id = some (before.moved offset) := by
    rw [Mailbox.moved, here, renumbered.get_eq, found]
    rfl
  refine { renumbered with get_eq := ?_, keyed := ?_, leftNumbered := ?_, rightNumbered := ?_ }
  · intro other
    rw [Registry.update_get, Registry.update_get, renumbered.get_eq, Mailbox.moved_id]
    simp only [MailboxId.moved_inj]
    split <;> rfl
  · intro other mailbox present
    rcases Registry.update_cases rfl present with ⟨equal, rfl⟩ | ⟨_, still⟩
    · exact equal
    · exact renumbered.keyed other mailbox still
  · exact Registry.Numbered.update renumbered.leftNumbered (here ▸ found)
  · exact Registry.Numbered.update renumbered.rightNumbered there

theorem makes (few : right.registrations < Registry.mostNumbers) (name : Name) (capacity : UInt16)
    (policy : Policy) (creator : Pid) (persistent : Bool) :
    Renumbered offset old
      ({ left with
          registry := left.registry.added
            (.empty ⟨left.registry.nextId⟩ name capacity policy creator persistent) }.emit
        (.created ⟨left.registry.nextId⟩ name.canonical capacity policy creator))
      ({ right with
          registry := right.registry.added
            (.empty ⟨right.registry.nextId⟩ name capacity policy creator persistent) }.emit
        (.created ⟨right.registry.nextId⟩ name.canonical capacity policy creator)) := by
  have next := renumbered.next_eq few
  have fewer : left.registrations < Registry.mostNumbers := by
    have count := renumbered.registrations_eq
    omega
  refine { renumbered with
    names_eq := ?_, get_eq := ?_, keyed := ?_, events_eq := ?_, leftNumbered := ?_
    rightNumbered := ?_ }
  · change right.registry.names.insert name ⟨right.registry.nextId⟩ =
      (left.registry.names.insert name ⟨left.registry.nextId⟩).map _
    rw [Table.map_insert, renumbered.names_eq, next]
  · intro id
    refine (Registry.added_get _ _ _).trans
      (Eq.trans ?_ (congrArg _ (Registry.added_get _ _ _).symm))
    rw [next, renumbered.get_eq]
    simp only [MailboxId.moved_inj]
    split <;> rfl
  · intro id mailbox found
    have found : Registry.get? (left.registry.added _) id = some mailbox := found
    rw [Registry.added_get] at found
    split at found
    · rename_i same
      cases found
      exact same
    · exact renumbered.keyed id mailbox found
  · change Event.created _ _ _ _ _ :: right.events =
      (Event.created _ _ _ _ _ :: left.events).map _ ++ old
    rw [next, renumbered.events_eq]
    rfl
  · rw [emit_created]
    exact renumbered.leftNumbered.added fewer _
  · rw [emit_created]
    exact renumbered.rightNumbered.added few _

theorem destroys (id : MailboxId) :
    Renumbered offset old (left.destroy id) (right.destroy (id.moved offset)) := by
  have look := renumbered.get_eq id
  cases found : left.registry.get? id with
  | none =>
      rw [found] at look
      have leftAbsent : left.registry.remove id = (none, left.registry) := by
        simp only [Registry.remove, found]
      have rightAbsent : right.registry.remove (id.moved offset) = (none, right.registry) := by
        simp only [Registry.remove, look, Option.map_none]
      rw [destroy_of_absent id leftAbsent, destroy_of_absent _ rightAbsent]
      exact renumbered
  | some mailbox =>
      cases renumbered.keyed id mailbox found
      rw [found] at look
      have there : right.registry.get? (mailbox.moved offset).id = some (mailbox.moved offset) :=
        look
      rw [destroy_of_found mailbox.id (Registry.remove_eq found),
        destroy_of_found (mailbox.id.moved offset) (Registry.remove_eq there)]
      have gone : Renumbered offset old
          { left with registry := left.registry.removed mailbox }
          { right with registry := right.registry.removed (mailbox.moved offset) } := by
        refine { renumbered with
          names_eq := ?_, get_eq := ?_, keyed := ?_
          leftNumbered := renumbered.leftNumbered.removed mailbox
          rightNumbered := renumbered.rightNumbered.removed _ }
        · change right.registry.names.erase mailbox.name =
            (left.registry.names.erase mailbox.name).map _
          rw [Table.map_erase, renumbered.names_eq]
        · intro other
          rw [Registry.removed_get, Registry.removed_get, renumbered.get_eq, Mailbox.moved_id]
          simp only [MailboxId.moved_inj]
          split <;> rfl
        · intro other later present
          rw [Registry.removed_get] at present
          split at present
          · cases present
          · exact renumbered.keyed other later present
      exact gone.tells (rousing mailbox.id)
        [.destroyed mailbox.id mailbox.name.canonical mailbox.pending] (by simp [Event.isCreated])

end Renumbered

/-- The right outcome is the left one with its answer moved, except that two fatal faults may have
different wordings. -/
inductive Echoes {α : Type} (move : α → α) : Except Fault α → Except Fault α → Prop
  | answered (answer : α) : Echoes move (.ok answer) (.ok (move answer))
  | failed (fault : Fault) : Echoes move (.error fault) (.error fault)
  | broken {left right : Fault} (leftFatal : left.isFatal = true)
      (rightFatal : right.isFatal = true) : Echoes move (.error left) (.error right)

theorem echoes_map {α : Type} (move : α → α) (outcome : Except Fault α) :
    Echoes move outcome (outcome.map move) := by
  cases outcome with
  | ok answer => exact .answered answer
  | error fault => exact .failed fault

theorem echoes_same {α : Type} (outcome : Except Fault α) : Echoes id outcome outcome := by
  cases outcome with
  | ok answer => exact .answered answer
  | error fault => exact .failed fault

theorem Echoes.map {α β : Type} {move : α → α} {onwardMove : β → β} {left right : Except Fault α}
    (echoes : Echoes move left right) {form : α → β}
    (commutes : ∀ answer, form (move answer) = onwardMove (form answer)) :
    Echoes onwardMove (left.map form) (right.map form) := by
  cases echoes with
  | answered answer =>
      simp only [Except.map, commutes]
      exact .answered _
  | failed fault => exact .failed fault
  | broken leftFatal rightFatal => exact .broken leftFatal rightFatal

structure Matches (offset : UInt32) (old : List Event) {α : Type} (move : α → α)
    (step twin : Step α) : Prop where
  grows : twin.Grows
  agrees : ∀ {left right : Engine}, Renumbered offset old left right →
    (twin right).2.registrations ≤ Registry.mostNumbers →
      Echoes move (step left).1 (twin right).1 ∧
        Renumbered offset old (step left).2 (twin right).2

section Matching

variable {α β : Type} {move : α → α}

theorem matches_bind {onwardMove : β → β} {first firstTwin : Step α} {next nextTwin : α → Step β}
    (surjective : Function.Surjective move) (begins : Matches offset old move first firstTwin)
    (onward : ∀ answer, Matches offset old onwardMove (next answer) (nextTwin (move answer))) :
    Matches offset old onwardMove (first >>= next) (firstTwin >>= nextTwin) := by
  have grows : ∀ answer, (nextTwin answer).Grows := by
    intro answer
    obtain ⟨earlier, rfl⟩ := surjective answer
    exact (onward earlier).grows
  refine ⟨begins.grows.bind grows, fun {left right} renumbered few => ?_⟩
  have begun := begins.agrees renumbered
  cases leftRan : first left with
  | mk leftOutcome leftMiddle =>
      cases rightRan : firstTwin right with
      | mk rightOutcome rightMiddle =>
          rw [leftRan, rightRan] at begun
          cases rightOutcome with
          | error fault =>
              rw [bind_error rightRan] at few ⊢
              obtain ⟨echoes, after⟩ := begun few
              cases echoes with
              | failed =>
                  rw [bind_error leftRan]
                  exact ⟨.failed fault, after⟩
              | broken leftFatal rightFatal =>
                  rw [bind_error leftRan]
                  exact ⟨.broken leftFatal rightFatal, after⟩
          | ok answer =>
              rw [bind_ok rightRan] at few ⊢
              obtain ⟨echoes, after⟩ := begun (Nat.le_trans (grows answer rightMiddle) few)
              cases echoes with
              | answered earlier =>
                  rw [bind_ok leftRan]
                  exact (onward earlier).agrees after few

theorem matches_then {onwardMove : β → β} {first firstTwin : Step α} {next nextTwin : α → Step β}
    (begins : Matches offset old id first firstTwin)
    (onward : ∀ answer, Matches offset old onwardMove (next answer) (nextTwin answer)) :
    Matches offset old onwardMove (first >>= next) (firstTwin >>= nextTwin) :=
  matches_bind Function.surjective_id begins onward

theorem matches_inspect {look lookTwin : Engine → Except Fault α}
    (same : ∀ {left right : Engine}, Renumbered offset old left right →
      right.registrations ≤ Registry.mostNumbers → Echoes move (look left) (lookTwin right)) :
    Matches offset old move (Step.inspect look) (Step.inspect lookTwin) :=
  ⟨grows_course.inspect _, fun renumbered few => ⟨same renumbered few, renumbered⟩⟩

theorem matches_pure (answer : α) :
    Matches offset old move (Pure.pure answer) (Pure.pure (move answer)) :=
  ⟨grows_pure _, fun renumbered _ => ⟨.answered answer, renumbered⟩⟩

theorem matches_fail (fault : Fault) :
    Matches offset old move (Step.fail fault) (Step.fail fault) :=
  ⟨grows_course.fail _, fun renumbered _ => ⟨.failed fault, renumbered⟩⟩

theorem matches_change {edit editTwin : Engine → Engine}
    (grows : ∀ engine : Engine, engine.registrations ≤ (editTwin engine).registrations)
    (same : ∀ {left right : Engine}, Renumbered offset old left right →
      Renumbered offset old (edit left) (editTwin right)) :
    Matches offset old id (Step.change edit) (Step.change editTwin) :=
  ⟨grows, fun renumbered _ => ⟨.answered (), same renumbered⟩⟩

theorem matches_guarded {step twin : Step α} (inner : Matches offset old move step twin) :
    Matches offset old move (Step.guarded step) (Step.guarded twin) := by
  refine ⟨grows_course.guarded inner.grows, fun {left right} renumbered few => ?_⟩
  have same := renumbered.halted_eq
  cases leftHalted : left.halted with
  | some reason =>
      rw [leftHalted] at same
      obtain ⟨other, rightHalted⟩ := Option.isSome_iff_exists.mp same
      rw [guarded_halted leftHalted, guarded_halted rightHalted]
      exact ⟨.broken rfl rfl, renumbered⟩
  | none =>
      rw [leftHalted] at same
      have rightHalted : right.halted = none := by simpa using same
      have begun := inner.agrees renumbered
      simp only [Step.guarded, leftHalted, rightHalted] at few ⊢
      cases leftRan : step left with
      | mk leftOutcome leftAfter =>
          cases rightRan : twin right with
          | mk rightOutcome rightAfter =>
              rw [leftRan, rightRan] at begun
              rw [rightRan] at few
              cases rightOutcome with
              | ok answer =>
                  obtain ⟨echoes, after⟩ := begun few
                  cases echoes with
                  | answered earlier => exact ⟨.answered earlier, after⟩
              | error fault =>
                  have halting : ∀ leftReason rightReason,
                      Renumbered offset old leftAfter rightAfter →
                      Renumbered offset old (leftAfter.halt leftReason)
                        (rightAfter.halt rightReason) := fun _ _ after => after.halts rfl
                  have fewer : rightAfter.registrations ≤ Registry.mostNumbers := by
                    simp only at few
                    split at few <;> exact few
                  obtain ⟨echoes, after⟩ := begun fewer
                  cases echoes with
                  | failed =>
                      refine ⟨.failed fault, ?_⟩
                      simp only
                      split
                      · exact halting _ _ after
                      · exact after
                  | broken leftFatal rightFatal =>
                      refine ⟨.broken leftFatal rightFatal, ?_⟩
                      simp only [leftFatal, rightFatal, if_true]
                      exact halting _ _ after

theorem matches_forEach {action actionTwin : α → Step Unit}
    (each : ∀ item, Matches offset old id (action item) (actionTwin (move item)))
    (items : List α) :
    Matches offset old id (Step.forEach action items)
      (Step.forEach actionTwin (items.map move)) := by
  induction items with
  | nil => exact matches_pure ()
  | cons item rest ih => exact matches_then (each item) fun _ => ih

end Matching

theorem grows_opens (pid : Pid) :
    Admits (fun before after : Engine => before.registrations ≤ after.registrations)
      (OpensFor pid) :=
  ⟨grows_course, fun opens => opens.opens.opened.edited.registrations_le⟩

theorem grows_conveys :
    Admits (fun before after : Engine => before.registrations ≤ after.registrations) Conveys :=
  ⟨grows_course, fun conveys => conveys.edit.edited.registrations_le⟩

theorem matches_mailboxOf (id : MailboxId) :
    Matches offset old (Mailbox.moved offset) (mailboxOf id) (mailboxOf (id.moved offset)) := by
  refine matches_inspect fun {left right} renumbered _ => ?_
  rw [renumbered.get_eq]
  cases left.registry.get? id with
  | none => exact .broken rfl rfl
  | some mailbox => exact .answered mailbox

theorem matches_bindingOf (endpoint : Endpoint) :
    Matches offset old (Binding.moved offset) (bindingOf endpoint) (bindingOf endpoint) := by
  refine matches_inspect fun {left right} renumbered _ => ?_
  rw [renumbered.handles_eq, HandleTable.moved_get]
  exact echoes_map _ _

theorem matches_onMailbox {α : Type} (here : MailboxId)
    {operation : Mailbox → Except Fault α × Mailbox} (blind : Mailbox.Blind operation) :
    Matches offset old id (onMailbox here operation) (onMailbox (here.moved offset) operation) := by
  refine ⟨onMailbox_obeys grows_course _ fun _ _ _ => Nat.le_refl _,
    fun {left right} renumbered _ => ?_⟩
  have look := renumbered.get_eq here
  cases found : left.registry.get? here with
  | none =>
      rw [found] at look
      rw [onMailbox_missing operation found, onMailbox_missing operation look]
      exact ⟨.broken rfl rfl, renumbered⟩
  | some mailbox =>
      rw [found] at look
      rw [onMailbox_found operation found rfl, onMailbox_found operation look (blind.moves mailbox)]
      exact ⟨echoes_same _, renumbered.updates found (blind.keeps_id mailbox)⟩

theorem matches_needHandle (pid : Pid) :
    Matches offset old id (needHandle pid) (needHandle pid) := by
  refine ⟨needHandle_obeys pid (grows_opens pid), fun {left right} renumbered _ => ?_⟩
  simp only [needHandle, renumbered.handles_eq, HandleTable.moved_hasRoom]
  split
  · exact ⟨.answered (), renumbered⟩
  · exact ⟨.failed _, renumbered.tells [] [.exhausted pid .handleLimit]
      (by simp [Event.isCreated])⟩

theorem create_renumbered (renumbered : Renumbered offset old left right) {name : Name}
    (unnamed : left.registry.resolve? name = none) (pid : Pid) (capacity : UInt16)
    (policy : Policy) (persistent : Bool)
    (few : (create pid name capacity policy persistent right).2.registrations ≤
      Registry.mostNumbers) :
    Echoes (MailboxId.moved offset) (create pid name capacity policy persistent left).1
        (create pid name capacity policy persistent right).1 ∧
      Renumbered offset old (create pid name capacity policy persistent left).2
        (create pid name capacity policy persistent right).2 := by
  have rightUnnamed : right.registry.resolve? name = none := by
    rw [renumbered.resolve_eq, unnamed]
    rfl
  by_cases room : right.registry.size < right.registry.limit
  · rw [create_room room rightUnnamed] at few ⊢
    rw [emit_created] at few
    have fewer : right.registrations < Registry.mostNumbers := few
    rw [renumbered.size_eq (Nat.le_of_lt fewer), renumbered.limit_eq] at room
    rw [create_room room unnamed]
    have made := renumbered.makes fewer name capacity policy pid persistent
    rw [renumbered.next_eq fewer] at made ⊢
    exact ⟨.answered _, made⟩
  · rw [create_full (Nat.le_of_not_lt room)] at few ⊢
    have told := renumbered.tells [] [.exhausted pid .descriptorPoolFull]
      (by simp [Event.isCreated])
    rw [emit_registrations right rfl] at few
    rw [renumbered.size_eq few, renumbered.limit_eq] at room
    rw [create_full (Nat.le_of_not_lt room)]
    exact ⟨.failed _, told⟩

theorem matches_giveHandle (pid : Pid) (binding : Binding) :
    Matches offset old id (giveHandle pid binding) (giveHandle pid (binding.moved offset)) := by
  refine ⟨fun _ => Nat.le_refl _, fun {left right} renumbered _ => ?_⟩
  simp only [giveHandle, renumbered.handles_eq, HandleTable.moved_insert]
  exact ⟨echoes_same _, renumbered.hands _⟩

theorem matches_attach (pid : Pid) (here : MailboxId) (mode : Mode) :
    Matches offset old id (attach pid here mode) (attach pid (here.moved offset) mode) :=
  matches_then (matches_giveHandle pid ⟨here, mode⟩) fun handle =>
    matches_then (matches_onMailbox here (Mailbox.attach_blind ⟨pid, handle⟩ mode)) fun _ =>
      matches_pure handle

theorem matches_findToOpen (pid : Pid) (name : Name) (mode : Mode) :
    Matches offset old (MailboxId.moved offset) (findToOpen pid name mode)
      (findToOpen pid name mode) := by
  refine ⟨findToOpen_obeys pid (grows_opens pid) name mode, fun {left right} renumbered few => ?_⟩
  have leads := renumbered.resolve_eq name
  cases resolves : left.registry.resolve? name with
  | some here =>
      rw [resolves] at leads
      simp only [findToOpen, resolves, leads, Option.map_some]
      exact ⟨.answered here, renumbered⟩
  | none =>
      rw [resolves] at leads
      simp only [findToOpen, resolves, leads, Option.map_none, renumbered.limits_eq] at few ⊢
      by_cases known : name.isWellKnown = true
      · simp only [known, if_true] at few ⊢
        exact create_renumbered renumbered resolves pid _ _ _ few
      · simp only [known]
        exact ⟨.failed _, renumbered⟩

theorem create_grows (pid : Pid) (name : Name) (capacity : UInt16) (policy : Policy)
    (persistent : Bool) : (create pid name capacity policy persistent).Grows := by
  intro engine
  simp only [create]
  split
  · rw [emit_created]
    exact Nat.le_succ _
  · exact Nat.le_of_eq (emit_registrations _ rfl).symm
  · exact Nat.le_refl _

def bindExisting (name : Name) (capacity : UInt16) (mode : Mode) (here : MailboxId) :
    Step MailboxId :=
  mailboxOf here >>= fun mailbox =>
    if mailbox.capacity = capacity ∧ mailbox.policy = mode.policy then Pure.pure here
    else Step.fail (.alreadyBound name.canonical)

theorem matches_bindExisting (name : Name) (capacity : UInt16) (mode : Mode) (here : MailboxId) :
    Matches offset old (MailboxId.moved offset) (bindExisting name capacity mode here)
      (bindExisting name capacity mode (here.moved offset)) := by
  refine matches_bind Mailbox.moved_surjective (matches_mailboxOf here) fun mailbox => ?_
  change Matches offset old _ (if mailbox.capacity = capacity ∧ _ then _ else _)
    (if mailbox.capacity = capacity ∧ mailbox.policy = mode.policy then _ else _)
  split
  · exact matches_pure here
  · exact matches_fail _

theorem findToBind_eq (pid : Pid) (name : Name) (capacity : UInt16) (mode : Mode)
    (engine : Engine) : findToBind pid name capacity mode engine =
      match engine.registry.resolve? name with
      | some here => bindExisting name capacity mode here engine
      | none => create pid name capacity mode.policy name.isWellKnown engine := by
  have looked : Step.inspect (fun engine => .ok (engine.registry.resolve? name)) engine =
      (.ok (engine.registry.resolve? name), engine) := rfl
  rw [findToBind, bind_ok looked]
  cases engine.registry.resolve? name <;> rfl

theorem matches_findToBind (pid : Pid) (name : Name) (capacity : UInt16) (mode : Mode) :
    Matches offset old (MailboxId.moved offset) (findToBind pid name capacity mode)
      (findToBind pid name capacity mode) := by
  have existing := @matches_bindExisting offset old name capacity mode
  refine ⟨fun engine => ?_, fun {left right} renumbered few => ?_⟩
  · rw [findToBind_eq]
    split
    · rename_i here _
      exact grows_course.bind (grows_course.inspect _) (fun mailbox => by
        split
        · exact grows_pure _
        · exact grows_course.fail _) engine
    · exact create_grows pid _ _ _ _ engine
  · have leads := renumbered.resolve_eq name
    rw [findToBind_eq] at few ⊢
    rw [findToBind_eq]
    cases resolves : left.registry.resolve? name with
    | some here =>
        rw [resolves] at leads
        rw [leads] at few ⊢
        exact (existing here).agrees renumbered few
    | none =>
        rw [resolves] at leads
        rw [leads] at few ⊢
        exact create_renumbered renumbered resolves pid _ _ _ few

theorem matches_readCapacity (capacity : UInt16) :
    Matches offset old id (readCapacity capacity) (readCapacity capacity) := by
  refine matches_inspect fun {left right} renumbered _ => ?_
  rw [renumbered.limits_eq]
  exact echoes_same _

theorem matches_openName (pid : Pid) (raw : String) (word : UInt16) :
    Matches offset old id (openName pid raw word) (openName pid raw word) :=
  matches_guarded (matches_then (matches_inspect fun _ _ => echoes_same _) fun mode =>
    matches_then (matches_inspect fun _ _ => echoes_same _) fun name =>
      matches_then (matches_needHandle pid) fun _ =>
        matches_bind MailboxId.moved_surjective (matches_findToOpen pid name mode) fun here =>
          matches_attach pid here mode)

theorem matches_bindName (pid : Pid) (raw : String) (capacity word : UInt16) :
    Matches offset old id (bindName pid raw capacity word) (bindName pid raw capacity word) :=
  matches_guarded (matches_then (matches_inspect fun _ _ => echoes_same _) fun mode =>
    matches_then (matches_inspect fun _ _ => echoes_same _) fun name =>
      matches_then (matches_readCapacity capacity) fun _ =>
        matches_then (matches_needHandle pid) fun _ =>
          matches_bind MailboxId.moved_surjective (matches_findToBind pid name capacity mode)
            fun here => matches_attach pid here mode)

theorem matches_ensureControl (pid : Pid) :
    Matches offset old id (ensureControl pid) (ensureControl pid) := by
  refine matches_guarded ⟨?_, fun {left right} renumbered few => ?_⟩
  · intro engine
    simp only
    split
    · exact Nat.le_refl _
    · exact create_grows pid _ _ _ _ engine
  · have leads := renumbered.resolve_eq (Name.control pid)
    cases resolves : left.registry.resolve? (Name.control pid) with
    | some here =>
        rw [resolves] at leads
        simp only [leads, Option.map_some]
        exact ⟨.answered (), renumbered⟩
    | none =>
        rw [resolves] at leads
        simp only [leads, Option.map_none, renumbered.limits_eq] at few ⊢
        obtain ⟨echoes, after⟩ := create_renumbered renumbered resolves pid _ _ _ few
        exact ⟨echoes.map fun _ => rfl, after⟩

theorem matches_detach (endpoint : Endpoint) (here : MailboxId) :
    Matches offset old id (detach endpoint here) (detach endpoint (here.moved offset)) := by
  refine matches_then (matches_onMailbox here (Mailbox.detach_blind endpoint)) fun _ =>
    matches_bind Mailbox.moved_surjective (matches_mailboxOf here) fun mailbox =>
      matches_change (fun engine => ?_) fun renumbered => ?_
  · split
    · exact Nat.le_of_eq (destroy_registrations engine _).symm
    · exact Nat.le_refl _
  · change Renumbered offset old (if mailbox.isUnreferenced then _ else _)
      (if mailbox.isUnreferenced then _ else _)
    split
    · exact renumbered.destroys here
    · exact renumbered.tells (rousing here) [] no_events

theorem matches_close (endpoint : Endpoint) :
    Matches offset old id (close endpoint) (close endpoint) := by
  refine matches_guarded (matches_bind Binding.moved_surjective ⟨fun _ => Nat.le_refl _, ?_⟩
    fun binding => matches_detach endpoint binding.mailbox)
  intro left right renumbered _
  simp only [takeBinding, renumbered.handles_eq, HandleTable.moved_remove]
  exact ⟨echoes_map _ _, renumbered.hands _⟩

theorem closeEach_renumbered (pid : Pid) (handles : List Handle) {left right : Engine}
    (renumbered : Renumbered offset old left right)
    (few : (closeEach pid right handles).registrations ≤ Registry.mostNumbers) :
    Renumbered offset old (closeEach pid left handles) (closeEach pid right handles) := by
  induction handles generalizing left right with
  | nil => exact renumbered
  | cons handle rest ih =>
      have sooner := Nat.le_trans (closeEach_grows pid rest _) few
      exact ih ((matches_close ⟨pid, handle⟩).agrees renumbered sooner).2 few

theorem matches_openStream (pid : Pid) (raw : String) (opened : List Handle) :
    Matches offset old id (openStream pid raw opened) (openStream pid raw opened) := by
  refine ⟨openStream_grows pid raw opened, fun {left right} renumbered few => ?_⟩
  have inner := @matches_openName offset old pid raw Mode.readWrite.bits
  have begun := inner.agrees renumbered
  simp only [openStream] at few ⊢
  cases leftRan : openName pid raw Mode.readWrite.bits left with
  | mk leftOutcome leftAfter =>
      cases rightRan : openName pid raw Mode.readWrite.bits right with
      | mk rightOutcome rightAfter =>
          rw [leftRan, rightRan] at begun
          rw [rightRan] at few
          cases rightOutcome with
          | ok handle =>
              obtain ⟨echoes, after⟩ := begun few
              cases echoes with
              | answered earlier => exact ⟨.answered earlier, after⟩
          | error fault =>
              have sooner := Nat.le_trans (closeEach_grows pid opened rightAfter) few
              obtain ⟨echoes, after⟩ := begun sooner
              have closed := closeEach_renumbered pid opened after few
              cases echoes with
              | failed => exact ⟨.failed fault, closed⟩
              | broken leftFatal rightFatal => exact ⟨.broken leftFatal rightFatal, closed⟩

theorem matches_registerTask (pid : Pid) :
    Matches offset old id (registerTask pid) (registerTask pid) :=
  matches_then (matches_ensureControl pid) fun _ =>
    matches_then (matches_openStream pid _ _) fun stdin =>
      matches_then (matches_openStream pid _ _) fun stdout =>
        matches_then (matches_openStream pid _ _) fun stderr =>
          matches_pure (⟨stdin, stdout, stderr⟩ : StandardHandles)

theorem matches_release (pid : Pid) (entry : Handle × Binding) :
    Matches offset old id (release pid entry)
      (release pid (Prod.map id (Binding.moved offset) entry)) :=
  matches_then (matches_change (fun _ => Nat.le_refl _) fun renumbered =>
      renumbered.tells (rousing entry.2.mailbox) [] no_events) fun _ =>
    matches_detach ⟨pid, entry.1⟩ entry.2.mailbox

theorem matches_unpin (here : MailboxId) :
    Matches offset old id (unpin here) (unpin (here.moved offset)) := by
  refine matches_then (matches_onMailbox here Mailbox.unpin_blind) fun _ =>
    matches_bind Mailbox.moved_surjective (matches_mailboxOf here) fun mailbox =>
      matches_change (fun engine => ?_) fun renumbered => ?_
  · split
    · exact Nat.le_of_eq (destroy_registrations engine _).symm
    · exact Nat.le_refl _
  · change Renumbered offset old (if mailbox.isUnreferenced then _ else _)
      (if mailbox.isUnreferenced then _ else _)
    split
    · exact renumbered.destroys here
    · exact renumbered

theorem ownedBy_moved (renumbered : Renumbered offset old left right)
    (few : right.registrations ≤ Registry.mostNumbers) (pid : Pid) :
    right.ownedBy pid = (left.ownedBy pid).map (.moved offset) := by
  rw [ownedBy, renumbered.toList_eq few, List.filter_map, List.map_map, ownedBy, List.map_map]
  rfl

theorem matches_reapTask (pid : Pid) :
    Matches offset old id (reapTask pid) (reapTask pid) := by
  have heldMoves : Function.Surjective
      (List.map (Prod.map (id : Handle → Handle) (Binding.moved offset))) :=
    List.map_surjective_iff.mpr (Function.surjective_id.prodMap Binding.moved_surjective)
  have ownedMoves : Function.Surjective (List.map (MailboxId.moved offset)) :=
    List.map_surjective_iff.mpr MailboxId.moved_surjective
  refine matches_guarded (matches_bind heldMoves (matches_inspect ?_) fun held =>
    matches_then (matches_change (fun _ => Nat.le_refl _) ?_) fun _ =>
      matches_then (matches_forEach (matches_release pid) held) fun _ =>
        matches_bind ownedMoves (matches_inspect ?_) fun owned =>
          matches_then (matches_forEach matches_unpin owned) fun _ => ?_)
  · intro left right renumbered _
    rw [renumbered.handles_eq, HandleTable.moved_held]
    exact .answered _
  · intro left right renumbered
    rw [renumbered.handles_eq, HandleTable.moved_dropTask]
    exact renumbered.hands _
  · intro left right renumbered few
    rw [ownedBy_moved renumbered few]
    exact .answered _
  · rw [List.length_map]
    exact matches_pure held.length

theorem matches_readableView (endpoint : Endpoint) :
    Matches offset old (Prod.map (Binding.moved offset) id) (readableView endpoint)
      (readableView endpoint) := by
  refine matches_bind Binding.moved_surjective (matches_bindingOf endpoint) fun binding => ?_
  change Matches offset old _ (if binding.mode.canRead || binding.mode.isTap then _ else _)
    (if binding.mode.canRead || binding.mode.isTap then _ else _)
  split
  · exact matches_bind Mailbox.moved_surjective (matches_mailboxOf binding.mailbox) fun mailbox =>
      matches_pure (binding, mailbox.view endpoint binding.mode)
  · exact matches_fail _

theorem seen_surjective :
    Function.Surjective (Prod.map (Binding.moved offset) (id : View → View)) :=
  Binding.moved_surjective.prodMap Function.surjective_id

theorem announce_renumbered (renumbered : Renumbered offset old left right) (endpoint : Endpoint)
    (here : MailboxId) (channel : UInt16) (bytes : Nat) (acceptance : Acceptance) :
    Renumbered offset old (left.announce endpoint here channel bytes acceptance)
      (right.announce endpoint (here.moved offset) channel bytes acceptance) := by
  have wakes : Mailbox.announcing (here.moved offset) acceptance =
      (Mailbox.announcing here acceptance).map (.moved offset) := by
    simp only [Mailbox.announcing]
    cases acceptance.queued <;>
      cases acceptance.fanout.fedAnyone || acceptance.taps.fedAnyone <;> rfl
  have tells : announcements endpoint (here.moved offset) channel bytes acceptance =
      (announcements endpoint here channel bytes acceptance).map (.moved offset) := by
    simp only [announcements, List.map_cons, List.map_reverse, List.map_map]
    rfl
  rw [announce_eq, announce_eq, wakes, tells]
  exact renumbered.tells _ _ announcements_others

theorem matches_trySend (endpoint : Endpoint) (payload : Bytes) (flags channel : UInt16) :
    Matches offset old id (trySend endpoint payload flags channel)
      (trySend endpoint payload flags channel) := by
  refine matches_guarded
    (matches_bind Binding.moved_surjective (matches_bindingOf endpoint) fun binding => ?_)
  change Matches offset old _ (if binding.mode.canWrite then _ else _)
    (if binding.mode.canWrite then _ else _)
  split
  · refine matches_then (matches_onMailbox binding.mailbox
      (Mailbox.accept_blind endpoint (.ofSender flags) channel payload)) fun accepted =>
        matches_then (matches_change (fun engine => ?_) fun renumbered =>
          announce_renumbered renumbered endpoint binding.mailbox channel payload.length accepted)
          fun _ => matches_pure payload.length
    exact announce_obeys grows_conveys engine _ _ _ _ _
  · exact matches_fail _

theorem acknowledge_renumbered (renumbered : Renumbered offset old left right)
    (endpoint : Endpoint) (here : MailboxId) (view : View) (receipt : Receipt) :
    Renumbered offset old (left.acknowledge endpoint here view receipt)
      (right.acknowledge endpoint (here.moved offset) view receipt) := by
  have wakes : Mailbox.acknowledging (here.moved offset) view =
      (Mailbox.acknowledging here view).map (.moved offset) := by
    cases view <;> rfl
  rw [acknowledge_eq, acknowledge_eq, wakes]
  exact renumbered.tells _ [.received endpoint.pid here receipt.payload.length receipt.overrun]
    (by simp [Event.isCreated])

theorem matches_tryReceive (endpoint : Endpoint) (room : Nat) :
    Matches offset old id (tryReceive endpoint room) (tryReceive endpoint room) := by
  refine matches_guarded (matches_bind seen_surjective (matches_readableView endpoint) fun seen =>
    matches_then (matches_onMailbox seen.1.mailbox (Mailbox.take_blind seen.2 room))
      fun taken => ?_)
  cases taken with
  | none => exact matches_fail _
  | some receipt =>
      refine matches_then (matches_change (fun engine => ?_) fun renumbered =>
        acknowledge_renumbered renumbered endpoint seen.1.mailbox seen.2 receipt) fun _ =>
          matches_pure receipt
      exact acknowledge_obeys grows_conveys engine _ _ _ _

theorem matches_peek (endpoint : Endpoint) :
    Matches offset old id (peek endpoint) (peek endpoint) :=
  matches_guarded (matches_bind seen_surjective (matches_readableView endpoint) fun seen =>
    matches_bind Mailbox.moved_surjective (matches_mailboxOf seen.1.mailbox) fun _ =>
      matches_then (matches_inspect fun _ _ => echoes_same _) fun state =>
        matches_pure (⟨state.depth, state.used, state.capacity, state.nextLength.getD 0⟩ : Peek))

theorem matches_tap (endpoint : Endpoint) (enabled : Bool) :
    Matches offset old id (tap endpoint enabled) (tap endpoint enabled) := by
  refine matches_guarded
    (matches_bind Binding.moved_surjective (matches_bindingOf endpoint) fun binding => ?_)
  change Matches offset old _ (if binding.mode.isTap then _ else _)
    (if binding.mode.isTap then _ else _)
  split
  · refine matches_then (matches_onMailbox binding.mailbox
      (Mailbox.setTap_blind endpoint enabled)) fun _ =>
        matches_change (fun engine => Nat.le_of_eq (emit_registrations engine rfl).symm)
          fun renumbered => ?_
    exact renumbered.tells []
      [.tapped endpoint.pid binding.mailbox endpoint.handle enabled]
      (by simp [Event.isCreated])
  · exact matches_fail _

theorem matches_receiveCondition (endpoint : Endpoint) :
    Matches offset old (Condition.moved offset) (receiveCondition endpoint)
      (receiveCondition endpoint) := by
  refine matches_guarded (matches_bind seen_surjective (matches_readableView endpoint) ?_)
  rintro ⟨binding, view⟩
  cases view <;> exact matches_pure _

theorem matches_sendCondition (endpoint : Endpoint) :
    Matches offset old (Condition.moved offset) (sendCondition endpoint)
      (sendCondition endpoint) :=
  matches_guarded (matches_bind Binding.moved_surjective (matches_bindingOf endpoint) fun binding =>
    matches_pure (⟨.writable, binding.mailbox⟩ : Condition))

theorem destroyEach_renumbered (ids : List MailboxId) {left right : Engine}
    (renumbered : Renumbered offset old left right) :
    Renumbered offset old (ids.foldl destroy left)
      ((ids.map (.moved offset)).foldl destroy right) := by
  induction ids generalizing left right with
  | nil => exact renumbered
  | cons here rest ih => exact ih (renumbered.destroys here)

theorem matches_reset : Matches offset old id (Step.change reset) (Step.change reset) := by
  have grows : ∀ engine : Engine, engine.registrations ≤ (reset engine).registrations :=
    fun engine => (reset_closed engine).edited.registrations_le
  refine ⟨grows, fun {left right} renumbered few => ⟨.answered (), ?_⟩⟩
  have listed : right.registry.toList.map Mailbox.id =
      (left.registry.toList.map Mailbox.id).map (.moved offset) := by
    rw [renumbered.toList_eq (Nat.le_trans (grows right) few), List.map_map, List.map_map]
    rfl
  let cleared := (left.registry.toList.map Mailbox.id).foldl destroy left
  have destroyed := destroyEach_renumbered (left.registry.toList.map Mailbox.id) renumbered
  rw [← listed] at destroyed
  have emptied := destroyed.hands cleared.handles.clear
  rw [← HandleTable.moved_clear, ← destroyed.handles_eq] at emptied
  exact emptied.halts rfl

theorem matches_answer {α : Type} {move : α → α} {step : Step α} {form : α → Answer}
    (matched : Matches offset old move step step) (surjective : Function.Surjective move)
    (commutes : ∀ answer, form (move answer) = (form answer).moved offset) :
    Matches offset old (Answer.moved offset) (step >>= fun answer => Pure.pure (form answer))
      (step >>= fun answer => Pure.pure (form answer)) := by
  refine matches_bind surjective matched fun answer => ?_
  rw [commutes]
  exact matches_pure (form answer)

theorem operation_matches (operation : Operation) :
    Matches offset old (Answer.moved offset) operation.step operation.step := by
  have plain : ∀ {α : Type} {step : Step α} {form : α → Answer},
      Matches offset old id step step → (∀ answer, form answer = (form answer).moved offset) →
        Matches offset old (Answer.moved offset) (step >>= fun answer => Pure.pure (form answer))
          (step >>= fun answer => Pure.pure (form answer)) :=
    fun matched commutes => matches_answer matched Function.surjective_id commutes
  cases operation with
  | openName pid raw word => exact plain (matches_openName pid raw word) fun _ => rfl
  | bindName pid raw capacity word =>
      exact plain (matches_bindName pid raw capacity word) fun _ => rfl
  | send endpoint payload flags channel =>
      exact plain (matches_trySend endpoint payload flags channel) fun _ => rfl
  | receive endpoint room => exact plain (matches_tryReceive endpoint room) fun _ => rfl
  | peek endpoint => exact plain (matches_peek endpoint) fun _ => rfl
  | tap endpoint enabled => exact plain (matches_tap endpoint enabled) fun _ => rfl
  | close endpoint => exact plain (matches_close endpoint) fun _ => rfl
  | receiveCondition endpoint =>
      exact matches_answer (matches_receiveCondition endpoint) Condition.moved_surjective
        fun _ => rfl
  | sendCondition endpoint =>
      exact matches_answer (matches_sendCondition endpoint) Condition.moved_surjective fun _ => rfl
  | register pid => exact plain (matches_registerTask pid) fun _ => rfl
  | reap pid => exact plain (matches_reapTask pid) fun _ => rfl
  | halt reason =>
      exact plain (matches_change (fun _ => Nat.le_refl _) fun renumbered => renumbered.halts rfl)
        fun _ => rfl
  | reset => exact plain matches_reset fun _ => rfl

end Engine

end Mailroom
