import Mailroom.Proofs.Engine.Handles
import Mailroom.Proofs.Engine.Lifecycle
import Mailroom.Proofs.Engine.Reshaping
import Mailroom.Proofs.Engine.Transfer

/-!
Pins. A well-known mailbox is pinned when it is made and stays as long as it is pinned. Only the
reaping of its owner unpins it.
-/

namespace Mailroom

namespace Mailbox

structure Stays (pid : Pid) (before after : Mailbox) : Prop where
  name_eq : after.name = before.name
  persistent_eq : before.name.owner = some pid → after.persistent = before.persistent

theorem Stays.refl {pid : Pid} (mailbox : Mailbox) : Stays pid mailbox mailbox :=
  ⟨rfl, fun _ => rfl⟩

theorem Stays.trans {pid : Pid} {first second third : Mailbox} (left : Stays pid first second)
    (right : Stays pid second third) : Stays pid first third := by
  refine ⟨right.name_eq.trans left.name_eq, fun owned => ?_⟩
  rw [right.persistent_eq (by rw [left.name_eq, owned]), left.persistent_eq owned]

end Mailbox

namespace Engine

open Step

inductive Respects (pid : Pid) (engine : Engine) : Engine → Prop
  | stopped (reason? : Option String) : Respects pid engine { engine with halted := reason? }
  | opens {caller : Pid} {after : Engine} (opens : OpensFor caller engine after) :
      Respects pid engine after
  | closes {caller : Pid} {after : Engine} (closes : ClosesFor caller engine after) :
      Respects pid engine after
  | conveys {after : Engine} (conveys : engine.Conveys after) : Respects pid engine after
  | unpinned {id : MailboxId} {mailbox : Mailbox}
      (found : engine.registry.get? id = some mailbox) (foreign : mailbox.name.owner ≠ some pid) :
      Respects pid engine { engine with registry := engine.registry.update (unpinned mailbox) }

def Respected (pid : Pid) : Engine → Engine → Prop := Relation.ReflTransGen (Respects pid)

variable {before after engine : Engine} {pid other : Pid}

theorem Respects.edit (respects : Respects pid before after) : before.Edit after := by
  cases respects with
  | stopped reason? => exact .closes (.stopped reason?)
  | opens opens => exact .opens opens.opens
  | closes closes => exact .closes closes.closes
  | conveys conveys => exact conveys.edit
  | unpinned found _ => exact .closes (.loosened found .unpinned)

theorem Respected.edited (respected : Respected pid before after) : before.Edited after :=
  Relation.ReflTransGen.mono (fun _ _ => Respects.edit) _ _ respected

theorem respected_course (pid : Pid) : Course (Respected pid) :=
  ⟨fun _ => .refl, Relation.ReflTransGen.trans, fun _ _ => .single (.stopped _)⟩

theorem respected_opens (pid caller : Pid) : Admits (Respected pid) (OpensFor caller) :=
  ⟨respected_course pid, fun edit => .single (.opens edit)⟩

theorem respected_closes (pid caller : Pid) : Admits (Respected pid) (ClosesFor caller) :=
  ⟨respected_course pid, fun edit => .single (.closes edit)⟩

theorem respected_conveys (pid : Pid) : Admits (Respected pid) Conveys :=
  ⟨respected_course pid, fun edit => .single (.conveys edit)⟩

theorem unpin_respected (intact : engine.Intact) {id : MailboxId}
    (foreign : ∀ mailbox, engine.registry.get? id = some mailbox →
      mailbox.name.owner ≠ some pid) : Respected pid engine (unpin id engine).2 := by
  cases found : engine.registry.get? id with
  | none =>
      rw [unpin, bind_error (onMailbox_missing _ found)]
      exact .refl
  | some mailbox =>
      have same : (unpinned mailbox).id = id := (intact id mailbox found).1
      let left : Engine := { engine with registry := engine.registry.update (unpinned mailbox) }
      have leftFound : left.registry.get? id = some (unpinned mailbox) :=
        engine.registry.update_here same
      have first :
          onMailbox id (fun mailbox => (.ok (), { mailbox with persistent := false })) engine
          = (.ok (), left) := onMailbox_found _ found rfl
      have loose : Respects pid engine left := .unpinned found (foreign mailbox found)
      rw [unpin, bind_ok first, bind_ok (mailboxOf_found leftFound)]
      simp only [Step.change]
      split
      · rename_i unreferenced
        have gone : ClosesFor pid left (left.destroy id) := .destroyed leftFound unreferenced
        exact .tail (.single loose) (.closes gone)
      · exact .single loose

theorem unpinEach_respected (ids : List MailboxId) (intact : engine.Intact)
    (foreign : ∀ id ∈ ids, ∀ mailbox, engine.registry.get? id = some mailbox →
      mailbox.name.owner ≠ some pid) :
    Respected pid engine (Step.forEach unpin ids engine).2 := by
  induction ids generalizing engine with
  | nil => exact .refl
  | cons id rest ih =>
      have begun := unpin_respected intact (foreign id List.mem_cons_self)
      have narrows := (unpin_closed id engine).narrows intact
      have whole := begun.edited.intact intact
      have unfolded : Step.forEach unpin (id :: rest) =
          unpin id >>= fun _ => Step.forEach unpin rest := rfl
      rw [unfolded]
      cases ran : unpin id engine with
      | mk outcome middle =>
          rw [ran] at begun narrows whole
          cases outcome with
          | error fault =>
              rw [bind_error ran]
              exact begun
          | ok answer =>
              rw [bind_ok ran]
              refine (respected_course pid).trans begun (ih whole ?_)
              intro later member mailbox found
              obtain ⟨earlier, there, rests, _⟩ := narrows.kept later mailbox found
              rw [rests.lasts.name_eq]
              exact foreign later (List.mem_cons_of_mem _ member) earlier there

theorem ownedBy_foreign (intact : engine.Intact) (apart : other ≠ pid) :
    ∀ id ∈ engine.ownedBy other, ∀ mailbox, engine.registry.get? id = some mailbox →
      mailbox.name.owner ≠ some pid := by
  intro id member mailbox found
  obtain ⟨listed, filtered, rfl⟩ := List.mem_map.mp member
  obtain ⟨inside, owned⟩ := List.mem_filter.mp filtered
  obtain ⟨key, there⟩ := Registry.mem_toList.mp inside
  rw [(intact key listed there).1, there] at found
  cases found
  simp only [Bool.and_eq_true, decide_eq_true_eq] at owned
  rw [owned.2]
  simpa using apart

theorem reapTask_respected (intact : engine.Intact) (apart : other ≠ pid) :
    Respected pid engine (reapTask other engine).2 := by
  have course : Course fun before after : Engine => before.Intact → Respected pid before after :=
    ⟨fun _ _ => .refl,
      fun first second whole => (first whole).trans (second ((first whole).edited.intact whole)),
      fun _ _ _ => .single (.stopped _)⟩
  have closes : Admits (fun before after : Engine => before.Intact → Respected pid before after)
      (ClosesFor other) := ⟨course, fun edit _ => .single (.closes edit)⟩
  refine course.guarded (course.bind (course.inspect _) fun held =>
    course.bind (dropTask_obeys other closes) fun _ =>
      course.bind (course.forEach (release_obeys other closes) held) fun _ => ?_) engine intact
  intro engine whole
  have listed : Step.inspect (fun engine => .ok (engine.ownedBy other)) engine =
      (.ok (engine.ownedBy other), engine) := rfl
  rw [bind_ok listed, map_after]
  exact unpinEach_respected _ whole (ownedBy_foreign whole apart)

theorem operation_respected (intact : engine.Intact) {operation : Operation}
    (unreaped : operation ≠ .reap pid) (kept : operation ≠ .reset) :
    Respected pid engine (operation.step engine).2 := by
  by_cases reaping : ∃ caller, operation = .reap caller
  · obtain ⟨caller, rfl⟩ := reaping
    have apart : caller ≠ pid := fun same => unreaped (congrArg Operation.reap same)
    change Respected pid engine
      ((reapTask caller >>= fun count => Pure.pure (Answer.count count)) engine).2
    rw [map_after]
    exact reapTask_respected intact apart
  · exact operation_obeys (fun caller _ => respected_opens pid caller) (respected_closes pid)
      (respected_conveys pid) (fun caller same => reaping ⟨caller, same⟩) kept engine

/-- Pinned mailboxes of a task stay pinned, its others stay unpinned as long as they are there, and
of its new ones exactly the well-known are pinned. -/
structure KeepsPins (pid : Pid) (before after : Engine) : Prop where
  grows : before.registrations ≤ after.registrations
  kept : ∀ id earlier, before.registry.get? id = some earlier → earlier.name.owner = some pid →
    earlier.persistent = true →
      ∃ later, after.registry.get? id = some later ∧ Mailbox.Stays pid earlier later
  known : ∀ id later, after.registry.get? id = some later →
    (∃ earlier, before.registry.get? id = some earlier ∧ Mailbox.Stays pid earlier later) ∨
    (before.registrations < id.number.toNat ∧
      (later.name.owner = some pid → later.persistent = later.name.isWellKnown))

theorem keepsPins_same (grows : before.registrations ≤ after.registrations)
    (registry_eq : after.registry = before.registry) : KeepsPins pid before after := by
  refine ⟨grows, ?_, ?_⟩
  · intro id earlier found _ _
    exact ⟨earlier, by rw [registry_eq]; exact found, .refl earlier⟩
  · intro id later found
    exact Or.inl ⟨later, by rw [← registry_eq]; exact found, .refl later⟩

theorem KeepsPins.trans {first second third : Engine} (left : KeepsPins pid first second)
    (right : KeepsPins pid second third) : KeepsPins pid first third := by
  refine ⟨Nat.le_trans left.grows right.grows, ?_, ?_⟩
  · intro id earlier found owned pinned
    obtain ⟨middle, there, stays⟩ := left.kept id earlier found owned pinned
    obtain ⟨later, last, stayed⟩ := right.kept id middle there (by rw [stays.name_eq, owned])
      (by rw [stays.persistent_eq owned, pinned])
    exact ⟨later, last, stays.trans stayed⟩
  · intro id later found
    rcases right.known id later found with ⟨middle, there, stayed⟩ | ⟨new, pinned⟩
    · rcases left.known id middle there with ⟨earlier, first, stays⟩ | ⟨new, pinned⟩
      · exact Or.inl ⟨earlier, first, stays.trans stayed⟩
      · refine Or.inr ⟨new, fun owned => ?_⟩
        rw [stayed.name_eq] at owned ⊢
        rw [stayed.persistent_eq owned, pinned owned]
    · exact Or.inr ⟨Nat.lt_of_le_of_lt left.grows new, pinned⟩

theorem keepsPins_update {id : MailboxId} {earlier later : Mailbox}
    (found : before.registry.get? id = some earlier) (same : later.id = id)
    (registry_eq : after.registry = before.registry.update later)
    (count_eq : after.registrations = before.registrations)
    (stays : Mailbox.Stays pid earlier later) : KeepsPins pid before after := by
  refine ⟨Nat.le_of_eq count_eq.symm, ?_, ?_⟩
  · intro other mailbox there _ _
    rw [registry_eq]
    by_cases here : other = id
    · subst here
      cases found.symm.trans there
      exact ⟨later, before.registry.update_here same, stays⟩
    · exact ⟨mailbox, (before.registry.update_elsewhere same here).trans there, .refl mailbox⟩
  · intro other mailbox there
    rw [registry_eq] at there
    rcases Registry.update_cases same there with ⟨rfl, rfl⟩ | ⟨_, still⟩
    · exact Or.inl ⟨earlier, found, stays⟩
    · exact Or.inl ⟨mailbox, still, .refl mailbox⟩

theorem OpensFor.keepsPins {caller : Pid} (opens : OpensFor caller before after)
    (intact : before.Intact) (numbered : before.registry.Numbered before.registrations)
    (few : after.registrations ≤ Registry.mostNumbers) : KeepsPins pid before after := by
  cases opens with
  | told plain =>
      refine keepsPins_same (Nat.le_of_eq ?_) rfl
      exact (emit_registrations before (Event.isPlain_created plain)).symm
  | searched | missed => exact keepsPins_same (Nat.le_refl _) rfl
  | @made name unnamed capacity policy =>
      rw [emit_created] at few
      have fewer : before.registrations < Registry.mostNumbers := few
      have unused := numbered.unused fewer
      have next := numbered.next_eq fewer
      refine ⟨?_, ?_, ?_⟩
      · rw [emit_created]
        exact Nat.le_succ _
      · intro id earlier found _ _
        refine ⟨earlier, ?_, .refl earlier⟩
        refine (Registry.added_get _ _ id).trans ?_
        rw [if_neg, found]
        rintro rfl
        rw [unused] at found
        cases found
      · intro id later found
        have found : Registry.get? (before.registry.added _) id = some later := found
        rw [Registry.added_get] at found
        split at found
        · rename_i same
          cases found
          refine Or.inr ⟨?_, fun _ => rfl⟩
          rw [← same]
          simp only
          omega
        · exact Or.inl ⟨later, found, .refl later⟩
  | @attached handles handle binding mailbox free given found =>
      have same : (mailbox.attach ⟨caller, handle⟩ binding.mode).id = binding.mailbox := by
        rw [Mailbox.attach_eq]
        exact (intact _ _ found).1
      refine keepsPins_update found same rfl rfl ?_
      rw [Mailbox.attach_eq]
      exact ⟨rfl, fun _ => rfl⟩

theorem ClosesFor.keepsPins {caller : Pid} (closes : ClosesFor caller before after)
    (intact : before.Intact) : KeepsPins pid before after := by
  cases closes with
  | woken | taken => exact keepsPins_same (Nat.le_refl _) rfl
  | @detached id mailbox found handle =>
      have same := ((intact id mailbox found).2.detach_sound ⟨caller, handle⟩).2.trans
        (intact id mailbox found).1
      refine keepsPins_update found same rfl rfl ?_
      simp only [Mailbox.detach]
      split <;> exact ⟨rfl, fun _ => rfl⟩
  | @destroyed id mailbox found unreferenced =>
      have same : mailbox.id = id := (intact id mailbox found).1
      subst same
      have gone := destroy_of_found mailbox.id (Registry.remove_eq found)
      have look : ∀ other, (before.destroy mailbox.id).registry.get? other =
          if mailbox.id = other then none else before.registry.get? other := by
        intro other
        rw [gone]
        exact Registry.removed_get _ _ other
      refine ⟨Nat.le_of_eq (destroy_registrations before mailbox.id).symm, ?_, ?_⟩
      · intro other earlier there _ pinned
        refine ⟨earlier, ?_, .refl earlier⟩
        rw [look, if_neg, there]
        rintro rfl
        cases found.symm.trans there
        simp [Mailbox.isUnreferenced, pinned] at unreferenced
      · intro other later there
        rw [look] at there
        split at there
        · cases there
        · exact Or.inl ⟨later, there, .refl later⟩

theorem Respects.keepsPins (respects : Respects pid before after) (intact : before.Intact)
    (numbered : before.registry.Numbered before.registrations)
    (few : after.registrations ≤ Registry.mostNumbers) : KeepsPins pid before after := by
  cases respects with
  | stopped => exact keepsPins_same (Nat.le_refl _) rfl
  | opens opens => exact opens.keepsPins intact numbered few
  | closes closes => exact closes.keepsPins intact
  | conveys conveys =>
      cases conveys with
      | told other => exact keepsPins_same (Nat.le_of_eq (emit_registrations before other).symm) rfl
      | woken => exact keepsPins_same (Nat.le_refl _) rfl
      | moved found moves =>
          obtain ⟨here, sound⟩ := intact _ _ found
          have traffic := moves.traffic sound
          exact keepsPins_update found (traffic.id_eq.trans here) rfl rfl
            ⟨traffic.name_eq, fun _ => traffic.persistent_eq⟩
  | @unpinned id mailbox found foreign =>
      have same : (Engine.unpinned mailbox).id = id := (intact id mailbox found).1
      exact keepsPins_update found same rfl rfl ⟨rfl, fun owned => absurd owned foreign⟩

theorem Respected.keepsPins (respected : Respected pid before after) (intact : before.Intact)
    (numbered : before.registry.Numbered before.registrations)
    (few : after.registrations ≤ Registry.mostNumbers) : KeepsPins pid before after := by
  suffices both : KeepsPins pid before after ∧ after.registry.Numbered after.registrations from
    both.1
  induction respected with
  | refl => exact ⟨keepsPins_same (Nat.le_refl _) rfl, numbered⟩
  | @tail middle last respected respects ih =>
      have sooner := Nat.le_trans respects.edit.registrations_le few
      obtain ⟨keeps, still⟩ := ih sooner
      have whole := (Respected.edited respected).intact intact
      exact ⟨keeps.trans (respects.keepsPins whole still few),
        respects.edit.numbered whole still few⟩

end Engine

end Mailroom
