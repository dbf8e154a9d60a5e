import Mailroom.Proofs.Engine.Pinning
import Mailroom.Proofs.Engine.Registration
import Mailroom.Proofs.History.Moments

/-!
The mailboxes of a registered task. They stay as long as the task does, but for one that an earlier
task of the same number left to others: it has no pin any more, a registration gives it none, and
so it goes with its last handle.
-/

namespace Mailroom.Engine

open Step

structure Stands (engine : Engine) (name : Name) (id : MailboxId) : Prop where
  leads : engine.registry.resolve? name = some id
  present : ∃ mailbox, engine.registry.get? id = some mailbox ∧ mailbox.name = name

def IsHeld (engine : Engine) (id : MailboxId) : Prop :=
  ∃ endpoint binding, engine.handles.binding? endpoint = some binding ∧ binding.mailbox = id

/-- The task was reaped while this mailbox was there. -/
def Orphaned (limits : Limits) (past : List Operation) (pid : Pid) (name : Name)
    (id : MailboxId) : Prop :=
  ∃ sooner later, past = sooner ++ .reap pid :: later ∧
    ((start limits).run sooner).halted = none ∧ ((start limits).run sooner).Stands name id

variable {engine : Engine} {limits : Limits} {past : List Operation} {pid : Pid} {name : Name}
  {id : MailboxId} {mailbox : Mailbox}

theorem stands_of_leads (sound : engine.scene.Sound)
    (leads : engine.registry.resolve? name = some id) : engine.Stands name id :=
  ⟨leads, sound.supports.resolved name id leads⟩

theorem stands_of_found (sound : engine.scene.Sound)
    (found : engine.registry.get? id = some mailbox) : engine.Stands mailbox.name id :=
  ⟨sound.supports.named id mailbox found, mailbox, found, rfl⟩

theorem isHeld_of_referenced (sound : engine.scene.Sound)
    (found : engine.registry.get? id = some mailbox) (referenced : 0 < mailbox.references) :
    engine.IsHeld id := by
  rw [(sound.supports.serves id mailbox found).references_eq] at referenced
  obtain ⟨endpoint, binding, held, leads⟩ := Set.nonempty_of_ncard_ne_zero referenced.ne'
  exact ⟨endpoint, binding, held, leads⟩

theorem orphaned_concat {last : Operation} :
    Orphaned limits (past ++ [last]) pid name id ↔
      Orphaned limits past pid name id ∨
      (last = .reap pid ∧ ((start limits).run past).halted = none ∧
        ((start limits).run past).Stands name id) := by
  constructor
  · rintro ⟨sooner, later, split, running, stood⟩
    rcases concat_eq_append_cons.mp split with ⟨rfl, rfl, _⟩ | ⟨between, _, rfl⟩
    · exact Or.inr ⟨rfl, running, stood⟩
    · exact Or.inl ⟨sooner, between, rfl, running, stood⟩
  · rintro (⟨sooner, later, rfl, running, stood⟩ | ⟨rfl, running, stood⟩)
    · exact ⟨sooner, later ++ [last], by simp, running, stood⟩
    · exact ⟨past, [], rfl, running, stood⟩

theorem orphaned_of_other {last : Operation} (other : last ≠ .reap pid) :
    Orphaned limits (past ++ [last]) pid name id ↔ Orphaned limits past pid name id := by
  rw [orphaned_concat, or_iff_left fun reaped => other reaped.1]

theorem Orphaned.numbered (orphaned : Orphaned limits past pid name id)
    (few : ((start limits).run past).registrations ≤ Registry.mostNumbers) :
    id.number.toNat ≤ ((start limits).run past).registrations := by
  obtain ⟨sooner, later, rfl, _, stood⟩ := orphaned
  rw [run_append] at few ⊢
  have grows := run_grows (.reap pid :: later) ((start limits).run sooner)
  have sound := run_sound sooner (start_sound limits) (Nat.le_trans grows few)
  obtain ⟨mailbox, found, _⟩ := stood.present
  exact Nat.le_trans (sound.numbered.within id mailbox found).2 grows

theorem operation_keepsPins (sound : engine.scene.Sound) {operation : Operation}
    (few : (operation.step engine).2.registrations ≤ Registry.mostNumbers)
    (unreaped : operation ≠ .reap pid) (kept : operation ≠ .reset) :
    KeepsPins pid engine (operation.step engine).2 := by
  have intact := intact_of_sound sound
  exact (operation_respected intact unreaped kept).keepsPins intact sound.numbered few

theorem run_keepsPins (later : List Operation) (sound : engine.scene.Sound)
    (unreaped : ∀ operation ∈ later, operation ≠ .reap pid ∧ operation ≠ .reset)
    (few : (engine.run later).registrations ≤ Registry.mostNumbers) :
    KeepsPins pid engine (engine.run later) := by
  induction later generalizing engine with
  | nil => exact keepsPins_same (Nat.le_refl _) rfl
  | cons operation rest ih =>
      obtain ⟨⟨other, kept⟩, still⟩ := List.forall_mem_cons.mp unreaped
      have sooner : (operation.step engine).2.registrations ≤ Registry.mostNumbers :=
        Nat.le_trans (run_grows rest _) few
      exact (operation_keepsPins sound sooner other kept).trans
        (ih (operation_sound sound operation sooner) still few)

theorem reap_orphans (sound : engine.scene.Sound) (running : engine.halted = none)
    (found : ((Operation.reap pid).step engine).2.registry.get? id = some mailbox)
    (owned : mailbox.name.owner = some pid) :
    mailbox.persistent = false ∧ engine.Stands mailbox.name id := by
  change
    ((reapTask pid >>= fun count => Pure.pure (Answer.count count)) engine).2.registry.get? id =
    some mailbox at found
  rw [map_after] at found
  refine ⟨reapTask_unpinned sound running found owned, ?_⟩
  have narrows := (reapTask_closed pid engine).narrows (intact_of_sound sound)
  obtain ⟨earlier, there, rests, _⟩ := narrows.kept id mailbox found
  rw [rests.lasts.name_eq]
  exact stands_of_found sound there

theorem pinned_iff (limits : Limits) (past : List Operation)
    (few : ((start limits).run past).registrations ≤ Registry.mostNumbers)
    (found : ((start limits).run past).registry.get? id = some mailbox)
    (owned : mailbox.name.owner = some pid) (wellKnown : mailbox.name.isWellKnown = true) :
    mailbox.persistent = true ↔ ¬ Orphaned limits past pid mailbox.name id := by
  induction past using List.reverseRecOn generalizing mailbox with
  | nil => simp [run, start, Registry.withLimit, Registry.get?] at found
  | append_singleton past last ih =>
      have sooner := run_sooner few
      have sound := run_sound past (start_sound limits) sooner
      rw [run_concat] at found
      by_cases reset : last = .reset
      · subst reset
        have found : (Engine.reset ((start limits).run past)).registry.get? id = some mailbox :=
          found
        rw [reset_nothing sound id] at found
        cases found
      by_cases reaped : last = .reap pid
      · subst reaped
        cases halted : ((start limits).run past).halted with
        | none =>
            obtain ⟨unpinned, stood⟩ := reap_orphans sound halted found owned
            have orphaned : Orphaned limits (past ++ [.reap pid]) pid mailbox.name id :=
              orphaned_concat.mpr (Or.inr ⟨rfl, halted, stood⟩)
            rw [unpinned]
            exact iff_of_false Bool.false_ne_true (not_not.mpr orphaned)
        | some reason =>
            rcases operation_halted halted (.reap pid) with same | reset | ⟨_, halt⟩
            · rw [Moment.after, same] at found
              have stopped : ((start limits).run past).halted ≠ none := by simp [halted]
              rw [orphaned_concat, or_iff_left fun ran => stopped ran.2.1]
              exact ih sooner found owned wellKnown
            · cases reset
            · cases halt
      · rw [orphaned_of_other reaped]
        rw [run_concat] at few
        have keeps := operation_keepsPins sound few reaped reset
        rcases keeps.known id mailbox found with ⟨earlier, there, stays⟩ | ⟨new, pinned⟩
        · rw [stays.name_eq] at owned wellKnown ⊢
          rw [stays.persistent_eq owned]
          exact ih sooner there owned wellKnown
        · rw [pinned owned]
          refine iff_of_true wellKnown fun orphaned => ?_
          exact absurd new (Nat.not_lt.mpr (orphaned.numbered sooner))

theorem KeepsPins.stands_iff {now : Engine} (keeps : KeepsPins pid engine now)
    (sound : engine.scene.Sound) (soundNow : now.scene.Sound)
    (found : engine.registry.get? id = some mailbox) (owned : mailbox.name.owner = some pid) :
    now.Stands mailbox.name id ↔ mailbox.persistent = true ∨ now.IsHeld id := by
  have known : ∀ last, now.registry.get? id = some last → Mailbox.Stays pid mailbox last := by
    intro last there
    rcases keeps.known id last there with ⟨earlier, before, stays⟩ | ⟨new, _⟩
    · cases found.symm.trans before
      exact stays
    · exact absurd new (Nat.not_lt.mpr (sound.numbered.within id mailbox found).2)
  constructor
  · rintro ⟨_, last, there, _⟩
    rcases referenced_or_persistent soundNow there with referenced | persistent
    · exact Or.inr (isHeld_of_referenced soundNow there referenced)
    · rw [(known last there).persistent_eq owned] at persistent
      exact Or.inl persistent
  · rintro (persistent | ⟨endpoint, binding, held, rfl⟩)
    · obtain ⟨last, there, stays⟩ := keeps.kept id mailbox found owned persistent
      rw [← stays.name_eq]
      exact stands_of_found soundNow there
    · obtain ⟨last, there⟩ := soundNow.supports.present endpoint binding held
      rw [← (known last there).name_eq]
      exact stands_of_found soundNow there

theorem register_stands {answer : Answer}
    (sound : ((Operation.register pid).step engine).2.scene.Sound)
    (registers : ((Operation.register pid).step engine).1 = .ok answer) :
    ∀ name ∈ Name.standing pid, ∃ id, ((Operation.register pid).step engine).2.Stands name id := by
  intro name member
  cases ran : (Operation.register pid).step engine with
  | mk outcome after =>
      rw [ran] at registers sound
      subst registers
      obtain ⟨handles, middle, registered, rest⟩ := bind_answers ran
      cases rest
      obtain ⟨id, leads⟩ := registerTask_resolves registered name member
      exact ⟨id, stands_of_leads sound leads⟩

/-- A task that has been registered has its four mailboxes, and until it is reaped or everything is
reset each of them stays under its name and its identifier if and only if no earlier task of the
same number was reaped while it was there, or a handle is open on it now. -/
theorem standing_mailbox_stays_iff (limits : Limits) {past later : List Operation} {answer : Answer}
    (registers : ((Operation.register pid).step ((start limits).run past)).1 = .ok answer)
    (unreaped : ∀ operation ∈ later, operation ≠ .reap pid ∧ operation ≠ .reset)
    (few : ((start limits).run (past ++ .register pid :: later)).registrations ≤
      Registry.mostNumbers) :
    ∀ name ∈ Name.standing pid, ∃ id,
      ((start limits).run (past ++ [.register pid])).Stands name id ∧
      (((start limits).run (past ++ .register pid :: later)).Stands name id ↔
        ¬ Orphaned limits past pid name id ∨
        ((start limits).run (past ++ .register pid :: later)).IsHeld id) := by
  have split : (start limits).run (past ++ .register pid :: later) =
      ((start limits).run (past ++ [.register pid])).run later := by
    rw [← run_append, List.append_assoc, List.singleton_append]
  rw [split] at few ⊢
  have sooner := Nat.le_trans (run_grows later _) few
  have sound := run_sound _ (start_sound limits) sooner
  have keeps := run_keepsPins later sound unreaped few
  have other : Operation.register pid ≠ .reap pid := by simp
  intro name member
  obtain ⟨owned, wellKnown⟩ := Name.standing_owned member
  obtain ⟨id, stood⟩ : ∃ id, ((start limits).run (past ++ [.register pid])).Stands name id := by
    rw [run_concat] at sound ⊢
    exact register_stands sound registers name member
  refine ⟨id, stood, ?_⟩
  obtain ⟨mailbox, found, rfl⟩ := stood.present
  have pinned := pinned_iff limits _ sooner found owned wellKnown
  rw [orphaned_of_other other] at pinned
  rw [← pinned]
  exact keeps.stands_iff sound (run_sound later sound few) found owned

def orphanedOutput : List Operation := [.register 4, .openName 5 "svc:stdio.out@4" 1, .reap 4]

theorem orphanedOutput_registers :
    ((Operation.register 4).step ((start {}).run orphanedOutput)).1 =
      .ok (.standard ⟨1, 2, 3⟩) := by decide +kernel

theorem orphanedOutput_leads :
    ((start {}).run (orphanedOutput ++ [.register 4])).registry.resolve?
      (.stream "stdio.out" 4) = some ⟨3⟩ := by decide +kernel

/-- It stays for the reader when the new task closes its own handle on it. -/
theorem orphanedOutput_stays :
    ((start {}).run (orphanedOutput ++ [.register 4, .close ⟨4, 2⟩])).Stands
      (.stream "stdio.out" 4) ⟨3⟩ := by
  have unreaped : ∀ operation ∈ [Operation.close ⟨4, 2⟩],
      operation ≠ .reap 4 ∧ operation ≠ .reset := by decide
  obtain ⟨id, stood, iff⟩ := standing_mailbox_stays_iff {} orphanedOutput_registers unreaped
    (by decide +kernel) (.stream "stdio.out" 4) (by decide)
  cases stood.leads.symm.trans orphanedOutput_leads
  refine iff.mpr (Or.inr ⟨⟨5, 1⟩, ⟨⟨3⟩, ⟨1⟩⟩, ?_, rfl⟩)
  decide +kernel

/-- And it goes, under a registered task, when the reader closes the last handle. -/
theorem standing_mailbox_goes :
    ¬ ∀ (limits : Limits) (past later : List Operation) (pid : Pid) (answer : Answer),
      ((Operation.register pid).step ((start limits).run past)).1 = .ok answer →
      (∀ operation ∈ later, operation ≠ .reap pid ∧ operation ≠ .reset) →
      ((start limits).run (past ++ .register pid :: later)).registrations ≤
        Registry.mostNumbers →
      ∀ name ∈ Name.standing pid, ∀ id,
        ((start limits).run (past ++ [.register pid])).Stands name id →
          ((start limits).run (past ++ .register pid :: later)).Stands name id := by
  intro always
  have sound := run_sound (orphanedOutput ++ [.register 4]) (start_sound {}) (by decide +kernel)
  have stays := always {} orphanedOutput [.close ⟨4, 2⟩, .close ⟨5, 1⟩] 4 _
    orphanedOutput_registers (by decide) (by decide +kernel) (.stream "stdio.out" 4) (by decide) ⟨3⟩
    (stands_of_leads sound orphanedOutput_leads)
  have gone : ((start {}).run (orphanedOutput ++ [.register 4, .close ⟨4, 2⟩, .close ⟨5, 1⟩])
      ).registry.resolve? (.stream "stdio.out" 4) = none := by decide +kernel
  cases stays.leads.symm.trans gone

end Mailroom.Engine
