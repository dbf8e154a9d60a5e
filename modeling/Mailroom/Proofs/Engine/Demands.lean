import Mailroom.Proofs.Engine.Consistency
import Mailroom.Proofs.Engine.Registration
import Mailroom.Proofs.Engine.Reshaping

/-!
What a task gets when it opens a mailbox: a handle with the mode it asked for, on the mailbox that
has the name it meant, and, if it asked for a capacity, on one that is as asked for.
-/

namespace Mailroom

/-- What a task asks for when it opens a mailbox or, with a capacity, binds one. -/
structure Demand where
  raw : String
  word : UInt16
  capacity? : Option UInt16 := none
  deriving DecidableEq, Repr, Inhabited

namespace Demand

def operation (demand : Demand) (pid : Pid) : Operation :=
  match demand.capacity? with
  | none => .openName pid demand.raw demand.word
  | some capacity => .bindName pid demand.raw capacity demand.word

structure Suits (demand : Demand) (pid : Pid) (mode : Mode) (mailbox : Mailbox) : Prop where
  named : Name.parse demand.raw pid = .ok mailbox.name
  asked : Mode.ofWord demand.word = .ok mode
  sized : ∀ capacity, demand.capacity? = some capacity →
    mailbox.capacity = capacity ∧ mailbox.policy = mode.policy

theorem Suits.lasts {demand : Demand} {pid : Pid} {mode : Mode} {before after : Mailbox}
    (suits : demand.Suits pid mode before) (lasts : before.Lasts after) :
    demand.Suits pid mode after := by
  refine ⟨by rw [lasts.name_eq, suits.named], suits.asked, fun capacity asked => ?_⟩
  rw [lasts.capacity_eq, lasts.policy_eq]
  exact suits.sized capacity asked

end Demand

namespace Engine

open Step

/-- The handle is open, on a mailbox that the demand may lead to. -/
structure Meets (engine : Engine) (endpoint : Endpoint) (demand : Demand) (binding : Binding)
    (mailbox : Mailbox) : Prop where
  held : engine.handles.binding? endpoint = some binding
  found : engine.registry.get? binding.mailbox = some mailbox
  suits : demand.Suits endpoint.pid binding.mode mailbox

variable {engine middle after : Engine} {pid : Pid} {name : Name} {handle : Handle} {mode : Mode}
  {id : MailboxId} {demand : Demand}

theorem inspect_answers {α : Type} {look : Engine → Except Fault α} {answer : α}
    (ran : Step.inspect look engine = (.ok answer, after)) :
    look engine = .ok answer ∧ engine = after := Prod.mk.inj ran

theorem readName_answers {raw : String} (ran : readName raw pid engine = (.ok name, after)) :
    Name.parse raw pid = .ok name ∧ engine = after := by
  obtain ⟨reads, same⟩ := inspect_answers ran
  refine ⟨?_, same⟩
  cases parsed : Name.parse raw pid with
  | error fault =>
      rw [parsed] at reads
      cases reads
  | ok other =>
      rw [parsed] at reads
      exact congrArg Except.ok (Except.ok.inj reads)

theorem needHandle_answers {answer : Unit} (ran : needHandle pid engine = (.ok answer, after)) :
    engine = after := by
  simp only [needHandle] at ran
  split at ran
  · exact (Prod.mk.inj ran).2
  · cases ran

theorem create_made {creator : Pid} {capacity : UInt16} {policy : Policy} {persistent : Bool}
    (unnamed : engine.registry.resolve? name = none)
    (created : create creator name capacity policy persistent engine = (.ok id, after)) :
    after.registry.get? id = some (.empty id name capacity policy creator persistent) := by
  obtain ⟨rfl, made⟩ := create_answers unnamed created
  rw [made]
  exact (Registry.added_get _ _ _).trans (if_pos rfl)

theorem findToOpen_finds (sound : engine.scene.Sound)
    (ran : findToOpen pid name mode engine = (.ok id, middle)) :
    ∃ mailbox, middle.registry.get? id = some mailbox ∧ mailbox.id = id ∧ mailbox.name = name := by
  cases resolves : engine.registry.resolve? name with
  | some other =>
      simp only [findToOpen, resolves, Prod.mk.injEq, Except.ok.injEq] at ran
      obtain ⟨rfl, rfl⟩ := ran
      obtain ⟨mailbox, found, named⟩ := sound.supports.resolved name other resolves
      exact ⟨mailbox, found, sound.supports.id_eq found, named⟩
  | none =>
      simp only [findToOpen, resolves] at ran
      split at ran
      · exact ⟨_, create_made resolves ran, rfl, rfl⟩
      · cases ran

theorem findToBind_finds (sound : engine.scene.Sound) {capacity : UInt16}
    (ran : findToBind pid name capacity mode engine = (.ok id, middle)) :
    ∃ mailbox, middle.registry.get? id = some mailbox ∧ mailbox.id = id ∧ mailbox.name = name ∧
      mailbox.capacity = capacity ∧ mailbox.policy = mode.policy := by
  have look : Step.inspect (fun engine => .ok (engine.registry.resolve? name)) engine =
      (.ok (engine.registry.resolve? name), engine) := rfl
  rw [findToBind, bind_ok look] at ran
  cases resolves : engine.registry.resolve? name with
  | some other =>
      obtain ⟨mailbox, found, named⟩ := sound.supports.resolved name other resolves
      have found : engine.registry.get? other = some mailbox := found
      simp only [resolves] at ran
      rw [bind_ok (mailboxOf_found found)] at ran
      split at ran
      · rename_i same
        cases ran
        exact ⟨mailbox, found, sound.supports.id_eq found, named, same⟩
      · cases ran
  | none =>
      simp only [resolves] at ran
      exact ⟨_, create_made resolves ran, rfl, rfl, rfl, rfl⟩

theorem attach_gives {mailbox : Mailbox} (found : engine.registry.get? id = some mailbox)
    (same : mailbox.id = id) (ran : attach pid id mode engine = (.ok handle, after)) :
    after.handles.binding? ⟨pid, handle⟩ = some ⟨id, mode⟩ ∧
      ∃ later, after.registry.get? id = some later ∧ mailbox.Lasts later := by
  rw [attach_eq] at ran
  rcases engine.handles.insert_ends pid ⟨id, mode⟩ with
    ⟨fault, handles, inserted, _⟩ | ⟨number, handles, inserted, _, given⟩
  · have begun : giveHandle pid ⟨id, mode⟩ engine = (.error fault, { engine with handles }) := by
      simp only [giveHandle, inserted]
    rw [bind_error begun] at ran
    cases ran
  · have begun : giveHandle pid ⟨id, mode⟩ engine = (.ok number, { engine with handles }) := by
      simp only [giveHandle, inserted]
    let attaching : Mailbox → Except Fault Unit × Mailbox := fun mailbox =>
      (.ok (), mailbox.attach ⟨pid, number⟩ mode)
    have there : Registry.get? { engine with handles }.registry id = some mailbox := found
    rw [bind_ok begun, bind_ok (onMailbox_found attaching there rfl)] at ran
    cases ran
    have here : (mailbox.attach ⟨pid, handle⟩ mode).id = id := by rw [Mailbox.attach_eq, same]
    refine ⟨by simp only [given, Function.update_self], _, engine.registry.update_here here, ?_⟩
    exact (mailbox.attach_rests ⟨pid, handle⟩ mode).lasts

theorem attach_meets {mailbox : Mailbox} (found : engine.registry.get? id = some mailbox)
    (same : mailbox.id = id) (suits : demand.Suits pid mode mailbox)
    (ran : attach pid id mode engine = (.ok handle, after)) :
    ∃ binding later, after.Meets ⟨pid, handle⟩ demand binding later := by
  obtain ⟨held, later, there, lasts⟩ := attach_gives found same ran
  exact ⟨⟨id, mode⟩, later, held, there, suits.lasts lasts⟩

theorem openName_meets (sound : engine.scene.Sound) {raw : String} {word : UInt16}
    (ran : openName pid raw word engine = (.ok handle, after)) :
    ∃ binding mailbox, after.Meets ⟨pid, handle⟩ { raw, word } binding mailbox := by
  obtain ⟨mode, _, read, ran⟩ := bind_answers (guarded_answers ran)
  obtain ⟨asked, rfl⟩ := inspect_answers read
  obtain ⟨name, _, read, ran⟩ := bind_answers ran
  obtain ⟨named, rfl⟩ := readName_answers read
  obtain ⟨_, _, needs, ran⟩ := bind_answers ran
  obtain rfl := needHandle_answers needs
  obtain ⟨id, middle, finds, ran⟩ := bind_answers ran
  obtain ⟨mailbox, found, same, here⟩ := findToOpen_finds sound finds
  exact attach_meets found same ⟨here ▸ named, asked, nofun⟩ ran

theorem bindName_meets (sound : engine.scene.Sound) {raw : String} {capacity word : UInt16}
    (ran : bindName pid raw capacity word engine = (.ok handle, after)) :
    ∃ binding mailbox,
      after.Meets ⟨pid, handle⟩ { raw, word, capacity? := some capacity } binding mailbox := by
  obtain ⟨mode, _, read, ran⟩ := bind_answers (guarded_answers ran)
  obtain ⟨asked, rfl⟩ := inspect_answers read
  obtain ⟨name, _, read, ran⟩ := bind_answers ran
  obtain ⟨named, rfl⟩ := readName_answers read
  obtain ⟨_, _, read, ran⟩ := bind_answers ran
  obtain ⟨_, rfl⟩ := inspect_answers read
  obtain ⟨_, _, needs, ran⟩ := bind_answers ran
  obtain rfl := needHandle_answers needs
  obtain ⟨id, middle, finds, ran⟩ := bind_answers ran
  obtain ⟨mailbox, found, same, here, sized⟩ := findToBind_finds sound finds
  refine attach_meets found same ⟨here ▸ named, asked, fun other wanted => ?_⟩ ran
  cases wanted
  exact sized

theorem demand_meets (sound : engine.scene.Sound)
    (ran : (demand.operation pid).step engine = (.ok (.handle handle), after)) :
    ∃ binding mailbox, after.Meets ⟨pid, handle⟩ demand binding mailbox := by
  obtain ⟨raw, word, capacity?⟩ := demand
  cases capacity? with
  | none =>
      obtain ⟨given, last, opens, ended⟩ := bind_answers ran
      cases ended
      exact openName_meets sound opens
  | some capacity =>
      obtain ⟨given, last, opens, ended⟩ := bind_answers ran
      cases ended
      exact bindName_meets sound opens

theorem Meets.widens {endpoint : Endpoint} {binding : Binding} {mailbox : Mailbox}
    (meets : engine.Meets endpoint demand binding mailbox) (widens : engine.Widens after) :
    ∃ later, after.Meets endpoint demand binding later := by
  obtain ⟨later, there, rests⟩ := widens.kept binding.mailbox mailbox meets.found
  exact ⟨later, widens.bound endpoint binding meets.held, there, meets.suits.lasts rests.lasts⟩

structure Onward (before after : Engine) : Prop where
  sound : after.scene.Sound
  running : after.halted = none
  widens : before.Widens after

theorem onward_of {α : Type} {step : Step α} {outcome : Except Fault α}
    (opens : Obeys Opened step) (succeeds : Succeeds step engine) (sound : engine.scene.Sound)
    (running : engine.halted = none) (ran : step engine = (outcome, after))
    (few : after.registrations ≤ Registry.mostNumbers) : engine.Onward after := by
  obtain ⟨_, halted, passes⟩ := succeeds outcome after ran
  have opened := opens engine
  rw [ran] at opened
  exact ⟨(passes few).sound, halted.trans running,
    opened.widens (intact_of_sound sound) sound.numbered few⟩

theorem openStream_onward (sound : engine.scene.Sound) (running : engine.halted = none)
    {raw : String} {opened : List Handle}
    (ran : openStream pid raw opened engine = (.ok handle, after))
    (few : after.registrations ≤ Registry.mostNumbers) :
    engine.Onward after ∧ ∃ binding mailbox,
      after.Meets ⟨pid, handle⟩ { raw, word := Mode.readWrite.bits } binding mailbox := by
  have opens := openStream_opens ran
  exact ⟨onward_of (openName_obeys pid (opened_admits pid) raw _)
    (openName_succeeds sound running pid raw _) sound running opens few, openName_meets sound opens⟩

end Engine

def StandardHandles.streams (handles : StandardHandles) : List (Handle × String) :=
  [(handles.stdin, "svc:stdio.in"), (handles.stdout, "svc:stdio.out"),
    (handles.stderr, "svc:stdio.err")]

namespace Engine

open Step

variable {engine after : Engine} {pid : Pid}

theorem registerTask_meets (sound : engine.scene.Sound) {handles : StandardHandles}
    (ran : registerTask pid engine = (.ok handles, after))
    (few : after.registrations ≤ Registry.mostNumbers) :
    ∀ stream ∈ handles.streams, ∃ binding mailbox,
      after.Meets ⟨pid, stream.1⟩ { raw := stream.2, word := Mode.readWrite.bits } binding
        mailbox := by
  obtain ⟨_, first, controls, ran⟩ := bind_answers ran
  obtain ⟨stdin, second, reads, ran⟩ := bind_answers ran
  obtain ⟨stdout, third, writes, ran⟩ := bind_answers ran
  obtain ⟨stderr, fourth, warns, ran⟩ := bind_answers ran
  cases ran
  have thirdGrows := openStream_grows pid "svc:stdio.err" [stdin, stdout] third
  have secondGrows := openStream_grows pid "svc:stdio.out" [stdin] second
  have firstGrows := openStream_grows pid "svc:stdio.in" [] first
  rw [warns] at thirdGrows
  rw [writes] at secondGrows
  rw [reads] at firstGrows
  have thirdFew := Nat.le_trans thirdGrows few
  have secondFew := Nat.le_trans secondGrows thirdFew
  have firstFew := Nat.le_trans firstGrows secondFew
  have running := running_of_answers controls
  have control := onward_of (ensureControl_obeys pid (opened_admits pid))
    (ensureControl_succeeds sound running pid) sound running controls firstFew
  obtain ⟨input, _, _, meetsIn⟩ :=
    openStream_onward control.sound control.running reads secondFew
  obtain ⟨output, _, _, meetsOut⟩ := openStream_onward input.sound input.running writes thirdFew
  obtain ⟨errors, meetsErr⟩ := openStream_onward output.sound output.running warns few
  intro stream member
  simp only [StandardHandles.streams, List.mem_cons, List.not_mem_nil, or_false] at member
  rcases member with rfl | rfl | rfl
  · exact ⟨_, meetsIn.widens (output.widens.trans errors.widens)⟩
  · exact ⟨_, meetsOut.widens errors.widens⟩
  · exact meetsErr

end Engine

end Mailroom
