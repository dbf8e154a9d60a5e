import Mathlib.Logic.Relation
import Mailroom.Proofs.Engine.Steps
import Mailroom.Proofs.Registry

/-!
Everything that ever happens to an engine. An operation, whatever it is asked for and whether or
not it succeeds, is a sequence of edits, each of which touches one part of the engine: what opens
only adds, what closes only takes away, and the rest moves messages. So what every edit keeps,
every run keeps.
-/

namespace Mailroom

def Event.isOverrun : Event → Bool
  | .overrun .. => true
  | _ => false

def Event.isPlain : Event → Bool
  | .exhausted .. => true
  | _ => false

theorem Event.isPlain_created {event : Event} (plain : event.isPlain = true) :
    event.isCreated = false := by
  cases event <;> first | rfl | cases plain

theorem Event.isPlain_overrun {event : Event} (plain : event.isPlain = true) :
    event.isOverrun = false := by
  cases event <;> first | rfl | cases plain

def Limits.Allows (limits : Limits) (capacity : UInt16) : Prop :=
  capacity = limits.defaultCapacity ∨ (capacity ≠ 0 ∧ capacity ≤ limits.maxCapacity)

namespace Mailbox

inductive Loosens (mailbox : Mailbox) : Mailbox → Prop
  | detached (endpoint : Endpoint) : Loosens mailbox (mailbox.detach endpoint).2
  | unpinned : Loosens mailbox { mailbox with persistent := false }

inductive Moves (mailbox : Mailbox) : Mailbox → Prop
  | same : Moves mailbox mailbox
  | accepted (source : Endpoint) (flags : Flags) (channel : UInt16) (payload : Bytes) :
      Moves mailbox (mailbox.accept source flags channel payload).2
  | taken (view : View) (room : Nat) : Moves mailbox (mailbox.take view room).2
  | switched {endpoint : Endpoint} {enabled : Bool} {subscribers : Subscribers}
      (set : mailbox.subscribers.setTap endpoint enabled = .ok subscribers) :
      Moves mailbox { mailbox with subscribers }

end Mailbox

namespace Engine

inductive Opens (engine : Engine) : Engine → Prop
  | stopped (reason? : Option String) : Opens engine { engine with halted := reason? }
  | told {event : Event} (plain : event.isPlain = true) : Opens engine (engine.emit event)
  | made (name : Name) (capacity : UInt16) (policy : Policy) (creator : Pid) (persistent : Bool) :
      Opens engine
        ({ engine with
            registry := engine.registry.added
              (.empty ⟨engine.registry.nextId⟩ name capacity policy creator persistent) }.emit
          (.created ⟨engine.registry.nextId⟩ name.canonical capacity policy creator))
  | searched {handles : HandleTable} (same : handles.binding? = engine.handles.binding?) :
      Opens engine { engine with handles }
  | missed {handles : HandleTable} {endpoint : Endpoint} {binding : Binding}
      (free : engine.handles.binding? endpoint = none)
      (given : handles.binding? =
        Function.update engine.handles.binding? endpoint (some binding))
      (missing : engine.registry.get? binding.mailbox = none) : Opens engine { engine with handles }
  | attached {handles : HandleTable} {endpoint : Endpoint} {binding : Binding} {mailbox : Mailbox}
      (free : engine.handles.binding? endpoint = none)
      (given : handles.binding? =
        Function.update engine.handles.binding? endpoint (some binding))
      (found : engine.registry.get? binding.mailbox = some mailbox) :
      Opens engine
        { engine with
          handles
          registry := engine.registry.update (mailbox.attach endpoint binding.mode) }

inductive Closes (engine : Engine) : Engine → Prop
  | stopped (reason? : Option String) : Closes engine { engine with halted := reason? }
  | woken (wakeups : List Wakeup) :
      Closes engine { engine with wakeups := wakeups ++ engine.wakeups }
  | unbound {handles : HandleTable}
      (fewer : ∀ endpoint binding, handles.binding? endpoint = some binding →
        engine.handles.binding? endpoint = some binding) : Closes engine { engine with handles }
  | loosened {id : MailboxId} {before after : Mailbox}
      (found : engine.registry.get? id = some before) (loosens : before.Loosens after) :
      Closes engine { engine with registry := engine.registry.update after }
  | destroyed (id : MailboxId) : Closes engine (engine.destroy id)

inductive Edit (engine : Engine) : Engine → Prop
  | opens {after : Engine} (opens : engine.Opens after) : Edit engine after
  | closes {after : Engine} (closes : engine.Closes after) : Edit engine after
  | told {event : Event} (other : event.isCreated = false) : Edit engine (engine.emit event)
  | moved {id : MailboxId} {before after : Mailbox}
      (found : engine.registry.get? id = some before) (moves : before.Moves after) :
      Edit engine { engine with registry := engine.registry.update after }

inductive OpensFor (pid : Pid) (engine : Engine) : Engine → Prop
  | told {event : Event} (plain : event.isPlain = true) : OpensFor pid engine (engine.emit event)
  | made {name : Name} (unnamed : engine.registry.resolve? name = none) (capacity : UInt16)
      (policy : Policy) (room : engine.registry.size < engine.registry.limit)
      (allowed : engine.limits.Allows capacity) :
      OpensFor pid engine
        ({ engine with
            registry := engine.registry.added
              (.empty ⟨engine.registry.nextId⟩ name capacity policy pid name.isWellKnown) }.emit
          (.created ⟨engine.registry.nextId⟩ name.canonical capacity policy pid))
  | searched {handles : HandleTable} (same : handles.binding? = engine.handles.binding?)
      (rationed : engine.handles.Rations handles) : OpensFor pid engine { engine with handles }
  | missed {handles : HandleTable} {handle : Handle} {binding : Binding}
      (free : engine.handles.binding? ⟨pid, handle⟩ = none)
      (given : handles.binding? =
        Function.update engine.handles.binding? ⟨pid, handle⟩ (some binding))
      (missing : engine.registry.get? binding.mailbox = none)
      (rationed : engine.handles.Rations handles) : OpensFor pid engine { engine with handles }
  | attached {handles : HandleTable} {handle : Handle} {binding : Binding} {mailbox : Mailbox}
      (free : engine.handles.binding? ⟨pid, handle⟩ = none)
      (given : handles.binding? =
        Function.update engine.handles.binding? ⟨pid, handle⟩ (some binding))
      (found : engine.registry.get? binding.mailbox = some mailbox)
      (rationed : engine.handles.Rations handles) :
      OpensFor pid engine
        { engine with
          handles
          registry := engine.registry.update (mailbox.attach ⟨pid, handle⟩ binding.mode) }

inductive ClosesFor (pid : Pid) (engine : Engine) : Engine → Prop
  | woken (wakeups : List Wakeup) :
      ClosesFor pid engine { engine with wakeups := wakeups ++ engine.wakeups }
  | taken {handles : HandleTable}
      (others : ∀ endpoint : Endpoint, endpoint.pid ≠ pid →
        handles.binding? endpoint = engine.handles.binding? endpoint)
      (fewer : ∀ endpoint binding, handles.binding? endpoint = some binding →
        engine.handles.binding? endpoint = some binding)
      (rationed : engine.handles.Rations handles) : ClosesFor pid engine { engine with handles }
  | detached {id : MailboxId} {mailbox : Mailbox}
      (found : engine.registry.get? id = some mailbox) (handle : Handle) :
      ClosesFor pid engine
        { engine with registry := engine.registry.update (mailbox.detach ⟨pid, handle⟩).2 }
  | destroyed {id : MailboxId} {mailbox : Mailbox}
      (found : engine.registry.get? id = some mailbox)
      (unreferenced : mailbox.isUnreferenced = true) : ClosesFor pid engine (engine.destroy id)

inductive Conveys (engine : Engine) : Engine → Prop
  | told {event : Event} (other : event.isCreated = false) : Conveys engine (engine.emit event)
  | woken (wakeups : List Wakeup) :
      Conveys engine { engine with wakeups := wakeups ++ engine.wakeups }
  | moved {id : MailboxId} {before after : Mailbox}
      (found : engine.registry.get? id = some before) (moves : before.Moves after) :
      Conveys engine { engine with registry := engine.registry.update after }

theorem OpensFor.opens {pid : Pid} {before after : Engine} (opens : OpensFor pid before after) :
    before.Opens after := by
  cases opens with
  | told plain => exact .told plain
  | made unnamed capacity policy => exact .made _ capacity policy pid _
  | searched same => exact .searched same
  | missed free given missing => exact .missed free given missing
  | attached free given found => exact .attached free given found

theorem ClosesFor.closes {pid : Pid} {before after : Engine} (closes : ClosesFor pid before after) :
    before.Closes after := by
  cases closes with
  | woken wakeups => exact .woken wakeups
  | taken others fewer => exact .unbound fewer
  | detached found handle => exact .loosened found (.detached _)
  | destroyed found unreferenced => exact .destroyed _

theorem Conveys.edit {before after : Engine} (conveys : before.Conveys after) :
    before.Edit after := by
  cases conveys with
  | told other => exact .told other
  | woken wakeups => exact .closes (.woken wakeups)
  | moved found moves => exact .moved found moves

def Opened : Engine → Engine → Prop := Relation.ReflTransGen Opens

def Closed : Engine → Engine → Prop := Relation.ReflTransGen Closes

def Edited : Engine → Engine → Prop := Relation.ReflTransGen Edit

/-- First something may be opened, and then something may be closed. -/
def Reshaped (before after : Engine) : Prop :=
  ∃ middle, before.Opened middle ∧ middle.Closed after

theorem Opens.opened {before after : Engine} (opens : before.Opens after) : before.Opened after :=
  .single opens

theorem Closes.closed {before after : Engine} (closes : before.Closes after) :
    before.Closed after := .single closes

theorem Edit.edited {before after : Engine} (edit : before.Edit after) : before.Edited after :=
  .single edit

theorem Opened.edited {before after : Engine} (opened : before.Opened after) :
    before.Edited after :=
  Relation.ReflTransGen.mono (fun _ _ => Edit.opens) _ _ opened

theorem Closed.edited {before after : Engine} (closed : before.Closed after) :
    before.Edited after :=
  Relation.ReflTransGen.mono (fun _ _ => Edit.closes) _ _ closed

theorem Opened.reshaped {before after : Engine} (opened : before.Opened after) :
    before.Reshaped after := ⟨after, opened, .refl⟩

theorem Closed.reshaped {before after : Engine} (closed : before.Closed after) :
    before.Reshaped after := ⟨before, .refl, closed⟩

theorem Reshaped.edited {before after : Engine} (reshaped : before.Reshaped after) :
    before.Edited after := by
  obtain ⟨middle, opened, closed⟩ := reshaped
  exact opened.edited.trans closed.edited

theorem opened_course : Step.Course Opened :=
  ⟨fun _ => .refl, Relation.ReflTransGen.trans, fun _ _ => (Opens.stopped _).opened⟩

theorem closed_course : Step.Course Closed :=
  ⟨fun _ => .refl, Relation.ReflTransGen.trans, fun _ _ => (Closes.stopped _).closed⟩

theorem edited_course : Step.Course Edited :=
  ⟨fun _ => .refl, Relation.ReflTransGen.trans, fun _ _ => (Opens.stopped _).opened.edited⟩

structure Admits (R E : Engine → Engine → Prop) : Prop where
  course : Step.Course R
  edits : ∀ {before after : Engine}, E before after → R before after

theorem opened_admits (pid : Pid) : Admits Opened (OpensFor pid) :=
  ⟨opened_course, fun edit => edit.opens.opened⟩

theorem closed_admits (pid : Pid) : Admits Closed (ClosesFor pid) :=
  ⟨closed_course, fun edit => edit.closes.closed⟩

theorem edited_admits : Admits Edited Conveys := ⟨edited_course, fun edit => edit.edit.edited⟩

open Step

variable {R : Engine → Engine → Prop}

theorem mailboxOf_missing {engine : Engine} {id : MailboxId}
    (missing : engine.registry.get? id = none) :
    mailboxOf id engine = (.error (.internal ("dangling binding to " ++ id.text)), engine) := by
  simp only [mailboxOf, Step.inspect, missing]

theorem mailboxOf_found {engine : Engine} {id : MailboxId} {mailbox : Mailbox}
    (found : engine.registry.get? id = some mailbox) : mailboxOf id engine = (.ok mailbox, engine)
    := by
  simp only [mailboxOf, Step.inspect, found]

theorem onMailbox_missing {α : Type} {engine : Engine} {id : MailboxId}
    (operation : Mailbox → Except Fault α × Mailbox) (missing : engine.registry.get? id = none) :
    onMailbox id operation engine =
      (.error (.internal ("dangling binding to " ++ id.text)), engine) :=
  bind_error (mailboxOf_missing missing)

theorem onMailbox_found {α : Type} {engine : Engine} {id : MailboxId} {before after : Mailbox}
    (operation : Mailbox → Except Fault α × Mailbox) {outcome : Except Fault α}
    (found : engine.registry.get? id = some before) (ran : operation before = (outcome, after)) :
    onMailbox id operation engine =
      (outcome, { engine with registry := engine.registry.update after }) := by
  simp only [onMailbox]
  rw [bind_ok (mailboxOf_found found), ran]
  rfl

theorem onMailbox_obeys {α : Type} {R : Engine → Engine → Prop} (course : Course R)
    (id : MailboxId) {operation : Mailbox → Except Fault α × Mailbox}
    (changes : ∀ engine before, engine.registry.get? id = some before →
      R engine { engine with registry := engine.registry.update (operation before).2 }) :
    Obeys R (onMailbox id operation) := by
  intro engine
  cases found : engine.registry.get? id with
  | none =>
      rw [onMailbox_missing operation found]
      exact course.refl engine
  | some mailbox =>
      rw [onMailbox_found operation found rfl]
      exact changes engine mailbox found

theorem change_obeys {R : Engine → Engine → Prop} {edit : Engine → Engine}
    (edits : ∀ engine, R engine (edit engine)) : Obeys R (change edit) := edits

def giveHandle (pid : Pid) (binding : Binding) : Step Handle := fun engine =>
  let (outcome, handles) := engine.handles.insert pid binding
  (outcome, { engine with handles })

theorem attach_eq (pid : Pid) (id : MailboxId) (mode : Mode) :
    attach pid id mode = giveHandle pid ⟨id, mode⟩ >>= fun handle =>
      onMailbox id (fun mailbox => (.ok (), mailbox.attach ⟨pid, handle⟩ mode)) >>= fun _ =>
        Pure.pure handle := rfl

theorem attach_obeys (pid : Pid) (admits : Admits R (OpensFor pid)) (id : MailboxId)
    (mode : Mode) : Obeys R (attach pid id mode) := by
  intro engine
  rw [attach_eq]
  have rationed := engine.handles.insert_rations pid ⟨id, mode⟩
  rcases engine.handles.insert_ends pid ⟨id, mode⟩ with
    ⟨fault, handles, inserted, same⟩ | ⟨handle, handles, inserted, free, given⟩
  all_goals rw [inserted] at rationed
  · have begun : giveHandle pid ⟨id, mode⟩ engine = (.error fault, { engine with handles }) := by
      simp only [giveHandle, inserted]
    rw [bind_error begun]
    exact admits.edits (.searched same rationed)
  · have begun : giveHandle pid ⟨id, mode⟩ engine = (.ok handle, { engine with handles }) := by
      simp only [giveHandle, inserted]
    let attaching : Mailbox → Except Fault Unit × Mailbox := fun mailbox =>
      (.ok (), mailbox.attach ⟨pid, handle⟩ mode)
    rw [bind_ok begun]
    cases found : engine.registry.get? id with
    | none =>
        have missing : Registry.get? { engine with handles }.registry id = none := found
        rw [bind_error (onMailbox_missing attaching missing)]
        have edit : OpensFor pid engine _ := .missed free given found rationed
        exact admits.edits edit
    | some mailbox =>
        have there : Registry.get? { engine with handles }.registry id = some mailbox := found
        rw [bind_ok (onMailbox_found attaching there rfl)]
        have edit : OpensFor pid engine _ := .attached free given found rationed
        exact admits.edits edit

section Creating

variable {creator : Pid} {engine : Engine} {name : Name} {capacity : UInt16} {policy : Policy}
  {persistent : Bool}

theorem create_room (room : engine.registry.size < engine.registry.limit)
    (unnamed : engine.registry.resolve? name = none) :
    create creator name capacity policy persistent engine =
      (.ok ⟨engine.registry.nextId⟩,
        { engine with
          registry := engine.registry.added
            (.empty ⟨engine.registry.nextId⟩ name capacity policy creator persistent) }.emit
          (.created ⟨engine.registry.nextId⟩ name.canonical capacity policy creator)) := by
  have inserted := Registry.insert_ok room
    (fun id => Mailbox.empty id name capacity policy creator persistent) unnamed
  simp only [create, inserted]

theorem create_full (full : engine.registry.limit ≤ engine.registry.size) :
    create creator name capacity policy persistent engine =
      (.error .descriptorsExhausted, engine.emit (.exhausted creator .descriptorPoolFull)) := by
  have refused := Registry.insert_full full
    (fun id => Mailbox.empty id name capacity policy creator persistent)
  simp only [create, refused]

theorem create_answers {after : Engine} {id : MailboxId}
    (unnamed : engine.registry.resolve? name = none)
    (created : create creator name capacity policy persistent engine = (.ok id, after)) :
    id = ⟨engine.registry.nextId⟩ ∧
      after.registry =
        engine.registry.added (.empty id name capacity policy creator persistent) := by
  by_cases room : engine.registry.size < engine.registry.limit
  · rw [create_room room unnamed] at created
    cases created
    exact ⟨rfl, rfl⟩
  · rw [create_full (Nat.le_of_not_lt room)] at created
    cases created

end Creating

theorem create_obeys {pid : Pid} (admits : Admits R (OpensFor pid)) {engine : Engine} {name : Name}
    (unnamed : engine.registry.resolve? name = none) {capacity : UInt16}
    (allowed : engine.limits.Allows capacity) (policy : Policy) :
    R engine (create pid name capacity policy name.isWellKnown engine).2 := by
  by_cases room : engine.registry.size < engine.registry.limit
  · rw [create_room room unnamed]
    exact admits.edits (.made unnamed capacity policy room allowed)
  · rw [create_full (Nat.le_of_not_lt room)]
    exact admits.edits (.told rfl)

theorem needHandle_obeys (pid : Pid) (admits : Admits R (OpensFor pid)) :
    Obeys R (needHandle pid) := by
  intro engine
  simp only [needHandle]
  split
  · exact admits.course.refl engine
  · exact admits.edits (.told rfl)

theorem needHandle_limits (pid : Pid) (engine : Engine) :
    (needHandle pid engine).2.limits = engine.limits := by
  simp only [needHandle]
  split <;> rfl

theorem readCapacity_answers {capacity : UInt16} {engine after : Engine}
    (read : readCapacity capacity engine = (.ok (), after)) :
    engine.limits.Allows capacity ∧ after = engine := by
  simp only [readCapacity, Step.inspect] at read
  split at read
  · cases read
  · rename_i usable
    rw [not_or, UInt16.not_lt] at usable
    cases read
    exact ⟨Or.inr usable, rfl⟩

theorem findToOpen_obeys (pid : Pid) (admits : Admits R (OpensFor pid)) (name : Name)
    (mode : Mode) : Obeys R (findToOpen pid name mode) := by
  intro engine
  simp only [findToOpen]
  split
  · exact admits.course.refl engine
  · rename_i unnamed
    split
    · rename_i wellKnown
      rw [← wellKnown]
      exact create_obeys admits unnamed (Or.inl rfl) _
    · exact admits.course.refl engine

theorem findToBind_obeys (pid : Pid) (admits : Admits R (OpensFor pid)) {engine : Engine}
    (name : Name) {capacity : UInt16} (allowed : engine.limits.Allows capacity) (mode : Mode) :
    R engine (findToBind pid name capacity mode engine).2 := by
  have look : Step.inspect (fun engine => .ok (engine.registry.resolve? name)) engine =
      (.ok (engine.registry.resolve? name), engine) := rfl
  rw [findToBind, bind_ok look]
  cases resolves : engine.registry.resolve? name with
  | none => exact create_obeys admits resolves allowed _
  | some id =>
      apply admits.course.bind (admits.course.inspect _)
      intro mailbox
      split
      · exact admits.course.pure id
      · exact admits.course.fail _

theorem openName_obeys (pid : Pid) (admits : Admits R (OpensFor pid)) (raw : String)
    (word : UInt16) : Obeys R (openName pid raw word) := by
  have course := admits.course
  apply course.guarded
  refine course.bind (course.inspect _) fun mode => course.bind (course.inspect _) fun name =>
    course.bind (needHandle_obeys pid admits) fun _ => ?_
  exact course.bind (findToOpen_obeys pid admits name mode) fun id =>
    attach_obeys pid admits id mode

theorem bindName_obeys (pid : Pid) (admits : Admits R (OpensFor pid)) (raw : String)
    (capacity word : UInt16) : Obeys R (bindName pid raw capacity word) := by
  have course := admits.course
  apply course.guarded
  refine course.bind (course.inspect _) fun mode => course.bind (course.inspect _) fun name => ?_
  intro engine
  refine course.bind_at (course.inspect _ engine) fun _ seen read => ?_
  obtain ⟨allowed, same⟩ := readCapacity_answers read
  subst same
  refine course.bind_at (needHandle_obeys pid admits seen) fun _ middle needed => ?_
  rw [← needHandle_limits pid seen, needed] at allowed
  exact course.bind_at (findToBind_obeys pid admits name allowed mode) fun id last _ =>
    attach_obeys pid admits id mode last

theorem ensureControl_obeys (pid : Pid) (admits : Admits R (OpensFor pid)) :
    Obeys R (ensureControl pid) := by
  apply admits.course.guarded
  intro engine
  simp only
  split
  · exact admits.course.refl engine
  · rename_i unnamed
    exact create_obeys admits unnamed (Or.inl rfl) _

theorem readableView_obeys (course : Course R) (endpoint : Endpoint) :
    Obeys R (readableView endpoint) := by
  apply course.bind (course.inspect _)
  intro binding
  split
  · exact course.bind (course.inspect _) fun mailbox => course.pure _
  · exact course.fail _

theorem receiveCondition_obeys (course : Course R) (endpoint : Endpoint) :
    Obeys R (receiveCondition endpoint) := by
  apply course.guarded
  apply course.bind (readableView_obeys course endpoint)
  rintro ⟨binding, view⟩
  cases view <;> exact course.pure _

theorem sendCondition_obeys (course : Course R) (endpoint : Endpoint) :
    Obeys R (sendCondition endpoint) := by
  apply course.guarded
  exact course.bind (course.inspect _) fun binding => course.pure _

theorem peek_obeys (course : Course R) (endpoint : Endpoint) : Obeys R (peek endpoint) := by
  apply course.guarded
  refine course.bind (readableView_obeys course endpoint) fun seen =>
    course.bind (course.inspect _) fun mailbox => ?_
  exact course.bind (course.inspect _) fun state => course.pure _

theorem detach_obeys (endpoint : Endpoint) (admits : Admits R (ClosesFor endpoint.pid))
    (id : MailboxId) : Obeys R (detach endpoint id) := by
  have course := admits.course
  refine course.bind (onMailbox_obeys course id fun _ _ found =>
    admits.edits (.detached found endpoint.handle)) fun _ => ?_
  intro engine
  cases found : engine.registry.get? id with
  | none =>
      rw [bind_error (mailboxOf_missing found)]
      exact course.refl engine
  | some mailbox =>
      rw [bind_ok (mailboxOf_found found)]
      simp only [Step.change]
      split
      · rename_i unreferenced
        exact admits.edits (.destroyed found unreferenced)
      · exact admits.edits (.woken (rousing id))

theorem close_obeys (endpoint : Endpoint) (admits : Admits R (ClosesFor endpoint.pid)) :
    Obeys R (close endpoint) := by
  have course := admits.course
  apply course.guarded
  apply course.bind
  · intro engine
    refine admits.edits (.taken ?_ (fun other _ => engine.handles.remove_fewer endpoint other)
      (engine.handles.remove_rations endpoint))
    intro other apart
    change (engine.handles.remove endpoint).2.binding? other = _
    rw [HandleTable.remove_binding, Function.update_of_ne]
    exact fun same => apart (congrArg Endpoint.pid same)
  · intro binding
    exact detach_obeys endpoint admits binding.mailbox

theorem closeEach_obeys (pid : Pid) (admits : Admits R (ClosesFor pid)) (handles : List Handle)
    (engine : Engine) : R engine (closeEach pid engine handles) := by
  induction handles generalizing engine with
  | nil => exact admits.course.refl engine
  | cons handle rest ih =>
      exact admits.course.trans (close_obeys ⟨pid, handle⟩ admits engine) (ih _)

theorem release_obeys (pid : Pid) (admits : Admits R (ClosesFor pid)) (entry : Handle × Binding) :
    Obeys R (release pid entry) :=
  admits.course.bind (change_obeys fun _ => admits.edits (.woken (rousing entry.2.mailbox)))
    fun _ => detach_obeys ⟨pid, entry.1⟩ admits _

theorem dropTask_obeys (pid : Pid) (admits : Admits R (ClosesFor pid)) :
    Obeys R (dropTask pid) := by
  apply change_obeys
  intro engine
  refine admits.edits (.taken ?_ ?_ (engine.handles.dropTask_rations pid))
  · intro endpoint apart
    rw [HandleTable.dropTask_binding, if_neg (Ne.symm apart)]
  · intro endpoint binding held
    rw [HandleTable.dropTask_binding] at held
    split at held
    · cases held
    · exact held

theorem unpin_closed (id : MailboxId) : Obeys Closed (unpin id) := by
  refine closed_course.bind (onMailbox_obeys closed_course id fun _ _ found =>
    (Closes.loosened found .unpinned).closed) fun _ =>
    closed_course.bind (closed_course.inspect _) fun mailbox => ?_
  apply change_obeys
  intro engine
  split
  · exact (Closes.destroyed id).closed
  · exact .refl

theorem reapTask_obeys (pid : Pid) (admits : Admits R (ClosesFor pid))
    (unpins : ∀ id, Obeys R (unpin id)) : Obeys R (reapTask pid) := by
  have course := admits.course
  apply course.guarded
  refine course.bind (course.inspect _) fun held =>
    course.bind (dropTask_obeys pid admits) fun _ =>
      course.bind (course.forEach (release_obeys pid admits) held) fun _ =>
        course.bind (course.inspect _) fun owned => ?_
  exact course.bind (course.forEach unpins owned) fun _ => course.pure _

theorem reapTask_closed (pid : Pid) : Obeys Closed (reapTask pid) :=
  reapTask_obeys pid (closed_admits pid) unpin_closed

theorem destroyEach_closed (ids : List MailboxId) (engine : Engine) :
    Closed engine (ids.foldl destroy engine) := by
  induction ids generalizing engine with
  | nil => exact .refl
  | cons id rest ih => exact .head (.destroyed id) (ih _)

theorem reset_closed (engine : Engine) : Closed engine (reset engine) := by
  let destroyed := (engine.registry.toList.map Mailbox.id).foldl destroy engine
  have forgotten : Closes destroyed { destroyed with handles := destroyed.handles.clear } := by
    refine .unbound fun endpoint binding held => ?_
    rw [HandleTable.clear_binding] at held
    cases held
  have resumed : Closes { destroyed with handles := destroyed.handles.clear } (reset engine) :=
    .stopped none
  exact ((destroyEach_closed _ engine).tail forgotten).tail resumed

/-- The step only opens something if it succeeds, and may close something after that if not. -/
def Reshapes {α : Type} (step : Step α) : Prop :=
  ∀ engine, (∃ answer after, step engine = (.ok answer, after) ∧ Opened engine after) ∨
    ∃ fault after, step engine = (.error fault, after) ∧ Reshaped engine after

theorem reshapes_of_opened {α : Type} {step : Step α} (opened : Obeys Opened step) :
    Reshapes step := by
  intro engine
  have left := opened engine
  cases ran : step engine with
  | mk outcome after =>
      rw [ran] at left
      cases outcome with
      | ok answer => exact Or.inl ⟨answer, after, rfl, left⟩
      | error fault => exact Or.inr ⟨fault, after, rfl, left.reshaped⟩

theorem Reshapes.bind {α β : Type} {first : Step α} {next : α → Step β} (begins : Reshapes first)
    (onward : ∀ answer, Reshapes (next answer)) : Reshapes (first >>= next) := by
  intro engine
  rcases begins engine with ⟨answer, middle, ran, opened⟩ | ⟨fault, after, ran, reshaped⟩
  · rw [bind_ok ran]
    rcases onward answer middle with ⟨result, last, left, more⟩ | ⟨fault, last, left, more⟩
    · exact Or.inl ⟨result, last, left, opened.trans more⟩
    · obtain ⟨most, further, closed⟩ := more
      exact Or.inr ⟨fault, last, left, most, opened.trans further, closed⟩
  · exact Or.inr ⟨fault, after, bind_error ran, reshaped⟩

theorem Reshapes.reshaped {α : Type} {step : Step α} (reshapes : Reshapes step) :
    Obeys Reshaped step := by
  intro engine
  rcases reshapes engine with ⟨answer, after, ran, opened⟩ | ⟨fault, after, ran, reshaped⟩
  · rw [ran]
    exact opened.reshaped
  · rw [ran]
    exact reshaped

theorem openStream_reshapes (pid : Pid) (raw : String) (opened : List Handle) :
    Reshapes (openStream pid raw opened) := by
  intro engine
  have first := openName_obeys pid (opened_admits pid) raw Mode.readWrite.bits engine
  cases ran : openName pid raw Mode.readWrite.bits engine with
  | mk outcome middle =>
      rw [ran] at first
      cases outcome with
      | ok handle => exact Or.inl ⟨handle, middle, by simp only [openStream, ran], first⟩
      | error fault =>
          exact Or.inr ⟨fault, _, by simp only [openStream, ran], middle, first,
            closeEach_obeys pid (closed_admits pid) opened middle⟩

theorem registerTask_reshapes (pid : Pid) : Reshapes (registerTask pid) := by
  refine (reshapes_of_opened (ensureControl_obeys pid (opened_admits pid))).bind fun _ =>
    (openStream_reshapes pid _ _).bind fun stdin =>
      (openStream_reshapes pid _ _).bind fun stdout => ?_
  exact (openStream_reshapes pid _ _).bind fun stderr =>
    reshapes_of_opened (opened_course.pure _)

theorem openStream_obeys (pid : Pid) (opens : Admits R (OpensFor pid))
    (closes : Admits R (ClosesFor pid)) (raw : String) (opened : List Handle) :
    Obeys R (openStream pid raw opened) := by
  intro engine
  have first := openName_obeys pid opens raw Mode.readWrite.bits engine
  cases ran : openName pid raw Mode.readWrite.bits engine with
  | mk outcome middle =>
      rw [ran] at first
      cases outcome with
      | ok handle =>
          simp only [openStream, ran]
          exact first
      | error fault =>
          simp only [openStream, ran]
          exact opens.course.trans first (closeEach_obeys pid closes opened middle)

theorem registerTask_obeys (pid : Pid) (opens : Admits R (OpensFor pid))
    (closes : Admits R (ClosesFor pid)) : Obeys R (registerTask pid) := by
  have course := opens.course
  refine course.bind (ensureControl_obeys pid opens) fun _ =>
    course.bind (openStream_obeys pid opens closes _ _) fun stdin =>
      course.bind (openStream_obeys pid opens closes _ _) fun stdout => ?_
  exact course.bind (openStream_obeys pid opens closes _ _) fun stderr => course.pure _

theorem onMailbox_conveyed (admits : Admits R Conveys) {α : Type} (id : MailboxId)
    {operation : Mailbox → Except Fault α × Mailbox}
    (moves : ∀ mailbox : Mailbox, mailbox.Moves (operation mailbox).2) :
    Obeys R (onMailbox id operation) :=
  onMailbox_obeys admits.course id fun _ _ found => admits.edits (.moved found (moves _))

theorem emitAll_obeys (admits : Admits R Conveys) (events : List Event) (engine : Engine)
    (others : ∀ event ∈ events, event.isCreated = false) : R engine (engine.emitAll events) := by
  induction events generalizing engine with
  | nil => exact admits.course.refl engine
  | cons event rest ih =>
      exact admits.course.trans (admits.edits (.told (others event List.mem_cons_self)))
        (ih _ fun later member => others later (List.mem_cons_of_mem _ member))

theorem announce_obeys (admits : Admits R Conveys) (engine : Engine) (endpoint : Endpoint)
    (id : MailboxId) (channel : UInt16) (bytes : Nat) (acceptance : Acceptance) :
    R engine (engine.announce endpoint id channel bytes acceptance) := by
  have course := admits.course
  let queued := if acceptance.queued then engine.wake ⟨.readable, id⟩ .one else engine
  let copied :=
    if acceptance.fanout.fedAnyone || acceptance.taps.fedAnyone then
      queued.wake ⟨.subscriber, id⟩ .all
    else queued
  have first : R engine queued := by
    simp only [queued]
    split
    · exact admits.edits (.woken [_])
    · exact course.refl engine
  have second : R queued copied := by
    simp only [copied]
    split
    · exact admits.edits (.woken [_])
    · exact course.refl queued
  refine course.trans (course.trans (course.trans first second)
    (emitAll_obeys admits _ copied ?_)) (admits.edits (.told rfl))
  intro event member
  obtain ⟨subscriber, _, rfl⟩ := List.mem_map.mp member
  rfl

theorem trySend_obeys (admits : Admits R Conveys) (endpoint : Endpoint) (payload : Bytes)
    (flags channel : UInt16) : Obeys R (trySend endpoint payload flags channel) := by
  have course := admits.course
  apply course.guarded
  apply course.bind (course.inspect _)
  intro binding
  split
  · refine course.bind (onMailbox_conveyed admits _ fun mailbox => .accepted _ _ _ _)
      fun accepted => course.bind (change_obeys fun engine => ?_) fun _ => course.pure _
    exact announce_obeys admits engine _ _ _ _ accepted
  · exact course.fail _

theorem acknowledge_obeys (admits : Admits R Conveys) (engine : Engine) (endpoint : Endpoint)
    (id : MailboxId) (view : View) (receipt : Receipt) :
    R engine (engine.acknowledge endpoint id view receipt) := by
  simp only [acknowledge]
  split
  · exact admits.course.trans (admits.edits (.woken [⟨⟨.writable, id⟩, .all⟩]))
      (admits.edits (.told rfl))
  · exact admits.edits (.told rfl)

theorem tryReceive_obeys (admits : Admits R Conveys) (endpoint : Endpoint) (room : Nat) :
    Obeys R (tryReceive endpoint room) := by
  have course := admits.course
  apply course.guarded
  refine course.bind (readableView_obeys course endpoint) fun seen =>
    course.bind (onMailbox_conveyed admits _ fun mailbox => .taken _ _) fun taken => ?_
  cases taken with
  | none => exact course.fail _
  | some receipt =>
      exact course.bind (change_obeys fun engine => acknowledge_obeys admits engine _ _ _ _)
        fun _ => course.pure receipt

theorem tap_obeys (admits : Admits R Conveys) (endpoint : Endpoint) (enabled : Bool) :
    Obeys R (tap endpoint enabled) := by
  have course := admits.course
  apply course.guarded
  apply course.bind (course.inspect _)
  intro binding
  split
  · refine course.bind (onMailbox_conveyed admits _ fun mailbox => ?_) fun _ =>
      change_obeys fun engine => admits.edits (.told rfl)
    split
    · rename_i set
      exact .switched set
    · exact .same
  · exact course.fail _

end Engine

def Operation.moves : Operation → Bool
  | .send .. | .receive .. | .tap .. => true
  | _ => false

namespace Engine

open Step

theorem operation_reshaped {operation : Operation} (still : operation.moves = false) :
    Obeys Reshaped operation.step := by
  have opened : ∀ {α : Type} {step : Step α} (form : α → Answer), Obeys Opened step →
      Obeys Reshaped (step >>= fun answer => Pure.pure (form answer)) :=
    fun form obeys engine => (obeys.map form engine).reshaped
  have closed : ∀ {α : Type} {step : Step α} (form : α → Answer), Obeys Closed step →
      Obeys Reshaped (step >>= fun answer => Pure.pure (form answer)) :=
    fun form obeys engine => (obeys.map form engine).reshaped
  cases operation with
  | openName pid name mode =>
      exact opened .handle (openName_obeys pid (opened_admits pid) name mode)
  | bindName pid name capacity mode =>
      exact opened .handle (bindName_obeys pid (opened_admits pid) name capacity mode)
  | peek endpoint => exact opened .peek (peek_obeys opened_course endpoint)
  | close endpoint =>
      exact closed (fun _ => .nothing) (close_obeys endpoint (closed_admits endpoint.pid))
  | receiveCondition endpoint =>
      exact opened .condition (receiveCondition_obeys opened_course endpoint)
  | sendCondition endpoint => exact opened .condition (sendCondition_obeys opened_course endpoint)
  | register pid => exact (registerTask_reshapes pid).reshaped.map Answer.standard
  | reap pid => exact closed .count (reapTask_closed pid)
  | halt reason =>
      exact closed (fun _ => .nothing) (change_obeys fun engine => (Closes.stopped _).closed)
  | reset => exact closed (fun _ => .nothing) (change_obeys reset_closed)
  | send | receive | tap => cases still

theorem operation_edited (operation : Operation) : Obeys Edited operation.step := by
  cases moves : operation.moves with
  | false => exact fun engine => (operation_reshaped moves engine).edited
  | true =>
      cases operation with
      | send endpoint payload flags channel =>
          exact (trySend_obeys edited_admits endpoint payload flags channel).map Answer.count
      | receive endpoint room =>
          exact (tryReceive_obeys edited_admits endpoint room).map Answer.receipt
      | tap endpoint enabled =>
          exact (tap_obeys edited_admits endpoint enabled).map fun _ => Answer.nothing
      | _ => cases moves

theorem run_edited (operations : List Operation) (engine : Engine) :
    Edited engine (engine.run operations) := by
  induction operations generalizing engine with
  | nil => exact .refl
  | cons operation rest ih => exact (operation_edited operation engine).trans (ih _)

theorem Edit.events_suffix {before after : Engine} (edit : before.Edit after) :
    before.events <:+ after.events := by
  cases edit with
  | opens opens =>
      cases opens with
      | told | made => exact List.suffix_cons _ _
      | stopped | searched | missed | attached => exact List.suffix_rfl
  | closes closes =>
      cases closes with
      | destroyed id =>
          cases removed : before.registry.remove id with
          | mk mailbox? registry =>
              cases mailbox? with
              | none => rw [destroy_of_absent id removed]
              | some mailbox =>
                  rw [destroy_of_found id removed]
                  exact List.suffix_cons _ _
      | stopped | woken | unbound | loosened => exact List.suffix_rfl
  | told => exact List.suffix_cons _ _
  | moved => exact List.suffix_rfl

theorem Edited.events_suffix {before after : Engine} (edited : before.Edited after) :
    before.events <:+ after.events := by
  induction edited with
  | refl => exact List.suffix_rfl
  | tail _ edit ih => exact ih.trans edit.events_suffix

theorem Edited.registrations_le {before after : Engine} (edited : before.Edited after) :
    before.registrations ≤ after.registrations :=
  edited.events_suffix.sublist.countP_le

theorem Edit.registrations_le {before after : Engine} (edit : before.Edit after) :
    before.registrations ≤ after.registrations :=
  edit.edited.registrations_le

theorem grows_of_edited {α : Type} {step : Step α} (edited : Obeys Edited step) : step.Grows :=
  fun engine => (edited engine).registrations_le

theorem closeEach_grows (pid : Pid) (handles : List Handle) (engine : Engine) :
    engine.registrations ≤ (closeEach pid engine handles).registrations :=
  (closeEach_obeys pid (closed_admits pid) handles engine).edited.registrations_le

theorem openStream_grows (pid : Pid) (raw : String) (opened : List Handle) :
    (openStream pid raw opened).Grows :=
  grows_of_edited fun engine => ((openStream_reshapes pid raw opened).reshaped engine).edited

theorem operation_grows (operation : Operation) : operation.step.Grows :=
  grows_of_edited (operation_edited operation)

theorem run_grows (operations : List Operation) (engine : Engine) :
    engine.registrations ≤ (engine.run operations).registrations :=
  (run_edited operations engine).registrations_le

end Engine

end Mailroom
