import Mailroom.Proofs.Engine.Demands

/-!
What a demand comes to. It is turned down for the first objection that there is to it, and then
nothing has changed but the log; or the task gets one handle more, on a mailbox that was there or
has just been made, and nothing else has changed.
-/

namespace Mailroom

def Engine.named? (engine : Engine) (name : Name) : Option Mailbox :=
  (engine.registry.resolve? name).bind engine.registry.get?

namespace Demand

def mode? (demand : Demand) : Option Mode := (Mode.ofWord demand.word).toOption

def name? (demand : Demand) (pid : Pid) : Option Name := (Name.parse demand.raw pid).toOption

/-- What may be said against a demand, each for itself, in the order in which it counts. -/
def objections (demand : Demand) (engine : Engine) (pid : Pid) : List (Option Fault) :=
  [if demand.mode? = none then some (.invalidMode demand.word.toUInt32) else none,
  match Name.parse demand.raw pid with
    | .error fault => some (.invalidName fault.message)
    | .ok _ => none,
  do
    let capacity ← demand.capacity?
    if capacity = 0 ∨ engine.limits.maxCapacity < capacity then
      some (.invalidCapacity capacity.toUInt32)
    else none,
  if engine.handles.limit ≤ engine.handles.count pid then some (.handleQuota pid) else none,
  do
    let capacity ← demand.capacity?
    let mode ← demand.mode?
    let name ← demand.name? pid
    let mailbox ← engine.named? name
    if mailbox.capacity = capacity ∧ mailbox.policy = mode.policy then none
    else some (.alreadyBound name.canonical),
  do
    let name ← demand.name? pid
    if demand.capacity? = none ∧ engine.registry.resolve? name = none ∧ name.isWellKnown = false
    then some (.unknownMailbox name.canonical)
    else none,
  do
    let name ← demand.name? pid
    if engine.registry.resolve? name = none ∧ engine.registry.limit ≤ engine.registry.size then
      some .descriptorsExhausted
    else none]

def refusal? (demand : Demand) (engine : Engine) (pid : Pid) : Option Fault :=
  (demand.objections engine pid).findSome? id

def made (demand : Demand) (engine : Engine) (pid : Pid) (mode : Mode) (name : Name) : Mailbox :=
  .empty ⟨engine.registry.nextId⟩ name
    (demand.capacity?.getD engine.limits.defaultCapacity) mode.policy pid name.isWellKnown

end Demand

namespace Engine

def Notes (before after : Engine) : Prop :=
  ∃ news, after = { before with events := news ++ before.events }

structure Gains (before after : Engine) (pid : Pid) (handle : Handle) (mode : Mode) (name : Name)
    (mailbox : Mailbox) : Prop where
  valid : handle ≠ 0
  free : before.handles.binding? ⟨pid, handle⟩ = none
  bindings_eq : after.handles.binding? =
    Function.update before.handles.binding? ⟨pid, handle⟩ (some ⟨mailbox.id, mode⟩)
  others_eq : ∀ other, other ≠ pid → after.handles.handlesOf other = before.handles.handlesOf other
  vacant : mailbox.subscribers[(⟨pid, handle⟩ : Endpoint)]? = none
  attached : after.registry.get? mailbox.id = some
    { mailbox with
      references := mailbox.references + 1
      subscribers :=
        if mailbox.seats mode then
          mailbox.subscribers.insert ⟨pid, handle⟩ (mailbox.freshSeat mode)
        else mailbox.subscribers }
  elsewhere : ∀ id, id ≠ mailbox.id → after.registry.get? id = before.registry.get? id
  resolves : after.registry.resolve? name = some mailbox.id
  names_kept : ∀ other, other ≠ name →
    after.registry.resolve? other = before.registry.resolve? other
  limits_eq : after.registry.limit = before.registry.limit ∧
    after.handles.limit = before.handles.limit
  rest_eq : ∃ news, after =
    { before with
      registry := after.registry
      handles := after.handles
      events := news ++ before.events }

def Offers (engine : Engine) (demand : Demand) (pid : Pid) (mode : Mode) (name : Name)
    (mailbox : Mailbox) : Prop :=
  (engine.registry.resolve? name = some mailbox.id ∧
    engine.registry.get? mailbox.id = some mailbox) ∨
  (engine.registry.resolve? name = none ∧ engine.registry.get? mailbox.id = none ∧
    mailbox = demand.made engine pid mode name)

structure Finds (before after : Engine) (demand : Demand) (pid : Pid) (mode : Mode) (name : Name)
    (mailbox : Mailbox) : Prop where
  offers : before.Offers demand pid mode name mailbox
  found : after.registry.get? mailbox.id = some mailbox
  elsewhere : ∀ id, id ≠ mailbox.id → after.registry.get? id = before.registry.get? id
  resolves : after.registry.resolve? name = some mailbox.id
  names_kept : ∀ other, other ≠ name →
    after.registry.resolve? other = before.registry.resolve? other
  limit_eq : after.registry.limit = before.registry.limit
  rest_eq : ∃ news, after =
    { before with registry := after.registry, events := news ++ before.events }

end Engine

namespace Demand

def find (demand : Demand) (pid : Pid) (mode : Mode) (name : Name) : Step MailboxId :=
  match demand.capacity? with
  | none => Engine.findToOpen pid name mode
  | some capacity => Engine.findToBind pid name capacity mode

def readCapacity (demand : Demand) : Step Unit :=
  match demand.capacity? with
  | none => Pure.pure ()
  | some capacity => Engine.readCapacity capacity

def ask (demand : Demand) (pid : Pid) : Step Handle := do
  let mode ← Engine.readMode demand.word
  let name ← Engine.readName demand.raw pid
  demand.readCapacity
  Engine.needHandle pid
  let id ← demand.find pid mode name
  Engine.attach pid id mode

theorem step_eq (demand : Demand) (pid : Pid) :
    (demand.operation pid).step =
      Step.guarded (demand.ask pid) >>= fun handle => Pure.pure (.handle handle) := by
  obtain ⟨raw, word, capacity?⟩ := demand
  cases capacity? <;> rfl

end Demand

namespace Engine

open Step

variable {engine middle after : Engine} {demand : Demand} {pid : Pid} {mode : Mode} {name : Name}

theorem Notes.refl (engine : Engine) : engine.Notes engine := ⟨[], rfl⟩

theorem notes_emit (engine : Engine) (event : Event) : engine.Notes (engine.emit event) :=
  ⟨[event], rfl⟩

theorem existing_finds {mailbox : Mailbox} (resolves : engine.registry.resolve? name =
    some mailbox.id) (found : engine.registry.get? mailbox.id = some mailbox) :
    engine.Finds engine demand pid mode name mailbox :=
  ⟨Or.inl ⟨resolves, found⟩, found, fun _ _ => rfl, resolves, fun _ _ => rfl, rfl, [], rfl⟩

theorem made_finds (unnamed : engine.registry.resolve? name = none)
    (unused : engine.registry.get? ⟨engine.registry.nextId⟩ = none) :
    let mailbox := demand.made engine pid mode name
    engine.Finds
      ({ engine with registry := engine.registry.added mailbox }.emit
        (.created mailbox.id name.canonical mailbox.capacity mode.policy pid))
      demand pid mode name mailbox := by
  intro mailbox
  refine ⟨Or.inr ⟨unnamed, unused, rfl⟩, ?_, ?_, ?_, ?_, rfl, [_], rfl⟩
  · exact (Registry.added_get _ _ _).trans (if_pos rfl)
  · intro id apart
    exact (Registry.added_get _ _ _).trans (if_neg apart.symm)
  · exact (Registry.added_resolve _ _ _).trans (if_pos rfl)
  · intro other apart
    exact (Registry.added_resolve _ _ _).trans (if_neg apart.symm)

theorem mode_of_ok (asked : Mode.ofWord demand.word = .ok mode) : demand.mode? = some mode := by
  rw [Demand.mode?, asked, Except.toOption]

theorem name_of_ok (named : Name.parse demand.raw pid = .ok name) :
    demand.name? pid = some name := by
  rw [Demand.name?, named, Except.toOption]

def Settles (before : Engine) (demand : Demand) (pid : Pid) (mode : Mode) (name : Name)
    (outcome : Except Fault MailboxId) (after : Engine) : Prop :=
  (∃ fault, outcome = .error fault ∧ fault.isInternal = false ∧
    demand.refusal? before pid = some fault ∧ before.Notes after) ∨
  (demand.refusal? before pid = none ∧ ∃ mailbox, outcome = .ok mailbox.id ∧
    before.Finds after demand pid mode name mailbox)

section Found

variable (asked : Mode.ofWord demand.word = .ok mode) (named : Name.parse demand.raw pid = .ok name)
  (sized : ∀ capacity, demand.capacity? = some capacity →
    ¬ (capacity = 0 ∨ engine.limits.maxCapacity < capacity))
  (room : engine.handles.count pid < engine.handles.limit)

include asked named sized room

theorem refusal_within : demand.refusal? engine pid = List.findSome? id
    [do
      let capacity ← demand.capacity?
      let mailbox ← engine.named? name
      if mailbox.capacity = capacity ∧ mailbox.policy = mode.policy then none
      else some (.alreadyBound name.canonical),
    if demand.capacity? = none ∧ engine.registry.resolve? name = none ∧ name.isWellKnown = false
    then some (.unknownMailbox name.canonical)
    else none,
    if engine.registry.resolve? name = none ∧ engine.registry.limit ≤ engine.registry.size then
      some .descriptorsExhausted
    else none] := by
  have mode? := mode_of_ok asked
  have name? := name_of_ok named
  cases wanted : demand.capacity? with
  | none => simp [Demand.refusal?, Demand.objections, mode?, name?, named, wanted, room]
  | some capacity =>
      simp [Demand.refusal?, Demand.objections, mode?, name?, named, wanted, room, sized _ wanted]

theorem create_settles (sound : engine.scene.Sound)
    (unnamed : engine.registry.resolve? name = none)
    (makes : demand.capacity? = none → name.isWellKnown = true)
    {outcome : Except Fault MailboxId}
    (created : create pid name (demand.capacity?.getD engine.limits.defaultCapacity) mode.policy
      name.isWellKnown engine = (outcome, middle))
    (few : middle.registrations ≤ Registry.mostNumbers) :
    engine.Settles demand pid mode name outcome middle := by
  have refusal := refusal_within asked named sized room
  by_cases below : engine.registry.size < engine.registry.limit
  · rw [create_room below unnamed] at created
    cases created
    rw [emit_created] at few
    refine Or.inr ⟨?_, demand.made engine pid mode name, rfl,
      made_finds unnamed (sound.numbered.unused few)⟩
    cases wanted : demand.capacity? with
    | none => simp [refusal, wanted, unnamed, below, makes wanted]
    | some capacity => simp [refusal, wanted, unnamed, below, named?]
  · have full := Nat.le_of_not_lt below
    rw [create_full full] at created
    cases created
    refine Or.inl ⟨.descriptorsExhausted, rfl, rfl, ?_, notes_emit _ _⟩
    cases wanted : demand.capacity? with
    | none => simp [refusal, wanted, unnamed, full, makes wanted]
    | some capacity => simp [refusal, wanted, unnamed, full, named?]

theorem find_settles (sound : engine.scene.Sound) {outcome : Except Fault MailboxId}
    (ran : demand.find pid mode name engine = (outcome, middle))
    (few : middle.registrations ≤ Registry.mostNumbers) :
    engine.Settles demand pid mode name outcome middle := by
  have refusal := refusal_within asked named sized room
  cases wanted : demand.capacity? with
  | none =>
      simp only [Demand.find, wanted, findToOpen] at ran
      cases resolves : engine.registry.resolve? name with
      | some id =>
          obtain ⟨mailbox, found, _⟩ := sound.supports.resolved name id resolves
          obtain rfl := sound.supports.id_eq found
          simp only [resolves] at ran
          cases ran
          refine Or.inr ⟨?_, mailbox, rfl, existing_finds resolves found⟩
          simp [refusal, wanted, resolves]
      | none =>
          simp only [resolves] at ran
          split at ran
          · rename_i known
            refine create_settles asked named sized room sound resolves (fun _ => known) ?_ few
            rwa [wanted, known]
          · rename_i unknown
            cases ran
            refine Or.inl ⟨.unknownMailbox name.canonical, rfl, rfl, ?_, .refl _⟩
            simp [refusal, wanted, resolves, unknown]
  | some capacity =>
      have look : Step.inspect (fun engine => .ok (engine.registry.resolve? name)) engine =
          (.ok (engine.registry.resolve? name), engine) := rfl
      simp only [Demand.find, wanted, findToBind] at ran
      rw [bind_ok look] at ran
      cases resolves : engine.registry.resolve? name with
      | some id =>
          obtain ⟨mailbox, found, _⟩ := sound.supports.resolved name id resolves
          have found : engine.registry.get? id = some mailbox := found
          obtain rfl := sound.supports.id_eq found
          simp only [resolves] at ran
          rw [bind_ok (mailboxOf_found found)] at ran
          split at ran
          · rename_i same
            cases ran
            refine Or.inr ⟨?_, mailbox, rfl, existing_finds resolves found⟩
            simp [refusal, wanted, resolves, named?, found, same]
          · rename_i other
            cases ran
            refine Or.inl ⟨.alreadyBound name.canonical, rfl, rfl, ?_, .refl _⟩
            simp [refusal, wanted, resolves, named?, found, if_neg other]
      | none =>
          simp only [resolves] at ran
          refine create_settles asked named sized room sound resolves ?_ ?_ few
          · intro unset
            cases wanted.symm.trans unset
          · rwa [wanted]

end Found

theorem attach_inserts {id : MailboxId} {mailbox : Mailbox} {handle : Handle}
    (found : engine.registry.get? id = some mailbox)
    (ran : attach pid id mode engine = (.ok handle, after)) :
    engine.handles.insert pid ⟨id, mode⟩ = (.ok handle, after.handles) := by
  rw [attach_eq] at ran
  cases inserted : engine.handles.insert pid ⟨id, mode⟩ with
  | mk outcome handles =>
      have begun : giveHandle pid ⟨id, mode⟩ engine = (outcome, { engine with handles }) := by
        simp only [giveHandle, inserted]
      have there : Registry.get? { engine with handles }.registry id = some mailbox := found
      cases outcome with
      | error fault =>
          rw [bind_error begun] at ran
          cases ran
      | ok number =>
          rw [bind_ok begun, bind_ok (onMailbox_found
            (fun mailbox => (.ok (), mailbox.attach ⟨pid, number⟩ mode)) there rfl)] at ran
          cases ran
          rfl

theorem Offers.vacant (sound : engine.scene.Sound) {mailbox : Mailbox} {handle : Handle}
    (offers : engine.Offers demand pid mode name mailbox)
    (free : engine.handles.binding? ⟨pid, handle⟩ = none) :
    mailbox.subscribers[(⟨pid, handle⟩ : Endpoint)]? = none := by
  rcases offers with ⟨_, found⟩ | ⟨_, _, rfl⟩
  · have seated := (sound.supports.serves mailbox.id mailbox found).seated ⟨pid, handle⟩
    have free : engine.scene.bound ⟨pid, handle⟩ = none := free
    rw [free] at seated
    exact Option.map_eq_none_iff.mp seated
  · exact Table.empty_at _

theorem Finds.gains (sound : engine.scene.Sound) {mailbox : Mailbox}
    (finds : engine.Finds middle demand pid mode name mailbox)
    (room : engine.handles.hasRoom pid = true) :
    ∃ handle last, attach pid mailbox.id mode middle = (.ok handle, last) ∧
      engine.Gains last pid handle mode name mailbox := by
  obtain ⟨news, rest⟩ := finds.rest_eq
  have same : middle.handles = engine.handles := by rw [rest]
  have table : middle.handles.Sound := same ▸ sound.handles
  obtain ⟨handle, handles, attached, free, binding_eq, _⟩ :=
    attach_ends table (same ▸ room) finds.found mode
  obtain ⟨valid, limit_eq, others_eq⟩ :=
    HandleTable.insert_valid (attach_inserts finds.found attached)
  have here : (mailbox.attach ⟨pid, handle⟩ mode).id = mailbox.id := by rw [Mailbox.attach_eq]
  rw [same] at free binding_eq others_eq limit_eq
  refine ⟨handle, _, attached, valid, free, binding_eq, others_eq,
    finds.offers.vacant sound free, ?_, ?_, finds.resolves, finds.names_kept,
    ⟨finds.limit_eq, limit_eq⟩, news, ?_⟩
  · rw [← Mailbox.attach_eq]
    exact middle.registry.update_here here
  · intro id apart
    exact (middle.registry.update_elsewhere here apart).trans (finds.elsewhere id apart)
  · rw [rest]

theorem readCapacity_sized (sized : ∀ capacity, demand.capacity? = some capacity →
    ¬ (capacity = 0 ∨ engine.limits.maxCapacity < capacity)) :
    demand.readCapacity engine = (.ok (), engine) := by
  cases wanted : demand.capacity? with
  | none =>
      simp only [Demand.readCapacity, wanted]
      rfl
  | some capacity =>
      simp only [Demand.readCapacity, wanted, readCapacity, Step.inspect, gt_iff_lt,
        sized capacity wanted, if_false]

theorem ask_cases (demand : Demand) (pid : Pid) (engine : Engine) :
    (∃ fault last, demand.ask pid engine = (.error fault, last) ∧ fault.isInternal = false ∧
      demand.refusal? engine pid = some fault ∧ engine.Notes last) ∨
    ∃ mode name, Mode.ofWord demand.word = .ok mode ∧ Name.parse demand.raw pid = .ok name ∧
      (∀ capacity, demand.capacity? = some capacity →
        ¬ (capacity = 0 ∨ engine.limits.maxCapacity < capacity)) ∧
      engine.handles.hasRoom pid = true ∧
      demand.ask pid engine =
        (demand.find pid mode name >>= fun id => attach pid id mode) engine := by
  cases asked : Mode.ofWord demand.word with
  | error fault =>
      have rejected : demand.mode? = none := by rw [Demand.mode?, asked, Except.toOption]
      obtain rfl : fault = .invalidMode demand.word.toUInt32 := by
        unfold Mode.ofWord at asked
        split at asked <;> cases asked
        rfl
      have read : readMode demand.word engine = (.error _, engine) := Prod.ext asked rfl
      exact Or.inl ⟨_, engine, bind_error read, rfl,
        by simp [Demand.refusal?, Demand.objections, rejected], .refl _⟩
  | ok mode =>
  have accepted := mode_of_ok asked
  have readsMode : readMode demand.word engine = (.ok mode, engine) := Prod.ext asked rfl
  cases named : Name.parse demand.raw pid with
  | error fault =>
      have read : readName demand.raw pid engine = (.error fault.fault, engine) :=
        Prod.ext (by simp only [readName, Step.inspect, named, Except.mapError]) rfl
      exact Or.inl ⟨_, engine, (bind_ok readsMode).trans (bind_error read), rfl,
        by simp [Demand.refusal?, Demand.objections, accepted, named, NameFault.fault], .refl _⟩
  | ok name =>
  have readsName : readName demand.raw pid engine = (.ok name, engine) :=
    Prod.ext (by simp only [readName, Step.inspect, named, Except.mapError]) rfl
  by_cases outsize : ∃ capacity, demand.capacity? = some capacity ∧
      (capacity = 0 ∨ engine.limits.maxCapacity < capacity)
  · obtain ⟨capacity, wanted, bad⟩ := outsize
    have sizes : demand.readCapacity engine =
        (.error (.invalidCapacity capacity.toUInt32), engine) := by
      simp only [Demand.readCapacity, wanted, readCapacity, Step.inspect, gt_iff_lt, bad, if_true]
    exact Or.inl ⟨_, engine,
      (bind_ok readsMode).trans ((bind_ok readsName).trans (bind_error sizes)), rfl,
      by simp [Demand.refusal?, Demand.objections, accepted, named, wanted, bad], .refl _⟩
  have sized : ∀ capacity, demand.capacity? = some capacity →
      ¬ (capacity = 0 ∨ engine.limits.maxCapacity < capacity) :=
    fun capacity wanted bad => outsize ⟨capacity, wanted, bad⟩
  have sizes := readCapacity_sized sized
  cases room : engine.handles.hasRoom pid with
  | true =>
      have needs : needHandle pid engine = (.ok (), engine) := by
        simp only [needHandle, room, if_true]
      exact Or.inr ⟨mode, name, rfl, rfl, sized, rfl, (bind_ok readsMode).trans
        ((bind_ok readsName).trans ((bind_ok sizes).trans (bind_ok needs)))⟩
  | false =>
      have needs : needHandle pid engine =
          (.error (.handleQuota pid), engine.emit (.exhausted pid .handleLimit)) := by
        simp only [needHandle, room, Bool.false_eq_true, if_false]
      have full : engine.handles.limit ≤ engine.handles.count pid := by
        simpa [HandleTable.hasRoom] using room
      refine Or.inl ⟨_, _, (bind_ok readsMode).trans ((bind_ok readsName).trans
        ((bind_ok sizes).trans (bind_error needs))), rfl, ?_, notes_emit _ _⟩
      cases wanted : demand.capacity? with
      | none => simp [Demand.refusal?, Demand.objections, accepted, named, wanted, full]
      | some capacity =>
          simp [Demand.refusal?, Demand.objections, accepted, named, wanted, full, sized _ wanted]

def Grants (before : Engine) (demand : Demand) (pid : Pid) (handle : Handle) (after : Engine) :
    Prop :=
  ∃ mode name mailbox, demand.mode? = some mode ∧ demand.name? pid = some name ∧
    before.Offers demand pid mode name mailbox ∧ before.Gains after pid handle mode name mailbox

theorem ask_decides (sound : engine.scene.Sound) {outcome : Except Fault Handle}
    (ran : demand.ask pid engine = (outcome, after))
    (few : after.registrations ≤ Registry.mostNumbers) :
    (∃ fault, outcome = .error fault ∧ fault.isInternal = false ∧
      demand.refusal? engine pid = some fault ∧ engine.Notes after) ∨
    (demand.refusal? engine pid = none ∧ ∃ handle, outcome = .ok handle ∧
      engine.Grants demand pid handle after) := by
  rcases ask_cases demand pid engine with
    ⟨fault, last, failed, mild, said, notes⟩ | ⟨mode, name, asked, named, sized, room, rest⟩
  · rw [failed] at ran
    cases ran
    exact Or.inl ⟨fault, rfl, mild, said, notes⟩
  rw [rest] at ran
  have below : engine.handles.count pid < engine.handles.limit := of_decide_eq_true room
  rcases bind_cases ran with ⟨id, middle, found, attaches⟩ | ⟨fault, failed, rfl⟩
  · have opened := attach_obeys pid (opened_admits pid) id mode middle
    rw [attaches] at opened
    have sooner := Nat.le_trans opened.edited.registrations_le few
    rcases find_settles asked named sized below sound found sooner with
      ⟨_, impossible, _⟩ | ⟨met, mailbox, same, finds⟩
    · cases impossible
    · cases same
      obtain ⟨handle, last, attached, gains⟩ := finds.gains sound room
      rw [attached] at attaches
      cases attaches
      exact Or.inr ⟨met, handle, rfl, mode, name, mailbox, mode_of_ok asked, name_of_ok named,
        finds.offers, gains⟩
  · rcases find_settles asked named sized below sound failed few with
      ⟨other, same, facts⟩ | ⟨_, mailbox, impossible, _⟩
    · cases same
      exact Or.inl ⟨fault, rfl, facts⟩
    · cases impossible

theorem guarded_registrations {α : Type} {step : Step α} (running : engine.halted = none) :
    (Step.guarded step engine).2.registrations = (step engine).2.registrations := by
  rcases ran : step engine with ⟨fault | answer, last⟩
  · simp only [Step.guarded, running, ran]
    split <;> rfl
  · simp only [Step.guarded, running, ran]

theorem guarded_decides (sound : engine.scene.Sound) (running : engine.halted = none)
    {outcome : Except Fault Handle}
    (ran : Step.guarded (demand.ask pid) engine = (outcome, after))
    (few : after.registrations ≤ Registry.mostNumbers) :
    (∃ fault, outcome = .error fault ∧ demand.refusal? engine pid = some fault ∧
      engine.Notes after) ∨
    (demand.refusal? engine pid = none ∧ ∃ handle, outcome = .ok handle ∧
      engine.Grants demand pid handle after) := by
  rcases asked : demand.ask pid engine with ⟨result, last⟩
  have same := @guarded_registrations engine _ (demand.ask pid) running
  rw [ran, asked] at same
  rcases ask_decides sound asked (same ▸ few) with
    ⟨fault, rfl, mild, said, notes⟩ | ⟨met, handle, rfl, grants⟩
  · cases (guarded_running running asked (mild_error mild)).symm.trans ran
    exact Or.inl ⟨fault, rfl, said, notes⟩
  · cases (guarded_running running asked (mild_ok handle)).symm.trans ran
    exact Or.inr ⟨met, handle, rfl, grants⟩

/-- What a demand comes to. An engine that was halted refuses it. Otherwise the first objection to
it decides, and without one it is met. -/
def Decides (before : Engine) (demand : Demand) (pid : Pid) (outcome : Except Fault Answer)
    (after : Engine) : Prop :=
  match before.halted, demand.refusal? before pid with
  | some reason, _ => outcome = .error (.internal ("engine halted: " ++ reason)) ∧ after = before
  | none, some fault => outcome = .error fault ∧ before.Notes after
  | none, none => ∃ handle, outcome = .ok (.handle handle) ∧ before.Grants demand pid handle after

/-- The insertions that `few` bounds are all of the engine's, that of the demand itself included: a
demand that is met with a new mailbox is the last of at most 2^32 - 1. -/
theorem demand_decided (limits : Limits) (operations : List Operation)
    {outcome : Except Fault Answer}
    (ran : (demand.operation pid).step ((start limits).run operations) = (outcome, after))
    (few : after.registrations ≤ Registry.mostNumbers) :
    ((start limits).run operations).Decides demand pid outcome after := by
  have grown := operation_grows (demand.operation pid) ((start limits).run operations)
  rw [ran] at grown
  have sound := run_sound operations (start_sound limits) (Nat.le_trans grown few)
  generalize (start limits).run operations = engine at ran sound
  rw [Demand.step_eq] at ran
  cases halted : engine.halted with
  | some reason =>
      rw [bind_error (guarded_halted halted)] at ran
      cases ran
      simp [Decides, halted]
  | none =>
      rcases bind_cases ran with ⟨handle, last, asked, ended⟩ | ⟨fault, asked, rfl⟩
      · cases ended
        rcases guarded_decides sound halted asked few with ⟨_, failed, _⟩ | ⟨met, _, same, grants⟩
        · cases failed
        · cases same
          simp only [Decides, halted, met]
          exact ⟨handle, rfl, grants⟩
      · rcases guarded_decides sound halted asked few with ⟨_, same, said, notes⟩ | ⟨_, _, given, _⟩
        · cases same
          simp [Decides, halted, said, notes]
        · cases given

/-- A task that holds all the handles it may, in a full registry: both are said against its demand,
and the quota counts first. -/
theorem quota_before_pool :
    let tight := (start { maxDescriptors := 1, handlesPerTask := 1 }).run
      [.bindName 1 "shared:feed" 32 3]
    let demand : Demand := { raw := "app:box", word := 3, capacity? := some 16 }
    demand.objections tight 1 =
        [none, none, none, some (.handleQuota 1), none, none, some .descriptorsExhausted] ∧
      tight.Decides demand 1 (.error (.handleQuota 1)) ((demand.operation 1).step tight).2 := by
  intro tight demand
  have refused : ((demand.operation 1).step tight).1 = .error (.handleQuota 1) := by
    decide +kernel
  exact ⟨by decide +kernel, demand_decided { maxDescriptors := 1, handlesPerTask := 1 }
    [.bindName 1 "shared:feed" 32 3] (Prod.ext refused rfl) (by decide +kernel)⟩

end Engine

end Mailroom
