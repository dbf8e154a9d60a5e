import Mailroom.Proofs.Engine.Passage

/-!
Opening, binding and closing are passages and never end in a fatal fault: the mailbox behind a
name or a binding is there, a task that may have another handle gets one, and a handle that is
closed was counted.
-/

namespace Mailroom

theorem Mailbox.attach_steady {mailbox : Mailbox} {endpoint : Endpoint}
    (vacant : mailbox.tapped? endpoint = none) (mode : Mode) :
    mailbox.Steady [] (mailbox.attach endpoint mode) := by
  have kept : ∀ (other : Endpoint) (subscription : Subscription),
      mailbox.subscribers[other]? = some subscription →
        (mailbox.attach endpoint mode).subscribers[other]? = some subscription := by
    intro other subscription present
    rw [attach_at, if_neg, present]
    rintro ⟨_, same⟩
    rw [← same] at present
    simp [tapped?, present] at vacant
  have queue : (mailbox.attach endpoint mode).queue = mailbox.queue := by
    rw [attach_eq]
  refine ⟨?_, ?_, Or.inr ?_, Or.inr ⟨?_, ?_⟩⟩
  · rw [attach_eq]
    exact ⟨rfl, rfl, rfl⟩
  · rw [queue]
    exact Nat.le_add_right _ _
  · intro other subscription present empty
    exact ⟨subscription, kept _ _ present, empty⟩
  · rw [queue]
  · intro other subscription present
    exact ⟨subscription, kept _ _ present, fun reader => ⟨reader, Nat.le_refl _⟩⟩

namespace Engine

open Scene

theorem readMode_mild (word : UInt16) : Mild (Mode.ofWord word) := by
  unfold Mode.ofWord
  split
  · exact mild_ok _
  · exact mild_error rfl

theorem readName_mild (raw : String) (caller : Pid) :
    Mild ((Name.parse raw caller).mapError NameFault.fault) := by
  cases Name.parse raw caller with
  | error fault => exact mild_error rfl
  | ok name => exact mild_ok name

theorem scene_passes_emit {engine : Engine} (sound : engine.scene.Sound) {event : Event}
    (other : event.isCreated = false) : engine.scene.Passes (engine.emit event).scene :=
  sound.passes_quiet sound.handles [] [event] (by simpa using other)

theorem needHandle_cases {engine : Engine} (sound : engine.scene.Sound) (pid : Pid) :
    (engine.handles.hasRoom pid = true ∧ needHandle pid engine = (.ok (), engine)) ∨
    ∃ after, needHandle pid engine = (.error (.handleQuota pid), after) ∧
      engine.scene.Passes after.scene := by
  cases room : engine.handles.hasRoom pid with
  | true => exact Or.inl ⟨rfl, by simp only [needHandle, room, if_true]⟩
  | false =>
      right
      refine ⟨engine.emit (.exhausted pid .handleLimit), ?_, scene_passes_emit sound rfl⟩
      simp only [needHandle, room, Bool.false_eq_true, if_false]

def Leads (engine : Engine) (outcome : Except Fault MailboxId) (after : Engine) : Prop :=
  (∃ id mailbox, outcome = .ok id ∧ after.registry.get? id = some mailbox ∧
    after.handles = engine.handles ∧ after.halted = engine.halted ∧
    (after.registrations ≤ Registry.mostNumbers →
      ∃ fresh, (fresh = none ∨ fresh = some id) ∧
        engine.scene.Passes (after.expecting fresh))) ∨
  ∃ fault, outcome = .error fault ∧ fault.isInternal = false ∧ engine.scene.Passes after.scene

theorem create_cases {engine after : Engine} (sound : engine.scene.Sound) {creator : Pid}
    {name : Name} {capacity : UInt16} {policy : Policy} {persistent : Bool}
    {outcome : Except Fault MailboxId}
    (created : create creator name capacity policy persistent engine = (outcome, after))
    (unnamed : engine.registry.resolve? name = none) :
    (∃ id mailbox, outcome = .ok id ∧ after.registry.get? id = some mailbox ∧
      after.handles = engine.handles ∧ after.halted = engine.halted ∧
      (after.registrations ≤ Registry.mostNumbers →
        ∀ fresh, persistent = true ∨ fresh = some id →
          engine.scene.Passes (after.expecting fresh))) ∨
    outcome = .error .descriptorsExhausted ∧ engine.scene.Passes after.scene := by
  by_cases room : engine.registry.size < engine.registry.limit
  · rw [create_room room unnamed] at created
    cases created
    left
    refine ⟨⟨engine.registry.nextId⟩,
      Mailbox.empty ⟨engine.registry.nextId⟩ name capacity policy creator persistent, rfl, ?_, rfl,
      rfl, ?_⟩
    · exact (Registry.added_get _ _ _).trans (if_pos rfl)
    · intro few fresh spared
      rw [emit_created] at few
      exact sound.passes_create rfl few unnamed spared name.canonical
  · rw [create_full (Nat.le_of_not_lt room)] at created
    cases created
    exact Or.inr ⟨rfl, scene_passes_emit sound rfl⟩

theorem leads_existing {engine : Engine} (sound : engine.scene.Sound) {id : MailboxId}
    {mailbox : Mailbox} (found : engine.registry.get? id = some mailbox) :
    engine.Leads (.ok id) engine :=
  Or.inl ⟨id, mailbox, rfl, found, rfl, rfl, fun _ => ⟨none, Or.inl rfl, Passes.refl sound⟩⟩

theorem create_leads {engine after : Engine} (sound : engine.scene.Sound) {creator : Pid}
    {name : Name} {capacity : UInt16} {policy : Policy} {persistent : Bool}
    {outcome : Except Fault MailboxId}
    (created : create creator name capacity policy persistent engine = (outcome, after))
    (unnamed : engine.registry.resolve? name = none) : engine.Leads outcome after := by
  rcases create_cases sound created unnamed with
    ⟨id, mailbox, ended, found, handles, halted, passes⟩ | ⟨ended, passes⟩
  · exact Or.inl ⟨id, mailbox, ended, found, handles, halted,
      fun few => ⟨some id, Or.inr rfl, passes few (some id) (Or.inr rfl)⟩⟩
  · exact Or.inr ⟨.descriptorsExhausted, ended, rfl, passes⟩

theorem findToOpen_leads {engine after : Engine} (sound : engine.scene.Sound) {pid : Pid}
    {name : Name} {mode : Mode} {outcome : Except Fault MailboxId}
    (ran : findToOpen pid name mode engine = (outcome, after)) : engine.Leads outcome after := by
  cases resolves : engine.registry.resolve? name with
  | some id =>
      simp only [findToOpen, resolves, Prod.mk.injEq] at ran
      obtain ⟨rfl, rfl⟩ := ran
      obtain ⟨mailbox, found, _⟩ := sound.supports.resolved name id resolves
      exact leads_existing sound found
  | none =>
      simp only [findToOpen, resolves] at ran
      split at ran
      · exact create_leads sound ran resolves
      · obtain ⟨rfl, rfl⟩ := Prod.mk.inj ran
        exact Or.inr ⟨.unknownMailbox name.canonical, rfl, rfl, Passes.refl sound⟩

theorem findToBind_leads {engine after : Engine} (sound : engine.scene.Sound) {pid : Pid}
    {name : Name} {capacity : UInt16} {mode : Mode} {outcome : Except Fault MailboxId}
    (ran : findToBind pid name capacity mode engine = (outcome, after)) :
    engine.Leads outcome after := by
  have look : Step.inspect (fun engine => .ok (engine.registry.resolve? name)) engine =
      (.ok (engine.registry.resolve? name), engine) := rfl
  rw [findToBind, Step.bind_ok look] at ran
  cases resolves : engine.registry.resolve? name with
  | some id =>
      obtain ⟨mailbox, found, _⟩ := sound.supports.resolved name id resolves
      have found : engine.registry.get? id = some mailbox := found
      simp only [resolves] at ran
      rw [Step.bind_ok (mailboxOf_found found)] at ran
      split at ran
      · obtain ⟨rfl, rfl⟩ := Prod.mk.inj ran
        exact leads_existing sound found
      · obtain ⟨rfl, rfl⟩ := Prod.mk.inj ran
        exact Or.inr ⟨.alreadyBound name.canonical, rfl, rfl, Passes.refl sound⟩
  | none =>
      simp only [resolves] at ran
      exact create_leads sound ran resolves

theorem attach_ends {engine : Engine} {id : MailboxId} {mailbox : Mailbox} {pid : Pid}
    (ready : engine.handles.Sound) (room : engine.handles.hasRoom pid = true)
    (found : engine.registry.get? id = some mailbox) (mode : Mode) :
    ∃ handle handles, attach pid id mode engine =
        (.ok handle,
          { engine with
            handles
            registry := engine.registry.update (mailbox.attach ⟨pid, handle⟩ mode) }) ∧
      engine.handles.binding? ⟨pid, handle⟩ = none ∧
      handles.binding? =
        Function.update engine.handles.binding? ⟨pid, handle⟩ (some ⟨id, mode⟩) ∧
      handles.Sound := by
  obtain ⟨handle, handles, inserted, free, binding_eq, table⟩ := ready.insert_ok room ⟨id, mode⟩
  let given : Engine := { engine with handles }
  have begun : giveHandle pid ⟨id, mode⟩ engine = (.ok handle, given) := by
    simp only [giveHandle, inserted, given]
  have there : given.registry.get? id = some mailbox := found
  have attached := onMailbox_found
    (fun mailbox => (.ok (), mailbox.attach ⟨pid, handle⟩ mode)) there rfl
  refine ⟨handle, handles, ?_, free, binding_eq, table⟩
  rw [attach_eq, Step.bind_ok begun, Step.bind_ok attached]
  rfl

theorem attach_passes {engine : Engine} {fresh : Option MailboxId} {id : MailboxId}
    {mailbox : Mailbox} {endpoint : Endpoint} {handles : HandleTable} {mode : Mode}
    (sound : (engine.expecting fresh).Sound) (settled : fresh = none ∨ fresh = some id)
    (found : engine.registry.get? id = some mailbox)
    (free : engine.handles.binding? endpoint = none)
    (binding_eq : handles.binding? =
      Function.update engine.handles.binding? endpoint (some ⟨id, mode⟩))
    (table : handles.Sound) :
    (engine.expecting fresh).Passes
      ({ engine with
        handles
        registry := engine.registry.update (mailbox.attach endpoint mode) } : Engine).scene := by
  have counted : (mailbox.attach endpoint mode).isUnreferenced = false := by
    simp [Mailbox.isUnreferenced, Mailbox.attach_eq]
  have vacant : mailbox.tapped? endpoint = none := by
    rw [(sound.supports.serves id mailbox found).seated endpoint]
    exact congrArg _ free
  have supports : (engine.registry.update (mailbox.attach endpoint mode)).Supports
      handles.binding? := by
    rw [binding_eq]
    exact sound.supports.attach found free mode
  refine sound.passes_update found supports (by rw [Mailbox.attach_eq]) counted settled
    (Mailbox.attach_steady vacant mode) ?_ table no_events
  intro other binding held
  have held : engine.handles.binding? other = some binding := held
  rw [binding_eq, Function.update_apply, if_neg, held]
  intro same
  rw [same, free] at held
  cases held

theorem handle_succeeds {engine : Engine} {find : Step MailboxId} {pid : Pid} {mode : Mode}
    (sound : engine.scene.Sound) (room : engine.handles.hasRoom pid = true)
    (leads : ∀ found middle, find engine = (found, middle) → engine.Leads found middle) :
    Succeeds (find >>= fun id => attach pid id mode) engine := by
  intro outcome after ran
  rcases Step.bind_cases ran with ⟨id, middle, begun, rest⟩ | ⟨fault, begun, rfl⟩
  · rcases leads (.ok id) middle begun with
      ⟨_, mailbox, same, found, handles_eq, halted, passes⟩ | ⟨fault, failed, _⟩
    · cases same
      have ready : middle.handles.Sound := by rw [handles_eq]; exact sound.handles
      have room' : middle.handles.hasRoom pid = true := by rw [handles_eq]; exact room
      obtain ⟨handle, handles, attached, free, binding_eq, table⟩ :=
        attach_ends ready room' found mode
      rw [attached] at rest
      cases rest
      refine ⟨mild_ok handle, halted, ?_⟩
      intro few
      obtain ⟨fresh, settled, first⟩ := passes few
      exact first.trans sound (attach_passes first.sound settled found free binding_eq table)
    · cases failed
  · rcases leads (.error fault) after begun with ⟨_, _, same, _⟩ | ⟨_, same, mild, passes⟩
    · cases same
    · cases same
      exact ends_well (mild_error mild) passes

theorem need_and_attach {engine : Engine} {find : Step MailboxId} {pid : Pid} {mode : Mode}
    (sound : engine.scene.Sound)
    (leads : ∀ found middle, find engine = (found, middle) → engine.Leads found middle) :
    Succeeds (needHandle pid >>= fun _ => find >>= fun id => attach pid id mode) engine := by
  intro outcome after ran
  rcases needHandle_cases sound pid with ⟨room, need⟩ | ⟨noted, need, passes⟩
  · rw [Step.bind_ok need] at ran
    exact handle_succeeds sound room leads outcome after ran
  · rw [Step.bind_error need] at ran
    cases ran
    exact ends_well (mild_error rfl) passes

theorem openName_succeeds {engine : Engine} (sound : engine.scene.Sound)
    (running : engine.halted = none) (pid : Pid) (raw : String) (word : UInt16) :
    Succeeds (openName pid raw word) engine := by
  apply Succeeds.guarded running
  apply Succeeds.look_bind sound (readMode_mild word)
  intro mode _
  apply Succeeds.look_bind sound (readName_mild raw pid)
  intro name _
  exact need_and_attach sound fun _ _ ran => findToOpen_leads sound ran

theorem bindName_succeeds {engine : Engine} (sound : engine.scene.Sound)
    (running : engine.halted = none) (pid : Pid) (raw : String) (capacity word : UInt16) :
    Succeeds (bindName pid raw capacity word) engine := by
  apply Succeeds.guarded running
  apply Succeeds.look_bind sound (readMode_mild word)
  intro mode _
  apply Succeeds.look_bind sound (readName_mild raw pid)
  intro name _
  apply Succeeds.look_bind sound
  · split
    · exact mild_error rfl
    · exact mild_ok ()
  · intro _ _
    exact need_and_attach sound fun _ _ ran => findToBind_leads sound ran

theorem destroy_passes {scene left : Scene} (sound : left.Sound) {id : MailboxId}
    {mailbox : Mailbox} (loose : left.fresh = some id) (found : left.get? id = some mailbox)
    (unreferenced : mailbox.isUnreferenced = true)
    (halted_eq : left.engine.halted = scene.engine.halted)
    (limits_eq : left.engine.limits = scene.engine.limits)
    (count_eq : left.engine.registrations = scene.engine.registrations)
    (wakeups_eq : left.engine.wakeups = scene.engine.wakeups)
    (others : ∀ other, other ≠ id → left.get? other = scene.get? other)
    (kept : ∀ endpoint binding, scene.bound endpoint = some binding → binding.mailbox ≠ id →
      left.bound endpoint = some binding) :
    scene.Passes { engine := left.engine.destroy id, bound := left.bound } := by
  have zero : mailbox.references = 0 := by
    simp only [Mailbox.isUnreferenced, Bool.and_eq_true, decide_eq_true_eq] at unreferenced
    exact unreferenced.1
  have idEq : mailbox.id = id := sound.supports.id_eq found
  have removed : left.engine.registry.remove id =
      (some mailbox, left.engine.registry.removed mailbox) := by
    subst idEq
    exact Registry.remove_eq found
  have wakeups : (left.engine.destroy id).wakeups = rousing id ++ left.engine.wakeups := by
    rw [destroy_of_found id removed]
  obtain ⟨halted, limits, _⟩ := destroy_rest left.engine id
  obtain ⟨last, look⟩ := sound.goes loose found zero
  apply passes_rousing last id
  · exact halted.trans halted_eq
  · exact limits.trans limits_eq
  · exact (destroy_registrations left.engine id).trans count_eq
  · exact wakeups.trans (by rw [wakeups_eq])
  · intro other apart
    exact (look other).trans ((if_neg (Ne.symm apart)).trans (others other apart))
  · intro later there
    have gone := look id
    rw [if_pos rfl] at gone
    cases gone.symm.trans there
  · exact kept

theorem detach_passes {scene : Scene} (sound : scene.Sound) (settled : scene.fresh = none)
    {endpoint : Endpoint} {binding : Binding} (held : scene.bound endpoint = some binding) :
    ∃ after, detach endpoint binding.mailbox scene.engine = (.ok (), after) ∧
      after.handles = scene.engine.handles ∧
      scene.Passes
        { engine := after, bound := Function.update scene.bound endpoint none } := by
  obtain ⟨mailbox, found⟩ := sound.supports.present endpoint binding held
  have serves := sound.supports.serves binding.mailbox mailbox found
  have referenced := serves.references_ne_zero held rfl
  have restId : (mailbox.detached endpoint).id = binding.mailbox := serves.id_eq
  let left : Scene :=
    { engine :=
        { scene.engine with registry := scene.engine.registry.update (mailbox.detached endpoint) }
      bound := Function.update scene.bound endpoint none
      fresh := some binding.mailbox }
  have sameId : (mailbox.detached endpoint).id = mailbox.id := rfl
  have loosened : left.Sound :=
    sound.loosened settled found sameId (sound.supports.detached held found)
  have leftFound : left.get? binding.mailbox = some (mailbox.detached endpoint) :=
    scene.engine.registry.update_here restId
  have first : onMailbox binding.mailbox (fun mailbox => mailbox.detach endpoint) scene.engine =
      (.ok (), left.engine) := onMailbox_found _ found (Mailbox.detach_eq endpoint referenced)
  have kept : ∀ other later, scene.bound other = some later → later.mailbox ≠ binding.mailbox →
      left.bound other = some later := by
    intro other later bind apart
    refine (Function.update_of_ne ?_ _ _).trans bind
    rintro rfl
    rw [held] at bind
    cases bind
    exact apart rfl
  have elsewhere : ∀ other, other ≠ binding.mailbox → left.get? other = scene.get? other :=
    fun _ apart => scene.engine.registry.update_elsewhere restId apart
  -- In between, the mailbox may be held by nothing: the scene `left` says so with `fresh`.
  by_cases last : (mailbox.detached endpoint).isUnreferenced = true
  · refine ⟨left.engine.destroy binding.mailbox, ?_, ?_, ?_⟩
    · rw [detach, Step.bind_ok first, Step.bind_ok (mailboxOf_found leftFound)]
      simp only [Step.change, last, if_true]
    · exact (destroy_rest left.engine binding.mailbox).2.2
    · exact destroy_passes loosened rfl leftFound last rfl rfl rfl rfl elsewhere kept
  · have still : (mailbox.detached endpoint).isUnreferenced = false := by simpa using last
    refine ⟨left.engine.wakeEveryone binding.mailbox, ?_, rfl, ?_⟩
    · rw [detach, Step.bind_ok first, Step.bind_ok (mailboxOf_found leftFound)]
      simp only [Step.change, last, Bool.false_eq_true, if_false]
    · have roused := loosened.kept rfl leftFound still
      refine passes_rousing ⟨roused.supports, roused.tidy, roused.numbered, roused.handles⟩
        binding.mailbox rfl rfl rfl rfl elsewhere ?_ kept
      intro later there
      cases leftFound.symm.trans there
      exact ⟨mailbox, found, rfl, rfl, rfl⟩

theorem close_succeeds {engine : Engine} (sound : engine.scene.Sound)
    (running : engine.halted = none) (endpoint : Endpoint) :
    Succeeds (close endpoint) engine := by
  apply Succeeds.guarded running
  intro outcome after ran
  cases held : engine.handles.binding? endpoint with
  | none =>
      have refused : takeBinding endpoint engine =
          (.error (.invalidHandle endpoint.pid endpoint.handle), engine) := by
        simp only [takeBinding, HandleTable.remove_free held]
      rw [Step.bind_error refused] at ran
      cases ran
      exact ends_well (mild_error rfl) (Passes.refl sound)
  | some binding =>
      have table : engine.handles.Sound := sound.handles
      obtain ⟨handles, removed, binding_eq, left⟩ := table.remove_ok held
      have taken : takeBinding endpoint engine = (.ok binding, { engine with handles }) := by
        simp only [takeBinding, removed]
      let scene : Scene := { engine := { engine with handles }, bound := engine.handles.binding? }
      have quiet : engine.scene.Passes scene :=
        sound.passes_quiet left [] [] no_events
      obtain ⟨last, detached, same, onward⟩ :=
        detach_passes quiet.sound rfl held
      rw [Step.bind_ok taken, detached] at ran
      cases ran
      have here : after.scene =
          { engine := after, bound := Function.update scene.bound endpoint none } := by
        have kept : after.handles = handles := same
        simp only [scene, Engine.scene, Engine.expecting, kept, binding_eq]
      refine ends_well (mild_ok ()) ?_
      rw [here]
      exact quiet.trans sound onward

/-- An engine that has just lost a handle, which its mailbox has dropped. -/
def dropping (engine : Engine) (endpoint : Endpoint) (mailbox : Mailbox) : Engine :=
  { engine with
    handles := (engine.handles.remove endpoint).2
    registry := engine.registry.update (mailbox.detached endpoint) }

theorem close_held {engine : Engine} (sound : engine.scene.Sound) (running : engine.halted = none)
    {endpoint : Endpoint} {binding : Binding} {mailbox : Mailbox}
    (held : engine.handles.binding? endpoint = some binding)
    (found : engine.registry.get? binding.mailbox = some mailbox) :
    close endpoint engine = (.ok (),
      if (mailbox.detached endpoint).isUnreferenced then
        (engine.dropping endpoint mailbox).destroy binding.mailbox
      else (engine.dropping endpoint mailbox).wakeEveryone binding.mailbox) := by
  have serves := sound.supports.serves binding.mailbox mailbox found
  have referenced := serves.references_ne_zero held rfl
  have table : engine.handles.Sound := sound.handles
  obtain ⟨handles, removed, _, _⟩ := table.remove_ok held
  have taken : takeBinding endpoint engine = (.ok binding, { engine with handles }) := by
    simp only [takeBinding, removed]
  have there : Registry.get? { engine with handles }.registry binding.mailbox = some mailbox :=
    found
  have dropped := onMailbox_found (fun mailbox => mailbox.detach endpoint) there
    (Mailbox.detach_eq endpoint referenced)
  have still : Registry.get? (engine.registry.update (mailbox.detached endpoint)) binding.mailbox =
      some (mailbox.detached endpoint) := engine.registry.update_here serves.id_eq
  refine Step.guarded_running running ?_ (mild_ok ())
  rw [Step.bind_ok taken, detach, Step.bind_ok dropped, Step.bind_ok (mailboxOf_found still),
    dropping, removed]
  rfl

end Engine

end Mailroom
