import Mailroom.Engine.Lifecycle
import Mailroom.Proofs.Engine.Opening

/-!
Tasks come and go in passages too. A registration that fails half way closes what it opened; a
reaped task's handles are taken from the table first and from their mailboxes one by one; a reset
wakes everyone.
-/

namespace Mailroom.Engine

open Scene

theorem ensureControl_succeeds {engine : Engine} (sound : engine.scene.Sound)
    (running : engine.halted = none) (pid : Pid) : Succeeds (ensureControl pid) engine := by
  apply Succeeds.guarded running
  intro outcome after ran
  cases resolves : engine.registry.resolve? (Name.control pid) with
  | some id =>
      simp only [resolves, Prod.mk.injEq] at ran
      obtain ⟨rfl, rfl⟩ := ran
      exact ends_well (mild_ok ()) (Passes.refl sound)
  | none =>
      cases made : create pid (Name.control pid) engine.limits.defaultCapacity .queue true engine
        with
      | mk result last =>
          simp only [resolves, made, Prod.mk.injEq] at ran
          obtain ⟨rfl, rfl⟩ := ran
          rcases create_cases sound made resolves with
            ⟨id, mailbox, rfl, _, _, halted, passes⟩ | ⟨rfl, passes⟩
          · exact ⟨mild_ok (), halted, fun few => passes few none (Or.inl rfl)⟩
          · exact ends_well (mild_error rfl) passes

theorem closeEach_passes {pid : Pid} (handles : List Handle) {engine : Engine}
    (sound : engine.scene.Sound) (running : engine.halted = none)
    (few : (closeEach pid engine handles).registrations ≤ Registry.mostNumbers) :
    engine.scene.Passes (closeEach pid engine handles).scene := by
  induction handles generalizing engine with
  | nil => exact Passes.refl sound
  | cons handle rest ih =>
      have later : (close ⟨pid, handle⟩ engine).2.registrations ≤ Registry.mostNumbers :=
        Nat.le_trans (closeEach_grows pid rest _) few
      obtain ⟨_, passes⟩ := (close_succeeds sound running ⟨pid, handle⟩).within _ _ rfl later
      have still : (close ⟨pid, handle⟩ engine).2.halted = none := passes.halted_eq.trans running
      exact passes.trans sound (ih passes.sound still few)

theorem openStream_succeeds {engine : Engine} (sound : engine.scene.Sound)
    (running : engine.halted = none) (pid : Pid) (raw : String) (opened : List Handle) :
    SucceedsWithin (openStream pid raw opened) engine := by
  intro outcome after ran few
  cases inner : openName pid raw Mode.readWrite.bits engine with
  | mk result middle =>
      cases result with
      | ok handle =>
          simp only [openStream, inner, Prod.mk.injEq] at ran
          obtain ⟨rfl, rfl⟩ := ran
          exact (openName_succeeds sound running pid raw _).within _ _ inner few
      | error fault =>
          simp only [openStream, inner, Prod.mk.injEq] at ran
          obtain ⟨rfl, rfl⟩ := ran
          have sooner := Nat.le_trans (closeEach_grows pid opened middle) few
          obtain ⟨mild, passes⟩ :=
            (openName_succeeds sound running pid raw _).within _ _ inner sooner
          have still : middle.halted = none := passes.halted_eq.trans running
          exact ⟨mild, passes.trans sound (closeEach_passes opened passes.sound still few)⟩

theorem registerTask_succeeds {engine : Engine} (sound : engine.scene.Sound)
    (running : engine.halted = none) (pid : Pid) : SucceedsWithin (registerTask pid) engine := by
  apply SucceedsWithin.bind sound (ensureControl_succeeds sound running pid).within
  · intro _
    refine (openStream_grows _ _ _).bind fun stdin => (openStream_grows _ _ _).bind fun stdout => ?_
    exact (openStream_grows _ _ _).bind fun stderr => Step.grows_pure _
  · intro _ first _ passes
    have still := passes.halted_eq.trans running
    apply SucceedsWithin.bind passes.sound (openStream_succeeds passes.sound still pid _ _)
    · intro stdin
      refine (openStream_grows _ _ _).bind fun stdout => ?_
      exact (openStream_grows _ _ _).bind fun stderr => Step.grows_pure _
    · intro stdin second _ passes
      have still := passes.halted_eq.trans still
      apply SucceedsWithin.bind passes.sound (openStream_succeeds passes.sound still pid _ _)
      · intro stdout
        exact (openStream_grows _ _ _).bind fun stderr => Step.grows_pure _
      · intro stdout third _ passes
        have still := passes.halted_eq.trans still
        apply SucceedsWithin.bind passes.sound (openStream_succeeds passes.sound still pid _ _)
        · intro stderr
          exact Step.grows_pure _
        · intro stderr fourth _ passes outcome after ran _
          cases ran
          exact ⟨mild_ok _, Passes.refl passes.sound⟩

theorem release_passes {scene : Scene} (sound : scene.Sound) (settled : scene.fresh = none)
    {pid : Pid} {entry : Handle × Binding} (held : scene.bound ⟨pid, entry.1⟩ = some entry.2) :
    ∃ after, release pid entry scene.engine = (.ok (), after) ∧
      after.handles = scene.engine.handles ∧
      scene.Passes
        { engine := after, bound := Function.update scene.bound ⟨pid, entry.1⟩ none } := by
  let roused : Scene := { scene with engine := scene.engine.wakeEveryone entry.2.mailbox }
  have quiet : scene.Passes roused :=
    sound.passes_quiet sound.handles (rousing entry.2.mailbox) [] no_events
  obtain ⟨after, detached, same, onward⟩ := detach_passes quiet.sound settled held
  refine ⟨after, ?_, same, quiet.trans sound onward⟩
  have first : Step.change (fun engine => engine.wakeEveryone entry.2.mailbox) scene.engine =
      (.ok (), roused.engine) := rfl
  rw [release, Step.bind_ok first, detached]

theorem releaseEach_passes {pid : Pid} (entries : List (Handle × Binding)) {scene : Scene}
    (sound : scene.Sound) (settled : scene.fresh = none)
    (distinct : entries.Pairwise fun left right => left.1 ≠ right.1)
    (held : ∀ entry ∈ entries, scene.bound ⟨pid, entry.1⟩ = some entry.2) :
    ∃ last bound, Step.forEach (release pid) entries scene.engine = (.ok (), last) ∧
      last.handles = scene.engine.handles ∧ scene.Passes { engine := last, bound } ∧
      (∀ entry ∈ entries, bound ⟨pid, entry.1⟩ = none) ∧
      ∀ endpoint : Endpoint, (∀ entry ∈ entries, endpoint ≠ ⟨pid, entry.1⟩) →
        bound endpoint = scene.bound endpoint := by
  induction entries generalizing scene with
  | nil =>
      refine ⟨scene.engine, scene.bound, rfl, rfl, ?_, by simp, fun _ _ => rfl⟩
      have same : ({ engine := scene.engine, bound := scene.bound } : Scene) = scene := by
        obtain ⟨engine, bound, fresh⟩ := scene
        cases settled
        rfl
      rw [same]
      exact Passes.refl sound
  | cons entry rest ih =>
      obtain ⟨apart, distinct⟩ := List.pairwise_cons.mp distinct
      obtain ⟨middle, released, kept, passes⟩ :=
        release_passes sound settled (held entry List.mem_cons_self)
      have others : ∀ other ∈ rest, (⟨pid, other.1⟩ : Endpoint) ≠ ⟨pid, entry.1⟩ := by
        intro other member same
        exact apart other member (Endpoint.mk.inj same).2.symm
      obtain ⟨last, bound, ran, still, onward, gone, elsewhere⟩ :=
        ih passes.sound rfl distinct (by
          intro other member
          refine (Function.update_of_ne (others other member) _ _).trans ?_
          exact held other (List.mem_cons_of_mem _ member))
      refine ⟨last, bound, ?_, still.trans kept, passes.trans sound onward, ?_, ?_⟩
      · have first : (Step.forEach (release pid) (entry :: rest)) =
            release pid entry >>= fun _ => Step.forEach (release pid) rest := rfl
        rw [first, Step.bind_ok released]
        exact ran
      · intro other member
        rcases List.mem_cons.mp member with rfl | later
        · refine (elsewhere _ fun other member => Ne.symm (others other member)).trans ?_
          exact Function.update_self _ _ _
        · exact gone other later
      · intro endpoint different
        refine (elsewhere endpoint fun other member =>
          different other (List.mem_cons_of_mem _ member)).trans ?_
        exact Function.update_of_ne (different entry List.mem_cons_self) _ _

theorem reaped_bindings {engine : Engine} {pid : Pid} {bound : Bindings}
    (gone : ∀ entry ∈ engine.handles.held pid, bound ⟨pid, entry.1⟩ = none)
    (elsewhere : ∀ endpoint : Endpoint,
      (∀ entry ∈ engine.handles.held pid, endpoint ≠ ⟨pid, entry.1⟩) →
        bound endpoint = engine.handles.binding? endpoint) :
    bound = (engine.handles.dropTask pid).binding? := by
  funext endpoint
  rw [HandleTable.dropTask_binding]
  by_cases same : pid = endpoint.pid
  · rw [if_pos same]
    cases held : engine.handles.binding? endpoint with
    | some binding =>
        have member : (endpoint.handle, binding) ∈ engine.handles.held pid := by
          rw [HandleTable.mem_held, same]
          exact held
        have none := gone _ member
        rw [same] at none
        exact none
    | none =>
        rw [elsewhere endpoint, held]
        rintro ⟨handle, binding⟩ member rfl
        rw [HandleTable.mem_held, held] at member
        cases member
  · rw [if_neg same, elsewhere]
    rintro entry _ rfl
    exact same rfl

def unpinned (mailbox : Mailbox) : Mailbox := { mailbox with persistent := false }

theorem unpin_passes {engine : Engine} (sound : engine.scene.Sound) {id : MailboxId}
    {mailbox : Mailbox} (found : engine.registry.get? id = some mailbox) :
    ∃ after, unpin id engine = (.ok (), after) ∧ engine.scene.Passes after.scene ∧
      (∀ other, other ≠ id → after.registry.get? other = engine.registry.get? other) ∧
      ∀ later, after.registry.get? id = some later → later.persistent = false := by
  have serves := sound.supports.serves id mailbox found
  have served : (unpinned mailbox).Serves engine.scene.bound id :=
    ⟨serves.id_eq, serves.references_eq, serves.seated,
      serves.sound.queue_capacity, serves.sound.queue_sound, serves.sound.ring_capacity,
      serves.sound.ring_sound⟩
  have supports : (engine.registry.update (unpinned mailbox)).Supports engine.scene.bound :=
    sound.supports.replace found rfl served (fun _ _ _ serves => serves)
      (fun endpoint _ held _ => ⟨endpoint, held⟩)
  let left : Engine := { engine with registry := engine.registry.update (unpinned mailbox) }
  have sameId : (unpinned mailbox).id = mailbox.id := rfl
  have loosened : (left.expecting (some id)).Sound := sound.loosened rfl found sameId supports
  have leftFound : left.registry.get? id = some (unpinned mailbox) :=
    engine.registry.update_here served.id_eq
  have first : onMailbox id (fun mailbox => (.ok (), { mailbox with persistent := false })) engine =
      (.ok (), left) := onMailbox_found _ found rfl
  have elsewhere : ∀ other, other ≠ id →
      left.registry.get? other = engine.registry.get? other :=
    fun _ apart => engine.registry.update_elsewhere served.id_eq apart
  by_cases last : (unpinned mailbox).isUnreferenced = true
  · have zero : (unpinned mailbox).references = 0 := by
      simp only [Mailbox.isUnreferenced, Bool.and_eq_true, decide_eq_true_eq] at last
      exact last.1
    have look := (loosened.goes rfl leftFound zero).2
    refine ⟨left.destroy id, ?_, ?_, ?_, ?_⟩
    · rw [unpin, Step.bind_ok first, Step.bind_ok (mailboxOf_found leftFound)]
      simp only [Step.change, last, if_true]
    · have passes :
          engine.scene.Passes { engine := left.destroy id, bound := engine.scene.bound } :=
        destroy_passes loosened rfl leftFound last rfl rfl rfl rfl elsewhere
          (fun _ _ held _ => held)
      have handles : (left.destroy id).handles = engine.handles := (destroy_rest left id).2.2
      have here : (left.destroy id).scene =
          { engine := left.destroy id, bound := engine.scene.bound } := by
        simp only [scene, expecting, handles]
      rw [here]
      exact passes
    · intro other apart
      refine (look other).trans ?_
      rw [if_neg (Ne.symm apart)]
      exact elsewhere other apart
    · intro later there
      have gone := look id
      rw [if_pos rfl] at gone
      cases gone.symm.trans there
  · have still : (unpinned mailbox).isUnreferenced = false := by simpa using last
    refine ⟨left, ?_, ?_, elsewhere, ?_⟩
    · rw [unpin, Step.bind_ok first, Step.bind_ok (mailboxOf_found leftFound)]
      simp only [Step.change, last, Bool.false_eq_true, if_false]
    · have steady : mailbox.Steady [] (unpinned mailbox) :=
        ⟨⟨rfl, rfl, rfl⟩, (Mailbox.Steady.refl [] mailbox).queue,
          (Mailbox.Steady.refl [] mailbox).rings, (Mailbox.Steady.refl [] mailbox).room⟩
      exact sound.passes_update found supports sameId still (Or.inl rfl) steady
        (fun _ _ held => held) sound.handles no_events
    · intro later there
      cases leftFound.symm.trans there
      rfl

theorem unpinEach_passes (ids : List MailboxId) {engine : Engine} (sound : engine.scene.Sound)
    (distinct : ids.Nodup)
    (present : ∀ id ∈ ids, ∃ mailbox, engine.registry.get? id = some mailbox) :
    ∃ after, Step.forEach unpin ids engine = (.ok (), after) ∧
      engine.scene.Passes after.scene ∧
      (∀ other ∉ ids, after.registry.get? other = engine.registry.get? other) ∧
      ∀ id ∈ ids, ∀ later, after.registry.get? id = some later → later.persistent = false := by
  induction ids generalizing engine with
  | nil => exact ⟨engine, rfl, Passes.refl sound, fun _ _ => rfl, by simp⟩
  | cons id rest ih =>
      obtain ⟨fresh, distinct⟩ := List.nodup_cons.mp distinct
      obtain ⟨mailbox, found⟩ := present id List.mem_cons_self
      obtain ⟨middle, unpinned, passes, elsewhere, loose⟩ := unpin_passes sound found
      obtain ⟨after, ran, onward, others, looser⟩ := ih passes.sound distinct (by
        intro other member
        rw [elsewhere other (fun same => fresh (same ▸ member))]
        exact present other (List.mem_cons_of_mem _ member))
      refine ⟨after, ?_, passes.trans sound onward, ?_, ?_⟩
      · have first : Step.forEach unpin (id :: rest) =
            unpin id >>= fun _ => Step.forEach unpin rest := rfl
        rw [first, Step.bind_ok unpinned, ran]
      · intro other absent
        obtain ⟨apart, without⟩ := not_or.mp (mt List.mem_cons.mpr absent)
        rw [others other without, elsewhere other apart]
      · intro other member later there
        rcases List.mem_cons.mp member with rfl | within
        · rw [others other fresh] at there
          exact loose later there
        · exact looser other within later there

theorem ownedBy_present {engine : Engine} (sound : engine.scene.Sound) (pid : Pid) :
    (engine.ownedBy pid).Nodup ∧
      ∀ id ∈ engine.ownedBy pid, ∃ mailbox, engine.registry.get? id = some mailbox := by
  constructor
  · exact sound.supports.nodup_ids.sublist (List.filter_sublist.map _)
  · intro id member
    obtain ⟨mailbox, listed, rfl⟩ := List.mem_map.mp member
    obtain ⟨key, found⟩ := Registry.mem_toList.mp (List.mem_filter.mp listed).1
    have same : mailbox.id = key := sound.supports.id_eq found
    exact ⟨mailbox, same ▸ found⟩

theorem reapTask_ends {engine : Engine} (sound : engine.scene.Sound)
    (running : engine.halted = none) (pid : Pid) :
    ∃ last after : Engine, reapTask pid engine = (.ok (engine.handles.held pid).length, after) ∧
      engine.scene.Passes last.scene ∧ last.scene.Passes after.scene ∧
      (∀ other ∉ last.ownedBy pid, after.registry.get? other = last.registry.get? other) ∧
      ∀ id ∈ last.ownedBy pid, ∀ later, after.registry.get? id = some later →
        later.persistent = false := by
  have looked : Step.inspect (fun engine => .ok (engine.handles.held pid)) engine =
      (.ok (engine.handles.held pid), engine) := rfl
  have table : engine.handles.Sound := sound.handles
  let dropped : Engine := { engine with handles := engine.handles.dropTask pid }
  let scene : Scene := { engine := dropped, bound := engine.handles.binding? }
  have quiet : engine.scene.Passes scene :=
    sound.passes_quiet (table.dropTask pid) [] [] no_events
  obtain ⟨last, bound, released, handles, passes, gone, elsewhere⟩ :=
    releaseEach_passes (engine.handles.held pid) quiet.sound rfl
      (HandleTable.distinct_held _ _) (fun entry member => HandleTable.mem_held.mp member)
  have boundEq : bound = last.handles.binding? := by
    rw [handles]
    exact reaped_bindings gone elsewhere
  subst boundEq
  have reaped : engine.scene.Passes last.scene := quiet.trans sound passes
  obtain ⟨distinct, present⟩ := ownedBy_present reaped.sound pid
  obtain ⟨after, unpinned, onward, others, loose⟩ :=
    unpinEach_passes _ reaped.sound distinct present
  refine ⟨last, after, ?_, reaped, onward, others, loose⟩
  have first : dropTask pid engine = (.ok (), dropped) := rfl
  have listed : Step.inspect (fun engine => .ok (engine.ownedBy pid)) last =
      (.ok (last.ownedBy pid), last) := rfl
  refine Step.guarded_running running ?_ (mild_ok _)
  rw [Step.bind_ok looked, Step.bind_ok first, Step.bind_ok released, Step.bind_ok listed,
    Step.bind_ok unpinned]
  rfl

theorem reapTask_succeeds {engine : Engine} (sound : engine.scene.Sound)
    (running : engine.halted = none) (pid : Pid) : Succeeds (reapTask pid) engine := by
  intro outcome after ran
  obtain ⟨last, final, reaps, reaped, onward, _⟩ := reapTask_ends sound running pid
  rw [reaps] at ran
  cases ran
  exact ends_well (mild_ok _) (reaped.trans sound onward)

theorem reapTask_unpinned {engine : Engine} (sound : engine.scene.Sound)
    (running : engine.halted = none) {pid : Pid} {id : MailboxId} {later : Mailbox}
    (found : (reapTask pid engine).2.registry.get? id = some later)
    (owned : later.name.owner = some pid) : later.persistent = false := by
  obtain ⟨last, after, reaps, reaped, _, others, loose⟩ := reapTask_ends sound running pid
  rw [reaps] at found
  by_cases member : id ∈ last.ownedBy pid
  · exact loose id member later found
  · rw [others id member] at found
    by_contra pinned
    have same : later.id = id := reaped.sound.supports.id_eq found
    refine member (List.mem_map.mpr ⟨later, List.mem_filter.mpr ⟨?_, ?_⟩, same⟩)
    · exact Registry.mem_toList.mpr ⟨id, found⟩
    · simpa [owned] using pinned

structure Orderly (registry : Registry) : Prop where
  id_eq : ∀ id mailbox, registry.get? id = some mailbox → mailbox.id = id
  resolved : ∀ name id, registry.resolve? name = some id →
    ∃ mailbox, registry.get? id = some mailbox ∧ mailbox.name = name

structure Destroyed (ids : List MailboxId) (before after : Engine) : Prop where
  orderly : Orderly after.registry
  nextId_eq : after.registry.nextId = before.registry.nextId
  limits_eq : after.limits = before.limits
  handles_eq : after.handles = before.handles
  count_eq : after.registrations = before.registrations
  get_eq : ∀ other, after.registry.get? other =
    if other ∈ ids then none else before.registry.get? other
  news : ∃ news, after.wakeups = news ++ before.wakeups ∧
    ∀ id ∈ ids, (∃ mailbox, before.registry.get? id = some mailbox) → rousing id ⊆ news

theorem destroy_destroyed {engine : Engine} (orderly : Orderly engine.registry) (id : MailboxId) :
    Destroyed [id] engine (engine.destroy id) := by
  cases found : engine.registry.get? id with
  | none =>
      have absent : engine.registry.remove id = (none, engine.registry) := by
        simp only [Registry.remove, found]
      rw [destroy_of_absent id absent]
      refine ⟨orderly, rfl, rfl, rfl, rfl, ?_, [], rfl, ?_⟩
      · intro other
        simp only [List.mem_singleton]
        split
        · rename_i same
          rw [same, found]
        · rfl
      · intro other member present
        rw [List.mem_singleton.mp member, found] at present
        obtain ⟨mailbox, there⟩ := present
        cases there
  | some mailbox =>
      have idEq : mailbox.id = id := orderly.id_eq id mailbox found
      have removed : engine.registry.remove id =
          (some mailbox, engine.registry.removed mailbox) := by
        subst idEq
        exact Registry.remove_eq found
      have look : ∀ other, (engine.registry.removed mailbox).get? other =
          if other ∈ [id] then none else engine.registry.get? other := by
        intro other
        rw [Registry.removed_get, idEq]
        simp only [List.mem_singleton, eq_comm]
      have count := destroy_registrations engine id
      rw [destroy_of_found id removed] at count ⊢
      refine ⟨⟨?_, ?_⟩, rfl, rfl, rfl, count, look, rousing id, rfl, ?_⟩
      · intro other kept there
        rw [look] at there
        split at there
        · cases there
        · exact orderly.id_eq other kept there
      · intro name other resolves
        rw [Registry.removed_resolve] at resolves
        split at resolves
        · cases resolves
        · rename_i apart
          obtain ⟨kept, there, named⟩ := orderly.resolved name other resolves
          refine ⟨kept, ?_, named⟩
          rw [look, if_neg, there]
          intro same
          rw [List.mem_singleton.mp same, found] at there
          cases there
          exact apart named
      · intro other member _
        rw [List.mem_singleton.mp member]
        exact fun wakeup within => within

theorem destroyEach_destroyed (ids : List MailboxId) {engine : Engine}
    (orderly : Orderly engine.registry) : Destroyed ids engine (ids.foldl destroy engine) := by
  induction ids generalizing engine with
  | nil => exact ⟨orderly, rfl, rfl, rfl, rfl, fun _ => rfl, [], rfl, by simp⟩
  | cons id rest ih =>
      have first := destroy_destroyed orderly id
      have later := ih first.orderly
      obtain ⟨older, olderEq, olderRouses⟩ := first.news
      obtain ⟨newer, newerEq, newerRouses⟩ := later.news
      rw [List.foldl_cons]
      refine ⟨later.orderly, later.nextId_eq.trans first.nextId_eq,
        later.limits_eq.trans first.limits_eq, later.handles_eq.trans first.handles_eq,
        later.count_eq.trans first.count_eq, ?_, newer ++ older, ?_, ?_⟩
      · intro other
        rw [later.get_eq, first.get_eq]
        by_cases within : other ∈ rest
        · simp [within]
        · simp [within]
      · rw [newerEq, olderEq, List.append_assoc]
      · intro other member present
        by_cases same : other = id
        · subst same
          exact fun wakeup within =>
            List.mem_append_right _ (olderRouses other List.mem_cons_self present within)
        · have within : other ∈ rest := (List.mem_cons.mp member).resolve_left same
          have still : ∃ mailbox, (engine.destroy id).registry.get? other = some mailbox := by
            rw [first.get_eq, if_neg (by simpa using same)]
            exact present
          exact fun wakeup member =>
            List.mem_append_left _ (newerRouses other within still member)

theorem reset_destroyed {engine : Engine} (sound : engine.scene.Sound) :
    Destroyed (engine.registry.toList.map Mailbox.id) engine
      ((engine.registry.toList.map Mailbox.id).foldl destroy engine) :=
  destroyEach_destroyed _ ⟨fun _ _ found => sound.supports.id_eq found, sound.supports.resolved⟩

theorem reset_nothing {engine : Engine} (sound : engine.scene.Sound) (id : MailboxId) :
    (reset engine).registry.get? id = none := by
  refine ((reset_destroyed sound).get_eq id).trans ?_
  cases found : engine.registry.get? id with
  | none => simp
  | some mailbox =>
      rw [if_pos]
      have same : mailbox.id = id := sound.supports.id_eq found
      rw [← same]
      exact List.mem_map_of_mem (Registry.mem_toList.mpr ⟨id, found⟩)

theorem reset_sound {engine : Engine} (sound : engine.scene.Sound) :
    (reset engine).scene.Sound := by
  have destroyed := reset_destroyed sound
  have nothing := reset_nothing sound
  have table : engine.handles.Sound := sound.handles
  refine ⟨⟨?_, ?_, ?_, ?_⟩, ?_, ⟨?_, ?_⟩, ?_⟩
  · intro endpoint binding held
    have held : (reset engine).handles.binding? endpoint = some binding := held
    rw [reset, HandleTable.clear_binding] at held
    cases held
  · intro id mailbox found
    cases (nothing id).symm.trans found
  · intro id mailbox found
    cases (nothing id).symm.trans found
  · intro name id resolves
    obtain ⟨mailbox, found, _⟩ := destroyed.orderly.resolved name id resolves
    cases (nothing id).symm.trans found
  · intro id mailbox found _
    cases (nothing id).symm.trans found
  · intro few
    have count : (reset engine).registrations = engine.registrations := destroyed.count_eq
    have few : (reset engine).registrations < Registry.mostNumbers := few
    have next : (reset engine).registry.nextId = engine.registry.nextId := destroyed.nextId_eq
    change (reset engine).registry.nextId.toNat = (reset engine).registrations + 1
    rw [count] at few ⊢
    rw [next]
    exact sound.numbered.next_eq few
  · intro id mailbox found
    cases (nothing id).symm.trans found
  · have handles : (reset engine).handles = engine.handles.clear := by
      rw [reset, destroyed.handles_eq]
    change (reset engine).handles.Sound
    rw [handles]
    exact table.clear

theorem reset_passes {engine : Engine} (sound : engine.scene.Sound)
    (running : engine.halted = none) : engine.scene.Passes (reset engine).scene := by
  have destroyed := reset_destroyed sound
  obtain ⟨news, wakeups, rouses⟩ := destroyed.news
  refine ⟨reset_sound sound, running.symm, destroyed.limits_eq,
    Nat.le_of_eq destroyed.count_eq.symm, ?_, news, wakeups, ?_⟩
  · intro id later found
    cases (reset_nothing sound id).symm.trans found
  · intro id earlier found
    have same : earlier.id = id := sound.supports.id_eq found
    have listed : id ∈ engine.registry.toList.map Mailbox.id := by
      rw [← same]
      exact List.mem_map_of_mem (Registry.mem_toList.mpr ⟨id, found⟩)
    exact Or.inl (rouses id listed ⟨earlier, found⟩)

end Mailroom.Engine
