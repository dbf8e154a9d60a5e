import Mailroom.Proofs.Engine.Edits
import Mailroom.Proofs.Registry

/-!
Passages from one sound state of an engine to another, and what they tell those who wait: for
every mailbox that is there before, either whoever waits for anything of it is woken, or it is
still there with its handles, nothing has come into its rings and no room in them has been gained
without the wakeup that goes with it. Operations are sequences of passages.
-/

namespace Mailroom

/-- Where an engine stands within an operation: what its handles stand for, also those that the
table has already lost, and a mailbox that has just been made for a handle to come. -/
structure Scene where
  engine : Engine
  bound : Bindings
  fresh : Option MailboxId := none

def Engine.expecting (engine : Engine) (fresh : Option MailboxId) : Scene :=
  { engine, bound := engine.handles.binding?, fresh }

def Engine.scene (engine : Engine) : Scene := engine.expecting none

namespace Scene

def get? (scene : Scene) (id : MailboxId) : Option Mailbox := scene.engine.registry.get? id

structure Sound (scene : Scene) : Prop where
  supports : scene.engine.registry.Supports scene.bound
  tidy : scene.engine.registry.Tidy scene.fresh
  numbered : scene.engine.registry.Numbered scene.engine.registrations
  handles : scene.engine.handles.Sound

end Scene

namespace Mailbox

structure Lasts (before after : Mailbox) : Prop where
  name_eq : after.name = before.name
  capacity_eq : after.capacity = before.capacity
  policy_eq : after.policy = before.policy

theorem Lasts.refl (mailbox : Mailbox) : mailbox.Lasts mailbox := ⟨rfl, rfl, rfl⟩

theorem Lasts.trans {first second third : Mailbox} (left : first.Lasts second)
    (right : second.Lasts third) : first.Lasts third :=
  ⟨right.name_eq.trans left.name_eq, right.capacity_eq.trans left.capacity_eq,
    right.policy_eq.trans left.policy_eq⟩

structure Steady (news : List Wakeup) (before after : Mailbox) : Prop where
  lasts : before.Lasts after
  queue : after.queue.depth ≤ before.queue.depth + news.count ⟨⟨.readable, before.id⟩, .one⟩
  rings : ⟨⟨.subscriber, before.id⟩, .all⟩ ∈ news ∨
    ∀ (endpoint : Endpoint) (subscription : Subscription),
      before.subscribers[endpoint]? = some subscription → subscription.ring.frames = [] →
        ∃ later, after.subscribers[endpoint]? = some later ∧ later.ring.frames = []
  room : ⟨⟨.writable, before.id⟩, .all⟩ ∈ news ∨
    (after.queue.free ≤ before.queue.free ∧
      ∀ (endpoint : Endpoint) (subscription : Subscription),
        before.subscribers[endpoint]? = some subscription →
          ∃ later, after.subscribers[endpoint]? = some later ∧
            (later.isReader = true →
              subscription.isReader = true ∧ later.ring.free ≤ subscription.ring.free))

theorem Steady.refl (news : List Wakeup) (mailbox : Mailbox) : mailbox.Steady news mailbox :=
  ⟨Lasts.refl mailbox, Nat.le_add_right _ _,
    Or.inr fun _ subscription found empty => ⟨subscription, found, empty⟩,
    Or.inr ⟨Nat.le_refl _, fun _ subscription found =>
      ⟨subscription, found, fun reader => ⟨reader, Nat.le_refl _⟩⟩⟩⟩

theorem Steady.trans {older newer : List Wakeup} {first second third : Mailbox}
    (same : second.id = first.id) (left : first.Steady older second)
    (right : second.Steady newer third) : first.Steady (newer ++ older) third := by
  obtain ⟨leftLasts, leftQueue, leftRings, leftRoom⟩ := left
  obtain ⟨rightLasts, rightQueue, rightRings, rightRoom⟩ := right
  rw [same] at rightQueue rightRings rightRoom
  refine ⟨leftLasts.trans rightLasts, ?_, ?_, ?_⟩
  · rw [List.count_append]
    omega
  · rcases leftRings with woken | leftKept
    · exact Or.inl (List.mem_append_right _ woken)
    · rcases rightRings with woken | rightKept
      · exact Or.inl (List.mem_append_left _ woken)
      · right
        intro endpoint subscription found empty
        obtain ⟨later, there, still⟩ := leftKept endpoint subscription found empty
        exact rightKept endpoint later there still
  · rcases leftRoom with woken | leftKept
    · exact Or.inl (List.mem_append_right _ woken)
    · rcases rightRoom with woken | rightKept
      · exact Or.inl (List.mem_append_left _ woken)
      · right
        refine ⟨Nat.le_trans rightKept.1 leftKept.1, ?_⟩
        intro endpoint subscription found
        obtain ⟨later, there, leftLess⟩ := leftKept.2 endpoint subscription found
        obtain ⟨last, lastThere, rightLess⟩ := rightKept.2 endpoint later there
        refine ⟨last, lastThere, ?_⟩
        intro reader
        have second := rightLess reader
        have first := leftLess second.1
        exact ⟨first.1, Nat.le_trans second.2 first.2⟩

end Mailbox

namespace Scene

open Engine

def Settles (news : List Wakeup) (before after : Scene) (id : MailboxId) (earlier : Mailbox) :
    Prop :=
  rousing id ⊆ news ∨
    (∃ later, after.get? id = some later ∧ earlier.Steady news later) ∧
    ∀ endpoint binding, before.bound endpoint = some binding → binding.mailbox = id →
      after.bound endpoint = some binding

structure Passes (before after : Scene) : Prop where
  sound : after.Sound
  halted_eq : after.engine.halted = before.engine.halted
  limits_eq : after.engine.limits = before.engine.limits
  grows : before.engine.registrations ≤ after.engine.registrations
  origin : ∀ id later, after.get? id = some later →
    (∃ earlier, before.get? id = some earlier ∧ earlier.Lasts later) ∨
      before.engine.registrations < id.number.toNat
  news : ∃ news, after.engine.wakeups = news ++ before.engine.wakeups ∧
    ∀ id earlier, before.get? id = some earlier → Settles news before after id earlier

theorem Passes.refl {scene : Scene} (sound : scene.Sound) : scene.Passes scene := by
  refine ⟨sound, rfl, rfl, Nat.le_refl _, ?_, [], rfl, ?_⟩
  · intro id later found
    exact Or.inl ⟨later, found, .refl later⟩
  · intro id earlier found
    exact Or.inr ⟨⟨earlier, found, .refl [] earlier⟩, fun _ _ held _ => held⟩

theorem Passes.trans {first second third : Scene} (sound : first.Sound)
    (left : first.Passes second) (right : second.Passes third) : first.Passes third := by
  obtain ⟨older, olderEq, olderSettles⟩ := left.news
  obtain ⟨newer, newerEq, newerSettles⟩ := right.news
  refine ⟨right.sound, right.halted_eq.trans left.halted_eq, right.limits_eq.trans left.limits_eq,
    Nat.le_trans left.grows right.grows, ?_, newer ++ older, ?_, ?_⟩
  · intro id last found
    rcases right.origin id last found with ⟨middle, there, lasting⟩ | new
    · rcases left.origin id middle there with ⟨earlier, before, lasted⟩ | new
      · exact Or.inl ⟨earlier, before, lasted.trans lasting⟩
      · exact Or.inr new
    · exact Or.inr (Nat.lt_of_le_of_lt left.grows new)
  · rw [newerEq, olderEq, List.append_assoc]
  · intro id earlier found
    -- Once everyone who waits for the mailbox is woken, what comes later does not matter.
    rcases olderSettles id earlier found with roused | ⟨⟨middle, there, steady⟩, kept⟩
    · exact Or.inl fun wakeup member => List.mem_append_right _ (roused member)
    · rcases newerSettles id middle there with roused | ⟨⟨last, lastThere, steadier⟩, stillKept⟩
      · exact Or.inl fun wakeup member => List.mem_append_left _ (roused member)
      · have same : middle.id = earlier.id := by
          rw [left.sound.supports.id_eq there, sound.supports.id_eq found]
        exact Or.inr ⟨⟨last, lastThere, steady.trans same steadier⟩,
          fun endpoint binding held leads =>
            stillKept endpoint binding (kept endpoint binding held leads) leads⟩

theorem Passes.lasts {before after : Scene} (sound : before.Sound) (passes : before.Passes after)
    {id : MailboxId} {earlier later : Mailbox} (found : before.get? id = some earlier)
    (there : after.get? id = some later) : earlier.Lasts later := by
  rcases passes.origin id later there with ⟨same, present, lasts⟩ | new
  · cases found.symm.trans present
    exact lasts
  · have old := (sound.numbered.within id earlier found).2
    omega

variable {scene : Scene}

theorem Sound.passes_quiet (sound : scene.Sound) {handles : HandleTable} (table : handles.Sound)
    (news : List Wakeup) (events : List Event)
    (others : ∀ event ∈ events, event.isCreated = false) :
    scene.Passes
      { scene with
        engine :=
          { scene.engine with
            handles
            wakeups := news ++ scene.engine.wakeups
            events := events ++ scene.engine.events } } := by
  have noneCreated : events.countP Event.isCreated = 0 := by
    rw [List.countP_eq_zero]
    intro event member
    simp [others event member]
  have count : (events ++ scene.engine.events).countP Event.isCreated =
      scene.engine.registrations := by
    rw [List.countP_append, noneCreated, Nat.zero_add]
    rfl
  refine ⟨⟨sound.supports, sound.tidy, ?_, table⟩, rfl, rfl, Nat.le_of_eq count.symm, ?_, news,
    rfl, ?_⟩
  · change scene.engine.registry.Numbered ((events ++ scene.engine.events).countP Event.isCreated)
    rw [count]
    exact sound.numbered
  · intro id later found
    exact Or.inl ⟨later, found, .refl later⟩
  · intro id earlier found
    exact Or.inr ⟨⟨earlier, found, .refl news earlier⟩, fun _ _ held _ => held⟩

theorem Sound.passes_create (sound : scene.Sound) (settled : scene.fresh = none)
    (few : scene.engine.registrations < Registry.mostNumbers) {name : Name} {capacity : UInt16}
    {policy : Policy} {creator : Pid} {persistent : Bool} {fresh : Option MailboxId}
    (unnamed : scene.engine.registry.resolve? name = none)
    (spared : persistent = true ∨ fresh = some ⟨scene.engine.registry.nextId⟩) (text : String) :
    scene.Passes
      { scene with
        engine :=
          { scene.engine with
            registry := scene.engine.registry.added
              (.empty ⟨scene.engine.registry.nextId⟩ name capacity policy creator persistent)
            events :=
              .created ⟨scene.engine.registry.nextId⟩ text capacity policy creator ::
                scene.engine.events }
        fresh } := by
  have unused := sound.numbered.unused few
  have count := scene.engine.emit_created ⟨scene.engine.registry.nextId⟩ text capacity policy
    creator
  refine ⟨⟨sound.supports.added unused unnamed, ?_, ?_, sound.handles⟩, rfl, rfl, ?_, ?_, [], rfl,
    ?_⟩
  · intro id mailbox found apart
    rw [Registry.added_get] at found
    split at found
    · rename_i same
      cases found
      rcases spared with persistent_eq | fresh_eq
      · simp [Mailbox.isUnreferenced, Mailbox.empty, persistent_eq]
      · exact absurd (fresh_eq.trans (congrArg some same)) apart
    · exact sound.tidy id mailbox found (by simp [settled])
  · exact Eq.substr count (sound.numbered.added few _)
  · exact Nat.le_trans (Nat.le_succ _) (Nat.le_of_eq count.symm)
  · intro id later found
    simp only [get?, Registry.added_get] at found
    split at found
    · rename_i same
      right
      have next := sound.numbered.next_eq few
      rw [← same]
      simp only
      omega
    · exact Or.inl ⟨later, found, .refl later⟩
  · intro id earlier found
    refine Or.inr ⟨⟨earlier, ?_, .refl [] earlier⟩, fun _ _ held _ => held⟩
    simp only [get?, Registry.added_get]
    rw [if_neg]
    · exact found
    · intro same
      rw [get?, ← same, unused] at found
      cases found

theorem Sound.passes_update (sound : scene.Sound) {id : MailboxId} {before after : Mailbox}
    (found : scene.get? id = some before) {bound : Bindings}
    (supports : (scene.engine.registry.update after).Supports bound)
    (sameId : after.id = before.id) (held : after.isUnreferenced = false)
    (settled : scene.fresh = none ∨ scene.fresh = some id) {news : List Wakeup}
    (steady : before.Steady news after)
    (kept : ∀ endpoint binding, scene.bound endpoint = some binding →
      bound endpoint = some binding)
    {handles : HandleTable} (table : handles.Sound) {events : List Event}
    (others : ∀ event ∈ events, event.isCreated = false) :
    scene.Passes
      { engine :=
          { scene.engine with
            registry := scene.engine.registry.update after
            handles
            wakeups := news ++ scene.engine.wakeups
            events := events ++ scene.engine.events }
        bound } := by
  have beforeId : before.id = id := sound.supports.id_eq found
  have quiet := sound.passes_quiet table news events others
  have look : ∀ other, (scene.engine.registry.update after).get? other =
      if id = other then some after else scene.get? other := by
    intro other
    rw [Registry.update_get, sameId, beforeId]
    rfl
  have present : scene.engine.registry.get? after.id = some before := by
    rw [sameId, beforeId]
    exact found
  refine ⟨⟨supports, ?_, ?_, table⟩, rfl, rfl, quiet.grows, ?_, news, rfl, ?_⟩
  · intro other mailbox atOther _
    rw [look] at atOther
    split at atOther
    · cases atOther
      exact held
    · rename_i apart
      refine sound.tidy other mailbox atOther ?_
      rcases settled with none | some
      · simp [none]
      · simpa [some] using apart
  · exact Registry.Numbered.update quiet.sound.numbered present
  · intro other later atOther
    simp only [get?, look] at atOther
    split at atOther
    · rename_i same
      cases atOther
      exact Or.inl ⟨before, same ▸ found, steady.lasts⟩
    · exact Or.inl ⟨later, atOther, .refl later⟩
  · intro other earlier atOther
    refine Or.inr ⟨?_, fun endpoint binding bind _ => kept endpoint binding bind⟩
    simp only [get?, look]
    by_cases same : id = other
    · subst same
      rw [found] at atOther
      cases atOther
      exact ⟨after, if_pos rfl, steady⟩
    · exact ⟨earlier, by rw [if_neg same]; exact atOther, .refl news earlier⟩

theorem passes_rousing {after : Scene} (sound : after.Sound) (id : MailboxId)
    (halted_eq : after.engine.halted = scene.engine.halted)
    (limits_eq : after.engine.limits = scene.engine.limits)
    (same_count : after.engine.registrations = scene.engine.registrations)
    (news : after.engine.wakeups = rousing id ++ scene.engine.wakeups)
    (others : ∀ other, other ≠ id → after.get? other = scene.get? other)
    (lasts : ∀ later, after.get? id = some later →
      ∃ earlier, scene.get? id = some earlier ∧ earlier.Lasts later)
    (kept : ∀ endpoint binding, scene.bound endpoint = some binding → binding.mailbox ≠ id →
      after.bound endpoint = some binding) : scene.Passes after := by
  refine ⟨sound, halted_eq, limits_eq, Nat.le_of_eq same_count.symm, ?_, rousing id, news, ?_⟩
  · intro other later found
    by_cases same : other = id
    · subst same
      exact Or.inl (lasts later found)
    · rw [others other same] at found
      exact Or.inl ⟨later, found, .refl later⟩
  · intro other earlier found
    by_cases same : other = id
    · subst same
      exact Or.inl fun wakeup member => member
    · refine Or.inr ⟨⟨earlier, ?_, .refl _ earlier⟩, ?_⟩
      · rw [others other same]
        exact found
      · intro endpoint binding held leads
        exact kept endpoint binding held (by rw [leads]; exact same)

theorem Sound.loosened (sound : scene.Sound) (settled : scene.fresh = none) {id : MailboxId}
    {before after : Mailbox} (found : scene.get? id = some before) (sameId : after.id = before.id)
    {bound : Bindings} (supports : (scene.engine.registry.update after).Supports bound) :
    Sound
      { engine := { scene.engine with registry := scene.engine.registry.update after }
        bound
        fresh := some id } := by
  have beforeId : before.id = id := sound.supports.id_eq found
  have present : scene.engine.registry.get? after.id = some before := by
    rw [sameId, beforeId]
    exact found
  refine ⟨supports, ?_, Registry.Numbered.update sound.numbered present, sound.handles⟩
  intro other mailbox atOther apart
  rw [Registry.update_get, sameId, beforeId] at atOther
  rw [if_neg (fun same => apart (congrArg some same))] at atOther
  exact sound.tidy other mailbox atOther (by simp [settled])

theorem Sound.kept (sound : scene.Sound) {id : MailboxId} {mailbox : Mailbox}
    (loose : scene.fresh = some id) (found : scene.get? id = some mailbox)
    (held : mailbox.isUnreferenced = false) : Sound { scene with fresh := none } := by
  refine ⟨sound.supports, ?_, sound.numbered, sound.handles⟩
  intro other kept atOther _
  by_cases same : other = id
  · subst same
    rw [get?] at found
    rw [found] at atOther
    cases atOther
    exact held
  · refine sound.tidy other kept atOther ?_
    rw [loose]
    simpa using Ne.symm same

theorem Sound.goes (sound : scene.Sound) {id : MailboxId} {mailbox : Mailbox}
    (loose : scene.fresh = some id) (found : scene.get? id = some mailbox)
    (zero : mailbox.references = 0) :
    Sound { engine := scene.engine.destroy id, bound := scene.bound } ∧
      ∀ other, Registry.get? (scene.engine.destroy id).registry other =
        if id = other then none else scene.get? other := by
  have idEq : mailbox.id = id := sound.supports.id_eq found
  have removed : scene.engine.registry.remove id =
      (some mailbox, scene.engine.registry.removed mailbox) := by
    subst idEq
    exact Registry.remove_eq found
  have registry : (scene.engine.destroy id).registry = scene.engine.registry.removed mailbox := by
    rw [destroy_of_found id removed]
  have look : ∀ other, (scene.engine.registry.removed mailbox).get? other =
      if id = other then none else scene.get? other := by
    intro other
    rw [Registry.removed_get, idEq]
    rfl
  refine ⟨⟨?_, ?_, ?_, ?_⟩, ?_⟩
  · rw [registry]
    exact sound.supports.removed found zero
  · intro other kept atOther _
    rw [registry, look] at atOther
    split at atOther
    · cases atOther
    · rename_i apart
      refine sound.tidy other kept atOther ?_
      rw [loose]
      simpa using apart
  · rw [destroy_registrations, registry]
    exact sound.numbered.removed mailbox
  · rw [destroy_of_found id removed]
    exact sound.handles
  · intro other
    rw [registry, look]

end Scene

namespace Engine

def Succeeds {α : Type} (step : Step α) (engine : Engine) : Prop :=
  ∀ outcome after, step engine = (outcome, after) →
    Mild outcome ∧ after.halted = engine.halted ∧
      (after.registrations ≤ Registry.mostNumbers → engine.scene.Passes after.scene)

def SucceedsWithin {α : Type} (step : Step α) (engine : Engine) : Prop :=
  ∀ outcome after, step engine = (outcome, after) →
    after.registrations ≤ Registry.mostNumbers → Mild outcome ∧ engine.scene.Passes after.scene

variable {α β : Type} {engine : Engine}

theorem Succeeds.within {step : Step α} (succeeds : Succeeds step engine) :
    SucceedsWithin step engine := by
  intro outcome after ran few
  obtain ⟨mild, _, passes⟩ := succeeds outcome after ran
  exact ⟨mild, passes few⟩

theorem ends_well {outcome : Except Fault α} {after : Engine} (mild : Mild outcome)
    (passes : engine.scene.Passes after.scene) :
    Mild outcome ∧ after.halted = engine.halted ∧
      (after.registrations ≤ Registry.mostNumbers → engine.scene.Passes after.scene) :=
  ⟨mild, passes.halted_eq, fun _ => passes⟩

theorem Succeeds.guarded {step : Step α} (running : engine.halted = none)
    (succeeds : Succeeds step engine) : Succeeds (Step.guarded step) engine := by
  intro outcome after ran
  cases inner : step engine with
  | mk result last =>
      have mild := (succeeds result last inner).1
      rw [Step.guarded_running running inner mild] at ran
      obtain ⟨rfl, rfl⟩ := Prod.mk.inj ran
      exact succeeds _ _ inner

theorem Succeeds.look_bind {look : Engine → Except Fault α} {next : α → Step β}
    (sound : engine.scene.Sound) (mild : Mild (look engine))
    (onward : ∀ answer, look engine = .ok answer → Succeeds (next answer) engine) :
    Succeeds (Step.inspect look >>= next) engine := by
  intro outcome after ran
  cases seen : look engine with
  | ok answer =>
      have first : Step.inspect look engine = (.ok answer, engine) := by
        rw [Step.inspect, seen]
      rw [Step.bind_ok first] at ran
      exact onward answer seen outcome after ran
  | error fault =>
      have first : Step.inspect look engine = (.error fault, engine) := by
        rw [Step.inspect, seen]
      rw [Step.bind_error first] at ran
      cases ran
      rw [seen] at mild
      exact ends_well mild.fault (Scene.Passes.refl sound)

theorem Succeeds.map {step : Step α} (succeeds : Succeeds step engine) (form : α → β) :
    Succeeds (step >>= fun answer => Pure.pure (form answer)) engine := by
  intro outcome after ran
  rcases Step.bind_cases ran with ⟨answer, middle, begun, rest⟩ | ⟨fault, begun, rfl⟩
  · cases rest
    obtain ⟨_, halted, passes⟩ := succeeds _ _ begun
    exact ⟨mild_ok _, halted, passes⟩
  · obtain ⟨mild, halted, passes⟩ := succeeds _ _ begun
    exact ⟨mild.fault, halted, passes⟩

theorem SucceedsWithin.bind {first : Step α} {next : α → Step β} (sound : engine.scene.Sound)
    (begins : SucceedsWithin first engine) (grows : ∀ answer, (next answer).Grows)
    (onward : ∀ answer middle, first engine = (.ok answer, middle) →
      engine.scene.Passes middle.scene → SucceedsWithin (next answer) middle) :
    SucceedsWithin (first >>= next) engine := by
  intro outcome after ran few
  rcases Step.bind_cases ran with ⟨answer, middle, begun, rest⟩ | ⟨fault, begun, rfl⟩
  · have more := grows answer middle
    rw [rest] at more
    have passes := (begins _ _ begun (Nat.le_trans more few)).2
    obtain ⟨mild, later⟩ := onward answer middle begun passes outcome after rest few
    exact ⟨mild, passes.trans sound later⟩
  · obtain ⟨mild, passes⟩ := begins _ _ begun few
    exact ⟨mild.fault, passes⟩

end Engine

end Mailroom
