import Mathlib.Algebra.BigOperators.Ring.List
import Mathlib.Algebra.Group.Action.Defs
import Mathlib.Algebra.Order.BigOperators.Group.List
import Mailroom.Proofs.Engine.Consistency
import Mailroom.Proofs.Engine.Pinning
import Mailroom.Proofs.Engine.Reshaping

/-!
How much an engine may hold. Its limits bound the mailboxes, the handles of a task and what each
ring takes up; and since every ring but a mailbox's own queue stands for an open handle, they bound
what waits in the whole engine.
-/

namespace Mailroom

theorem Limits.normalized_usable (limits : Limits) :
    limits.normalized.defaultCapacity ≠ 0 ∧
      limits.normalized.defaultCapacity ≤ limits.normalized.maxCapacity := by
  have largest : (1 : UInt16) ≤ max limits.maxCapacity 1 := by
    rw [UInt16.max_def]
    split
    · exact UInt16.le_refl _
    · rename_i larger
      exact UInt16.le_of_lt (UInt16.not_le.mp larger)
  have positive : ∀ word : UInt16, 1 ≤ word → word ≠ 0 := by
    rintro word atLeast rfl
    revert atLeast
    decide
  simp only [normalized]
  split
  · rw [UInt16.min_def]
    split
    · exact ⟨by decide, ‹_›⟩
    · exact ⟨positive _ largest, UInt16.le_refl _⟩
  · rename_i usable
    rw [not_or, UInt16.not_lt] at usable
    exact usable

namespace Mailbox

structure Modest (largest : UInt16) (mailbox : Mailbox) : Prop where
  capacity_ne : mailbox.capacity ≠ 0
  capacity_le : mailbox.capacity ≤ largest
  unqueued : mailbox.policy ≠ .queue → mailbox.queue.frames = []

variable {largest : UInt16} {before after : Mailbox}

theorem Modest.rests (modest : before.Modest largest) (rests : before.Rests after) :
    after.Modest largest := by
  obtain ⟨⟨_, capacity_eq, policy_eq⟩, queue_eq⟩ := rests
  refine ⟨?_, ?_, ?_⟩
  · rw [capacity_eq]
    exact modest.capacity_ne
  · rw [capacity_eq]
    exact modest.capacity_le
  · rw [policy_eq, queue_eq]
    exact modest.unqueued

theorem Moves.unqueued (moves : before.Moves after) (sound : before.Sound)
    (fanned : before.policy ≠ .queue) (empty : before.queue.frames = []) :
    after.queue.frames = [] := by
  cases moves with
  | same | switched => exact empty
  | accepted source flags channel payload =>
      by_cases fits : framedSize payload.length ≤ before.capacity.toNat
      · rw [sound.accept_fitting source flags channel fits]
        split
        · simpa [posted, fanned] using empty
        · simpa using empty
      · rw [sound.accept_large source flags channel (Nat.lt_of_not_le fits)]
        exact empty
  | taken view room =>
      cases view with
      | queue =>
          have seen : before.ringOf? .queue = some before.queue := rfl
          rw [take_of_empty room seen empty]
          exact empty
      | subscriber endpoint | tap endpoint => exact empty

theorem Modest.moves (modest : before.Modest largest) (moves : before.Moves after)
    (sound : before.Sound) : after.Modest largest := by
  have traffic := moves.traffic sound
  refine ⟨?_, ?_, fun fanned => ?_⟩
  · rw [traffic.capacity_eq]
    exact modest.capacity_ne
  · rw [traffic.capacity_eq]
    exact modest.capacity_le
  · rw [traffic.policy_eq] at fanned
    exact moves.unqueued sound fanned (modest.unqueued fanned)

theorem modest_empty {limits : Limits} {capacity : UInt16}
    (allowed : limits.normalized.Allows capacity) (id : MailboxId) (name : Name) (policy : Policy)
    (creator : Pid) (persistent : Bool) :
    (empty id name capacity policy creator persistent).Modest limits.normalized.maxCapacity := by
  rcases allowed with rfl | ⟨nonzero, within⟩
  · exact ⟨limits.normalized_usable.1, limits.normalized_usable.2, fun _ => rfl⟩
  · exact ⟨nonzero, within, fun _ => rfl⟩

end Mailbox

namespace Registry

theorem update_size {registry : Registry} {mailbox earlier : Mailbox}
    (found : registry.get? mailbox.id = some earlier) :
    (registry.update mailbox).size = registry.size := by
  have present : registry.mailboxes.contains mailbox.id = true :=
    Table.mem_iff.mpr ⟨earlier, found⟩
  simp only [size, update, Std.ExtTreeMap.size_insert, present, if_true]

theorem added_size_le (registry : Registry) (mailbox : Mailbox) :
    (registry.added mailbox).size ≤ registry.size + 1 := Std.ExtTreeMap.size_insert_le

theorem removed_size_le (registry : Registry) (mailbox : Mailbox) :
    (registry.removed mailbox).size ≤ registry.size := Std.ExtTreeMap.size_erase_le

end Registry

namespace Engine

open Step

structure Frugal (limits : Limits) (engine : Engine) : Prop where
  intact : engine.Intact
  limits_eq : engine.limits = limits.normalized
  registry_limit : engine.registry.limit = max limits.maxDescriptors 1
  handles_limit : engine.handles.limit = min (max limits.handlesPerTask 1) TaskHandles.most
  size_le : engine.registry.size ≤ engine.registry.limit
  count_le : ∀ pid, engine.handles.count pid ≤ engine.handles.limit
  modest : ∀ id mailbox, engine.registry.get? id = some mailbox →
    mailbox.Modest limits.normalized.maxCapacity

variable {limits : Limits} {before after engine : Engine} {pid : Pid}

theorem start_frugal (limits : Limits) : (start limits).Frugal limits := by
  refine ⟨start_intact limits, rfl, ?_, ?_, Nat.zero_le _, fun pid => ?_, ?_⟩
  · simp [start, Registry.withLimit, Limits.normalized]
  · simp [start, HandleTable.withLimit, Limits.normalized]
  · simp [start, HandleTable.withLimit, HandleTable.count, HandleTable.handlesOf]
  · intro id mailbox found
    simp [start, Registry.withLimit, Registry.get?] at found

theorem Frugal.update (frugal : before.Frugal limits) {id : MailboxId} {earlier later : Mailbox}
    (found : before.registry.get? id = some earlier) (same : later.id = id)
    (sound : later.Sound) (modest : later.Modest limits.normalized.maxCapacity) :
    Frugal limits { before with registry := before.registry.update later } := by
  have size_eq : (before.registry.update later).size = before.registry.size :=
    Registry.update_size (by rw [same]; exact found)
  refine ⟨frugal.intact.update sound, frugal.limits_eq, frugal.registry_limit,
    frugal.handles_limit, ?_, frugal.count_le, ?_⟩
  · change (before.registry.update later).size ≤ before.registry.limit
    rw [size_eq]
    exact frugal.size_le
  · intro other mailbox there
    rcases Registry.update_cases same there with ⟨_, rfl⟩ | ⟨_, still⟩
    · exact modest
    · exact frugal.modest other mailbox still

theorem Frugal.rations (frugal : before.Frugal limits) {handles : HandleTable}
    (rationed : before.handles.Rations handles) : Frugal limits { before with handles } := by
  refine ⟨frugal.intact, frugal.limits_eq, frugal.registry_limit,
    rationed.limit_eq.trans frugal.handles_limit, frugal.size_le, fun pid => ?_, frugal.modest⟩
  rw [rationed.limit_eq]
  exact Nat.le_trans (rationed.count_le pid) (Nat.max_le.mpr ⟨frugal.count_le pid, Nat.le_refl _⟩)

theorem Frugal.destroy (frugal : before.Frugal limits) (id : MailboxId) :
    (before.destroy id).Frugal limits := by
  have intact := frugal.intact.destroy id
  cases found : before.registry.get? id with
  | none =>
      have absent : before.registry.remove id = (none, before.registry) := by
        simp only [Registry.remove, found]
      rw [destroy_of_absent id absent]
      exact frugal
  | some mailbox =>
      have same : mailbox.id = id := (frugal.intact id mailbox found).1
      subst same
      have removed := Registry.remove_eq found
      rw [destroy_of_found mailbox.id removed] at intact ⊢
      exact ⟨intact, frugal.limits_eq, frugal.registry_limit, frugal.handles_limit,
        Nat.le_trans (before.registry.removed_size_le mailbox) frugal.size_le, frugal.count_le,
        fun other later there => frugal.modest other later (Registry.remove_fewer removed there)⟩

theorem OpensFor.frugal (opens : OpensFor pid before after) (frugal : before.Frugal limits) :
    after.Frugal limits := by
  have intact := opens.opens.intact frugal.intact
  cases opens with
  | told => exact { frugal with }
  | searched _ rationed | missed _ _ _ rationed => exact frugal.rations rationed
  | @made name unnamed capacity policy room allowed =>
      refine ⟨intact, frugal.limits_eq, frugal.registry_limit, frugal.handles_limit,
        Nat.le_trans (before.registry.added_size_le _) room, frugal.count_le, ?_⟩
      intro id mailbox found
      have found : Registry.get? (before.registry.added _) id = some mailbox := found
      rw [Registry.added_get] at found
      split at found
      · cases found
        rw [frugal.limits_eq] at allowed
        exact Mailbox.modest_empty allowed _ _ _ _ _
      · exact frugal.modest id mailbox found
  | @attached handles handle binding mailbox free given found rationed =>
      obtain ⟨same, sound⟩ := frugal.intact _ _ found
      have rests := mailbox.attach_rests ⟨pid, handle⟩ binding.mode
      have kept : (mailbox.attach ⟨pid, handle⟩ binding.mode).id = binding.mailbox := by
        rw [Mailbox.attach_eq]
        exact same
      exact (frugal.rations rationed).update found kept (sound.attach _ _)
        ((frugal.modest _ _ found).rests rests)

theorem Frugal.loosens (frugal : before.Frugal limits) {id : MailboxId} {earlier later : Mailbox}
    (found : before.registry.get? id = some earlier) (loosens : earlier.Loosens later) :
    Frugal limits { before with registry := before.registry.update later } := by
  obtain ⟨here, sound⟩ := frugal.intact _ _ found
  obtain ⟨still, same⟩ := loosens.sound sound
  exact frugal.update found (same.trans here) still
    ((frugal.modest _ _ found).rests loosens.rests)

theorem ClosesFor.frugal (closes : ClosesFor pid before after) (frugal : before.Frugal limits) :
    after.Frugal limits := by
  cases closes with
  | woken => exact { frugal with }
  | taken _ _ rationed => exact frugal.rations rationed
  | detached found handle => exact frugal.loosens found (.detached ⟨pid, handle⟩)
  | destroyed found unreferenced => exact frugal.destroy _

theorem Conveys.frugal (conveys : before.Conveys after) (frugal : before.Frugal limits) :
    after.Frugal limits := by
  cases conveys with
  | told | woken => exact { frugal with }
  | moved found moves =>
      obtain ⟨here, sound⟩ := frugal.intact _ _ found
      have traffic := moves.traffic sound
      exact frugal.update found (traffic.id_eq.trans here) traffic.sound
        ((frugal.modest _ _ found).moves moves sound)

theorem frugal_course (limits : Limits) :
    Course fun before after : Engine => before.Frugal limits → after.Frugal limits :=
  ⟨fun _ frugal => frugal, fun first second frugal => second (first frugal),
    fun _ _ frugal => { frugal with }⟩

theorem frugal_closes (limits : Limits) (caller : Pid) :
    Admits (fun before after : Engine => before.Frugal limits → after.Frugal limits)
      (ClosesFor caller) := ⟨frugal_course limits, ClosesFor.frugal⟩

theorem unpin_frugal (limits : Limits) (id : MailboxId) :
    Obeys (fun before after : Engine => before.Frugal limits → after.Frugal limits) (unpin id) := by
  have course := frugal_course limits
  refine course.bind (onMailbox_obeys course id fun _ _ found frugal =>
    frugal.loosens found .unpinned) fun _ => course.bind (course.inspect _) fun mailbox => ?_
  apply change_obeys
  intro engine frugal
  split
  · exact frugal.destroy id
  · exact frugal

theorem reset_frugal (frugal : engine.Frugal limits) : (reset engine).Frugal limits := by
  have destroyed : ∀ (ids : List MailboxId) (engine : Engine), engine.Frugal limits →
      (ids.foldl destroy engine).Frugal limits := by
    intro ids
    induction ids with
    | nil => exact fun _ frugal => frugal
    | cons id rest ih => exact fun engine frugal => ih _ (frugal.destroy id)
  have cleared := destroyed (engine.registry.toList.map Mailbox.id) engine frugal
  refine ⟨cleared.intact, cleared.limits_eq, cleared.registry_limit, cleared.handles_limit,
    cleared.size_le, fun pid => ?_, cleared.modest⟩
  simp [reset, HandleTable.clear, HandleTable.count, HandleTable.handlesOf]

theorem operation_frugal (limits : Limits) (operation : Operation) :
    Obeys (fun before after : Engine => before.Frugal limits → after.Frugal limits)
      operation.step := by
  by_cases reaping : ∃ caller, operation = .reap caller
  · obtain ⟨caller, rfl⟩ := reaping
    exact (reapTask_obeys caller (frugal_closes limits caller) (unpin_frugal limits)).map _
  · by_cases reset : operation = .reset
    · subst reset
      intro engine frugal
      exact reset_frugal frugal
    · exact operation_obeys (fun _ _ => ⟨frugal_course limits, OpensFor.frugal⟩)
        (frugal_closes limits) ⟨frugal_course limits, Conveys.frugal⟩
        (fun caller same => reaping ⟨caller, same⟩) reset

theorem run_frugal (limits : Limits) (operations : List Operation) :
    ((start limits).run operations).Frugal limits := by
  suffices kept : ∀ engine : Engine, engine.Frugal limits →
      (engine.run operations).Frugal limits from kept _ (start_frugal limits)
  induction operations with
  | nil => exact fun _ frugal => frugal
  | cons operation rest ih =>
      exact fun engine frugal => ih _ (operation_frugal limits operation engine frugal)

end Engine

def HandleTable.total (table : HandleTable) : Nat :=
  (table.tasks.toList.map fun task => task.2.entries.size).sum

def Mailbox.bytesHeld (mailbox : Mailbox) : Nat :=
  Ring.load mailbox.queue.frames +
    (mailbox.subscribers.toList.map fun entry => Ring.load entry.2.ring.frames).sum

def Engine.bytesHeld (engine : Engine) : Nat :=
  (engine.registry.toList.map Mailbox.bytesHeld).sum

theorem Ring.Sound.load_le {ring : Ring} (sound : ring.Sound) :
    Ring.load ring.frames ≤ ring.capacity := by
  rw [← sound.used_eq]
  exact sound.used_le

theorem Mailbox.Sound.bytesHeld_le {mailbox : Mailbox} (sound : mailbox.Sound) :
    mailbox.bytesHeld ≤ (1 + mailbox.subscribers.size) * mailbox.capacity.toNat := by
  have queue : Ring.load mailbox.queue.frames ≤ mailbox.capacity.toNat := by
    rw [← sound.queue_capacity]
    exact sound.queue_sound.load_le
  have rings : (mailbox.subscribers.toList.map fun entry => Ring.load entry.2.ring.frames).sum ≤
      mailbox.subscribers.size * mailbox.capacity.toNat := by
    rw [← Std.ExtTreeMap.length_toList, ← smul_eq_mul, ← List.length_map]
    apply List.sum_le_card_nsmul
    intro load member
    obtain ⟨⟨endpoint, subscription⟩, listed, rfl⟩ := List.mem_map.mp member
    have present := Table.mem_toList.mp listed
    rw [← sound.ring_capacity _ _ present]
    exact (sound.ring_sound _ _ present).load_le
  calc mailbox.bytesHeld
    _ ≤ mailbox.capacity.toNat + mailbox.subscribers.size * mailbox.capacity.toNat :=
        Nat.add_le_add queue rings
    _ = (1 + mailbox.subscribers.size) * mailbox.capacity.toNat := by rw [Nat.add_mul, Nat.one_mul]

namespace HandleTable

def endpoints (table : HandleTable) : List Endpoint :=
  table.tasks.toList.flatMap fun task => task.2.entries.keys.map fun handle => ⟨task.1, handle⟩

theorem length_endpoints (table : HandleTable) : table.endpoints.length = table.total := by
  simp only [endpoints, total, List.length_flatMap, List.length_map, Std.ExtTreeMap.length_keys]

theorem mem_endpoints {table : HandleTable} {endpoint : Endpoint} {binding : Binding}
    (held : table.binding? endpoint = some binding) : endpoint ∈ table.endpoints := by
  simp only [binding?, handlesOf] at held
  cases found : table.tasks[endpoint.pid]? with
  | none => simp [found] at held
  | some task =>
      rw [found] at held
      have listed : endpoint.handle ∈ task.entries.keys :=
        Std.ExtTreeMap.mem_keys.mpr (Table.mem_iff.mpr ⟨binding, held⟩)
      exact List.mem_flatMap.mpr ⟨(endpoint.pid, task), Table.mem_toList.mpr found,
        List.mem_map.mpr ⟨endpoint.handle, listed, rfl⟩⟩

end HandleTable

namespace Engine

variable {engine : Engine}

theorem subscribers_le_handles (sound : engine.scene.Sound) :
    (engine.registry.toList.map fun mailbox => mailbox.subscribers.size).sum ≤
      engine.handles.total := by
  have held : ∀ mailbox ∈ engine.registry.toList, ∀ endpoint ∈ mailbox.subscribers.keys,
      ∃ binding, engine.handles.binding? endpoint = some binding ∧
        binding.mailbox = mailbox.id := by
    intro mailbox member endpoint within
    obtain ⟨id, found⟩ := Registry.mem_toList.mp member
    obtain ⟨subscription, present⟩ := Table.mem_iff.mp (Std.ExtTreeMap.mem_keys.mp within)
    obtain ⟨binding, bound, leads, _⟩ := (subscribed_iff sound found endpoint _).mp
      ⟨subscription, present, rfl⟩
    exact ⟨binding, bound, leads.trans (sound.supports.id_eq found).symm⟩
  let seats := engine.registry.toList.flatMap fun mailbox => mailbox.subscribers.keys
  have distinct : seats.Nodup := by
    refine List.nodup_flatMap.mpr ⟨fun _ _ => Std.ExtTreeMap.nodup_keys, ?_⟩
    have ids : engine.registry.toList.Pairwise fun left right => left.id ≠ right.id :=
      List.pairwise_map.mp sound.supports.nodup_ids
    refine ids.imp_of_mem fun leftMember rightMember apart => ?_
    intro endpoint leftWithin rightWithin
    obtain ⟨binding, bound, leads⟩ := held _ leftMember endpoint leftWithin
    obtain ⟨other, again, leadsTo⟩ := held _ rightMember endpoint rightWithin
    cases bound.symm.trans again
    exact apart (leads.symm.trans leadsTo)
  have within : seats ⊆ engine.handles.endpoints := by
    intro endpoint member
    obtain ⟨mailbox, listed, seat⟩ := List.mem_flatMap.mp member
    obtain ⟨binding, bound, _⟩ := held mailbox listed endpoint seat
    exact HandleTable.mem_endpoints bound
  have fewer := (List.subperm_of_subset distinct within).length_le
  rw [HandleTable.length_endpoints] at fewer
  simpa only [seats, List.length_flatMap, Std.ExtTreeMap.length_keys] using fewer

theorem bytesHeld_le (sound : engine.scene.Sound) {largest : Nat}
    (capacities : ∀ id mailbox, engine.registry.get? id = some mailbox →
      mailbox.capacity.toNat ≤ largest) :
    engine.bytesHeld ≤ (engine.registry.size + engine.handles.total) * largest := by
  have each : ∀ mailbox ∈ engine.registry.toList,
      mailbox.bytesHeld ≤ (1 + mailbox.subscribers.size) * largest := by
    intro mailbox member
    obtain ⟨id, found⟩ := Registry.mem_toList.mp member
    exact Nat.le_trans (sound.supports.serves id mailbox found).sound.bytesHeld_le
      (Nat.mul_le_mul_left _ (capacities id mailbox found))
  have length : engine.registry.toList.length = engine.registry.size := by
    rw [Registry.toList, Table.values_eq, List.length_map, Std.ExtTreeMap.length_toList]
    rfl
  calc engine.bytesHeld
    _ ≤ (engine.registry.toList.map fun mailbox =>
          (1 + mailbox.subscribers.size) * largest).sum := List.sum_le_sum each
    _ = (engine.registry.size +
          (engine.registry.toList.map fun mailbox => mailbox.subscribers.size).sum) * largest := by
        rw [List.sum_map_mul_right, List.sum_map_add, List.map_const', List.sum_replicate, length]
        simp
    _ ≤ (engine.registry.size + engine.handles.total) * largest :=
        Nat.mul_le_mul_right _ (Nat.add_le_add_left (subscribers_le_handles sound) _)

structure Metered (capacity : UInt16) (ring : Ring) : Prop where
  used_eq : ring.used = (ring.frames.map fun frame => 8 + frame.payload.length).sum
  used_le : ring.used ≤ capacity.toNat

/-- What an engine made under these limits never goes beyond. -/
structure Bounded (limits : Limits) (engine : Engine) : Prop where
  mailboxes : engine.registry.size ≤ max 1 limits.maxDescriptors
  handles : ∀ pid, engine.handles.count pid ≤ min (max 1 limits.handlesPerTask) 65535
  capacities : ∀ id mailbox, engine.registry.get? id = some mailbox →
    1 ≤ mailbox.capacity.toNat ∧ mailbox.capacity.toNat ≤ max 1 limits.maxCapacity.toNat
  queues : ∀ id mailbox, engine.registry.get? id = some mailbox →
    Metered mailbox.capacity mailbox.queue
  rings : ∀ id mailbox, engine.registry.get? id = some mailbox →
    ∀ (endpoint : Endpoint) (subscription : Subscription),
      mailbox.subscribers[endpoint]? = some subscription →
        Metered mailbox.capacity subscription.ring
  unqueued : ∀ id mailbox, engine.registry.get? id = some mailbox → mailbox.policy ≠ .queue →
    mailbox.queue.frames = []
  bytes : engine.bytesHeld ≤
    (engine.registry.size + engine.handles.total) * max 1 limits.maxCapacity.toNat

theorem metered_of_sound {ring : Ring} {capacity : UInt16} (sound : ring.Sound)
    (sized : ring.capacity = capacity.toNat) : Metered capacity ring :=
  ⟨sound.used_eq, sized ▸ sound.used_le⟩

theorem Frugal.bounded {limits : Limits} (frugal : engine.Frugal limits)
    (sound : engine.scene.Sound) : engine.Bounded limits := by
  have capacities : ∀ id mailbox, engine.registry.get? id = some mailbox →
      1 ≤ mailbox.capacity.toNat ∧ mailbox.capacity.toNat ≤ max 1 limits.maxCapacity.toNat := by
    intro id mailbox found
    have modest := frugal.modest id mailbox found
    have nonzero : mailbox.capacity.toNat ≠ 0 := fun zero =>
      modest.capacity_ne (UInt16.toNat_inj.mp zero)
    have below := UInt16.le_iff_toNat_le.mp modest.capacity_le
    have largest : limits.normalized.maxCapacity.toNat = max 1 limits.maxCapacity.toNat := by
      simp only [Limits.normalized, UInt16.max_def]
      split
      · rename_i small
        exact (Nat.max_eq_left (UInt16.le_iff_toNat_le.mp small)).symm
      · rename_i large
        exact (Nat.max_eq_right (Nat.le_of_not_le (mt UInt16.le_iff_toNat_le.mpr large))).symm
    exact ⟨Nat.pos_of_ne_zero nonzero, largest ▸ below⟩
  refine ⟨?_, ?_, capacities, ?_, ?_, ?_, ?_⟩
  · rw [Nat.max_comm, ← frugal.registry_limit]
    exact frugal.size_le
  · intro pid
    rw [Nat.max_comm]
    exact Nat.le_trans (frugal.count_le pid) (Nat.le_of_eq frugal.handles_limit)
  · intro id mailbox found
    have kept := (frugal.intact id mailbox found).2
    exact metered_of_sound kept.queue_sound kept.queue_capacity
  · intro id mailbox found endpoint subscription there
    have kept := (frugal.intact id mailbox found).2
    exact metered_of_sound (kept.ring_sound _ _ there) (kept.ring_capacity _ _ there)
  · exact fun id mailbox found => (frugal.modest id mailbox found).unqueued
  · exact bytesHeld_le sound fun id mailbox found => (capacities id mailbox found).2

/-- Whatever the limits are set to and whatever is asked of the engine, they hold. -/
theorem run_within_limits (limits : Limits) (operations : List Operation)
    (few : ((start limits).run operations).registrations ≤ Registry.mostNumbers) :
    ((start limits).run operations).Bounded limits :=
  (run_frugal limits operations).bounded (run_sound operations (start_sound limits) few)

/-- Limits that allow one mailbox, no handle and a default above the largest capacity. A second
handle and a second mailbox are refused, and a tap and a reader get copies of one message. -/
theorem tightest_engine_within_limits :
    ((start ⟨1, 0, 64, 32, 0⟩).run
      [.bindName 1 "shared:feed" 32 0x2a, .openName 1 "shared:feed" 3, .bindName 2 "app:log" 16 3,
        .openName 2 "shared:feed" 4, .tap ⟨2, 1⟩ true, .openName 3 "shared:feed" 1,
        .send ⟨1, 1⟩ [104, 105] 0 0]).Bounded ⟨1, 0, 64, 32, 0⟩ :=
  run_within_limits _ _ (by decide +kernel)

end Engine

end Mailroom
