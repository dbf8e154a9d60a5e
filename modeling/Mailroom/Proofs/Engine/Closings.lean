import Mailroom.Proofs.Engine.Consistency

/-!
Handles closed one after another. Whether a mailbox only drops a handle or goes with it depends on
which of its handles is closed last, but what is left in the end depends only on which handles
were closed. Main statement: closing handles gives the same registry and the same handle tables in
every order, with those mailboxes that are persistent or still referenced.
-/

namespace Mailroom

namespace TaskHandles

def without (task : TaskHandles) (pid : Pid) (closed : List Endpoint) : TaskHandles :=
  { task with entries := task.entries.filter fun handle _ => ⟨pid, handle⟩ ∉ closed }

variable {task : TaskHandles} {pid : Pid} {closed : List Endpoint}

theorem without_apart (apart : ∀ endpoint ∈ closed, endpoint.pid ≠ pid) :
    task.without pid closed = task := by
  have entries : (task.entries.filter fun handle _ => (⟨pid, handle⟩ : Endpoint) ∉ closed) =
      task.entries :=
    Table.filter_keys_all task.entries fun _ => decide_eq_true fun member => apart _ member rfl
  rw [without, entries]

theorem without_append (task : TaskHandles) (pid : Pid) (closed later : List Endpoint) :
    task.without pid (closed ++ later) = (task.without pid closed).without pid later := by
  simp only [without, Table.filter_keys_filter, List.mem_append, not_or, Bool.decide_and]

theorem erase_without (task : TaskHandles) (endpoint : Endpoint) :
    { task with entries := task.entries.erase endpoint.handle } =
      task.without endpoint.pid [endpoint] := by
  have entries : task.entries.erase endpoint.handle = task.entries.filter fun handle _ =>
      (⟨endpoint.pid, handle⟩ : Endpoint) ∉ [endpoint] := by
    apply Table.ext_at
    intro handle
    rw [Table.erase_at, Table.filter_keys_at]
    by_cases same : endpoint.handle = handle
    · subst same
      simp
    · have apart : (⟨endpoint.pid, handle⟩ : Endpoint) ≠ endpoint :=
        fun equal => same (congrArg Endpoint.handle equal).symm
      simp [same, apart]
  rw [without, entries]

end TaskHandles

namespace HandleTable

def without (table : HandleTable) (closed : List Endpoint) : HandleTable :=
  { table with tasks := table.tasks.map fun pid task => task.without pid closed }

variable {table : HandleTable} {closed later : List Endpoint} {endpoint : Endpoint}

theorem without_nil (table : HandleTable) : table.without [] = table := by
  have tasks : (table.tasks.map fun pid task => task.without pid []) = table.tasks := by
    apply Table.ext_at
    intro pid
    rw [Table.map_at]
    cases table.tasks[pid]? with
    | none => rfl
    | some task => exact congrArg some (TaskHandles.without_apart (by simp))
  rw [without, tasks]

theorem without_append (table : HandleTable) (closed later : List Endpoint) :
    table.without (closed ++ later) = (table.without closed).without later := by
  have tasks : (table.tasks.map fun pid task => task.without pid (closed ++ later)) =
      (table.without closed).tasks.map fun pid task => task.without pid later := by
    apply Table.ext_at
    intro pid
    rw [Table.map_at, Table.map_at, without, Table.map_at, Option.map_map]
    exact congrArg (Option.map · _) (funext fun task => task.without_append pid closed later)
  rw [without, tasks]
  rfl

theorem without_perm (perm : closed.Perm later) : table.without closed = table.without later := by
  simp only [without, TaskHandles.without, perm.mem_iff]

theorem without_binding (table : HandleTable) (closed : List Endpoint) (endpoint : Endpoint) :
    (table.without closed).binding? endpoint =
      if endpoint ∈ closed then none else table.binding? endpoint := by
  simp only [binding?, handlesOf, without, Table.map_at]
  cases table.tasks[endpoint.pid]? with
  | none =>
      simp only [Option.map_none, Option.getD_none, Table.empty_at, ite_self]
  | some task =>
      simp only [Option.map_some, Option.getD_some, TaskHandles.without]
      rw [Table.filter_keys_at]
      by_cases member : endpoint ∈ closed
      · simp [member]
      · simp [member]

theorem remove_without {binding : Binding} (held : table.binding? endpoint = some binding) :
    (table.remove endpoint).2 = table.without [endpoint] := by
  have task : table.tasks[endpoint.pid]? = some (table.handlesOf endpoint.pid) := by
    rw [binding?, handlesOf] at held
    cases found : table.tasks[endpoint.pid]? with
    | none => simp [found] at held
    | some task => simp [handlesOf, found]
  have tasks : table.tasks.insert endpoint.pid
      { table.handlesOf endpoint.pid with
        entries := (table.handlesOf endpoint.pid).entries.erase endpoint.handle } =
      table.tasks.map fun pid task => task.without pid [endpoint] := by
    apply Table.ext_at
    intro pid
    rw [Table.insert_at, Table.map_at]
    split
    · rename_i same
      subst same
      rw [task, TaskHandles.erase_without, Option.map_some]
    · rename_i different
      cases table.tasks[pid]? with
      | none => rfl
      | some task =>
          rw [Option.map_some, TaskHandles.without_apart (by simpa using different)]
  simp only [remove, held, setTask, tasks]
  rfl

end HandleTable

namespace Mailbox

def without (mailbox : Mailbox) (closed : List Endpoint) : Mailbox :=
  { mailbox with
    references := mailbox.references - closed.length
    subscribers := mailbox.subscribers.filter fun endpoint _ => endpoint ∉ closed }

variable {mailbox : Mailbox} {closed later : List Endpoint}

theorem without_nil (mailbox : Mailbox) : mailbox.without [] = mailbox := by
  have nobody : ∀ endpoint : Endpoint, decide (endpoint ∉ ([] : List Endpoint)) = true := by simp
  have subscribers := Table.filter_keys_all mailbox.subscribers nobody
  rw [without, subscribers]
  rfl

theorem without_append (mailbox : Mailbox) (closed later : List Endpoint) :
    mailbox.without (closed ++ later) = (mailbox.without closed).without later := by
  simp only [without, Table.filter_keys_filter, List.mem_append, not_or, Bool.decide_and,
    List.length_append, Nat.sub_sub]

theorem without_perm (perm : closed.Perm later) :
    mailbox.without closed = mailbox.without later := by
  simp only [without, perm.mem_iff, perm.length_eq]

theorem detached_without (mailbox : Mailbox) (endpoint : Endpoint) :
    mailbox.detached endpoint = mailbox.without [endpoint] := by
  have subscribers : mailbox.subscribers.erase endpoint =
      mailbox.subscribers.filter fun other _ => other ∉ [endpoint] := by
    apply Table.ext_at
    intro other
    rw [Table.erase_at, Table.filter_keys_at]
    by_cases same : endpoint = other
    · simp [same]
    · simp [same, Ne.symm same]
  rw [detached, subscribers]
  rfl

theorem without_unreferenced (loose : mailbox.isUnreferenced = true) (closed : List Endpoint) :
    (mailbox.without closed).isUnreferenced = true := by
  simp only [isUnreferenced, Bool.and_eq_true, decide_eq_true_eq] at loose ⊢
  refine ⟨?_, loose.2⟩
  change mailbox.references - closed.length = 0
  rw [loose.1, Nat.zero_sub]

end Mailbox

namespace Engine

def leaving (engine : Engine) (closed : List Endpoint) (id : MailboxId) : List Endpoint :=
  closed.filter fun endpoint =>
    (engine.handles.binding? endpoint).any fun binding => binding.mailbox = id

/-- What is left of a mailbox when the handles are closed, if anything else keeps it. -/
def remains? (engine : Engine) (closed : List Endpoint) (id : MailboxId) : Option Mailbox :=
  ((engine.registry.get? id).map fun mailbox => mailbox.without (engine.leaving closed id)).filter
    fun mailbox => !mailbox.isUnreferenced

/-- The handles, and nothing else, have gone from one engine to the other. -/
structure Parts (closed : List Endpoint) (before after : Engine) : Prop where
  sound : after.scene.Sound
  running : after.halted = none
  count_eq : after.registrations = before.registrations
  limit_eq : after.registry.limit = before.registry.limit
  nextId_eq : after.registry.nextId = before.registry.nextId
  handles_eq : after.handles = before.handles.without closed
  get_eq : after.registry.get? = before.remains? closed

def closeInTurn (closed : List Endpoint) : Step Unit := Step.forEach close closed

variable {before middle after engine : Engine} {closed order : List Endpoint} {endpoint : Endpoint}

theorem remains_perm (perm : closed.Perm order) (engine : Engine) :
    engine.remains? closed = engine.remains? order := by
  funext id
  have leaves : (engine.leaving closed id).Perm (engine.leaving order id) := perm.filter _
  simp only [remains?, Mailbox.without_perm leaves]

theorem remains_same (sound : engine.scene.Sound) {id : MailboxId}
    (nobody : engine.leaving closed id = []) :
    engine.remains? closed id = engine.registry.get? id := by
  rw [remains?, nobody]
  cases found : engine.registry.get? id with
  | none => rfl
  | some mailbox =>
      have kept : mailbox.isUnreferenced = false :=
        sound.tidy id mailbox found (by simp [scene, expecting])
      simp [Option.filter, Mailbox.without_nil, kept]

theorem Parts.start (sound : engine.scene.Sound) (running : engine.halted = none) :
    Parts [] engine engine :=
  ⟨sound, running, rfl, rfl, rfl, engine.handles.without_nil.symm,
    funext fun _ => (remains_same sound rfl).symm⟩

theorem Parts.binding_of (parts : Parts closed before after) (endpoint : Endpoint) :
    after.handles.binding? endpoint =
      if endpoint ∈ closed then none else before.handles.binding? endpoint := by
  rw [parts.handles_eq, HandleTable.without_binding]

theorem Parts.binding_eq (parts : Parts closed before after) (stays : endpoint ∉ closed) :
    after.handles.binding? endpoint = before.handles.binding? endpoint := by
  rw [parts.binding_of, if_neg stays]

theorem Parts.trans {later : List Endpoint} (first : Parts closed before middle)
    (second : Parts later middle after) (apart : closed.Disjoint later) :
    Parts (closed ++ later) before after := by
  refine ⟨second.sound, second.running, second.count_eq.trans first.count_eq,
    second.limit_eq.trans first.limit_eq, second.nextId_eq.trans first.nextId_eq, ?_, ?_⟩
  · rw [second.handles_eq, first.handles_eq, HandleTable.without_append]
  · funext id
    have same : middle.leaving later id = before.leaving later id := by
      refine List.filter_congr fun endpoint member => ?_
      rw [first.binding_eq fun sooner => apart sooner member]
    have split : before.leaving (closed ++ later) id =
        before.leaving closed id ++ before.leaving later id := List.filter_append ..
    rw [second.get_eq, remains?, first.get_eq, same, remains?, remains?, split]
    cases before.registry.get? id with
    | none => rfl
    | some mailbox =>
        simp only [Option.map_some, Mailbox.without_append]
        -- A mailbox that goes in between is one that would go in the end.
        cases loose : (mailbox.without (before.leaving closed id)).isUnreferenced with
        | false => simp [Option.filter, loose]
        | true =>
            have still := Mailbox.without_unreferenced loose (before.leaving later id)
            simp [Option.filter, loose, still]

theorem Parts.unique {left right : Engine} (first : Parts closed before left)
    (second : Parts order before right) (perm : closed.Perm order) :
    left.registry = right.registry ∧ left.handles = right.handles := by
  have leftSupports : left.registry.Supports left.handles.binding? := first.sound.supports
  have rightSupports : right.registry.Supports right.handles.binding? := second.sound.supports
  refine ⟨leftSupports.unique rightSupports ?_ ?_ ?_, ?_⟩
  · rw [first.limit_eq, second.limit_eq]
  · rw [first.nextId_eq, second.nextId_eq]
  · rw [first.get_eq, second.get_eq, remains_perm perm]
  · rw [first.handles_eq, second.handles_eq, HandleTable.without_perm perm]

section Closing

variable {binding : Binding} {mailbox : Mailbox} (sound : engine.scene.Sound)
  (held : engine.handles.binding? endpoint = some binding)
  (found : engine.registry.get? binding.mailbox = some mailbox)

include held found in
theorem remains_here :
    engine.remains? [endpoint] binding.mailbox =
      (some (mailbox.detached endpoint)).filter fun mailbox => !mailbox.isUnreferenced := by
  rw [remains?, found, Mailbox.detached_without]
  simp [leaving, held]

include sound held in
theorem remains_elsewhere {id : MailboxId} (apart : binding.mailbox ≠ id) :
    engine.remains? [endpoint] id = engine.registry.get? id :=
  remains_same sound (by simp [leaving, held, apart])

include sound held found

theorem dropping_get (id : MailboxId) :
    (engine.dropping endpoint mailbox).registry.get? id =
      if binding.mailbox = id then some (mailbox.detached endpoint)
      else engine.remains? [endpoint] id := by
  have sameId : (mailbox.detached endpoint).id = binding.mailbox :=
    (sound.supports.serves binding.mailbox mailbox found).id_eq
  rw [dropping, Registry.update_get, sameId]
  split
  · rfl
  · rename_i apart
    rw [remains_elsewhere sound held apart]

theorem parts_staying (kept : (mailbox.detached endpoint).isUnreferenced = false)
    (running : engine.halted = none)
    (sounds : ((engine.dropping endpoint mailbox).wakeEveryone binding.mailbox).scene.Sound) :
    Parts [endpoint] engine ((engine.dropping endpoint mailbox).wakeEveryone binding.mailbox) := by
  refine ⟨sounds, running, rfl, rfl, rfl, HandleTable.remove_without held, ?_⟩
  funext id
  refine (dropping_get sound held found id).trans ?_
  split
  · rename_i same
    subst same
    simp [remains_here held found, Option.filter, kept]
  · rfl

theorem parts_going (loose : (mailbox.detached endpoint).isUnreferenced = true)
    (running : engine.halted = none)
    (sounds : ((engine.dropping endpoint mailbox).destroy binding.mailbox).scene.Sound) :
    Parts [endpoint] engine ((engine.dropping endpoint mailbox).destroy binding.mailbox) := by
  have sameId : (mailbox.detached endpoint).id = binding.mailbox :=
    (sound.supports.serves binding.mailbox mailbox found).id_eq
  have here := dropping_get sound held found binding.mailbox
  rw [if_pos rfl] at here
  have removed := Registry.remove_eq (sameId.symm ▸ here)
  rw [sameId] at removed
  have registry := congrArg Engine.registry (destroy_of_found binding.mailbox removed)
  obtain ⟨halted, _, handles⟩ := destroy_rest (engine.dropping endpoint mailbox) binding.mailbox
  refine ⟨sounds, halted.trans running, destroy_registrations _ _, ?_, ?_, ?_, ?_⟩
  · rw [registry]
    rfl
  · rw [registry]
    rfl
  · exact handles.trans (HandleTable.remove_without held)
  · funext id
    rw [registry, Registry.removed_get, sameId, dropping_get sound held found id]
    split
    · rename_i same
      subst same
      simp [remains_here held found, Option.filter, loose]
    · rfl

end Closing

theorem close_parts (sound : engine.scene.Sound) (running : engine.halted = none)
    (few : engine.registrations ≤ Registry.mostNumbers) {binding : Binding}
    (held : engine.handles.binding? endpoint = some binding) :
    ∃ after, close endpoint engine = (.ok (), after) ∧ Parts [endpoint] engine after := by
  obtain ⟨mailbox, found⟩ := sound.supports.present endpoint binding held
  have found : engine.registry.get? binding.mailbox = some mailbox := found
  have ran := close_held sound running held found
  obtain ⟨_, _, passes⟩ := close_succeeds sound running endpoint _ _ ran
  refine ⟨_, ran, ?_⟩
  split at passes
  · rename_i loose
    rw [if_pos loose]
    have count := destroy_registrations (engine.dropping endpoint mailbox) binding.mailbox
    exact parts_going sound held found loose running (passes (count.trans_le few)).sound
  · rename_i kept
    rw [if_neg kept]
    exact parts_staying sound held found (Bool.not_eq_true _ ▸ kept) running (passes few).sound

theorem closeInTurn_parts (distinct : closed.Nodup)
    (held : ∀ endpoint ∈ closed, (engine.handles.binding? endpoint).isSome = true)
    (sound : engine.scene.Sound) (running : engine.halted = none)
    (few : engine.registrations ≤ Registry.mostNumbers) :
    ∃ after, closeInTurn closed engine = (.ok (), after) ∧ Parts closed engine after := by
  induction closed generalizing engine with
  | nil => exact ⟨engine, rfl, .start sound running⟩
  | cons endpoint rest ih =>
      obtain ⟨fresh, distinct⟩ := List.nodup_cons.mp distinct
      obtain ⟨binding, here⟩ := Option.isSome_iff_exists.mp (held endpoint List.mem_cons_self)
      obtain ⟨middle, ran, first⟩ := close_parts sound running few here
      have apart : ∀ other ∈ rest, other ∉ [endpoint] := by
        intro other member same
        exact fresh (List.mem_singleton.mp same ▸ member)
      have later : ∀ other ∈ rest, (middle.handles.binding? other).isSome = true := by
        intro other member
        rw [first.binding_eq (apart other member)]
        exact held other (List.mem_cons_of_mem _ member)
      obtain ⟨after, rested, second⟩ :=
        ih distinct later first.sound first.running (first.count_eq.trans_le few)
      refine ⟨after, ?_, first.trans second fun other one member => apart other member one⟩
      exact (Step.bind_ok ran).trans rested

theorem Parts.present_iff (parts : Parts closed before after) (id : MailboxId) :
    (∃ mailbox, after.registry.get? id = some mailbox) ↔
      ∃ mailbox, before.registry.get? id = some mailbox ∧
        (mailbox.persistent = true ∨ ∃ endpoint binding,
          after.handles.binding? endpoint = some binding ∧ binding.mailbox = id) := by
  constructor
  · rintro ⟨last, found⟩
    have origin := found
    rw [parts.get_eq, remains?] at origin
    have mapped := (Option.filter_eq_some_iff.mp origin).1
    obtain ⟨mailbox, earlier, rfl⟩ := Option.map_eq_some_iff.mp mapped
    refine ⟨mailbox, earlier, ?_⟩
    rcases referenced_or_persistent parts.sound found with counted | pinned
    · rw [(parts.sound.supports.serves id _ found).references_eq] at counted
      obtain ⟨holder, binding, bound, leads⟩ := (Set.ncard_pos (Set.toFinite _)).mp counted
      exact Or.inr ⟨holder, binding, bound, leads⟩
    · exact Or.inl pinned
  · rintro ⟨mailbox, earlier, pinned | ⟨holder, binding, bound, rfl⟩⟩
    · rw [parts.get_eq, remains?, earlier]
      simp [Option.filter, Mailbox.isUnreferenced, Mailbox.without, pinned]
    · exact parts.sound.supports.present holder binding bound

theorem closeInTurn_halted {reason : String} (halted : engine.halted = some reason)
    (closed : List Endpoint) : (closeInTurn closed engine).2 = engine := by
  cases closed with
  | nil => rfl
  | cons endpoint rest =>
      have refused : close endpoint engine = (.error _, engine) := Step.guarded_halted halted
      exact congrArg Prod.snd (Step.bind_error refused)

/-- Handles that are open, two of them or more, are closed in every order, and what is left is the
same: the registry, with its mailboxes, their names, counts, queues and rings, and the bindings and
counters of every task. The closed handles stand for nothing any more and the others for what they
did, and of the mailboxes those are left that are persistent or still referenced. An engine that its
operator has halted closes nothing. -/
theorem closings_commute (limits : Limits) (operations : List Operation)
    (few : ((start limits).run operations).registrations ≤ Registry.mostNumbers)
    (closed : List Endpoint) (distinct : closed.Nodup)
    (held : ∀ endpoint ∈ closed,
      (((start limits).run operations).handles.binding? endpoint).isSome = true) :
    let engine := (start limits).run operations
    let after := (closeInTurn closed engine).2
    (∀ order, order.Perm closed →
      (engine.halted = none → (closeInTurn order engine).1 = .ok ()) ∧
      (closeInTurn order engine).2.registry = after.registry ∧
      (closeInTurn order engine).2.handles = after.handles) ∧
    (engine.halted = none → ∀ endpoint, after.handles.binding? endpoint =
      if endpoint ∈ closed then none else engine.handles.binding? endpoint) ∧
    (engine.halted = none → ∀ id, (∃ mailbox, after.registry.get? id = some mailbox) ↔
      ∃ mailbox, engine.registry.get? id = some mailbox ∧
        (mailbox.persistent = true ∨ ∃ endpoint binding,
          after.handles.binding? endpoint = some binding ∧ binding.mailbox = id)) := by
  intro engine after
  have sound : engine.scene.Sound := run_sound operations (start_sound limits) few
  cases halted : engine.halted with
  | some reason =>
      refine ⟨fun order _ => ⟨nofun, ?_⟩, nofun, nofun⟩
      have still : after = engine := closeInTurn_halted halted closed
      rw [closeInTurn_halted halted order, still]
      exact ⟨rfl, rfl⟩
  | none =>
      have parts : ∀ order : List Endpoint, order.Perm closed →
          ∃ last, closeInTurn order engine = (.ok (), last) ∧ Parts order engine last := by
        intro order perm
        exact closeInTurn_parts (perm.nodup_iff.mpr distinct)
          (fun endpoint member => held endpoint (perm.mem_iff.mp member)) sound halted few
      obtain ⟨last, ran, left⟩ := parts closed (.refl closed)
      rw [show after = last from congrArg Prod.snd ran]
      refine ⟨fun order perm => ?_, fun _ => left.binding_of, fun _ => left.present_iff⟩
      obtain ⟨other, ranOther, leftOther⟩ := parts order perm
      rw [ranOther]
      exact ⟨fun _ => rfl, leftOther.unique left perm⟩

def watchedFeed : List Operation :=
  [.bindName 1 "shared:feed" 32 0x2a, .openName 2 "shared:feed" 3, .openName 3 "shared:feed" 4,
    .bindName 2 "app:box" 16 3, .tap ⟨3, 1⟩ true, .send ⟨1, 1⟩ [104, 105] 0 0]

/-- Of the four handles the tap's stays open, for what it stood for, and so the feed is left,
whichever of the others is closed last. The box goes. -/
theorem watchedFeed_left :
    let engine := (start {}).run watchedFeed
    let after := (closeInTurn [⟨1, 1⟩, ⟨2, 1⟩, ⟨2, 2⟩] engine).2
    let other := (closeInTurn [⟨2, 2⟩, ⟨2, 1⟩, ⟨1, 1⟩] engine).2
    engine.registry.size = 2 ∧
    (closeInTurn [⟨2, 2⟩, ⟨2, 1⟩, ⟨1, 1⟩] engine).1 = .ok () ∧
    other.registry = after.registry ∧ other.handles = after.handles ∧
    after.handles.binding? ⟨1, 1⟩ = none ∧
    after.handles.binding? ⟨3, 1⟩ = engine.handles.binding? ⟨3, 1⟩ ∧
    (∃ mailbox, after.registry.get? ⟨1⟩ = some mailbox) ∧
    after.registry.get? ⟨2⟩ = none := by
  have few : ((start {}).run watchedFeed).registrations ≤ Registry.mostNumbers := by
    decide +kernel
  have running : ((start {}).run watchedFeed).halted = none := by decide +kernel
  obtain ⟨every, stand, left⟩ := closings_commute {} watchedFeed few
    [⟨1, 1⟩, ⟨2, 1⟩, ⟨2, 2⟩] (by decide) (by decide +kernel)
  obtain ⟨ran, registry, handles⟩ := every [⟨2, 2⟩, ⟨2, 1⟩, ⟨1, 1⟩] (by decide)
  have tapped := stand running ⟨3, 1⟩
  rw [if_neg (by decide)] at tapped
  refine ⟨by decide +kernel, ran running, registry, handles, ?_, tapped, ?_, ?_⟩
  · exact (stand running ⟨1, 1⟩).trans (if_pos (by decide))
  · have feed : (((start {}).run watchedFeed).registry.get? ⟨1⟩).isSome = true := by decide +kernel
    obtain ⟨mailbox, found⟩ := Option.isSome_iff_exists.mp feed
    have led : ((start {}).run watchedFeed).handles.binding? ⟨3, 1⟩ = some ⟨⟨1⟩, ⟨4⟩⟩ := by
      decide +kernel
    exact (left running ⟨1⟩).mpr ⟨mailbox, found, Or.inr ⟨⟨3, 1⟩, _, tapped.trans led, rfl⟩⟩
  · rw [← Option.isNone_iff_eq_none]
    decide +kernel

end Engine

end Mailroom
