import Mailroom.Engine.Operation
import Mailroom.Proofs.HandleTable
import Mailroom.Proofs.Mailbox

/-!
Identifiers of mailboxes are only ever compared and handed on. So everything that holds them can be
moved to other identifiers by one offset: what an operation of a mailbox or of a handle table does
to the moved state is what it does to the state, moved.
-/

namespace Mailroom

variable (offset : UInt32)

def MailboxId.moved (id : MailboxId) : MailboxId := ⟨id.number + offset⟩

def Binding.moved (binding : Binding) : Binding :=
  { binding with mailbox := binding.mailbox.moved offset }

def Mailbox.moved (mailbox : Mailbox) : Mailbox := { mailbox with id := mailbox.id.moved offset }

def TaskHandles.moved (task : TaskHandles) : TaskHandles :=
  { task with entries := task.entries.map fun _ binding => binding.moved offset }

def HandleTable.moved (table : HandleTable) : HandleTable :=
  { table with tasks := table.tasks.map fun _ task => task.moved offset }

def Condition.moved (condition : Condition) : Condition :=
  { condition with mailbox := condition.mailbox.moved offset }

def Wakeup.moved (wakeup : Wakeup) : Wakeup :=
  { wakeup with condition := wakeup.condition.moved offset }

def Event.moved : Event → Event
  | .created mailbox name capacity policy creator =>
    .created (mailbox.moved offset) name capacity policy creator
  | .destroyed mailbox name discarded => .destroyed (mailbox.moved offset) name discarded
  | .sent pid mailbox bytes channel => .sent pid (mailbox.moved offset) bytes channel
  | .received pid mailbox bytes lossy => .received pid (mailbox.moved offset) bytes lossy
  | .waiting pid mailbox kind => .waiting pid (mailbox.moved offset) kind
  | .woken pid mailbox kind => .woken pid (mailbox.moved offset) kind
  | .timedOut pid mailbox kind => .timedOut pid (mailbox.moved offset) kind
  | .overrun mailbox pid handle => .overrun (mailbox.moved offset) pid handle
  | .tapped pid mailbox handle enabled => .tapped pid (mailbox.moved offset) handle enabled
  | .exhausted pid reason => .exhausted pid reason

def Snapshot.moved (snapshot : Snapshot) : Snapshot :=
  { snapshot with id := snapshot.id.moved offset }

def Answer.moved : Answer → Answer
  | .condition awaited => .condition (awaited.moved offset)
  | other => other

variable {offset}

namespace MailboxId

theorem moved_injective : Function.Injective (moved offset) := by
  rintro ⟨left⟩ ⟨right⟩ same
  have numbers : left + offset = right + offset := MailboxId.mk.inj same
  rw [(UInt32.add_left_inj offset).mp numbers]

@[simp] theorem moved_inj {left right : MailboxId} :
    left.moved offset = right.moved offset ↔ left = right := moved_injective.eq_iff

theorem moved_surjective : Function.Surjective (moved offset) := by
  rintro ⟨number⟩
  exact ⟨⟨number - offset⟩, by simp [moved]⟩

theorem compare_lt {left right : MailboxId} :
    compare left right = .lt ↔ left.number < right.number :=
  Std.compare_eq_lt (a := left.number) (b := right.number)

theorem toNat_moved {id : MailboxId} (within : id.number.toNat + offset.toNat < 4294967296) :
    (id.moved offset).number.toNat = id.number.toNat + offset.toNat :=
  (UInt32.toNat_add _ _).trans (Nat.mod_eq_of_lt within)

end MailboxId

theorem Binding.moved_surjective : Function.Surjective (Binding.moved offset) := by
  rintro ⟨mailbox, mode⟩
  obtain ⟨id, rfl⟩ := @MailboxId.moved_surjective offset mailbox
  exact ⟨⟨id, mode⟩, rfl⟩

@[simp] theorem Mailbox.moved_id (mailbox : Mailbox) :
    (mailbox.moved offset).id = mailbox.id.moved offset := rfl

theorem Mailbox.moved_surjective : Function.Surjective (Mailbox.moved offset) := by
  intro mailbox
  obtain ⟨id, same⟩ := @MailboxId.moved_surjective offset mailbox.id
  exact ⟨{ mailbox with id }, by simp only [Mailbox.moved, same]⟩

theorem Condition.moved_surjective : Function.Surjective (Condition.moved offset) := by
  rintro ⟨kind, mailbox⟩
  obtain ⟨id, rfl⟩ := @MailboxId.moved_surjective offset mailbox
  exact ⟨⟨kind, id⟩, rfl⟩

namespace Mailbox

def Blind {α : Type} (operation : Mailbox → Except Fault α × Mailbox) : Prop :=
  ∀ (mailbox : Mailbox) (id : MailboxId), operation { mailbox with id } =
    ((operation mailbox).1, { (operation mailbox).2 with id })

theorem Blind.keeps_id {α : Type} {operation : Mailbox → Except Fault α × Mailbox}
    (blind : Blind operation) (mailbox : Mailbox) : (operation mailbox).2.id = mailbox.id :=
  congrArg (fun ended => ended.2.id) (blind mailbox mailbox.id)

theorem Blind.moves {α : Type} {operation : Mailbox → Except Fault α × Mailbox}
    (blind : Blind operation) (mailbox : Mailbox) :
    operation (mailbox.moved offset) =
      ((operation mailbox).1, (operation mailbox).2.moved offset) := by
  rw [moved, blind, moved, blind.keeps_id]

theorem attach_blind (endpoint : Endpoint) (mode : Mode) :
    Blind fun mailbox => (.ok (), mailbox.attach endpoint mode) := fun _ _ => rfl

theorem detach_blind (endpoint : Endpoint) : Blind fun mailbox => mailbox.detach endpoint := by
  intro mailbox id
  simp only [detach]
  split <;> rfl

theorem unpin_blind :
    Blind fun mailbox => (.ok (), { mailbox with persistent := false }) := fun _ _ => rfl

theorem distribute_blind (frame : Frame) : Blind fun mailbox => mailbox.distribute frame := by
  rintro ⟨_, name, capacity, policy, creator, persistent, references, next, queue, subscribers⟩ id
  cases policy with
  | queue =>
      simp only [distribute]
      cases queue.push frame <;> rfl
  | fanoutDrop =>
      simp only [distribute]
      rcases subscribers.replicateReaders frame with ⟨_ | _, _⟩ <;> rfl
  | fanoutBlock =>
      simp only [distribute]
      rcases subscribers.replicateReaders frame with ⟨_ | fanout, _⟩
      · rfl
      · by_cases none : fanout.overrun = [] <;> simp only [none, if_true, if_false]

theorem post_blind (header : Header) (payload : Bytes) :
    Blind fun mailbox => mailbox.post header payload := by
  intro mailbox id
  simp only [post]
  rcases mailbox.subscribers.replicateTaps ⟨mailbox.nextSequence, header, payload⟩ with
    ⟨_ | taps, subscribers⟩
  · rfl
  · have onward := distribute_blind ⟨mailbox.nextSequence, header, payload⟩
      { mailbox with nextSequence := mailbox.nextSequence + 1, subscribers } id
    simp only at onward ⊢
    rw [onward]
    rcases Mailbox.distribute _ _ with ⟨_ | _, _⟩ <;> rfl

theorem marked_blind (mailbox : Mailbox) (source : Endpoint) (id : MailboxId) :
    ({ mailbox with id } : Mailbox).marked source = { mailbox.marked source with id } := by
  by_cases queued : mailbox.policy = .queue <;> simp only [marked, queued, if_true, if_false]

theorem accept_blind (source : Endpoint) (flags : Flags) (channel : UInt16) (payload : Bytes) :
    Blind fun mailbox => mailbox.accept source flags channel payload := by
  let header : Header := ⟨UInt16.ofNat payload.length, flags, source.pid, channel⟩
  let offered (marked : Mailbox) (cost : Nat) : Except Fault Acceptance × Mailbox :=
    if marked.hasRoom cost then marked.post header payload else (.error .wouldBlock, marked)
  have admits : ∀ cost, Blind fun marked => offered marked cost := by
    intro cost marked id
    change (if marked.hasRoom cost then _ else _) = _
    cases room : marked.hasRoom cost with
    | true =>
        simp only [offered, room, if_true]
        exact post_blind header payload marked id
    | false => simp only [offered, room, Bool.false_eq_true, if_false]
  intro mailbox id
  have onward := fun cost => admits cost (mailbox.marked source) id
  simp only [accept]
  cases mailbox.queue.costOf payload.length with
  | error fault => rfl
  | ok cost =>
      simp only
      split
      · rfl
      · change offered (({ mailbox with id } : Mailbox).marked source) cost = _
        rw [marked_blind]
        exact onward cost

theorem take_blind (view : View) (room : Nat) : Blind fun mailbox => mailbox.take view room := by
  intro mailbox id
  cases view <;> rfl

theorem setTap_blind (endpoint : Endpoint) (enabled : Bool) :
    Blind fun mailbox =>
      match mailbox.subscribers.setTap endpoint enabled with
      | .ok subscribers => (.ok (), { mailbox with subscribers })
      | .error fault => (.error fault, mailbox) := by
  intro mailbox id
  simp only
  cases mailbox.subscribers.setTap endpoint enabled <;> rfl

end Mailbox

theorem TaskHandles.search_moved (entries : Table Handle Binding) (tries : Nat) (next : Handle) :
    search (entries.map fun _ binding => binding.moved offset) tries next =
      search entries tries next := by
  induction tries generalizing next with
  | zero => rfl
  | succ tries ih => simp only [search, Std.ExtTreeMap.mem_map, ih]

namespace HandleTable

variable (table : HandleTable)

theorem moved_handlesOf (pid : Pid) :
    (table.moved offset).handlesOf pid = (table.handlesOf pid).moved offset := by
  simp only [handlesOf, moved, Std.ExtTreeMap.getElem?_map]
  cases table.tasks[pid]? with
  | none => rfl
  | some task => rfl

theorem moved_count (pid : Pid) : (table.moved offset).count pid = table.count pid := by
  simp only [count, moved_handlesOf, TaskHandles.moved, Std.ExtTreeMap.size_map]

theorem moved_hasRoom (pid : Pid) : (table.moved offset).hasRoom pid = table.hasRoom pid := by
  simp only [hasRoom, moved_count]
  rfl

theorem moved_binding (endpoint : Endpoint) :
    (table.moved offset).binding? endpoint = (table.binding? endpoint).map (.moved offset) := by
  simp only [binding?, moved_handlesOf, TaskHandles.moved, Std.ExtTreeMap.getElem?_map]

theorem moved_get (endpoint : Endpoint) :
    (table.moved offset).get endpoint = (table.get endpoint).map (.moved offset) := by
  simp only [get, moved_binding]
  cases table.binding? endpoint <;> rfl

theorem moved_setTask (pid : Pid) (task : TaskHandles) :
    (table.moved offset).setTask pid (task.moved offset) =
      (table.setTask pid task).moved offset := by
  simp only [setTask, moved, Table.map_insert]

theorem moved_insert (pid : Pid) (binding : Binding) :
    (table.moved offset).insert pid (binding.moved offset) =
      ((table.insert pid binding).1, (table.insert pid binding).2.moved offset) := by
  simp only [insert, moved_hasRoom, moved_handlesOf]
  cases table.hasRoom pid with
  | false => rfl
  | true =>
      simp only [if_true, TaskHandles.moved, TaskHandles.search_moved]
      rcases TaskHandles.search _ _ _ with ⟨_ | handle, next⟩
      · simp only [← moved_setTask]
        rfl
      · simp only [← moved_setTask, TaskHandles.moved, Table.map_insert]

theorem moved_remove (endpoint : Endpoint) :
    (table.moved offset).remove endpoint =
      ((table.remove endpoint).1.map (.moved offset), (table.remove endpoint).2.moved offset) := by
  simp only [remove, moved_binding, moved_handlesOf]
  cases table.binding? endpoint with
  | none => rfl
  | some binding =>
      simp only [Option.map_some, ← moved_setTask, TaskHandles.moved, Table.map_erase]
      rfl

theorem moved_held (pid : Pid) :
    (table.moved offset).held pid =
      (table.held pid).map (Prod.map id (Binding.moved offset)) := by
  simp only [held, moved_handlesOf, TaskHandles.moved, Std.ExtTreeMap.toList_map]
  rfl

theorem moved_dropTask (pid : Pid) :
    (table.moved offset).dropTask pid = (table.dropTask pid).moved offset := by
  simp only [dropTask, moved, Table.map_erase]

theorem moved_clear : (table.moved offset).clear = table.clear.moved offset := rfl

end HandleTable

end Mailroom
