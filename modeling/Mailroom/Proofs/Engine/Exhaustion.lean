import Mailroom.Proofs.Engine.Renumbering

/-!
Numbers are used up by mailboxes that come and go. An engine in which a task binds a mailbox and is
reaped, again and again, stays as it was, but for the numbers it has still to give out.
-/

namespace Mailroom.Engine

open Step

/-- A task without handles that makes a mailbox which goes with it. -/
structure Guest where
  pid : Pid
  raw : String
  name : Name
  capacity : UInt16
  word : UInt16
  mode : Mode

namespace Guest

variable (guest : Guest) (engine : Engine)

def operations : List Operation :=
  [.bindName guest.pid guest.raw guest.capacity guest.word, .reap guest.pid]

def mailbox (id : MailboxId) : Mailbox :=
  .empty id guest.name guest.capacity guest.mode.policy guest.pid false

def seated (id : MailboxId) : Mailbox := (guest.mailbox id).attach ⟨guest.pid, 1⟩ guest.mode

def made : Engine :=
  let id : MailboxId := ⟨engine.registry.nextId⟩
  { engine with registry := engine.registry.added (guest.mailbox id) }.emit
    (.created id guest.name.canonical guest.capacity guest.mode.policy guest.pid)

def handles : HandleTable :=
  engine.handles.setTask guest.pid
    { next := 2
      entries := (∅ : Table Handle Binding).insert 1 ⟨⟨engine.registry.nextId⟩, guest.mode⟩ }

def bound : Engine :=
  { guest.made engine with
    registry := (guest.made engine).registry.update (guest.seated ⟨engine.registry.nextId⟩)
    handles := guest.handles engine }

def reaped : Engine :=
  let id : MailboxId := ⟨engine.registry.nextId⟩
  { engine with
    registry := { engine.registry with nextId := max (engine.registry.nextId + 1) 1 }
    wakeups := rousing id ++ (rousing id ++ engine.wakeups)
    events := .destroyed id guest.name.canonical
      ((guest.seated id).detached ⟨guest.pid, 1⟩).pending :: (guest.made engine).events }

end Guest

structure Welcomes (engine : Engine) (guest : Guest) : Prop where
  asks : Mode.ofWord guest.word = .ok guest.mode
  reads : Name.parse guest.raw guest.pid = .ok guest.name
  passing : guest.name.isWellKnown = false
  usable : guest.capacity ≠ 0 ∧ guest.capacity ≤ engine.limits.maxCapacity
  running : engine.halted = none
  idle : engine.handles.tasks[guest.pid]? = none
  quota : 0 < engine.handles.limit
  owning : engine.ownedBy guest.pid = []
  room : engine.registry.size < engine.registry.limit
  unnamed : engine.registry.resolve? guest.name = none

variable {engine : Engine} {guest : Guest}

theorem Welcomes.binds (welcomes : engine.Welcomes guest) :
    bindName guest.pid guest.raw guest.capacity guest.word engine =
      (.ok 1, guest.bound engine) := by
  let id : MailboxId := ⟨engine.registry.nextId⟩
  have nobody : engine.handles.handlesOf guest.pid = {} := by
    simp only [HandleTable.handlesOf, welcomes.idle, Option.getD_none]
  have vacant : engine.handles.hasRoom guest.pid = true := by
    simp only [HandleTable.hasRoom, HandleTable.count, nobody]
    exact decide_eq_true welcomes.quota
  have modes : readMode guest.word engine = (.ok guest.mode, engine) := by
    simp only [readMode, Step.inspect, welcomes.asks]
  have names : readName guest.raw guest.pid engine = (.ok guest.name, engine) := by
    simp only [readName, Step.inspect, welcomes.reads, Except.mapError]
  have fits : ¬ (guest.capacity = 0 ∨ guest.capacity > engine.limits.maxCapacity) :=
    not_or.mpr ⟨welcomes.usable.1, UInt16.not_lt.mpr welcomes.usable.2⟩
  have capacities : readCapacity guest.capacity engine = (.ok (), engine) := by
    simp only [readCapacity, Step.inspect, if_neg fits]
  have needs : needHandle guest.pid engine = (.ok (), engine) := by
    simp only [needHandle, vacant, if_true]
  have finds : findToBind guest.pid guest.name guest.capacity guest.mode engine =
      (.ok id, guest.made engine) := by
    simp only [findToBind_eq, welcomes.unnamed, welcomes.passing]
    exact create_room welcomes.room welcomes.unnamed
  have given : engine.handles.insert guest.pid ⟨id, guest.mode⟩ =
      (.ok 1, guest.handles engine) := by
    simp only [HandleTable.insert, vacant, if_true, nobody]
    rfl
  have gives : giveHandle guest.pid ⟨id, guest.mode⟩ (guest.made engine) =
      (.ok 1, { guest.made engine with handles := guest.handles engine }) :=
    congrArg (fun given : Except Fault Handle × HandleTable =>
      (given.1, { guest.made engine with handles := given.2 })) given
  have there : (guest.made engine).registry.get? id = some (guest.mailbox id) :=
    (Registry.added_get _ _ _).trans (if_pos rfl)
  have attaches : attach guest.pid id guest.mode (guest.made engine) =
      (.ok 1, guest.bound engine) := by
    rw [attach_eq, bind_ok gives]
    exact bind_ok (onMailbox_found _ there rfl)
  refine guarded_running welcomes.running ?_ (mild_ok _)
  rw [bind_ok modes, bind_ok names, bind_ok capacities, bind_ok needs, bind_ok finds, attaches]

theorem Welcomes.removes (welcomes : engine.Welcomes guest)
    (unused : engine.registry.get? ⟨engine.registry.nextId⟩ = none) {mailbox : Mailbox}
    (named : mailbox.name = guest.name) (placed : mailbox.id = ⟨engine.registry.nextId⟩) :
    ((guest.bound engine).registry.update mailbox).remove ⟨engine.registry.nextId⟩ =
      (some mailbox, (guest.reaped engine).registry) := by
  have names : (guest.bound engine).registry.names.erase mailbox.name = engine.registry.names := by
    rw [named]
    exact Table.erase_insert welcomes.unnamed _
  have mailboxes : ((guest.bound engine).registry.update mailbox).mailboxes.erase
      ⟨engine.registry.nextId⟩ = engine.registry.mailboxes := by
    apply Table.ext_at
    intro other
    rw [Table.erase_at]
    split
    · rename_i same
      exact same ▸ unused.symm
    · rename_i apart
      refine (Registry.update_elsewhere _ placed (Ne.symm apart)).trans ?_
      refine (Registry.update_elsewhere _ rfl (Ne.symm apart)).trans ?_
      exact (Registry.added_get _ _ _).trans (if_neg apart)
  simp only [Registry.remove, Registry.update_here (guest.bound engine).registry placed]
  exact congrArg₂ (fun names mailboxes => (some mailbox,
    { (guest.reaped engine).registry with names, mailboxes })) names mailboxes

theorem Welcomes.reaps (welcomes : engine.Welcomes guest)
    (unused : engine.registry.get? ⟨engine.registry.nextId⟩ = none) :
    reapTask guest.pid (guest.bound engine) = (.ok 1, guest.reaped engine) := by
  let id : MailboxId := ⟨engine.registry.nextId⟩
  let last := (guest.seated id).detached ⟨guest.pid, 1⟩
  let dropped : Engine := { guest.bound engine with handles := engine.handles }
  let roused := dropped.wakeEveryone id
  let unheld : Engine := { roused with registry := roused.registry.update last }
  have holds : (guest.bound engine).handles.held guest.pid = [(1, ⟨id, guest.mode⟩)] := by
    simp only [HandleTable.held, Guest.bound, Guest.handles, HandleTable.setTask_handlesOf, if_true]
    rfl
  have looks : Step.inspect (fun engine => .ok (engine.handles.held guest.pid))
      (guest.bound engine) = (.ok [(1, ⟨id, guest.mode⟩)], guest.bound engine) := by
    rw [Step.inspect, holds]
  have erased : (guest.handles engine).dropTask guest.pid = engine.handles :=
    congrArg (HandleTable.mk _) (Table.erase_insert welcomes.idle _)
  have drops : dropTask guest.pid (guest.bound engine) = (.ok (), dropped) :=
    congrArg (fun handles => ((.ok () : Except Fault Unit), { guest.bound engine with handles }))
      erased
  have found : roused.registry.get? id = some (guest.seated id) := Registry.update_here _ rfl
  have detached := onMailbox_found (fun mailbox => mailbox.detach ⟨guest.pid, 1⟩) found
    (Mailbox.detach_eq _ (Nat.succ_ne_zero 0))
  have remains : unheld.registry.get? id = some last := Registry.update_here _ rfl
  have removed : unheld.registry.remove id = (some last, (guest.reaped engine).registry) :=
    welcomes.removes unused rfl rfl
  have destroyed : unheld.destroy id = guest.reaped engine := by
    rw [destroy_of_found id removed]
    rfl
  have detaches : detach ⟨guest.pid, 1⟩ id roused = (.ok (), guest.reaped engine) := by
    have unreferenced : last.isUnreferenced = true := rfl
    rw [detach, bind_ok detached, bind_ok (mailboxOf_found remains)]
    simp only [Step.change, unreferenced, if_true]
    exact congrArg (Prod.mk _) destroyed
  have releases : Step.forEach (release guest.pid) [(1, ⟨id, guest.mode⟩)] dropped =
      (.ok (), guest.reaped engine) := by
    have rouses : Step.change (fun engine => engine.wakeEveryone id) dropped = (.ok (), roused) :=
      rfl
    have first : release guest.pid (1, ⟨id, guest.mode⟩) dropped =
        (.ok (), guest.reaped engine) := by
      rw [release, bind_ok rouses, detaches]
    rw [Step.forEach]
    exact bind_ok first
  have owns : Step.inspect (fun engine => .ok (engine.ownedBy guest.pid)) (guest.reaped engine) =
      (.ok [], guest.reaped engine) :=
    congrArg (fun owned => ((.ok owned : Except Fault (List MailboxId)), guest.reaped engine))
      welcomes.owning
  refine guarded_running welcomes.running ?_ (mild_ok _)
  rw [bind_ok looks, bind_ok drops, bind_ok releases, bind_ok owns]
  rfl

theorem Welcomes.visited (welcomes : engine.Welcomes guest)
    (unused : engine.registry.get? ⟨engine.registry.nextId⟩ = none) :
    engine.run guest.operations = guest.reaped engine := by
  have binds : ((Operation.bindName guest.pid guest.raw guest.capacity guest.word).step
      engine).2 = guest.bound engine := by
    rw [Operation.step, Step.map_after, welcomes.binds]
  have reaps : ((Operation.reap guest.pid).step (guest.bound engine)).2 = guest.reaped engine := by
    rw [Operation.step, Step.map_after, welcomes.reaps unused]
  simp only [run, Guest.operations, List.foldl_cons, List.foldl_nil, binds, reaps]

theorem Welcomes.again (welcomes : engine.Welcomes guest) :
    (guest.reaped engine).Welcomes guest :=
  ⟨welcomes.asks, welcomes.reads, welcomes.passing, welcomes.usable, welcomes.running,
    welcomes.idle, welcomes.quota, welcomes.owning, welcomes.room, welcomes.unnamed⟩

/-- Any number of guests come and go, and leave the engine as it was but for its numbers. -/
theorem guests_use_numbers (count : Nat) {engine : Engine} (sound : engine.scene.Sound)
    (welcomes : engine.Welcomes guest) (few : engine.registrations + count < Registry.mostNumbers) :
    let after := engine.run (List.replicate count guest.operations).flatten
    after.registrations = engine.registrations + count ∧
      after.registry.nextId.toNat = engine.registrations + count + 1 ∧
      after = { engine with
        registry := { engine.registry with nextId := after.registry.nextId }
        wakeups := after.wakeups
        events := after.events } := by
  induction count generalizing engine with
  | zero => exact ⟨rfl, sound.numbered.next_eq few, rfl⟩
  | succ count ih =>
      have fewer : engine.registrations < Registry.mostNumbers := by omega
      have visited := welcomes.visited (sound.numbered.unused fewer)
      have counted : (guest.reaped engine).registrations = engine.registrations + 1 := by
        simp [registrations, Guest.reaped, Guest.made, emit, Event.isCreated, List.countP_cons]
      have later : (guest.reaped engine).scene.Sound := by
        rw [← visited]
        exact run_sound _ sound (by rw [visited]; omega)
      obtain ⟨total, next, rest⟩ := ih later welcomes.again (by omega)
      have onward : engine.run (List.replicate (count + 1) guest.operations).flatten =
          (guest.reaped engine).run (List.replicate count guest.operations).flatten := by
        rw [← visited]
        exact List.foldl_append
      rw [onward]
      exact ⟨by omega, by omega, rest⟩

end Mailroom.Engine
