import Mailroom.Engine.Opening

/-!
The life of tasks and of the engine: a registered task has its control mailbox and three
standard streams, a reaped task leaves nothing behind, and a reset clears everything.
-/

namespace Mailroom

structure StandardHandles where
  stdin : Handle
  stdout : Handle
  stderr : Handle
  deriving DecidableEq, Repr, Inhabited

structure Snapshot where
  id : MailboxId
  name : String
  scheme : Scheme
  owner : Option Pid
  creator : Pid
  capacity : UInt16
  used : Nat
  depth : Nat
  policy : Policy
  references : Nat
  persistent : Bool
  readers : Nat
  taps : Nat
  deriving DecidableEq, Repr, Inhabited

def Mailbox.snapshot (mailbox : Mailbox) : Snapshot :=
  { id := mailbox.id
    name := mailbox.name.canonical
    scheme := mailbox.name.scheme
    owner := mailbox.name.owner
    creator := mailbox.creator
    capacity := mailbox.capacity
    used := mailbox.queue.used
    depth := mailbox.queue.depth
    policy := mailbox.policy
    references := mailbox.references
    persistent := mailbox.persistent
    readers := mailbox.subscribers.readerCount
    taps := mailbox.subscribers.tapCount }

namespace Engine

def ensureControl (pid : Pid) : Step Unit := Step.guarded fun engine =>
  match engine.registry.resolve? (Name.control pid) with
  | some _ => (.ok (), engine)
  | none =>
    let (outcome, after) :=
      create pid (Name.control pid) engine.limits.defaultCapacity .queue true engine
    (outcome.map fun _ => (), after)

def closeEach (pid : Pid) (engine : Engine) (handles : List Handle) : Engine :=
  handles.foldl (fun engine handle => (close ⟨pid, handle⟩ engine).2) engine

/-- Opens a standard stream, and closes the ones before it if that fails. -/
def openStream (pid : Pid) (raw : String) (opened : List Handle) : Step Handle := fun engine =>
  match openName pid raw Mode.readWrite.bits engine with
  | (.ok handle, after) => (.ok handle, after)
  | (.error fault, after) => (.error fault, closeEach pid after opened)

def registerTask (pid : Pid) : Step StandardHandles := do
  ensureControl pid
  let stdin ← openStream pid "svc:stdio.in" []
  let stdout ← openStream pid "svc:stdio.out" [stdin]
  let stderr ← openStream pid "svc:stdio.err" [stdin, stdout]
  return { stdin, stdout, stderr }

def release (pid : Pid) (entry : Handle × Binding) : Step Unit := do
  Step.change fun engine => engine.wakeEveryone entry.2.mailbox
  detach ⟨pid, entry.1⟩ entry.2.mailbox

def ownedBy (engine : Engine) (pid : Pid) : List MailboxId :=
  (engine.registry.toList.filter fun mailbox =>
    mailbox.persistent && mailbox.name.owner = some pid).map Mailbox.id

def unpin (id : MailboxId) : Step Unit := do
  onMailbox id fun mailbox => (.ok (), { mailbox with persistent := false })
  let mailbox ← mailboxOf id
  Step.change fun engine => if mailbox.isUnreferenced then engine.destroy id else engine

def dropTask (pid : Pid) : Step Unit := Step.change fun engine =>
  { engine with handles := engine.handles.dropTask pid }

def reapTask (pid : Pid) : Step Nat := Step.guarded do
  let held ← Step.inspect fun engine => .ok (engine.handles.held pid)
  dropTask pid
  Step.forEach (release pid) held
  let owned ← Step.inspect fun engine => .ok (engine.ownedBy pid)
  Step.forEach unpin owned
  return held.length

/-- Destroys every mailbox, forgets every handle and lets a halted engine go on. Wakeups not yet
handed out stay, and identifiers go on from where they were. -/
def reset (engine : Engine) : Engine :=
  let cleared := (engine.registry.toList.map Mailbox.id).foldl destroy engine
  { cleared with handles := cleared.handles.clear, halted := none }

def snapshot (engine : Engine) : List Snapshot := engine.registry.toList.map Mailbox.snapshot

end Engine

end Mailroom
