import Mailroom.Engine.State

/-!
Opening and closing: handles come from opening a mailbox by name or binding a new one, and a
mailbox goes when its last handle is closed and nothing else keeps it.
-/

namespace Mailroom.Engine

def needHandle (pid : Pid) : Step Unit := fun engine =>
  if engine.handles.hasRoom pid then (.ok (), engine)
  else (.error (.handleQuota pid), engine.emit (.exhausted pid .handleLimit))

def create (creator : Pid) (name : Name) (capacity : UInt16) (policy : Policy)
    (persistent : Bool) : Step MailboxId := fun engine =>
  match engine.registry.insert
      fun id => Mailbox.empty id name capacity policy creator persistent with
  | (.ok id, registry) =>
    (.ok id,
      { engine with registry }.emit (.created id name.canonical capacity policy creator))
  | (.error .descriptorsExhausted, registry) =>
    (.error .descriptorsExhausted,
      { engine with registry }.emit (.exhausted creator .descriptorPoolFull))
  | (.error fault, registry) => (.error fault, { engine with registry })

def attach (pid : Pid) (id : MailboxId) (mode : Mode) : Step Handle := do
  let handle ← (fun engine =>
    let (outcome, handles) := engine.handles.insert pid ⟨id, mode⟩
    (outcome, { engine with handles }) : Step Handle)
  onMailbox id fun mailbox => (.ok (), mailbox.attach ⟨pid, handle⟩ mode)
  return handle

/-- The mailbox that opening a name leads to. Well-known names are bound when they are first
opened. -/
def findToOpen (pid : Pid) (name : Name) (mode : Mode) : Step MailboxId := fun engine =>
  match engine.registry.resolve? name with
  | some id => (.ok id, engine)
  | none =>
    if name.isWellKnown then
      create pid name engine.limits.defaultCapacity mode.policy true engine
    else (.error (.unknownMailbox name.canonical), engine)

def findToBind (pid : Pid) (name : Name) (capacity : UInt16) (mode : Mode) : Step MailboxId := do
  match ← Step.inspect fun engine => .ok (engine.registry.resolve? name) with
  | some id =>
    let mailbox ← mailboxOf id
    if mailbox.capacity = capacity ∧ mailbox.policy = mode.policy then return id
    else Step.fail (.alreadyBound name.canonical)
  | none => create pid name capacity mode.policy name.isWellKnown

def readMode (word : UInt16) : Step Mode := Step.inspect fun _ => Mode.ofWord word

def readName (raw : String) (caller : Pid) : Step Name := Step.inspect fun _ =>
  (Name.parse raw caller).mapError NameFault.fault

def readCapacity (capacity : UInt16) : Step Unit := Step.inspect fun engine =>
  if capacity = 0 ∨ capacity > engine.limits.maxCapacity then
    .error (.invalidCapacity capacity.toUInt32)
  else .ok ()

def openName (pid : Pid) (raw : String) (word : UInt16) : Step Handle := Step.guarded do
  let mode ← readMode word
  let name ← readName raw pid
  needHandle pid
  let id ← findToOpen pid name mode
  attach pid id mode

def bindName (pid : Pid) (raw : String) (capacity : UInt16) (word : UInt16) : Step Handle :=
  Step.guarded do
    let mode ← readMode word
    let name ← readName raw pid
    readCapacity capacity
    needHandle pid
    let id ← findToBind pid name capacity mode
    attach pid id mode

def destroy (engine : Engine) (id : MailboxId) : Engine :=
  match engine.registry.remove id with
  | (none, _) => engine
  | (some mailbox, registry) =>
    ({ engine with registry }.wakeEveryone id).emit
      (.destroyed id mailbox.name.canonical mailbox.pending)

/-- Drops a handle from its mailbox. Calls that wait on the mailbox look again, for the handle
may be theirs, or may have held them back. -/
def detach (endpoint : Endpoint) (id : MailboxId) : Step Unit := do
  onMailbox id fun mailbox => mailbox.detach endpoint
  let mailbox ← mailboxOf id
  Step.change fun engine =>
    if mailbox.isUnreferenced then engine.destroy id else engine.wakeEveryone id

def takeBinding (endpoint : Endpoint) : Step Binding := fun engine =>
  let (outcome, handles) := engine.handles.remove endpoint
  (outcome, { engine with handles })

def close (endpoint : Endpoint) : Step Unit := Step.guarded do
  let binding ← takeBinding endpoint
  detach endpoint binding.mailbox

end Mailroom.Engine
