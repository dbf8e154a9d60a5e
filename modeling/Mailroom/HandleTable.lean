import Mailroom.Mode

/-!
Handle tables: which mailbox each handle of each task stands for. Numbers grow from one and skip
those in use, so a closed number is given out again only after a full turn of the counter.
-/

namespace Mailroom

structure Binding where
  mailbox : MailboxId
  mode : Mode
  deriving DecidableEq, Repr, Inhabited

structure TaskHandles where
  next : Handle := 1
  entries : Table Handle Binding := ∅
  deriving Inhabited

namespace TaskHandles

/-- The number tried after `handle`. Zero is never a handle. -/
def following (handle : Handle) : Handle := max (handle + 1) 1

/-- Tries numbers from `next` on until one is free, and tells where to go on. -/
def search (entries : Table Handle Binding) : Nat → Handle → Option Handle × Handle
  | 0, next => (none, next)
  | tries + 1, next =>
    if next ≠ 0 ∧ next ∉ entries then (some next, following next)
    else search entries tries (following next)

def most : Nat := 0xffff

end TaskHandles

structure HandleTable where
  limit : Nat
  tasks : Table Pid TaskHandles := ∅
  deriving Inhabited

namespace HandleTable

def withLimit (limit : Nat) : HandleTable := { limit := min (max limit 1) TaskHandles.most }

def handlesOf (table : HandleTable) (pid : Pid) : TaskHandles := table.tasks[pid]?.getD {}

def count (table : HandleTable) (pid : Pid) : Nat := (table.handlesOf pid).entries.size

def hasRoom (table : HandleTable) (pid : Pid) : Bool := table.count pid < table.limit

def binding? (table : HandleTable) (endpoint : Endpoint) : Option Binding :=
  (table.handlesOf endpoint.pid).entries[endpoint.handle]?

def get (table : HandleTable) (endpoint : Endpoint) : Except Fault Binding :=
  match table.binding? endpoint with
  | some binding => .ok binding
  | none => .error (.invalidHandle endpoint.pid endpoint.handle)

def setTask (table : HandleTable) (pid : Pid) (task : TaskHandles) : HandleTable :=
  { table with tasks := table.tasks.insert pid task }

def insert (table : HandleTable) (pid : Pid) (binding : Binding) :
    Except Fault Handle × HandleTable :=
  if table.hasRoom pid then
    let task := table.handlesOf pid
    match TaskHandles.search task.entries TaskHandles.most task.next with
    | (some handle, next) =>
      (.ok handle, table.setTask pid { next, entries := task.entries.insert handle binding })
    | (none, next) => (.error (.handleQuota pid), table.setTask pid { task with next })
  else (.error (.handleQuota pid), table)

/-- Takes a handle away. Its number is not tried again before the counter comes round. -/
def remove (table : HandleTable) (endpoint : Endpoint) : Except Fault Binding × HandleTable :=
  match table.binding? endpoint with
  | some binding =>
    let task := table.handlesOf endpoint.pid
    (.ok binding,
      table.setTask endpoint.pid { task with entries := task.entries.erase endpoint.handle })
  | none => (.error (.invalidHandle endpoint.pid endpoint.handle), table)

def held (table : HandleTable) (pid : Pid) : List (Handle × Binding) :=
  (table.handlesOf pid).entries.toList

def dropTask (table : HandleTable) (pid : Pid) : HandleTable :=
  { table with tasks := table.tasks.erase pid }

def clear (table : HandleTable) : HandleTable := { table with tasks := ∅ }

end HandleTable

end Mailroom
