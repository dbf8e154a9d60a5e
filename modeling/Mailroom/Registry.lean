import Mailroom.Mailbox.Basic

/-!
The registry owns every mailbox. Names lead to identifiers and identifiers to mailboxes;
identifiers are 32-bit words that come round after the largest.
-/

namespace Mailroom

structure Registry where
  limit : Nat
  nextId : UInt32 := 1
  names : Table Name MailboxId := ∅
  mailboxes : Table MailboxId Mailbox := ∅
  deriving Inhabited

namespace Registry

def withLimit (limit : Nat) : Registry := { limit := max limit 1 }

def size (registry : Registry) : Nat := registry.mailboxes.size

def resolve? (registry : Registry) (name : Name) : Option MailboxId := registry.names[name]?

def get? (registry : Registry) (id : MailboxId) : Option Mailbox := registry.mailboxes[id]?

def toList (registry : Registry) : List Mailbox := registry.mailboxes.values

def update (registry : Registry) (mailbox : Mailbox) : Registry :=
  { registry with mailboxes := registry.mailboxes.insert mailbox.id mailbox }

/-- Registers a new mailbox under its name. The identifier is used up even if the name is
taken. -/
def insert (registry : Registry) (make : MailboxId → Mailbox) :
    Except Fault MailboxId × Registry :=
  if registry.size ≥ registry.limit then (.error .descriptorsExhausted, registry)
  else
    let id : MailboxId := ⟨registry.nextId⟩
    let advanced := { registry with nextId := max (registry.nextId + 1) 1 }
    let mailbox := make id
    if mailbox.name ∈ registry.names then
      (.error (.internal (mailbox.name.canonical ++ " registered twice")), advanced)
    else
      (.ok id,
        { advanced with
          names := registry.names.insert mailbox.name id
          mailboxes := registry.mailboxes.insert id mailbox })

def remove (registry : Registry) (id : MailboxId) : Option Mailbox × Registry :=
  match registry.get? id with
  | none => (none, registry)
  | some mailbox =>
    (some mailbox,
      { registry with
        names := registry.names.erase mailbox.name
        mailboxes := registry.mailboxes.erase id })

def modifyAll (registry : Registry) (change : Mailbox → Mailbox) : Registry :=
  { registry with mailboxes := registry.mailboxes.map fun _ mailbox => change mailbox }

end Registry

end Mailroom
