import Mailroom.Event
import Mailroom.HandleTable
import Mailroom.Limits
import Mailroom.Registry
import Mailroom.Waiting.Condition

/-!
The engine: registry, handle tables, the wakeups and events that its operations leave, and the
reason why it stands still, if it does. An operation answers or fails, and never waits.
-/

namespace Mailroom

structure Engine where
  limits : Limits
  registry : Registry
  handles : HandleTable
  /-- Wakeups not yet handed out, latest first. -/
  wakeups : List Wakeup := []
  /-- Events not yet collected, latest first. -/
  events : List Event := []
  halted : Option String := none
  deriving Inhabited

namespace Engine

def start (limits : Limits) : Engine :=
  let limits := limits.normalized
  { limits
    registry := .withLimit limits.maxDescriptors
    handles := .withLimit limits.handlesPerTask }

def isHalted (engine : Engine) : Bool := engine.halted.isSome

def halt (engine : Engine) (reason : String) : Engine :=
  { engine with halted := some (engine.halted.getD reason) }

def emit (engine : Engine) (event : Event) : Engine :=
  { engine with events := event :: engine.events }

def emitAll (engine : Engine) (events : List Event) : Engine := events.foldl emit engine

def wake (engine : Engine) (condition : Condition) (scope : WakeScope) : Engine :=
  { engine with wakeups := ⟨condition, scope⟩ :: engine.wakeups }

def wakeEveryone (engine : Engine) (mailbox : MailboxId) : Engine :=
  (Condition.allOf mailbox).foldl (fun engine condition => engine.wake condition .all) engine

def drainWakeups (engine : Engine) : List Wakeup × Engine :=
  (engine.wakeups.reverse, { engine with wakeups := [] })

def drainEvents (engine : Engine) : List Event × Engine :=
  (engine.events.reverse, { engine with events := [] })

end Engine

def Step (α : Type) : Type := Engine → Except Fault α × Engine

namespace Step

def pure {α : Type} (answer : α) : Step α := fun engine => (.ok answer, engine)

/-- Goes on with the answer of the first step. A fault ends both, and what was done stays done. -/
def bind {α β : Type} (first : Step α) (next : α → Step β) : Step β := fun engine =>
  match first engine with
  | (.ok answer, after) => next answer after
  | (.error fault, after) => (.error fault, after)

instance : Monad Step where
  pure := Step.pure
  bind := Step.bind

def fail {α : Type} (fault : Fault) : Step α := fun engine => (.error fault, engine)

def inspect {α : Type} (look : Engine → Except Fault α) : Step α := fun engine =>
  (look engine, engine)

def change (edit : Engine → Engine) : Step Unit := fun engine => (.ok (), edit engine)

def forEach {α : Type} (action : α → Step Unit) : List α → Step Unit
  | [] => Step.pure ()
  | item :: rest => Step.bind (action item) fun _ => forEach action rest

/-- A halted engine refuses the step, and a fatal fault halts the engine. -/
def guarded {α : Type} (step : Step α) : Step α := fun engine =>
  match engine.halted with
  | some reason => (.error (.internal ("engine halted: " ++ reason)), engine)
  | none =>
    match step engine with
    | (.ok answer, after) => (.ok answer, after)
    | (.error fault, after) =>
      (.error fault, if fault.isFatal then after.halt fault.message else after)

end Step

namespace Engine

def mailboxOf (id : MailboxId) : Step Mailbox := Step.inspect fun engine =>
  match engine.registry.get? id with
  | some mailbox => .ok mailbox
  | none => .error (.internal ("dangling binding to " ++ id.text))

def bindingOf (endpoint : Endpoint) : Step Binding := Step.inspect fun engine =>
  engine.handles.get endpoint

def putMailbox (mailbox : Mailbox) : Step Unit := Step.change fun engine =>
  { engine with registry := engine.registry.update mailbox }

/-- Runs an operation of one mailbox. The mailbox it leaves is kept, whether it fails or not. -/
def onMailbox {α : Type} (id : MailboxId) (operation : Mailbox → Except Fault α × Mailbox) :
    Step α := do
  let mailbox ← mailboxOf id
  let (outcome, after) := operation mailbox
  putMailbox after
  Step.inspect fun _ => outcome

end Engine

end Mailroom
