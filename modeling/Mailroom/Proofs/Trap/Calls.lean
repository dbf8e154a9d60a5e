import Mailroom.Proofs.Engine.Transfer
import Mailroom.Proofs.Trap.Memory
import Mailroom.Trap.Service

/-!
What traps ask for: which call a trap stands for, what of memory has a say in it, and what its
function is answered with.
-/

namespace Mailroom

def Selector.results : Selector → Nat
  | .openName | .bindName | .send => 1
  | .receive => 4
  | .peek => 3
  | .tap | .close => 0

def Receipt.Fits (receipt : Receipt) (room : Nat) : Prop :=
  receipt.payload.length ≤ room ∧
    receipt.header.length = UInt16.ofNat receipt.payload.length

/-- What the functions are answered with. -/
inductive Selector.Answers (room : Nat) : Selector → Answer → Prop
  | openName (handle : Handle) : Answers room .openName (.handle handle)
  | bindName (handle : Handle) : Answers room .bindName (.handle handle)
  | send (count : Nat) : Answers room .send (.count count)
  | receive {receipt : Receipt} (fits : receipt.Fits room) :
      Answers room .receive (.receipt receipt)
  | peek (peek : Peek) : Answers room .peek (.peek peek)
  | tap : Answers room .tap .nothing
  | close : Answers room .close .nothing

theorem Selector.Answers.length {room : Nat} {selector : Selector} {answer : Answer}
    (answers : selector.Answers room answer) :
    (Trap.results answer).length = selector.results := by
  cases answers <;> rfl

theorem Frame.deliver_fits (frame : Frame) (room : Nat) : (frame.deliver room).Fits room :=
  ⟨List.length_take_le _ _, rfl⟩

theorem Subscription.take_fits {subscription : Subscription} {room : Nat} {receipt : Receipt}
    (taken : (subscription.take room).1 = .ok (some receipt)) : receipt.Fits room := by
  cases popped : subscription.ring.pop with
  | mk outcome ring =>
      simp only [take, popped] at taken
      rcases outcome with fault | _ | frame <;> cases taken
      exact frame.deliver_fits room

theorem Mailbox.take_fits {mailbox : Mailbox} {view : View} {room : Nat} {receipt : Receipt}
    (taken : (mailbox.take view room).1 = .ok (some receipt)) : receipt.Fits room := by
  cases view with
  | queue =>
      simp only [take] at taken
      rcases popped : mailbox.queue.pop.1 with fault | _ | frame <;> rw [popped] at taken <;>
        cases taken
      exact frame.deliver_fits room
  | subscriber endpoint | tap endpoint =>
      cases present : mailbox.subscribers[endpoint]? with
      | none =>
          simp only [take, Subscribers.take, present] at taken
          cases taken
      | some subscription =>
          simp only [take, Subscribers.take, present] at taken
          exact subscription.take_fits taken

namespace Engine

open Step

variable {engine after : Engine} {endpoint : Endpoint}

theorem onMailbox_answers {α : Type} {id : MailboxId}
    {operation : Mailbox → Except Fault α × Mailbox} {answer : α}
    (ran : onMailbox id operation engine = (.ok answer, after)) :
    ∃ mailbox, (operation mailbox).1 = .ok answer := by
  cases found : engine.registry.get? id with
  | none =>
      rw [onMailbox_missing operation found] at ran
      cases ran
  | some mailbox =>
      rw [onMailbox_found operation found rfl] at ran
      exact ⟨mailbox, congrArg Prod.fst ran⟩

theorem tryReceive_answers {room : Nat} {receipt : Receipt}
    (ran : tryReceive endpoint room engine = (.ok receipt, after)) : receipt.Fits room := by
  rw [tryReceive_eq] at ran
  obtain ⟨seen, middle, _, rest⟩ := bind_answers (guarded_answers ran)
  obtain ⟨taken?, last, took, told⟩ := bind_answers rest
  obtain ⟨mailbox, taken⟩ := onMailbox_answers took
  cases taken? with
  | none => cases told
  | some other =>
      cases told
      exact Mailbox.take_fits taken

end Engine

theorem bind_gives {α β : Type} {first : Except Fault α} {next : α → Except Fault β} {answer : β}
    (ran : (first >>= next) = .ok answer) :
    ∃ given, first = .ok given ∧ next given = .ok answer := by
  cases first with
  | ok given => exact ⟨given, rfl, ran⟩
  | error fault => cases ran

theorem Selector.code_of_ofCode {code : UInt8} {selector : Selector}
    (known : ofCode code = .ok selector) : selector.code = code := by
  unfold ofCode at known
  split at known
  · rename_i found
    cases known
    simpa using List.find?_some found
  · cases known

namespace Trap

variable {trap : Trap} {memory : Memory} {selector : Selector} {call : Call} {answer : Answer}

inductive Prepares (trap : Trap) (memory : Memory) : Selector → Call → Prop
  | openName (name : String) (mode : UInt16) :
      Prepares trap memory .openName (.now (.openName trap.pid name mode))
  | bindName (name : String) (capacity mode : UInt16) :
      Prepares trap memory .bindName (.now (.bindName trap.pid name capacity mode))
  | send (handle : Handle) (payload : Bytes) (flags channel : UInt16) (timeout : Timeout) :
      Prepares trap memory .send
        (.transfer (.send ⟨trap.pid, handle⟩ payload flags channel) timeout)
  | receive (handle : Handle) (timeout : Timeout)
      (checked : checkDestinations memory trap.buffer trap.frame.r3.toNat trap.info = .ok ()) :
      Prepares trap memory .receive
        (.transfer (.receive ⟨trap.pid, handle⟩ trap.frame.r3.toNat) timeout)
  | peek (handle : Handle) : Prepares trap memory .peek (.now (.peek ⟨trap.pid, handle⟩))
  | tap (handle : Handle) (enabled : Bool) :
      Prepares trap memory .tap (.now (.tap ⟨trap.pid, handle⟩ enabled))
  | close (handle : Handle) : Prepares trap memory .close (.now (.close ⟨trap.pid, handle⟩))

def Asks (trap : Trap) (selector : Selector) : Prop :=
  trap.frame.service = TrapFrame.mailboxService ∧ trap.frame.selector = selector.code

theorem Asks.isReceive_iff (asks : trap.Asks selector) :
    trap.isReceive = true ↔ selector = .receive := by
  simp only [isReceive, asks.1, asks.2, decide_true, Bool.true_and, decide_eq_true_eq]
  cases selector <;> decide

theorem prepare_cases (read : trap.prepare memory = .ok call) :
    ∃ selector, trap.Asks selector ∧ trap.Prepares memory selector call := by
  obtain ⟨asked, decoded, called⟩ := bind_gives read
  unfold TrapCall.decode at decoded
  split at decoded
  · cases decoded
  · rename_i other
    obtain ⟨selector, known, decoded⟩ := bind_gives decoded
    have asks : trap.Asks selector := ⟨not_not.mp other, (Selector.code_of_ofCode known).symm⟩
    refine ⟨selector, asks, ?_⟩
    cases selector with
    | openName =>
        obtain ⟨name, _, decoded⟩ := bind_gives decoded
        obtain ⟨mode, _, decoded⟩ := bind_gives decoded
        cases decoded
        cases called
        exact .openName name mode
    | bindName =>
        obtain ⟨name, _, decoded⟩ := bind_gives decoded
        obtain ⟨capacity, _, decoded⟩ := bind_gives decoded
        obtain ⟨mode, _, decoded⟩ := bind_gives decoded
        cases decoded
        cases called
        exact .bindName name capacity mode
    | send =>
        obtain ⟨handle, _, decoded⟩ := bind_gives decoded
        obtain ⟨payload, _, decoded⟩ := bind_gives decoded
        cases decoded
        cases called
        exact .send handle payload _ _ _
    | receive =>
        obtain ⟨handle, _, decoded⟩ := bind_gives decoded
        cases decoded
        simp only [callOf] at called
        cases checked : checkDestinations memory trap.frame.r2 trap.frame.r3.toNat trap.frame.r5
          with
        | error fault =>
            rw [checked] at called
            cases called
        | ok nothing =>
            rw [checked] at called
            cases called
            exact .receive handle _ checked
    | peek =>
        obtain ⟨handle, _, decoded⟩ := bind_gives decoded
        cases decoded
        cases called
        exact .peek handle
    | tap =>
        obtain ⟨handle, _, decoded⟩ := bind_gives decoded
        cases decoded
        cases called
        exact .tap handle _
    | close =>
        obtain ⟨handle, _, decoded⟩ := bind_gives decoded
        cases decoded
        cases called
        exact .close handle

inductive Reads (trap : Trap) (memory : Memory) : Area → Prop
  | name {selector : Selector} (asks : trap.Asks selector)
      (named : selector = .openName ∨ selector = .bindName)
      (inside : trap.frame.r1.toNat < memory.size) :
      Reads trap memory
        ⟨trap.frame.r1, min (Name.maxBytes + 1) (memory.size - trap.frame.r1.toNat)⟩
  | payload (asks : trap.Asks .send)
      (inside : memory.covers trap.frame.r2 trap.frame.r3.toNat = true) :
      Reads trap memory ⟨trap.frame.r2, trap.frame.r3.toNat⟩

theorem Reads.within {area : Area} (reads : trap.Reads memory area) : area.Within memory := by
  cases reads with
  | name asks named inside =>
      simp only [Area.Within]
      omega
  | payload asks inside =>
      have covered : trap.frame.r2.toNat + trap.frame.r3.toNat ≤ memory.size :=
        of_decide_eq_true inside
      exact covered

theorem callOf_congr {other : Memory} (same : other.size = memory.size) (pid : Pid)
    (asked : TrapCall) : callOf pid other asked = callOf pid memory asked := by
  cases asked with
  | receive handle buffer room timeout info =>
      simp only [callOf, checkDestinations, Memory.check_congr same]
  | openName | bindName | send | peek | tap | close => rfl

theorem prepare_congr {other : Memory} (same : other.size = memory.size)
    (agrees : ∀ area, trap.Reads memory area → other.AgreesOn memory area) :
    trap.prepare other = trap.prepare memory := by
  have decoded : TrapCall.decode trap.pid trap.frame other =
      TrapCall.decode trap.pid trap.frame memory := by
    unfold TrapCall.decode
    split
    · rfl
    · rename_i served
      cases known : Selector.ofCode trap.frame.selector with
      | error fault => rfl
      | ok selector =>
          have asks : trap.Asks selector :=
            ⟨not_not.mp served, (Selector.code_of_ofCode known).symm⟩
          have text : selector = .openName ∨ selector = .bindName →
              other.terminatedText trap.frame.r1 Name.maxBytes =
                memory.terminatedText trap.frame.r1 Name.maxBytes := fun named =>
            Memory.terminatedText_congr same fun inside => agrees _ (.name asks named inside)
          have payload : selector = .send →
              other.read trap.frame.r2 trap.frame.r3.toNat =
                memory.read trap.frame.r2 trap.frame.r3.toNat := by
            rintro rfl
            exact Memory.read_congr same fun inside => agrees _ (.payload asks inside)
          cases selector with
          | openName | bindName =>
              change (other.terminatedText _ _ >>= _) = (memory.terminatedText _ _ >>= _)
              rw [text (by simp)]
          | send =>
              change (TrapCall.handleOf _ _ >>= fun handle => other.read _ _ >>= _) =
                (TrapCall.handleOf _ _ >>= fun handle => memory.read _ _ >>= _)
              rw [payload rfl]
          | receive | peek | tap | close => rfl
  unfold prepare
  rw [decoded]
  simp only [callOf_congr same]

theorem Prepares.answers_now {operation : Operation} {engine later : Engine}
    (prepares : trap.Prepares memory selector (.now operation))
    (ran : operation.step engine = (.ok answer, later)) :
    selector.Answers trap.frame.r3.toNat answer := by
  cases prepares <;> obtain ⟨given, middle, _, rest⟩ := Step.bind_answers ran <;> cases rest
  · exact .openName given
  · exact .bindName given
  · exact .peek given
  · exact .tap
  · exact .close

theorem Prepares.answers_transfer {transfer : Transfer} {timeout : Timeout} {engine : Engine}
    (prepares : trap.Prepares memory selector (.transfer transfer timeout))
    (ran : (transfer.attempt engine).1 = .ok answer) :
    selector.Answers trap.frame.r3.toNat answer := by
  cases prepares <;>
    obtain ⟨given, middle, answered, rest⟩ := Step.bind_answers (Prod.ext ran rfl) <;>
    cases rest
  · exact .send given
  · exact .receive (Engine.tryReceive_answers answered)

end Trap

end Mailroom
