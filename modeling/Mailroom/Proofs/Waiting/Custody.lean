import Mailroom.Proofs.Waiting.Outcomes
import Mailroom.Waiting.Schedule

/-!
Messages in custody. What lies in the queue of a mailbox keeps its place while calls that wait go
on in any order, as long as none of them may take it.
-/

namespace Mailroom

namespace Mailbox

theorem Sound.accept_queue {mailbox : Mailbox} (sound : mailbox.Sound) (source : Endpoint)
    (flags : Flags) (channel : UInt16) (payload : Bytes) :
    ∃ more, (mailbox.accept source flags channel payload).2.queue.frames =
      mailbox.queue.frames ++ more := by
  by_cases fits : framedSize payload.length ≤ mailbox.capacity.toNat
  · rw [sound.accept_fitting source flags channel fits]
    split
    · by_cases queued : mailbox.policy = .queue
      · refine ⟨[mailbox.letter source flags channel payload], ?_⟩
        simp [Mailbox.posted, queued, Ring.appended]
      · exact ⟨[], by simp [Mailbox.posted, queued]⟩
    · exact ⟨[], by simp⟩
  · rw [sound.accept_large source flags channel (Nat.lt_of_not_le fits)]
    exact ⟨[], (List.append_nil _).symm⟩

theorem take_queue (mailbox : Mailbox) {view : View} (apart : view ≠ .queue) (room : Nat) :
    (mailbox.take view room).2.queue = mailbox.queue := by
  cases view with
  | queue => exact absurd rfl apart
  | subscriber endpoint | tap endpoint => rfl

end Mailbox

namespace Engine

def Draws (engine : Engine) (endpoint : Endpoint) (id : MailboxId) : Prop :=
  ∃ binding, engine.handles.binding? endpoint = some binding ∧ binding.mailbox = id ∧
    binding.mode.canRead = true ∧ binding.mode.isTap = false

def Holds (engine : Engine) (id : MailboxId) (frames : List Frame) : Prop :=
  ∃ mailbox, engine.registry.get? id = some mailbox ∧ mailbox.policy = .queue ∧
    mailbox.queue.frames = frames

structure Keeps (id : MailboxId) (before after : Engine) : Prop where
  intact : after.Intact
  handles_eq : after.handles = before.handles
  holds : ∀ frames, before.Holds id frames → ∃ more, after.Holds id (frames ++ more)

variable {before after engine : Engine} {id : MailboxId} {endpoint : Endpoint}

theorem Keeps.of_same (intact : before.Intact) (registry_eq : after.registry = before.registry)
    (handles_eq : after.handles = before.handles) : Keeps id before after := by
  refine ⟨?_, handles_eq, ?_⟩
  · rw [Intact, registry_eq]
    exact intact
  · rintro frames ⟨mailbox, found, queued, rfl⟩
    exact ⟨[], mailbox, by rw [registry_eq, found], queued, (List.append_nil _).symm⟩

theorem Keeps.trans {first second third : Engine} (left : Keeps id first second)
    (right : Keeps id second third) : Keeps id first third := by
  refine ⟨right.intact, right.handles_eq.trans left.handles_eq, fun frames holds => ?_⟩
  obtain ⟨more, holds⟩ := left.holds frames holds
  obtain ⟨others, holds⟩ := right.holds _ holds
  exact ⟨more ++ others, by rwa [← List.append_assoc]⟩

theorem Keeps.moved (intact : engine.Intact) {here : MailboxId} {earlier later : Mailbox}
    (found : engine.registry.get? here = some earlier) (moves : earlier.Moves later)
    (front : here = id → earlier.policy = .queue →
      ∃ more, later.queue.frames = earlier.queue.frames ++ more) :
    Keeps id engine { engine with registry := engine.registry.update later } := by
  obtain ⟨same, sound⟩ := intact here earlier found
  have traffic := moves.traffic sound
  have laterId : later.id = here := traffic.id_eq.trans same
  refine ⟨intact.update traffic.sound, rfl, ?_⟩
  rintro frames ⟨mailbox, there, queued, rfl⟩
  by_cases touched : here = id
  · subst touched
    cases found.symm.trans there
    obtain ⟨more, added⟩ := front rfl queued
    exact ⟨more, later, engine.registry.update_here laterId, traffic.policy_eq.trans queued, added⟩
  · refine ⟨[], mailbox, ?_, queued, (List.append_nil _).symm⟩
    exact (engine.registry.update_elsewhere laterId (Ne.symm touched)).trans there

end Engine

namespace Transfer

open Engine Step

def Draws (transfer : Transfer) (engine : Engine) (id : MailboxId) : Prop :=
  match transfer with
  | .send .. => False
  | .receive endpoint _ => engine.Draws endpoint id

def PassesBy (transfer : Transfer) (id : MailboxId) (before after : Engine) : Prop :=
  before.Intact → ¬ transfer.Draws before id → before.Keeps id after

variable {transfer : Transfer} {id : MailboxId}

theorem draws_congr {before after : Engine} (handles_eq : after.handles = before.handles) :
    transfer.Draws after id ↔ transfer.Draws before id := by
  cases transfer with
  | send => exact Iff.rfl
  | receive endpoint room => rw [Draws, Draws, Engine.Draws, Engine.Draws, handles_eq]

theorem passesBy_same {before after : Engine} (registry_eq : after.registry = before.registry)
    (handles_eq : after.handles = before.handles) : transfer.PassesBy id before after :=
  fun intact _ => .of_same intact registry_eq handles_eq

theorem passesBy_course (transfer : Transfer) (id : MailboxId) : Course (transfer.PassesBy id) := by
  refine ⟨fun _ => passesBy_same rfl rfl, fun first second intact apart => ?_,
    fun _ _ => passesBy_same rfl rfl⟩
  have left := first intact apart
  exact left.trans (second left.intact (apart ∘ (draws_congr left.handles_eq).mp))

theorem passesBy_escorts (transfer : Transfer) (id : MailboxId) :
    Exchange.Escorts (transfer.PassesBy id) :=
  ⟨passesBy_course transfer id, fun _ _ _ => passesBy_same rfl rfl, fun _ => passesBy_same rfl rfl⟩

theorem trySend_passesBy (endpoint : Endpoint) (payload : Bytes) (flags channel : UInt16) :
    Obeys (PassesBy (.send endpoint payload flags channel) id)
      (trySend endpoint payload flags channel) := by
  have course := passesBy_course (.send endpoint payload flags channel) id
  apply course.guarded
  apply course.bind (course.inspect _)
  intro binding
  split
  · refine course.bind (onMailbox_obeys course _ fun engine mailbox found intact _ => ?_)
      fun accepted => course.bind (change_obeys fun engine => ?_) fun _ => course.pure _
    · exact .moved intact found (.accepted ..) fun _ _ => (intact _ _ found).2.accept_queue ..
    · rw [announce_eq]
      exact passesBy_same rfl rfl
  · exact course.fail _

theorem tryReceive_passesBy (endpoint : Endpoint) (room : Nat) :
    Obeys (PassesBy (.receive endpoint room) id) (tryReceive endpoint room) := by
  have course := passesBy_course (.receive endpoint room) id
  apply course.guarded
  intro engine
  refine course.bind_at (readableView_obeys course endpoint engine) ?_
  rintro ⟨binding, view⟩ middle viewed
  cases readableView_engine viewed
  obtain ⟨mailbox, reader, rfl⟩ := readableView_answers viewed
  refine course.bind_at ?_ fun taken? last _ => ?_
  · rw [onMailbox_found (fun other => other.take (mailbox.view endpoint binding.mode) room)
      reader.found (Prod.eta _).symm]
    intro intact apart
    refine .moved intact reader.found (.taken _ _) ?_
    rintro rfl queued
    have other : mailbox.view endpoint binding.mode ≠ .queue := by
      intro viewed
      cases tapped : binding.mode.isTap with
      | true => simp [Mailbox.view, tapped] at viewed
      | false =>
          have readable : binding.mode.canRead = true := by
            simpa [reads, tapped] using reader.readable
          exact apart ⟨binding, reader.held, rfl, readable, tapped⟩
    exact ⟨[], by rw [mailbox.take_queue other, List.append_nil]⟩
  · cases taken? with
    | none => exact course.fail _ last
    | some receipt =>
        refine course.bind (change_obeys fun engine => ?_) (fun _ => course.pure receipt) last
        rw [acknowledge_eq]
        exact passesBy_same rfl rfl

theorem attempt_passesBy (transfer : Transfer) (id : MailboxId) :
    Obeys (transfer.PassesBy id) transfer.attempt := by
  cases transfer with
  | send endpoint payload flags channel =>
      exact (trySend_passesBy endpoint payload flags channel).map Answer.count
  | receive endpoint room => exact (tryReceive_passesBy endpoint room).map Answer.receipt

end Transfer

namespace Exchange

def Unattended (exchange : Exchange) (id : MailboxId) : Prop :=
  ∀ (waiter : Nat) (call : Suspended), exchange.suspended[waiter]? = some call →
    ¬ call.transfer.Draws exchange.engine id

/-- What can happen while nobody makes a new call. -/
inductive Continues (before : Exchange) : Exchange → Prop
  | resumes {waiter : Nat} {call : Suspended} {ready : List Nat}
      {outcome : Option (Except Fault Answer)} {after : Exchange}
      (suspended : before.suspended[waiter]? = some call)
      (ran : ({ before with ready } : Exchange).resume waiter call = (outcome, after)) :
      Continues before after
  | expires {waiter : Nat} {call : Suspended} {outcome : Except Fault Answer} {after : Exchange}
      (suspended : before.suspended[waiter]? = some call)
      (ran : before.expire waiter call = (outcome, after)) : Continues before after
  | rests (waits : WaitQueues) (ready : List Nat) (clock : Nat) :
      Continues before { before with waits, ready, clock }

variable {before after : Exchange} {id : MailboxId}

theorem attempt_adds {caller : Nat} {transfer : Transfer} {deadline : Option Nat} {mayWait : Bool}
    {outcome : Option (Except Fault Answer)}
    (ran : before.attempt caller transfer deadline mayWait = (outcome, after)) {waiter : Nat}
    {call : Suspended} (there : after.suspended[waiter]? = some call) :
    before.suspended[waiter]? = some call ∨ call.transfer = transfer := by
  rcases attempt_suspended ran with ⟨_, same, _⟩ | ⟨_, condition, parked⟩
  · rw [same] at there
    exact Or.inl there
  · rw [parked, Table.insert_at] at there
    split at there
    · cases there
      exact Or.inr rfl
    · exact Or.inl there

theorem Unattended.goes (unattended : before.Unattended id)
    (handles_eq : after.engine.handles = before.engine.handles)
    (fewer : ∀ (waiter : Nat) (call : Suspended), after.suspended[waiter]? = some call →
      ∃ (other : Nat) (earlier : Suspended), before.suspended[other]? = some earlier ∧
        earlier.transfer = call.transfer) : after.Unattended id := by
  intro waiter call suspended draws
  obtain ⟨other, earlier, waited, same⟩ := fewer waiter call suspended
  rw [← same, Transfer.draws_congr handles_eq] at draws
  exact unattended other earlier waited draws

theorem Continues.keeps (continues : before.Continues after) (intact : before.engine.Intact)
    (unattended : before.Unattended id) :
    before.engine.Keeps id after.engine ∧ after.Unattended id := by
  cases continues with
  | @resumes waiter call ready outcome _ suspended ran =>
      let left : Exchange := (({ before with ready } : Exchange).forget waiter).emit
        (.woken call.transfer.pid call.condition.mailbox call.transfer.kind)
      have ran : left.attempt call.caller call.transfer call.deadline true = (outcome, after) := ran
      have escorts := call.transfer.passesBy_escorts id
      have tries := call.transfer.attempt_passesBy id left.engine
      have passes := escorts.course.trans (escorts.told before.engine rfl)
        (escorts.attempted tries ran)
      have keeps := passes intact (unattended waiter call suspended)
      refine ⟨keeps, unattended.goes keeps.handles_eq fun other later there => ?_⟩
      rcases attempt_adds ran there with there | same
      · rw [show left.suspended = before.suspended.erase waiter from rfl, Table.erase_at] at there
        split at there
        · cases there
        · exact ⟨other, later, there, rfl⟩
      · exact ⟨waiter, call, suspended, same.symm⟩
  | @expires waiter call outcome _ suspended ran =>
      have escorts := call.transfer.passesBy_escorts id
      have tries := call.transfer.attempt_passesBy id before.engine
      have keeps := escorts.expired tries ran intact (unattended waiter call suspended)
      refine ⟨keeps, unattended.goes keeps.handles_eq fun other later there => ?_⟩
      rw [(expire_left ran).1, Table.erase_at] at there
      split at there
      · cases there
      · exact ⟨other, later, there, rfl⟩
  | rests => exact ⟨.of_same intact rfl rfl, unattended⟩

theorem continued_keeps (between : Relation.ReflTransGen Continues before after)
    (intact : before.engine.Intact) (unattended : before.Unattended id) :
    before.engine.Keeps id after.engine ∧ after.Unattended id := by
  induction between with
  | refl => exact ⟨.of_same intact rfl rfl, unattended⟩
  | tail _ continues ih =>
      obtain ⟨keeps, unattended⟩ := ih
      obtain ⟨last, unattended⟩ := continues.keeps keeps.intact unattended
      exact ⟨keeps.trans last, unattended⟩

theorem resumeNext_continues (exchange : Exchange) : exchange.Continues exchange.resumeNext.2 := by
  unfold resumeNext
  split
  · exact .rests _ _ _
  · rename_i waiter ready _
    dsimp only
    split
    · exact .rests _ _ _
    · rename_i call suspended
      split <;> exact .resumes suspended ‹_›

theorem settleWithin_continues (turns : Nat) (exchange : Exchange) :
    Relation.ReflTransGen Continues exchange (exchange.settleWithin turns).2 := by
  induction turns generalizing exchange with
  | zero => exact .refl
  | succ turns ih =>
      unfold settleWithin
      split
      · exact .refl
      · exact .head exchange.resumeNext_continues (ih exchange.resumeNext.2)

end Exchange

end Mailroom
