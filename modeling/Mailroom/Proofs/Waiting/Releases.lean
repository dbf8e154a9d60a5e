import Mailroom.Proofs.Waiting.Standing

/-!
Nothing waits for what is gone. A call that nobody has woken has waited on an open handle ever
since it was parked, and there is no queue for a mailbox that is not there.
-/

namespace Mailroom

namespace Exchange

/-- A call has waited, with its handle on this mailbox, in all states since it was parked: those in
which its waiter's number had been given out. -/
def WaitedOn (states : List Exchange) (waiter : Nat) (call : Suspended) (id : MailboxId) : Prop :=
  ∃ binding, binding.mailbox = id ∧ ∀ exchange ∈ states, waiter < exchange.waits.next →
    exchange.Waits waiter call ∧
      exchange.engine.handles.binding? call.transfer.endpoint = some binding

structure Attended (now : Exchange) (past : List Exchange) : Prop where
  earlier : ∀ exchange ∈ past, exchange.waits.next ≤ now.waits.next
  waited : ∀ waiter call, now.Waits waiter call →
    WaitedOn (now :: past) waiter call call.condition.mailbox
  present : ∀ condition ∈ now.waits.queues,
    ∃ mailbox, now.engine.registry.get? condition.mailbox = some mailbox

theorem start_attended (limits : Limits) : (start limits).Attended [] := by
  refine ⟨nofun, ?_, ?_⟩
  · intro waiter call waits
    exact absurd waits (start_waits limits waiter call)
  · intro condition member
    exact absurd member Std.ExtTreeMap.not_mem_empty

variable {before after : Exchange} {earlier : List Exchange} {waiter : Nat} {call : Suspended}
  {news : List Wakeup} {condition : Condition}

theorem mem_shed_queues {gone : Option Nat} :
    condition ∈ (before.shed gone).waits.queues ↔ condition ∈ before.waits.queues := by
  cases gone <;> exact Iff.rfl

theorem Orderly.remains (orderly : before.Orderly earlier) {engine : Engine}
    (passes : before.engine.scene.Passes engine.scene) {mailbox : Mailbox}
    (found : before.engine.registry.get? condition.mailbox = some mailbox)
    (untold : ⟨condition, .all⟩ ∉ engine.wakeups) :
    ∃ later, engine.registry.get? condition.mailbox = some later := by
  obtain ⟨news, wakeups_eq, settles⟩ := passes.news
  change engine.wakeups = news ++ before.engine.wakeups at wakeups_eq
  rw [orderly.quiet, List.append_nil] at wakeups_eq
  subst wakeups_eq
  rcases settles condition.mailbox mailbox found with roused | ⟨⟨later, there, _⟩, _⟩
  · exact absurd (roused (all_mem_rousing condition)) untold
  · exact ⟨later, there⟩

theorem Becomes.present (becomes : before.Becomes news after) (orderly : before.Orderly earlier)
    (attended : before.Attended earlier) (member : condition ∈ after.waits.queues) :
    ∃ mailbox, after.engine.registry.get? condition.mailbox = some mailbox := by
  cases becomes with
  | flushed gone engine advances engine_eq waits_eq suspended_eq =>
      rw [waits_eq] at member
      obtain ⟨old, untold⟩ := WaitQueues.mem_of_mem_wakeAll_queues member
      obtain ⟨mailbox, found⟩ := attended.present condition (mem_shed_queues.mp old)
      have remains := orderly.remains advances.passes found fun told =>
        untold (List.mem_reverse.mpr told)
      rw [engine_eq]
      exact remains
  | parked gone engine parked advances quiet stuck engine_eq waits_eq suspended_eq =>
      rw [waits_eq, WaitQueues.mem_park_queues] at member
      rw [engine_eq]
      rcases member with rfl | old
      · obtain ⟨binding, mailbox, stuck⟩ := stuck
        rw [stuck.awaits.1]
        exact ⟨mailbox, stuck.found⟩
      · obtain ⟨mailbox, found⟩ := attended.present condition (mem_shed_queues.mp old)
        refine orderly.remains advances.passes found ?_
        rw [quiet, orderly.quiet]
        exact List.not_mem_nil
  | rested lapsed waited engine_eq waits_eq suspended_eq =>
      rw [waits_eq, mem_shed_queues] at member
      rw [engine_eq]
      exact attended.present condition member

theorem Becomes.waited (becomes : before.Becomes news after) (orderly : before.Orderly earlier)
    (attended : before.Attended earlier) (waits : after.Waits waiter call) :
    WaitedOn (after :: before :: earlier) waiter call call.condition.mailbox := by
  rcases becomes.waiting_cases orderly waits with
    ⟨binding, mailbox, later, endures⟩ | ⟨rfl, binding, mailbox, stuck⟩
  · obtain ⟨other, leads, always⟩ := attended.waited waiter call endures.waits
    have numbered := orderly.older before List.mem_cons_self waiter call endures.waits.suspended
    have held := (always before List.mem_cons_self numbered).2
    cases held.symm.trans endures.held
    refine ⟨binding, leads, List.forall_mem_cons.mpr ⟨fun _ => ⟨waits, endures.kept⟩, always⟩⟩
  · refine ⟨binding, stuck.awaits.1.symm, ?_⟩
    refine List.forall_mem_cons.mpr ⟨fun _ => ⟨waits, stuck.held⟩, ?_⟩
    refine List.forall_mem_cons.mpr ⟨fun numbered => absurd numbered (Nat.lt_irrefl _), ?_⟩
    intro exchange member numbered
    exact absurd numbered (Nat.not_lt.mpr (attended.earlier exchange member))

theorem Becomes.attended (becomes : before.Becomes news after) (orderly : before.Orderly earlier)
    (attended : before.Attended earlier) : after.Attended (before :: earlier) := by
  have more := (becomes.waits_sound orderly.waits).2
  refine ⟨List.forall_mem_cons.mpr ⟨more, ?_⟩, fun _ _ => becomes.waited orderly attended,
    fun _ => becomes.present orderly attended⟩
  intro exchange member
  exact Nat.le_trans (attended.earlier exchange member) more

/-- In every state of every run, a suspended call that is neither woken nor out of time has waited
ever since it was parked, all that time with its handle on the mailbox it waits for, which is there;
and every queue is for a mailbox that is there. So whoever closes a handle or destroys a mailbox
releases every call that waits on it. -/
theorem nothing_waits_on_closed (limits : Limits) {now : Exchange} {past : List Exchange}
    (run : Run (start limits) (now :: past))
    (few : now.engine.registrations ≤ Registry.mostNumbers) :
    (∀ waiter call, now.suspended[waiter]? = some call →
      now.waits.waiters[waiter]? ≠ some .woken → ¬ now.Lapsed waiter call →
        WaitedOn (now :: past) waiter call call.condition.mailbox ∧
          ∃ mailbox, now.engine.registry.get? call.condition.mailbox = some mailbox) ∧
    ∀ condition ∈ now.waits.queues,
      ∃ mailbox, now.engine.registry.get? condition.mailbox = some mailbox := by
  have orderly := run.orderly (start_orderly limits) few
  have attended := run.always (start_orderly limits) (start_attended limits) Becomes.attended few
  refine ⟨?_, attended.present⟩
  intro waiter call suspended unwoken timely
  have waits := (run.minded (start_minded limits)).waits suspended unwoken timely
  obtain ⟨binding, stayed⟩ := orderly.bound waiter call waits
  obtain ⟨mailbox, found, awaits⟩ := orderly.matched waiter call binding suspended stayed
  refine ⟨attended.waited waiter call waits, mailbox, ?_⟩
  rw [awaits.1]
  exact found

def parlorBound : Exchange := (start {}).performed (.bindName 1 "app:parlor" 64 3)

def parlorShared : Exchange := parlorBound.performed (.openName 2 "app:parlor" 3)

def parlorWaiting : Exchange := parlorShared.entered 1 (.receive ⟨1, 1⟩ 64)

def parlorCrowded : Exchange := parlorWaiting.entered 2 (.receive ⟨2, 1⟩ 64)

def parlorClosed : Exchange := parlorCrowded.performed (.close ⟨1, 1⟩)

def parlorResumed : Exchange :=
  (({ parlorClosed with ready := parlorClosed.ready.erase 1 } : Exchange).resume 1
    ⟨2, .receive ⟨2, 1⟩ 64, none, ⟨.readable, ⟨1⟩⟩⟩).2

/-- Of two receivers one's handle is closed. Both are released, and the other waits again. -/
theorem parlorResumed_waits :
    parlorClosed.waits.waiters[0]? = some .woken ∧
      WaitedOn [parlorResumed, parlorClosed, parlorCrowded, parlorWaiting, parlorShared,
        parlorBound, start {}] 2 ⟨2, .receive ⟨2, 1⟩ 64, none, ⟨.readable, ⟨1⟩⟩⟩ ⟨1⟩ := by
  have bound : Run (start {}) [parlorBound, start {}] :=
    Run.start.performs 1 (.bindName 1 "app:parlor" 64 3) rfl
  have shared : Run (start {}) [parlorShared, parlorBound, start {}] :=
    bound.performs 2 (.openName 2 "app:parlor" 3) rfl
  have waiting : Run (start {}) [parlorWaiting, parlorShared, parlorBound, start {}] :=
    shared.enters 1 (.receive ⟨1, 1⟩ 64)
  have crowded : Run (start {}) [parlorCrowded, parlorWaiting, parlorShared, parlorBound,
      start {}] := waiting.enters 2 (.receive ⟨2, 1⟩ 64)
  have closed : Run (start {}) [parlorClosed, parlorCrowded, parlorWaiting, parlorShared,
      parlorBound, start {}] := crowded.performs 1 (.close ⟨1, 1⟩) rfl
  have resumed := Run.turn closed
    (@Turn.resume _ 1 ⟨2, .receive ⟨2, 1⟩ 64, none, ⟨.readable, ⟨1⟩⟩⟩ _ parlorResumed
      (by decide +kernel) (by decide +kernel) rfl)
  have there : parlorResumed.waits.waiters[2]? ≠ none := by decide +kernel
  refine ⟨by decide +kernel, ?_⟩
  exact ((nothing_waits_on_closed {} resumed (by decide +kernel)).1 2
    ⟨2, .receive ⟨2, 1⟩ 64, none, ⟨.readable, ⟨1⟩⟩⟩ (by decide +kernel) (by decide +kernel)
    fun lapsed => there lapsed.1).1

end Exchange

end Mailroom
