import Mailroom.Proofs.Waiting.Runs

/-!
Where suspended calls stand. A call that is suspended is in line for what it waits for, or has been
woken and is due to go on, or its deadline has come.
-/

namespace Mailroom.Exchange

/-- The deadline of a suspended call has come, and no wake reaches it any more. -/
def Lapsed (exchange : Exchange) (waiter : Nat) (call : Suspended) : Prop :=
  exchange.waits.waiters[waiter]? = none ∧ exchange.Overdue call

def Stands (exchange : Exchange) (waiter : Nat) (call : Suspended) : Prop :=
  waiter ∈ exchange.waits.waitingFor call.condition ∨
  (exchange.waits.waiters[waiter]? = some .woken ∧ waiter ∈ exchange.ready) ∨
  exchange.Lapsed waiter call

structure Minded (exchange : Exchange) : Prop where
  sound : exchange.waits.Sound
  stands : ∀ waiter call, exchange.suspended[waiter]? = some call → exchange.Stands waiter call

variable {before after : Exchange} {waiter : Nat} {call : Suspended} {transfer : Transfer}
  {report : Option Finished}

theorem start_minded (limits : Limits) : (start limits).Minded := by
  refine ⟨WaitQueues.sound_nothing, fun waiter call suspended => ?_⟩
  simp [start] at suspended

theorem Minded.waits (minded : before.Minded) (suspended : before.suspended[waiter]? = some call)
    (unwoken : before.waits.waiters[waiter]? ≠ some .woken) (timely : ¬ before.Lapsed waiter call) :
    before.Waits waiter call := by
  rcases minded.stands waiter call suspended with queued | ⟨woken, _⟩ | lapsed
  · exact ⟨suspended, (WaitQueues.mem_waitingFor.mp queued).2⟩
  · exact absurd woken unwoken
  · exact absurd lapsed timely

theorem Minded.wake (minded : before.Minded) (wakeup : Wakeup) : (before.wake wakeup).Minded := by
  obtain ⟨condition, scope⟩ := wakeup
  refine ⟨minded.sound.wake condition scope, fun waiter call suspended => ?_⟩
  have states := minded.sound.wake_waiters condition scope waiter
  have woken := minded.sound.wake_woken condition scope
  have lines := minded.sound.wake_waitingFor condition call.condition scope
  rcases minded.stands waiter call suspended with queued | ⟨state, due⟩ | ⟨state, overdue⟩
  · by_cases same : condition = call.condition
    · subst same
      rw [← scope.first_append_rest (before.waits.waitingFor call.condition)] at queued
      rcases List.mem_append.mp queued with first | rest
      · refine Or.inr (Or.inl ⟨states.trans (if_pos first), ?_⟩)
        exact List.mem_append_right _ (woken ▸ first)
      · rw [if_pos rfl] at lines
        rw [← lines] at rest
        exact Or.inl rest
    · rw [if_neg same] at lines
      rw [← lines] at queued
      exact Or.inl queued
  · rw [state, ite_self] at states
    exact Or.inr (Or.inl ⟨states, List.mem_append_left _ due⟩)
  · refine Or.inr (Or.inr ⟨states.trans ((if_neg fun first => ?_).trans state), overdue⟩)
    cases state.symm.trans (WaitQueues.mem_waitingFor.mp (WakeScope.mem_of_mem_first first)).2

theorem Minded.wakes (minded : before.Minded) (wakeups : List Wakeup) :
    (wakeups.foldl Exchange.wake before).Minded := by
  induction wakeups generalizing before with
  | nil => exact minded
  | cons wakeup rest ih => exact ih (minded.wake wakeup)

theorem Minded.flush (minded : before.Minded) (engine : Engine) :
    ({ before with engine } : Exchange).flush.Minded := by
  have drained : ({ before with engine := engine.drainWakeups.2 } : Exchange).Minded :=
    ⟨minded.sound, minded.stands⟩
  exact drained.wakes engine.drainWakeups.1

theorem Minded.park (minded : before.Minded) (caller : Nat) (transfer : Transfer)
    (deadline : Option Nat) (condition : Condition) (engine : Engine) :
    (({ before with engine } : Exchange).park caller transfer deadline condition).Minded := by
  refine ⟨minded.sound.park condition, fun waiter call suspended => ?_⟩
  have states := before.waits.park_waiters condition waiter
  have lines := minded.sound.park_waitingFor condition call.condition
  change (before.suspended.insert before.waits.next _)[waiter]? = some call at suspended
  rw [Table.insert_at] at suspended
  by_cases new : before.waits.next = waiter
  · rw [if_pos new] at suspended
    cases suspended
    rw [if_pos rfl] at lines
    exact Or.inl (lines ▸ List.mem_append_right _ (new ▸ List.mem_cons_self))
  · rw [if_neg new] at suspended states
    rcases minded.stands waiter call suspended with queued | ⟨state, due⟩ | ⟨state, overdue⟩
    · refine Or.inl (lines ▸ ?_)
      split
      · rename_i same
        exact List.mem_append_left _ (same ▸ queued)
      · exact queued
    · exact Or.inr (Or.inl ⟨states.trans state, due⟩)
    · exact Or.inr (Or.inr ⟨states.trans state, overdue⟩)

theorem Stands.abandon (stands : before.Stands waiter call) {gone : Nat} (apart : gone ≠ waiter)
    {ready : List Nat} (kept : ∀ other ∈ before.ready, gone ≠ other → other ∈ ready) :
    ({ before with waits := before.waits.abandon gone, ready } : Exchange).Stands waiter call := by
  have states := (before.waits.abandon_waiters gone waiter).trans (if_neg apart)
  rcases stands with queued | ⟨state, due⟩ | ⟨state, overdue⟩
  · obtain ⟨member, state⟩ := WaitQueues.mem_waitingFor.mp queued
    exact Or.inl (WaitQueues.mem_waitingFor.mpr ⟨member, states.trans state⟩)
  · exact Or.inr (Or.inl ⟨states.trans state, kept waiter due apart⟩)
  · exact Or.inr (Or.inr ⟨states.trans state, overdue⟩)

theorem Minded.forget (minded : before.Minded) {gone : Nat} {ready : List Nat}
    (kept : ∀ other ∈ before.ready, gone ≠ other → other ∈ ready) :
    (({ before with ready } : Exchange).forget gone).Minded := by
  refine ⟨minded.sound.abandon gone, fun waiter call suspended => ?_⟩
  change (before.suspended.erase gone)[waiter]? = some call at suspended
  rw [Table.erase_at] at suspended
  split at suspended
  · cases suspended
  · rename_i apart
    exact (minded.stands waiter call suspended).abandon apart kept

theorem Minded.attempt (minded : before.Minded) {caller : Nat} {deadline : Option Nat}
    {mayWait : Bool} {outcome : Option (Except Fault Answer)}
    (ran : before.attempt caller transfer deadline mayWait = (outcome, after)) : after.Minded := by
  rcases attempted : transfer.attempt before.engine with ⟨fault | answer, engine⟩
  · simp only [Exchange.attempt, attempted] at ran
    split at ran
    · rcases found : transfer.condition engine with ⟨other | condition, last⟩
      · simp only [found] at ran
        cases ran
        exact minded.flush last
      · simp only [found] at ran
        cases ran
        exact minded.park caller transfer deadline condition last
    · cases ran
      exact minded.flush engine
  · simp only [Exchange.attempt, attempted] at ran
    cases ran
    exact minded.flush engine

theorem Minded.expire (minded : before.Minded) {outcome : Except Fault Answer}
    (ran : before.expire waiter call = (outcome, after)) : after.Minded := by
  have left : (before.forget waiter).Minded := minded.forget fun _ due _ => due
  rcases attempted : call.transfer.attempt (before.forget waiter).engine with
    ⟨fault | answer, engine⟩
  · have flushed := left.flush engine
    simp only [Exchange.expire, attempted] at ran
    split at ran
    · cases ran
      exact ⟨flushed.sound, flushed.stands⟩
    · cases ran
      exact flushed
  · simp only [Exchange.expire, attempted] at ran
    cases ran
    exact left.flush engine

theorem Turn.minded (turn : before.Turn report after) (minded : before.Minded) : after.Minded := by
  cases turn with
  | @perform caller operation outcome _ asked ran =>
      simp only [Exchange.perform] at ran
      cases ran
      exact minded.flush _
  | enter past ran => exact minded.attempt ran
  | @resume gone call _ _ suspended woken ran =>
      have kept : ∀ other ∈ before.ready, gone ≠ other → other ∈ before.ready.erase gone :=
        fun _ due apart => (List.mem_erase_of_ne (Ne.symm apart)).mpr due
      have left := minded.forget kept
      let woke : Event := .woken call.transfer.pid call.condition.mailbox call.transfer.kind
      have told : ((({ before with ready := before.ready.erase gone } : Exchange).forget gone).emit
        woke).Minded := ⟨left.sound, left.stands⟩
      exact told.attempt ran
  | @lapse gone late suspended waiting overdue =>
      refine ⟨minded.sound.abandon gone, fun waiter call found => ?_⟩
      by_cases apart : gone = waiter
      · subst apart
        cases suspended.symm.trans found
        exact Or.inr (Or.inr
          ⟨(before.waits.abandon_waiters gone gone).trans (if_pos rfl), overdue⟩)
      · exact (minded.stands waiter call found).abandon apart fun _ due _ => due
  | expire suspended passed overdue ran => exact minded.expire ran
  | @tick time later =>
      refine ⟨minded.sound, fun waiter call suspended => ?_⟩
      refine (minded.stands waiter call suspended).imp_right (Or.imp_right ?_)
      rintro ⟨state, deadline, due, reached⟩
      exact ⟨state, deadline, due, Nat.le_trans reached later⟩

theorem Run.minded {first now : Exchange} {past : List Exchange} (run : Run first (now :: past))
    (begun : first.Minded) : now.Minded := by
  generalize all : now :: past = states at run
  induction run generalizing now past with
  | start =>
      cases all
      exact begun
  | turn sofar turn ih =>
      cases all
      exact turn.minded (ih rfl)

end Mailroom.Exchange
