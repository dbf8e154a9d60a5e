import Mailroom.Proofs.Waiting.Receivers

/-!
Callers that leave. A caller may give up a call that is suspended, at any time; nobody else learns
of it. If the call had been woken and had not gone on yet, then its wakeup is used up, and whether
the message it was about is left behind depends only on how many others were woken.
-/

namespace Mailroom.Exchange

/-- All states of an exchange so far, latest first, when callers may also leave; and what those had
been woken for who left before they went on. -/
inductive LeavingRun (first : Exchange) : List Exchange → List Condition → Prop
  | start : LeavingRun first [first] []
  | turn {now after : Exchange} {past : List Exchange} {forgone : List Condition}
      {report : Option Finished} (sofar : LeavingRun first (now :: past) forgone)
      (turn : now.Turn report after) : LeavingRun first (after :: now :: past) forgone
  | leave {now : Exchange} {past : List Exchange} {forgone : List Condition} {waiter : Nat}
      {call : Suspended} (sofar : LeavingRun first (now :: past) forgone)
      (suspended : now.suspended[waiter]? = some call)
      (unwoken : now.waits.waiters[waiter]? ≠ some .woken) :
      LeavingRun first (now.forget waiter :: now :: past) forgone
  | leaveWoken {now : Exchange} {past : List Exchange} {forgone : List Condition} {waiter : Nat}
      {call : Suspended} (sofar : LeavingRun first (now :: past) forgone)
      (suspended : now.suspended[waiter]? = some call)
      (woken : now.waits.waiters[waiter]? = some .woken) :
      LeavingRun first (now.forget waiter :: now :: past) (call.condition :: forgone)

variable {first now : Exchange} {past : List Exchange} {forgone : List Condition}
  {waiter other : Nat} {call otherCall : Suspended} {id : MailboxId}

theorem Run.leavingRun {states : List Exchange} (run : Run first states) :
    LeavingRun first states [] := by
  induction run with
  | start => exact .start
  | turn _ turn ih => exact .turn ih turn

theorem forget_waiters (exchange : Exchange) (waiter other : Nat) :
    (exchange.forget waiter).waits.waiters[other]? =
      if waiter = other then none else exchange.waits.waiters[other]? :=
  WaitQueues.abandon_waiters _ _ _

theorem forget_suspended (exchange : Exchange) (waiter other : Nat) :
    (exchange.forget waiter).suspended[other]? =
      if waiter = other then none else exchange.suspended[other]? :=
  Table.erase_at _ _ _

theorem suspended_of_forget (suspended : (now.forget waiter).suspended[other]? = some call) :
    now.suspended[other]? = some call := by
  rw [forget_suspended] at suspended
  split at suspended
  · cases suspended
  · exact suspended

theorem forget_standing {standing : WaiterState} :
    ((now.forget waiter).suspended[other]? = some call ∧
      (now.forget waiter).waits.waiters[other]? = some standing) ↔
    waiter ≠ other ∧ now.suspended[other]? = some call ∧
      now.waits.waiters[other]? = some standing := by
  rw [forget_suspended, forget_waiters]
  by_cases same : waiter = other <;> simp [same]

theorem waits_forget : (now.forget waiter).Waits other call ↔
    waiter ≠ other ∧ now.Waits other call := by
  constructor
  · rintro ⟨suspended, waiting⟩
    obtain ⟨apart, suspended, waiting⟩ := forget_standing.mp ⟨suspended, waiting⟩
    exact ⟨apart, suspended, waiting⟩
  · rintro ⟨apart, suspended, waiting⟩
    obtain ⟨suspended, waiting⟩ := forget_standing.mpr ⟨apart, suspended, waiting⟩
    exact ⟨suspended, waiting⟩

theorem stayedOpen_forget {binding : Binding} :
    StayedOpen (now.forget waiter :: now :: past) other binding ↔
      StayedOpen (now :: past) other binding := by
  refine ⟨fun stayed => (stayedOpen_cons.mp stayed).2, fun stayed => ?_⟩
  exact stayedOpen_cons.mpr
    ⟨fun later suspended => (stayedOpen_cons.mp stayed).1 later (suspended_of_forget suspended),
      stayed⟩

theorem LeavingRun.forgets {entries : List (Nat × Suspended)}
    (sofar : LeavingRun first (now :: past) forgone)
    (suspended : ∀ entry ∈ entries, now.suspended[entry.1]? = some entry.2)
    (apart : entries.Pairwise fun left right => left.1 ≠ right.1) :
    ∃ later lost, LeavingRun first
      (entries.foldl (fun exchange entry => exchange.forget entry.1) now :: later) lost := by
  induction entries generalizing now past forgone with
  | nil => exact ⟨past, forgone, sofar⟩
  | cons entry entries ih =>
      simp only [List.mem_cons, forall_eq_or_imp] at suspended
      obtain ⟨different, apart⟩ := List.pairwise_cons.mp apart
      have still : ∀ other ∈ entries,
          (now.forget entry.1).suspended[other.1]? = some other.2 := by
        intro other member
        rw [forget_suspended, if_neg (different other member)]
        exact suspended.2 other member
      by_cases woken : now.waits.waiters[entry.1]? = some .woken
      · exact ih (.leaveWoken sofar suspended.1 woken) still apart
      · exact ih (.leave sofar suspended.1 woken) still apart

theorem LeavingRun.abandons (sofar : LeavingRun first (now :: past) forgone) (caller : Nat) :
    ∃ later lost, LeavingRun first (now.abandon caller :: later) lost := by
  refine sofar.forgets (fun entry member => ?_) (now.suspended.distinct_toList.filter _)
  exact Table.mem_toList.mp (List.mem_of_mem_filter member)

theorem Orderly.leaves (orderly : now.Orderly past) (waiter : Nat) :
    (now.forget waiter).Orderly (now :: past) := by
  refine ⟨orderly.sound, orderly.running, orderly.quiet, orderly.waits.abandon waiter, ?_, ?_, ?_,
    ?_⟩
  · intro exchange member other call suspended
    rcases List.mem_cons.mp member with rfl | earlier
    · exact orderly.older now List.mem_cons_self other call (suspended_of_forget suspended)
    · exact orderly.older exchange earlier other call suspended
  · intro other waiting
    rw [forget_waiters] at waiting
    split at waiting
    · cases waiting
    · rename_i apart
      obtain ⟨call, suspended, queued⟩ := orderly.queued other waiting
      refine ⟨call, ?_, ?_⟩
      · rw [forget_suspended, if_neg apart, suspended]
      · rw [WaitQueues.mem_waitingFor, forget_waiters, if_neg apart]
        exact WaitQueues.mem_waitingFor.mp queued
  · intro other call waits
    obtain ⟨_, was⟩ := waits_forget.mp waits
    obtain ⟨binding, stayed⟩ := orderly.bound other call was
    exact ⟨binding, stayedOpen_forget.mpr stayed⟩
  · intro other call binding suspended stayed
    exact orderly.matched other call binding (suspended_of_forget suspended)
      (stayedOpen_forget.mp stayed)

theorem LeavingRun.orderly (begun : first.Orderly [])
    (run : LeavingRun first (now :: past) forgone)
    (few : now.engine.registrations ≤ Registry.mostNumbers) : now.Orderly past := by
  generalize all : now :: past = states at run
  induction run generalizing now past with
  | start =>
      cases all
      exact begun
  | turn sofar turn ih =>
      cases all
      have orderly := ih (Nat.le_trans turn.grows few) rfl
      obtain ⟨⟨news, becomes⟩, _⟩ := turn.becomes orderly.sound orderly.running few
      exact becomes.orderly orderly
  | @leave now _ _ waiter _ _ _ _ ih | @leaveWoken now _ _ waiter _ _ _ _ ih =>
      cases all
      have orderly := @ih now _ few rfl
      exact orderly.leaves waiter

theorem forget_unretried (now : Exchange) (past : List Exchange) (waiter : Nat) (id : MailboxId) :
    (now.forget waiter).Unretried (now :: past) id = now.Unretried past id \ {waiter} := by
  ext other
  constructor
  · rintro ⟨call, binding, suspended, receives, about, woken, stayed⟩
    obtain ⟨apart, suspended, woken⟩ := forget_standing.mp ⟨suspended, woken⟩
    exact ⟨⟨call, binding, suspended, receives, about, woken, stayedOpen_forget.mp stayed⟩,
      Ne.symm apart⟩
  · rintro ⟨⟨call, binding, suspended, receives, about, woken, stayed⟩, apart⟩
    obtain ⟨suspended, woken⟩ := forget_standing.mpr ⟨Ne.symm apart, suspended, woken⟩
    exact ⟨call, binding, suspended, receives, about, woken, stayedOpen_forget.mpr stayed⟩

theorem CoveredBut.leaves {unknown unheard : MailboxId → Nat}
    (covered : CoveredBut unknown now past) (orderly : now.Orderly past)
    (more : ∀ id, unknown id ≤ unheard id)
    (lost : ∀ id, waiter ∈ now.Unretried past id → unknown id < unheard id) :
    CoveredBut unheard (now.forget waiter) (now :: past) := by
  intro id other call mailbox waits about found
  have depth := covered id other call mailbox (waits_forget.mp waits).2 about found
  rw [forget_unretried]
  by_cases member : waiter ∈ now.Unretried past id
  · have one := Set.ncard_sdiff_singleton_add_one member (orderly.unretried_finite id)
    have less := lost id member
    omega
  · rw [Set.sdiff_singleton_eq_self member]
    exact Nat.le_trans depth (Nat.add_le_add_left (more id) _)

theorem LeavingRun.coveredBut {limits : Limits}
    (run : LeavingRun (Exchange.start limits) (now :: past) forgone)
    (few : now.engine.registrations ≤ Registry.mostNumbers) :
    CoveredBut (fun id => forgone.count ⟨.readable, id⟩) now past := by
  generalize all : now :: past = states at run
  induction run generalizing now past with
  | start =>
      cases all
      intro id waiter call mailbox waits
      exact absurd waits (start_waits limits waiter call)
  | turn sofar turn ih =>
      cases all
      have sooner := Nat.le_trans turn.grows few
      have orderly := sofar.orderly (start_orderly limits) sooner
      obtain ⟨⟨news, becomes⟩, _⟩ := turn.becomes orderly.sound orderly.running few
      exact becomes.coveredBut orderly (ih sooner rfl)
  | @leave now past forgone waiter call sofar suspended unwoken ih =>
      cases all
      have orderly := sofar.orderly (start_orderly limits) few
      refine (@ih now past few rfl).leaves orderly (fun _ => Nat.le_refl _) ?_
      rintro id ⟨_, _, _, _, _, woken, _⟩
      exact absurd woken unwoken
  | @leaveWoken now past forgone waiter call sofar suspended woken ih =>
      cases all
      have orderly := sofar.orderly (start_orderly limits) few
      refine (@ih now past few rfl).leaves orderly ?_ ?_
      · intro id
        rw [List.count_cons]
        exact Nat.le_add_right _ _
      · rintro id ⟨same, _, found, _, about, _⟩
        cases suspended.symm.trans found
        simp [about]

def Woken (now : Exchange) (id : MailboxId) : Set Nat :=
  {waiter | ∃ call, now.suspended[waiter]? = some call ∧ call.transfer.kind = .receive ∧
    call.condition = ⟨.readable, id⟩ ∧ now.waits.waiters[waiter]? = some .woken}

theorem Orderly.woken_finite (orderly : now.Orderly past) (id : MailboxId) :
    (now.Woken id).Finite := by
  apply (Set.finite_lt_nat now.waits.next).subset
  rintro waiter ⟨call, suspended, _⟩
  exact orderly.older now List.mem_cons_self waiter call suspended

theorem unretried_subset_woken (now : Exchange) (past : List Exchange) (id : MailboxId) :
    now.Unretried past id ⊆ now.Woken id := by
  rintro waiter ⟨call, _, suspended, receives, about, woken, _⟩
  exact ⟨call, suspended, receives, about, woken⟩

theorem forget_woken (now : Exchange) (waiter : Nat) (id : MailboxId) :
    (now.forget waiter).Woken id = now.Woken id \ {waiter} := by
  ext other
  constructor
  · rintro ⟨call, suspended, receives, about, woken⟩
    obtain ⟨apart, suspended, woken⟩ := forget_standing.mp ⟨suspended, woken⟩
    exact ⟨⟨call, suspended, receives, about, woken⟩, Ne.symm apart⟩
  · rintro ⟨⟨call, suspended, receives, about, woken⟩, apart⟩
    obtain ⟨suspended, woken⟩ := forget_standing.mpr ⟨Ne.symm apart, suspended, woken⟩
    exact ⟨call, suspended, receives, about, woken⟩

/-- No message of a mailbox is left behind: there is a woken receiver on its way for each of them,
or one who waited before has been woken. -/
def Noticed (before after : Exchange) (id : MailboxId) : Prop :=
  (∃ mailbox, after.engine.registry.get? id = some mailbox ∧
    mailbox.queue.depth ≤ (after.Woken id).ncard) ∨
  ∃ waiter call, before.Waits waiter call ∧ call.transfer.kind = .receive ∧
    call.condition = ⟨.readable, id⟩ ∧ after.waits.waiters[waiter]? = some .woken

/-- When a woken receiver leaves, nothing changes for anybody else. The messages of its mailbox are
noticed exactly if there were fewer of them than woken receivers; and all but one for each woken
receiver that has left so far have a receiver on its way. A caller that gives up leaves with each of
its calls. -/
theorem departure_noticed_iff {limits : Limits}
    (run : LeavingRun (Exchange.start limits) (now :: past) forgone)
    (few : now.engine.registrations ≤ Registry.mostNumbers) {mailbox : Mailbox}
    (suspended : now.suspended[waiter]? = some call)
    (woken : now.waits.waiters[waiter]? = some .woken)
    (receives : call.transfer.kind = .receive) (about : call.condition = ⟨.readable, id⟩)
    (found : now.engine.registry.get? id = some mailbox)
    (waits : now.Waits other otherCall) (same : otherCall.condition = ⟨.readable, id⟩) :
    (now.forget waiter).engine = now.engine ∧
    (∀ third, third ≠ waiter →
      (now.forget waiter).suspended[third]? = now.suspended[third]? ∧
      (now.forget waiter).waits.waiters[third]? = now.waits.waiters[third]?) ∧
    (now.Noticed (now.forget waiter) id ↔ mailbox.queue.depth < (now.Woken id).ncard) ∧
    mailbox.queue.depth ≤ ((now.forget waiter).Woken id).ncard +
      (call.condition :: forgone).count ⟨.readable, id⟩ ∧
    ∀ caller, ∃ later lost, LeavingRun (start limits) (now.abandon caller :: later) lost := by
  have orderly := run.orderly (start_orderly limits) few
  have member : waiter ∈ now.Woken id := ⟨call, suspended, receives, about, woken⟩
  have one := Set.ncard_sdiff_singleton_add_one member (orderly.woken_finite id)
  refine ⟨rfl, fun third apart => ?_, ⟨?_, fun fewer => ?_⟩, ?_, run.abandons⟩
  · rw [forget_suspended, forget_waiters, if_neg (Ne.symm apart), if_neg (Ne.symm apart)]
    exact ⟨rfl, rfl⟩
  · rintro (⟨there, present, enough⟩ | ⟨third, thirdCall, waited, _, _, roused⟩)
    · cases found.symm.trans present
      rw [forget_woken] at enough
      omega
    · rw [forget_waiters] at roused
      split at roused
      · cases roused
      · cases waited.waiting.symm.trans roused
  · refine Or.inl ⟨mailbox, found, ?_⟩
    rw [forget_woken]
    omega
  · have covered := (LeavingRun.leaveWoken run suspended woken).coveredBut few
    have apart : waiter ≠ other := by
      rintro rfl
      cases waits.waiting.symm.trans woken
    have depth := covered id other otherCall mailbox (waits_forget.mpr ⟨apart, waits⟩) same found
    refine Nat.le_trans depth (Nat.add_le_add_right (Set.ncard_le_ncard
      (unretried_subset_woken _ _ id) ((orderly.leaves waiter).woken_finite id)) _)

theorem wakeSent_run :
    LeavingRun (start {}) [wakeSent, wakeShared, wakeParked, wakeNamed, start {}] [] :=
  wakeSent_reached.leavingRun

theorem wakeSent_first : wakeSent.suspended[0]? =
    some ⟨1, .receive ⟨1, 1⟩ 64, none, ⟨.readable, ⟨1⟩⟩⟩ := by
  decide +kernel

theorem wakeSent_second : wakeSent.Waits 1 ⟨2, .receive ⟨1, 1⟩ 64, none, ⟨.readable, ⟨1⟩⟩⟩ :=
  ⟨by decide +kernel, by decide +kernel⟩

theorem wakeSent_woken : wakeSent.Woken ⟨1⟩ = {0} := by
  have orderly := wakeSent_run.orderly (start_orderly {}) (by decide +kernel)
  have two : wakeSent.waits.next = 2 := by decide +kernel
  ext waiter
  constructor
  · rintro ⟨call, _, _, _, woken⟩
    have bound := orderly.waits.numbered waiter _ woken
    rw [two] at bound
    have either : waiter = 0 ∨ waiter = 1 := by omega
    rcases either with rfl | rfl
    · rfl
    · cases wakeSent_second.waiting.symm.trans woken
  · rintro rfl
    exact ⟨_, wakeSent_first, rfl, rfl, by decide +kernel⟩

theorem wakeSent_departure : ∃ mailbox, wakeSent.engine.registry.get? ⟨1⟩ = some mailbox ∧
    (wakeSent.Noticed (wakeSent.forget 0) ⟨1⟩ ↔
      mailbox.queue.depth < (wakeSent.Woken ⟨1⟩).ncard) ∧
    mailbox.queue.depth ≤ ((wakeSent.forget 0).Woken ⟨1⟩).ncard + 1 := by
  obtain ⟨mailbox, found⟩ := Option.isSome_iff_exists.mp
    (show (wakeSent.engine.registry.get? ⟨1⟩).isSome = true by decide +kernel)
  obtain ⟨_, _, noticed, bound, _⟩ := departure_noticed_iff wakeSent_run (by decide +kernel)
    wakeSent_first (by decide +kernel) rfl rfl found wakeSent_second rfl
  exact ⟨mailbox, found, noticed, bound⟩

/-- Two receivers wait, a message wakes the first of them, and the first leaves: the message stays,
nobody is on the way for it, and the second goes on waiting. -/
theorem departure_strands :
    LeavingRun (start {})
      [wakeSent.forget 0, wakeSent, wakeShared, wakeParked, wakeNamed, start {}]
      [⟨.readable, ⟨1⟩⟩] ∧
    ((wakeSent.forget 0).engine.registry.get? ⟨1⟩).map (·.queue.depth) = some 1 ∧
    (wakeSent.forget 0).Woken ⟨1⟩ = ∅ ∧
    (wakeSent.forget 0).Waits 1 ⟨2, .receive ⟨1, 1⟩ 64, none, ⟨.readable, ⟨1⟩⟩⟩ ∧
    ¬ wakeSent.Noticed (wakeSent.forget 0) ⟨1⟩ := by
  have depth : ((wakeSent.forget 0).engine.registry.get? ⟨1⟩).map (·.queue.depth) = some 1 := by
    decide +kernel
  have nobody : (wakeSent.forget 0).Woken ⟨1⟩ = ∅ := by
    rw [forget_woken, wakeSent_woken, Set.sdiff_self]
  refine ⟨.leaveWoken wakeSent_run wakeSent_first (by decide +kernel), depth, nobody,
    waits_forget.mpr ⟨by decide, wakeSent_second⟩, ?_⟩
  rintro (⟨mailbox, found, enough⟩ | ⟨waiter, call, waited, _, _, roused⟩)
  · rw [found] at depth
    rw [nobody, Set.ncard_empty] at enough
    cases (Option.some.inj depth).symm.trans (Nat.le_zero.mp enough)
  · rw [forget_waiters] at roused
    split at roused
    · cases roused
    · cases waited.waiting.symm.trans roused

end Mailroom.Exchange
