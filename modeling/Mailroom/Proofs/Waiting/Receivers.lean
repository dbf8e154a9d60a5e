import Mathlib.Data.Set.Card
import Mailroom.Proofs.Waiting.Standing

/-!
No receiver is stranded. A queue wakes one receiver for each message, and a receiver that is woken
may find that another one was faster, that its time is over or that its handle is gone. Still
there is one woken receiver on its way for every message, as long as another one waits.
-/

namespace Mailroom

theorem Mailbox.Awaits.reads_queue {mailbox : Mailbox} {binding : Binding} {transfer : Transfer}
    {condition : Condition} (awaits : mailbox.Awaits binding transfer condition)
    (readable : condition.kind = .readable) :
    ∃ endpoint room, transfer = .receive endpoint room ∧ Engine.reads binding.mode = true ∧
      mailbox.view endpoint binding.mode = .queue := by
  obtain ⟨_, awaits⟩ := awaits
  cases transfer with
  | send =>
      change condition.kind = .writable at awaits
      rw [readable] at awaits
      cases awaits
  | receive endpoint room =>
      obtain ⟨reads, kind⟩ := awaits
      refine ⟨endpoint, room, rfl, reads, ?_⟩
      rw [readable] at kind
      cases seen : mailbox.view endpoint binding.mode with
      | queue => rfl
      | subscriber other | tap other =>
          rw [seen] at kind
          cases kind

theorem Mailbox.Awaits.reads_ring {mailbox : Mailbox} {binding : Binding} {transfer : Transfer}
    {condition : Condition} (awaits : mailbox.Awaits binding transfer condition)
    (subscribed : condition.kind = .subscriber) :
    ∃ endpoint room, transfer = .receive endpoint room ∧
      (mailbox.view endpoint binding.mode = .subscriber endpoint ∨
        mailbox.view endpoint binding.mode = .tap endpoint) := by
  obtain ⟨_, awaits⟩ := awaits
  cases transfer with
  | send =>
      change condition.kind = .writable at awaits
      rw [subscribed] at awaits
      cases awaits
  | receive endpoint room =>
      refine ⟨endpoint, room, rfl, ?_⟩
      have kind := awaits.2
      rw [subscribed] at kind
      unfold view at kind ⊢
      split
      · exact Or.inr rfl
      · rename_i untapped
        rw [if_neg untapped] at kind
        split
        · rename_i queued
          rw [if_pos queued] at kind
          cases kind
        · exact Or.inl rfl

namespace Exchange

/-- Receives from the queue of a mailbox that have been woken, have not gone on yet, and have kept
their handles since they were parked. -/
def Unretried (now : Exchange) (past : List Exchange) (id : MailboxId) : Set Nat :=
  {waiter | ∃ call binding, now.suspended[waiter]? = some call ∧ call.transfer.kind = .receive ∧
    call.condition = ⟨.readable, id⟩ ∧ now.waits.waiters[waiter]? = some .woken ∧
    StayedOpen (now :: past) waiter binding}

variable {before after : Exchange} {earlier : List Exchange} {waiter : Nat} {call : Suspended}
  {news : List Wakeup} {id : MailboxId}

theorem Orderly.unretried_finite (orderly : before.Orderly earlier) (id : MailboxId) :
    (before.Unretried earlier id).Finite := by
  apply (Set.finite_lt_nat before.waits.next).subset
  rintro waiter ⟨call, binding, suspended, _⟩
  exact orderly.older before List.mem_cons_self waiter call suspended

theorem Orderly.unretried_reads (orderly : before.Orderly earlier)
    (member : waiter ∈ before.Unretried earlier id) :
    ∃ call endpoint room binding mailbox, before.suspended[waiter]? = some call ∧
      call.transfer = .receive endpoint room ∧ before.engine.Reads endpoint binding mailbox ∧
      mailbox.view endpoint binding.mode = .queue ∧ binding.mailbox = id := by
  obtain ⟨call, binding, suspended, _, condition, _, stayed⟩ := member
  have held := (stayedOpen_cons.mp stayed).1 call suspended
  obtain ⟨mailbox, found, awaits⟩ := orderly.matched waiter call binding suspended stayed
  obtain ⟨endpoint, room, receives, reads, queued⟩ := awaits.reads_queue (by rw [condition])
  refine ⟨call, endpoint, room, binding, mailbox, suspended, receives, ⟨?_, found, reads⟩, queued,
    ?_⟩
  · rw [receives] at held
    exact held
  · rw [← awaits.1, condition]

theorem Advances.depth_le {gone : Option Nat} {engine : Engine}
    (advances : before.Advances gone engine) (orderly : before.Orderly earlier)
    {old new : Mailbox} (found : before.engine.registry.get? id = some old)
    (there : engine.registry.get? id = some new) (steady : old.Steady engine.wakeups new)
    {unknown : Nat} (covered : old.queue.depth ≤ (before.Unretried earlier id).ncard + unknown) :
    new.queue.depth ≤ (before.Unretried earlier id \ {waiter | gone = some waiter}).ncard +
      engine.wakeups.count ⟨⟨.readable, id⟩, .one⟩ + unknown := by
  have same : old.id = id := orderly.sound.supports.id_eq found
  have queue := steady.queue
  rw [same] at queue
  by_cases own : ∃ waiter, gone = some waiter ∧ waiter ∈ before.Unretried earlier id
  · obtain ⟨waiter, rfl, member⟩ := own
    obtain ⟨call, endpoint, room, binding, mailbox, suspended, receives, reader, queued, rfl⟩ :=
      orderly.unretried_reads member
    obtain ⟨⟨later, present, depth⟩, _⟩ :=
      advances.drains waiter call endpoint room rfl suspended receives binding mailbox reader queued
    cases reader.found.symm.trans found
    cases present.symm.trans there
    have alone : {other | some waiter = some other} = {waiter} := by
      ext other
      simp [eq_comm]
    have one := Set.ncard_sdiff_singleton_of_mem member
    rw [alone]
    omega
  · have all : before.Unretried earlier id \ {waiter | gone = some waiter} =
        before.Unretried earlier id := by
      rw [sdiff_eq_left, Set.disjoint_left]
      intro waiter member here
      exact own ⟨waiter, here, member⟩
    rw [all]
    omega

theorem ncard_add_length_le {kept all : Set Nat} {woken : List Nat} (finite : all.Finite)
    (distinct : woken.Nodup) (left : kept ⊆ all) (right : ∀ waiter ∈ woken, waiter ∈ all)
    (apart : ∀ waiter ∈ woken, waiter ∉ kept) : kept.ncard + woken.length ≤ all.ncard := by
  have disjoint : Disjoint kept (woken.toFinset : Set Nat) := by
    rw [Set.disjoint_right]
    intro waiter member
    exact apart waiter (by simpa using member)
  have within : kept ∪ (woken.toFinset : Set Nat) ⊆ all := by
    refine Set.union_subset left ?_
    intro waiter member
    exact right waiter (by simpa using member)
  calc kept.ncard + woken.length
      = kept.ncard + (woken.toFinset : Set Nat).ncard := by
        rw [Set.ncard_coe_finset, List.toFinset_card_of_nodup distinct]
    _ = (kept ∪ (woken.toFinset : Set Nat)).ncard :=
        (Set.ncard_union_eq disjoint (finite.subset left) (Finset.finite_toSet _)).symm
    _ ≤ all.ncard := Set.ncard_le_ncard within finite

theorem Endures.unretried {binding : Binding} {old new : Mailbox}
    (endures : before.Endures after waiter call binding old new news)
    (orderly : before.Orderly earlier) (about : call.condition = ⟨.readable, id⟩) {other : Nat}
    {otherCall : Suspended} {otherBinding : Binding}
    (suspended : before.suspended[other]? = some otherCall)
    (stayed : StayedOpen (before :: earlier) other otherBinding)
    (readable : otherCall.condition = ⟨.readable, id⟩)
    (same : after.suspended[other]? = some otherCall)
    (woken : after.waits.waiters[other]? = some .woken) :
    other ∈ after.Unretried (before :: earlier) id := by
  have held := (stayedOpen_cons.mp stayed).1 otherCall suspended
  obtain ⟨mailbox, found, awaits⟩ := orderly.matched other otherCall otherBinding suspended stayed
  obtain ⟨endpoint, room, receives, _, _⟩ := awaits.reads_queue (by rw [readable])
  have there : otherBinding.mailbox = binding.mailbox := by
    rw [← awaits.1, ← endures.awaits.1, readable, about]
  refine ⟨otherCall, otherBinding, same, by rw [receives]; rfl, readable, woken, ?_⟩
  refine stayedOpen_cons.mpr ⟨?_, stayed⟩
  intro later found
  cases same.symm.trans found
  exact endures.others _ _ held there

theorem Endures.unretried_grows {binding : Binding} {old new : Mailbox} {gone : Option Nat}
    {engine : Engine}
    (endures : before.Endures after waiter call binding old new engine.wakeups)
    (orderly : before.Orderly earlier) (later : after.Orderly (before :: earlier))
    (waits : after.Waits waiter call) (about : call.condition = ⟨.readable, id⟩)
    (advances : before.Advances gone engine)
    (waits_eq : after.waits = (before.shed gone).waits.wakeAll engine.wakeups.reverse)
    (suspended_eq : after.suspended = (before.shed gone).suspended) :
    (before.Unretried earlier id \ {waiter | gone = some waiter}).ncard +
        engine.wakeups.count ⟨⟨.readable, id⟩, .one⟩ ≤
      (after.Unretried (before :: earlier) id).ncard := by
  have sound := shed_sound orderly.waits gone
  have untold : ⟨call.condition, .all⟩ ∉ engine.wakeups.reverse :=
    fun told => endures.untold (List.mem_reverse.mp told)
  have still : waiter ∈ after.waits.waitingFor call.condition := by
    obtain ⟨other, found, member⟩ := later.queued waiter waits.waiting
    cases waits.suspended.symm.trans found
    exact member
  rw [waits_eq] at still
  obtain ⟨woken, distinct, count, states⟩ := sound.wakeAll_one untold still
  rw [List.count_reverse, about] at count
  rw [shed_waitingFor advances.passed, ← waits_eq] at states
  rw [← count]
  apply ncard_add_length_le (later.unretried_finite id) distinct
  · rintro other ⟨⟨otherCall, otherBinding, suspended, _, readable, state, stayed⟩, apart⟩
    have apart : gone ≠ some other := apart
    have same : (before.shed gone).suspended[other]? = some otherCall := by
      rw [shed_suspended, if_neg apart]
      exact suspended
    have kept : (before.shed gone).waits.waiters[other]? = some .woken := by
      rw [shed_waiters, if_neg apart]
      exact state
    refine endures.unretried orderly about suspended stayed readable (suspended_eq ▸ same) ?_
    rw [waits_eq]
    rcases sound.wakeAll_waiters engine.wakeups.reverse other with unchanged | ⟨waiting, _⟩
    · rw [unchanged, kept]
    · rw [kept] at waiting
      cases waiting
  · intro other member
    obtain ⟨was, woken⟩ := states other member
    have waiting := (WaitQueues.mem_waitingFor.mp was).2
    obtain ⟨otherCall, suspended, queued⟩ := orderly.queued other waiting
    have readable := orderly.waits.waiting_apart queued was
    obtain ⟨otherBinding, stayed⟩ := orderly.bound other otherCall ⟨suspended, waiting⟩
    have same : (before.shed gone).suspended[other]? = some otherCall := by
      rw [shed_suspended, if_neg (fun here => advances.passed other here waiting)]
      exact suspended
    exact endures.unretried orderly about suspended stayed (readable.trans about)
      (suspended_eq ▸ same) woken
  · rintro other member ⟨⟨_, _, _, _, _, state, _⟩, _⟩
    have waiting := (WaitQueues.mem_waitingFor.mp (states other member).1).2
    rw [state] at waiting
    cases waiting

/-- While a receiver waits for a message in the queue, every message is some other's. -/
def Covered (now : Exchange) (past : List Exchange) : Prop :=
  ∀ id waiter call mailbox, now.Waits waiter call → call.condition = ⟨.readable, id⟩ →
    now.engine.registry.get? id = some mailbox →
      mailbox.queue.depth ≤ (now.Unretried past id).ncard

def CoveredBut (unknown : MailboxId → Nat) (now : Exchange) (past : List Exchange) : Prop :=
  ∀ id waiter call mailbox, now.Waits waiter call → call.condition = ⟨.readable, id⟩ →
    now.engine.registry.get? id = some mailbox →
      mailbox.queue.depth ≤ (now.Unretried past id).ncard + unknown id

theorem Becomes.coveredBut {unknown : MailboxId → Nat} (becomes : before.Becomes news after)
    (orderly : before.Orderly earlier) (covered : CoveredBut unknown before earlier) :
    CoveredBut unknown after (before :: earlier) := by
  intro id waiter call mailbox waits about there
  have later := becomes.orderly orderly
  rcases becomes.waiting_cases orderly waits with
    ⟨binding, old, new, endures⟩ | ⟨_, binding, stuckBox, stuck⟩
  · have leads : binding.mailbox = id := by rw [← endures.awaits.1, about]
    have found := endures.found
    have remains := endures.remains
    rw [leads] at found remains
    cases remains.symm.trans there
    have earlierCovered := covered id waiter call old endures.waits about found
    cases becomes with
    | flushed gone engine advances engine_eq waits_eq suspended_eq =>
        rw [engine_eq] at there
        exact Nat.le_trans (advances.depth_le orderly found there endures.steady earlierCovered)
          (Nat.add_le_add_right
            (endures.unretried_grows orderly later waits about advances waits_eq suspended_eq) _)
    | parked gone engine parked advances quiet stuck engine_eq waits_eq suspended_eq =>
        rw [engine_eq] at there
        have depth := advances.depth_le orderly found there endures.steady earlierCovered
        rw [quiet.trans orderly.quiet, List.count_nil, Nat.add_zero] at depth
        refine Nat.le_trans depth
          (Nat.add_le_add_right (Set.ncard_le_ncard ?_ (later.unretried_finite id)) _)
        rintro other ⟨⟨otherCall, otherBinding, suspended, _, readable, state, stayed⟩, apart⟩
        have apart : gone ≠ some other := apart
        have known : before.waits.next ≠ other :=
          Nat.ne_of_gt (orderly.older before List.mem_cons_self other otherCall suspended)
        refine endures.unretried orderly about suspended stayed readable ?_ ?_
        · rw [suspended_eq, Table.insert_at, if_neg known, shed_suspended, if_neg apart]
          exact suspended
        · rw [waits_eq, WaitQueues.park_waiters, shed_next, if_neg known, shed_waiters,
            if_neg apart]
          exact state
    | rested lapsed waited engine_eq waits_eq suspended_eq =>
        rw [engine_eq] at there
        cases found.symm.trans there
        refine Nat.le_trans earlierCovered
          (Nat.add_le_add_right (Set.ncard_le_ncard ?_ (later.unretried_finite id)) _)
        rintro other ⟨otherCall, otherBinding, suspended, _, readable, state, stayed⟩
        refine endures.unretried orderly about suspended stayed readable (suspended_eq ▸ suspended)
          ?_
        rw [waits_eq, shed_waiters, if_neg, state]
        intro here
        rw [waited other here] at state
        cases state
  · obtain ⟨endpoint, room, receives, _, queued⟩ := stuck.awaits.reads_queue (by rw [about])
    obtain ⟨ring, seen, empty⟩ := stuck.empty endpoint room receives
    have leads : binding.mailbox = id := by rw [← stuck.awaits.1, about]
    have found := stuck.found
    rw [leads] at found
    cases found.symm.trans there
    rw [queued] at seen
    cases seen
    simp [Ring.depth, empty]

theorem Becomes.covered (becomes : before.Becomes news after) (orderly : before.Orderly earlier)
    (covered : before.Covered earlier) : after.Covered (before :: earlier) := by
  have none : CoveredBut (fun _ => 0) before earlier := covered
  exact becomes.coveredBut orderly none

def Drained (now : Exchange) : Prop :=
  ∀ id waiter call, now.Waits waiter call → call.condition = ⟨.subscriber, id⟩ →
    ∃ mailbox subscription, now.engine.registry.get? id = some mailbox ∧
      mailbox.subscribers[call.transfer.endpoint]? = some subscription ∧
      subscription.ring.frames = []

theorem Becomes.drained (becomes : before.Becomes news after) (orderly : before.Orderly earlier)
    (drained : before.Drained) : after.Drained := by
  intro id waiter call waits about
  rcases becomes.waiting_cases orderly waits with
    ⟨binding, old, new, endures⟩ | ⟨_, binding, mailbox, stuck⟩
  · have leads : binding.mailbox = id := by rw [← endures.awaits.1, about]
    have found := endures.found
    have remains := endures.remains
    rw [leads] at found remains
    obtain ⟨mailbox, subscription, there, subscribed, empty⟩ :=
      drained id waiter call endures.waits about
    cases found.symm.trans there
    rcases endures.steady.rings with told | kept
    · rw [orderly.sound.supports.id_eq found, ← about] at told
      exact absurd told endures.untold
    · obtain ⟨later, still, dry⟩ := kept _ subscription subscribed empty
      exact ⟨new, later, remains, still, dry⟩
  · obtain ⟨endpoint, room, receives, views⟩ := stuck.awaits.reads_ring (by rw [about])
    obtain ⟨ring, seen, empty⟩ := stuck.empty endpoint room receives
    have leads : binding.mailbox = id := by rw [← stuck.awaits.1, about]
    have found := stuck.found
    rw [leads] at found
    have subscribed : mailbox.subscribers[endpoint]?.map Subscription.ring = some ring := by
      rcases views with view | view <;> rw [view] at seen <;> exact seen
    obtain ⟨subscription, there, rfl⟩ := Option.map_eq_some_iff.mp subscribed
    refine ⟨mailbox, subscription, found, ?_, empty⟩
    rw [receives]
    exact there

theorem Run.covered {limits : Limits} {now : Exchange} {past : List Exchange}
    (run : Run (Exchange.start limits) (now :: past))
    (few : now.engine.registrations ≤ Registry.mostNumbers) : now.Covered past := by
  refine run.always (start_orderly limits) ?_ Becomes.covered few
  intro id waiter call mailbox waits
  exact absurd waits (start_waits limits waiter call)

theorem Run.drained {limits : Limits} {now : Exchange} {past : List Exchange}
    (run : Run (Exchange.start limits) (now :: past))
    (few : now.engine.registrations ≤ Registry.mostNumbers) : now.Drained := by
  refine @Run.always _ (start_orderly limits) (fun now _ => now.Drained) ?_ Becomes.drained _ _
    run few
  intro id waiter call waits
  exact absurd waits (start_waits limits waiter call)

/-- In every state of every run, no wakeup is left behind, and every suspended call is in line for
what it waits for, or woken and due to go on, or out of time. While a receive is suspended that
waits for a message in the queue of a mailbox and is neither woken nor out of time, the queue holds
no more messages than there are receives that were woken for one, have not gone on yet and have
kept their handles; and one that waits for a copy has none to read. -/
theorem no_receiver_stranded (limits : Limits) {now : Exchange} {past : List Exchange}
    (run : Run (start limits) (now :: past))
    (few : now.engine.registrations ≤ Registry.mostNumbers) :
    now.engine.wakeups = [] ∧
    (∀ waiter call, now.suspended[waiter]? = some call → now.Stands waiter call) ∧
    (∀ id waiter call, now.suspended[waiter]? = some call →
      now.waits.waiters[waiter]? ≠ some .woken → ¬ now.Lapsed waiter call →
      call.condition = ⟨.readable, id⟩ →
        ∃ mailbox, now.engine.registry.get? id = some mailbox ∧
          mailbox.queue.depth ≤ (now.Unretried past id).ncard) ∧
    ∀ id waiter call, now.suspended[waiter]? = some call →
      now.waits.waiters[waiter]? ≠ some .woken → ¬ now.Lapsed waiter call →
      call.condition = ⟨.subscriber, id⟩ →
        ∃ mailbox subscription, now.engine.registry.get? id = some mailbox ∧
          mailbox.subscribers[call.transfer.endpoint]? = some subscription ∧
          subscription.ring.frames = [] := by
  have orderly := run.orderly (start_orderly limits) few
  have minded := run.minded (start_minded limits)
  refine ⟨orderly.quiet, minded.stands, ?_, ?_⟩
  · intro id waiter call suspended unwoken timely about
    have waits := minded.waits suspended unwoken timely
    obtain ⟨binding, stayed⟩ := orderly.bound waiter call waits
    obtain ⟨mailbox, found, awaits⟩ := orderly.matched waiter call binding suspended stayed
    rw [← awaits.1, about] at found
    exact ⟨mailbox, found, run.covered few id waiter call mailbox waits about found⟩
  · intro id waiter call suspended unwoken timely about
    exact run.drained few id waiter call (minded.waits suspended unwoken timely) about

def wakeNamed : Exchange := ((start {}).perform (.bindName 1 "app:wake" 64 3)).2

def wakeParked : Exchange := (wakeNamed.attempt 1 (.receive ⟨1, 1⟩ 64) none true).2

def wakeShared : Exchange := wakeParked.entered 2 (.receive ⟨1, 1⟩ 64)

def wakeSent : Exchange := wakeShared.entered 3 (.send ⟨1, 1⟩ [7] 0 0)

theorem wakeSent_reached :
    Run (start {}) [wakeSent, wakeShared, wakeParked, wakeNamed, start {}] := by
  have named : Run (start {}) [wakeNamed, start {}] :=
    .turn .start (@Turn.perform _ 0 (.bindName 1 "app:wake" 64 3) _ _ rfl rfl)
  exact ((named.enters 1 (.receive ⟨1, 1⟩ 64)).enters 2 _).enters 3 _

def wakeFanned : Exchange := wakeSent.performed (.bindName 2 "app:fan" 64 0x0b)

def wakeTuned : Exchange := wakeFanned.entered 4 (.receive ⟨2, 1⟩ 16)

/-- Two receives wait on a queue and one on a ring of its own; a message has woken the first. -/
theorem wakeTuned_covered :
    wakeTuned.waits.waiters[0]? = some .woken ∧ wakeTuned.Stands 0
        ⟨1, .receive ⟨1, 1⟩ 64, none, ⟨.readable, ⟨1⟩⟩⟩ ∧
    (∃ mailbox, wakeTuned.engine.registry.get? ⟨1⟩ = some mailbox ∧ mailbox.queue.depth = 1 ∧
      mailbox.queue.depth ≤ (wakeTuned.Unretried
        [wakeFanned, wakeSent, wakeShared, wakeParked, wakeNamed, start {}] ⟨1⟩).ncard) ∧
    ∃ mailbox subscription, wakeTuned.engine.registry.get? ⟨2⟩ = some mailbox ∧
      mailbox.subscribers[(⟨2, 1⟩ : Endpoint)]? = some subscription ∧
      subscription.ring.frames = [] := by
  have fanned := wakeSent_reached.performs 2 (.bindName 2 "app:fan" 64 0x0b) rfl
  have tuned : Run (start {}) [wakeTuned, wakeFanned, wakeSent, wakeShared, wakeParked, wakeNamed,
      start {}] := fanned.enters 4 (.receive ⟨2, 1⟩ 16)
  obtain ⟨_, stands, covered, drained⟩ := no_receiver_stranded {} tuned (by decide +kernel)
  have timely : ∀ waiter call, wakeTuned.waits.waiters[waiter]? ≠ none →
      ¬ wakeTuned.Lapsed waiter call := fun _ _ there lapsed => there lapsed.1
  refine ⟨by decide +kernel, stands 0 _ (by decide +kernel), ?_, ?_⟩
  · obtain ⟨mailbox, found, depth⟩ := covered ⟨1⟩ 1
      ⟨2, .receive ⟨1, 1⟩ 64, none, ⟨.readable, ⟨1⟩⟩⟩ (by decide +kernel) (by decide +kernel)
      (timely _ _ (by decide +kernel)) rfl
    have one : (wakeTuned.engine.registry.get? ⟨1⟩).map (·.queue.depth) = some 1 := by
      decide +kernel
    rw [found] at one
    exact ⟨mailbox, found, Option.some.inj one, depth⟩
  · exact drained ⟨2⟩ 2 ⟨4, .receive ⟨2, 1⟩ 16, none, ⟨.subscriber, ⟨2⟩⟩⟩ (by decide +kernel)
      (by decide +kernel) (timely _ _ (by decide +kernel)) rfl

end Exchange

end Mailroom
