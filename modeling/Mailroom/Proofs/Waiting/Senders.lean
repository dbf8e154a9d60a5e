import Mailroom.Proofs.Waiting.Runs

/-!
What a parked sender waits for. Whatever makes room in the queue or in a reader's ring wakes it,
and so does a reader that leaves. A reader that begins to send itself gives up its ring as well,
but wakes nobody: a sender that was held back by such readers only is not told that it may go on.
-/

namespace Mailroom

def Mailbox.HasSent (mailbox : Mailbox) (reader : Endpoint) : Prop :=
  ∃ subscription, mailbox.subscribers[reader]? = some subscription ∧
    subscription.kind = .fanout ∧ subscription.sender = true

namespace Exchange

/-- In one of these states, all since the sender was parked, the reader had no room for the
message. -/
def HeldUp (states : List Exchange) (waiter : Nat) (id : MailboxId) (source : Endpoint)
    (cost : Nat) (reader : Endpoint) : Prop :=
  ∃ exchange ∈ states, exchange.suspended[waiter]? ≠ none ∧ ∃ mailbox,
    exchange.engine.registry.get? id = some mailbox ∧ mailbox.HeldBackBy source cost reader

variable {before after : Exchange} {earlier : List Exchange} {waiter : Nat} {call : Suspended}
  {news : List Wakeup} {binding : Binding} {old new : Mailbox}

theorem Endures.isTap_eq (endures : before.Endures after waiter call binding old new news)
    (orderly : before.Orderly earlier) (sound : after.engine.scene.Sound) {endpoint : Endpoint}
    {subscription later : Subscription}
    (found : old.subscribers[endpoint]? = some subscription)
    (there : new.subscribers[endpoint]? = some later) : later.isTap = subscription.isTap := by
  obtain ⟨held, bound, leads, _, tapped⟩ :=
    (Engine.subscribed_iff orderly.sound endures.found endpoint subscription.isTap).mp
      ⟨subscription, found, rfl⟩
  obtain ⟨newHeld, newBound, _, _, newTapped⟩ :=
    (Engine.subscribed_iff sound endures.remains endpoint later.isTap).mp ⟨later, there, rfl⟩
  have kept := endures.others endpoint held bound leads
  cases kept.symm.trans newBound
  rw [← newTapped, tapped]

/-- What keeps a sender waiting that nobody has woken. -/
structure Hindered (now : Exchange) (past : List Exchange) (waiter : Nat) (id : MailboxId)
    (source : Endpoint) (cost : Nat) (mailbox : Mailbox) : Prop where
  blocking : mailbox.policy ≠ .fanoutDrop
  queue : mailbox.policy = .queue → mailbox.queue.free < cost
  hindrance : mailbox.policy = .fanoutBlock →
    ∃ reader, HeldUp (now :: past) waiter id source cost reader
  readers : mailbox.policy = .fanoutBlock →
    ∀ reader, HeldUp (now :: past) waiter id source cost reader →
      reader ≠ source ∧ ∃ subscription, mailbox.subscribers[reader]? = some subscription ∧
        subscription.isTap = false ∧
        (subscription.isReader = true → subscription.ring.free < cost)

theorem heldUp_cons {now : Exchange} {past : List Exchange} {id : MailboxId} {source : Endpoint}
    {cost : Nat} {reader : Endpoint} :
    HeldUp (now :: past) waiter id source cost reader ↔
      (now.suspended[waiter]? ≠ none ∧ ∃ mailbox, now.engine.registry.get? id = some mailbox ∧
        mailbox.HeldBackBy source cost reader) ∨
      HeldUp past waiter id source cost reader := by
  simp [HeldUp]

theorem Endures.hindered (endures : before.Endures after waiter call binding old new news)
    (orderly : before.Orderly earlier) (sound : after.engine.scene.Sound) {source : Endpoint}
    {cost : Nat} (writable : call.condition.kind = .writable)
    (hindered : before.Hindered earlier waiter binding.mailbox source cost old) :
    after.Hindered (before :: earlier) waiter binding.mailbox source cost new := by
  have policy := endures.steady.lasts.policy_eq
  have room : new.queue.free ≤ old.queue.free ∧
      ∀ (endpoint : Endpoint) (subscription : Subscription),
        old.subscribers[endpoint]? = some subscription →
          ∃ later, new.subscribers[endpoint]? = some later ∧
            (later.isReader = true →
              subscription.isReader = true ∧ later.ring.free ≤ subscription.ring.free) := by
    rcases endures.steady.room with told | kept
    · have about : call.condition = ⟨.writable, old.id⟩ := by
        rw [orderly.sound.supports.id_eq endures.found, ← endures.awaits.1, ← writable]
      rw [← about] at told
      exact absurd told endures.untold
    · exact kept
  refine ⟨?_, ?_, ?_, ?_⟩
  · rw [policy]
    exact hindered.blocking
  · intro queued
    rw [policy] at queued
    exact Nat.lt_of_le_of_lt room.1 (hindered.queue queued)
  · intro fanned
    rw [policy] at fanned
    obtain ⟨reader, held⟩ := hindered.hindrance fanned
    exact ⟨reader, heldUp_cons.mpr (Or.inr held)⟩
  · intro fanned reader held
    rw [policy] at fanned
    rcases heldUp_cons.mp held with
      ⟨_, mailbox, found, other, subscription, there, reads, less⟩ | past
    · cases endures.remains.symm.trans found
      exact ⟨other, subscription, there, Subscription.isTap_of_isReader reads, fun _ => less⟩
    · obtain ⟨other, subscription, there, untapped, less⟩ := hindered.readers fanned reader past
      obtain ⟨later, still, shrinks⟩ := room.2 reader subscription there
      refine ⟨other, later, still, ?_, ?_⟩
      · rw [endures.isTap_eq orderly sound there still]
        exact untapped
      · intro reads
        obtain ⟨was, free⟩ := shrinks reads
        exact Nat.lt_of_le_of_lt free (less was)

theorem stuck_hindered {id : MailboxId} {source : Endpoint} {payload : Bytes}
    {flags channel : UInt16} {mailbox : Mailbox} (orderly : before.Orderly earlier)
    (suspended : after.suspended[before.waits.next]? = some call)
    (sends : call.transfer = .send source payload flags channel)
    (stuck : after.engine.Stuck call.transfer call.condition binding mailbox)
    (leads : binding.mailbox = id) :
    after.Hindered (before :: earlier) before.waits.next id source (framedSize payload.length)
      mailbox := by
  have stalls := stuck.full source payload flags channel sends
  have found := stuck.found
  rw [leads] at found
  have nowOnly : ∀ reader, HeldUp (after :: before :: earlier) before.waits.next id source
      (framedSize payload.length) reader →
        mailbox.HeldBackBy source (framedSize payload.length) reader := by
    intro reader held
    rcases heldUp_cons.mp held with ⟨_, other, there, back⟩ | ⟨exchange, member, there, _⟩
    · cases found.symm.trans there
      exact back
    · obtain ⟨old, present⟩ := Option.ne_none_iff_exists'.mp there
      exact absurd (orderly.older exchange member _ old present) (Nat.lt_irrefl _)
  unfold Mailbox.Stalls at stalls
  refine ⟨?_, ?_, ?_, ?_⟩
  · intro drops
    rw [drops] at stalls
    exact stalls
  · intro queued
    rw [queued] at stalls
    exact stalls
  · intro fanned
    rw [fanned] at stalls
    obtain ⟨reader, back⟩ := stalls
    exact ⟨reader, heldUp_cons.mpr (Or.inl ⟨by simp [suspended], mailbox, found, back⟩)⟩
  · intro _ reader held
    obtain ⟨other, subscription, there, reads, less⟩ := nowOnly reader held
    exact ⟨other, subscription, there, Subscription.isTap_of_isReader reads, fun _ => less⟩

def SendersHindered (now : Exchange) (past : List Exchange) : Prop :=
  ∀ waiter call source payload flags channel mailbox, now.Waits waiter call →
    call.transfer = .send source payload flags channel →
      now.engine.registry.get? call.condition.mailbox = some mailbox →
        now.Hindered past waiter call.condition.mailbox source (framedSize payload.length) mailbox

theorem Becomes.sendersHindered (becomes : before.Becomes news after)
    (orderly : before.Orderly earlier) (hindered : before.SendersHindered earlier) :
    after.SendersHindered (before :: earlier) := by
  intro waiter call source payload flags channel mailbox waits sends there
  rcases becomes.waiting_cases orderly waits with
    ⟨binding, old, new, endures⟩ | ⟨rfl, binding, stuckBox, stuck⟩
  · have leads : call.condition.mailbox = binding.mailbox := endures.awaits.1
    have writable : call.condition.kind = .writable := by
      have awaits := endures.awaits.2
      rw [sends] at awaits
      exact awaits
    rw [leads] at there ⊢
    cases endures.remains.symm.trans there
    refine endures.hindered orderly (becomes.sound orderly.sound orderly.running).1 writable ?_
    rw [← leads]
    refine hindered waiter call source payload flags channel old endures.waits sends ?_
    rw [leads]
    exact endures.found
  · have leads : call.condition.mailbox = binding.mailbox := stuck.awaits.1
    rw [leads] at there
    cases stuck.found.symm.trans there
    exact stuck_hindered orderly waits.suspended sends stuck leads.symm

theorem Run.sendersHindered {limits : Limits} {now : Exchange} {past : List Exchange}
    (run : Run (Exchange.start limits) (now :: past))
    (few : now.engine.registrations ≤ Registry.mostNumbers) : now.SendersHindered past := by
  refine run.always (start_orderly limits) ?_ Becomes.sendersHindered few
  intro waiter call source payload flags channel mailbox waits
  exact absurd waits (start_waits limits waiter call)

theorem Hindered.stalls_iff {now : Exchange} {past : List Exchange} {id : MailboxId}
    {source : Endpoint} {cost : Nat} {mailbox : Mailbox}
    (hindered : now.Hindered past waiter id source cost mailbox)
    (suspended : now.suspended[waiter]? ≠ none)
    (found : now.engine.registry.get? id = some mailbox) :
    mailbox.Stalls source cost ↔
      ¬ (mailbox.policy = .fanoutBlock ∧
        ∀ reader, HeldUp (now :: past) waiter id source cost reader → mailbox.HasSent reader) := by
  unfold Mailbox.Stalls
  cases policy : mailbox.policy with
  | queue => simp [hindered.queue policy]
  | fanoutDrop => exact absurd policy hindered.blocking
  | fanoutBlock =>
      constructor
      · rintro ⟨reader, back⟩ ⟨_, sent⟩
        obtain ⟨subscription, there, _, sender⟩ :=
          sent reader (heldUp_cons.mpr (Or.inl ⟨suspended, mailbox, found, back⟩))
        obtain ⟨_, other, present, reads, _⟩ := back
        cases there.symm.trans present
        simp [Subscription.isReader, sender] at reads
      · intro unsent
        simp only [true_and] at unsent
        push Not at unsent
        obtain ⟨reader, held, unsent⟩ := unsent
        obtain ⟨other, subscription, there, untapped, less⟩ := hindered.readers policy reader held
        refine ⟨reader, other, subscription, there, ?_, ?_⟩
        all_goals
          have fanout : subscription.kind = .fanout := by
            cases kind : subscription.kind with
            | tap enabled => simp [Subscription.isTap, kind] at untapped
            | fanout => rfl
          have silent : subscription.sender = false := by
            rw [Bool.eq_false_iff]
            exact fun sender => unsent ⟨subscription, there, fanout, sender⟩
          have reads : subscription.isReader = true := by
            simp [Subscription.isReader, fanout, silent]
        · exact reads
        · exact less reads

/-- A send that is parked and that nobody has woken still cannot go on, unless its mailbox is a
blocking fan-out on which every reader that was short of room for it since it was parked has begun
to send. -/
theorem parked_send_stalls_iff (limits : Limits) {now : Exchange} {past : List Exchange}
    (run : Run (start limits) (now :: past))
    (few : now.engine.registrations ≤ Registry.mostNumbers) {waiter : Nat} {call : Suspended}
    (waits : now.Waits waiter call) {source : Endpoint} {payload : Bytes}
    {flags channel : UInt16} (sends : call.transfer = .send source payload flags channel) :
    ∃ binding mailbox, now.engine.handles.binding? source = some binding ∧
      call.condition = ⟨.writable, binding.mailbox⟩ ∧
      now.engine.registry.get? binding.mailbox = some mailbox ∧
      mailbox.policy ≠ .fanoutDrop ∧
      (mailbox.policy = .fanoutBlock → ∃ reader,
        HeldUp (now :: past) waiter binding.mailbox source (framedSize payload.length) reader) ∧
      (mailbox.Stalls source (framedSize payload.length) ↔
        ¬ (mailbox.policy = .fanoutBlock ∧ ∀ reader,
          HeldUp (now :: past) waiter binding.mailbox source (framedSize payload.length) reader →
            mailbox.HasSent reader)) := by
  have orderly := run.orderly (start_orderly limits) few
  obtain ⟨binding, stayed⟩ := orderly.bound waiter call waits
  have held := (stayedOpen_cons.mp stayed).1 call waits.suspended
  obtain ⟨mailbox, found, leads, awaits⟩ :=
    orderly.matched waiter call binding waits.suspended stayed
  rw [sends] at held awaits
  have condition : call.condition = ⟨.writable, binding.mailbox⟩ := by
    rw [← leads, ← show call.condition.kind = .writable from awaits]
  have hindered := run.sendersHindered few waiter call source payload flags channel mailbox waits
    sends (by rw [leads]; exact found)
  rw [leads] at hindered
  exact ⟨binding, mailbox, held, condition, found, hindered.blocking, hindered.hindrance,
    hindered.stalls_iff (by simp [waits.suspended]) found⟩

def feed : Exchange := ((start {}).perform (.bindName 1 "shared:feed" 32 0x2a)).2

def feedJoined : Exchange := (feed.perform (.openName 2 "shared:feed" 3)).2

def feedMessage : Transfer := .send ⟨1, 1⟩ (List.replicate 16 0) 0 0

def feedFilled : Exchange := (feedJoined.attempt 2 feedMessage (some 0) false).2

def feedParked : Exchange := (feedFilled.attempt 3 feedMessage none true).2

def feedTurned : Exchange :=
  (feedParked.attempt 4 (.send ⟨2, 1⟩ [1, 2, 3, 4] 0 0) (some 0) false).2

def feedCall : Suspended := ⟨3, feedMessage, none, ⟨.writable, ⟨1⟩⟩⟩

theorem feedParked_run :
    Run (start {}) [feedParked, feedFilled, feedJoined, feed, start {}] := by
  have named : Run (start {}) [feed, start {}] :=
    .turn .start (@Turn.perform _ 0 (.bindName 1 "shared:feed" 32 0x2a) _ _ rfl rfl)
  have joined : Run (start {}) [feedJoined, feed, start {}] :=
    .turn named (@Turn.perform _ 1 (.openName 2 "shared:feed" 3) _ _ rfl rfl)
  have filled : Run (start {}) [feedFilled, feedJoined, feed, start {}] :=
    .turn joined (@Turn.enter _ 2 feedMessage .poll 0 _ _ (Nat.zero_le _) rfl)
  exact .turn filled (@Turn.enter _ 3 feedMessage .infinite 0 _ _ (Nat.zero_le _) rfl)

theorem feedTurned_run :
    Run (start {}) [feedTurned, feedParked, feedFilled, feedJoined, feed, start {}] :=
  .turn feedParked_run
    (@Turn.enter _ 4 (.send ⟨2, 1⟩ [1, 2, 3, 4] 0 0) .poll 0 _ _ (Nat.zero_le _) rfl)

theorem feedParked_heldUp : ∃ reader,
    HeldUp [feedParked, feedFilled, feedJoined, feed, start {}] 0 ⟨1⟩ ⟨1, 1⟩ 24 reader := by
  have waits : feedParked.Waits 0 feedCall := ⟨by decide +kernel, by decide +kernel⟩
  obtain ⟨binding, mailbox, _, condition, found, _, hindrance, _⟩ :=
    parked_send_stalls_iff {} feedParked_run (by decide +kernel) waits rfl
  have leads : binding.mailbox = ⟨1⟩ := (congrArg Condition.mailbox condition).symm
  rw [leads] at found hindrance
  have blocks : (feedParked.engine.registry.get? ⟨1⟩).all (·.policy = .fanoutBlock) = true := by
    decide +kernel
  rw [found] at blocks
  exact hindrance (of_decide_eq_true blocks)

/-- A send can stay parked although nothing is in its way any more. -/
theorem parked_send_forgotten :
    ¬ ∀ (limits : Limits) (now : Exchange) (past : List Exchange),
      Run (start limits) (now :: past) → now.engine.registrations ≤ Registry.mostNumbers →
        ∀ waiter call source payload flags channel mailbox, now.Waits waiter call →
          call.transfer = .send source payload flags channel →
            now.engine.handles.binding? source ≠ none →
              now.engine.registry.get? call.condition.mailbox = some mailbox →
                mailbox.Stalls source (framedSize payload.length) := by
  intro always
  have waits : feedTurned.Waits 0 feedCall := ⟨by decide +kernel, by decide +kernel⟩
  have room : (feedTurned.engine.registry.get? ⟨1⟩).any (·.hasRoom 24) = true := by
    decide +kernel
  obtain ⟨mailbox, found, room⟩ := (Option.any_eq_true _ _).mp room
  have stillOpen : feedTurned.engine.handles.binding? ⟨1, 1⟩ ≠ none := by decide +kernel
  exact Mailbox.not_stalls_of_room room (always {} feedTurned _ feedTurned_run
    (by decide +kernel) 0 feedCall ⟨1, 1⟩ _ 0 0 mailbox waits rfl stillOpen found)

end Exchange

end Mailroom
