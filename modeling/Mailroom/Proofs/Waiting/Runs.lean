import Mailroom.Proofs.Waiting.Turns

/-!
Runs of turns. A call that waits after a turn has waited before it at a mailbox that was steady in
between, or has just been parked because it cannot go on; and the handle of a call that nobody has
woken has stood for one mailbox ever since the call was parked.
-/

namespace Mailroom.Exchange

/-- A call is parked and nobody has woken it. -/
structure Waits (exchange : Exchange) (waiter : Nat) (call : Suspended) : Prop where
  suspended : exchange.suspended[waiter]? = some call
  waiting : exchange.waits.waiters[waiter]? = some .waiting

/-- The handle of a suspended call has stood for this binding in all of these states. Waiters are
numbered once, so these are the states since the call was parked. -/
def StayedOpen (states : List Exchange) (waiter : Nat) (binding : Binding) : Prop :=
  ∀ exchange ∈ states, ∀ call, exchange.suspended[waiter]? = some call →
    exchange.engine.handles.binding? call.transfer.endpoint = some binding

theorem stayedOpen_cons {now : Exchange} {past : List Exchange} {waiter : Nat}
    {binding : Binding} :
    StayedOpen (now :: past) waiter binding ↔
      (∀ call, now.suspended[waiter]? = some call →
        now.engine.handles.binding? call.transfer.endpoint = some binding) ∧
      StayedOpen past waiter binding :=
  List.forall_mem_cons

structure Orderly (now : Exchange) (past : List Exchange) : Prop where
  sound : now.engine.scene.Sound
  running : now.engine.halted = none
  quiet : now.engine.wakeups = []
  waits : now.waits.Sound
  older : ∀ exchange ∈ now :: past, ∀ waiter call, exchange.suspended[waiter]? = some call →
    waiter < now.waits.next
  queued : ∀ waiter, now.waits.waiters[waiter]? = some .waiting →
    ∃ call, now.suspended[waiter]? = some call ∧ waiter ∈ now.waits.waitingFor call.condition
  bound : ∀ waiter call, now.Waits waiter call →
    ∃ binding, StayedOpen (now :: past) waiter binding
  matched : ∀ waiter call binding, now.suspended[waiter]? = some call →
    StayedOpen (now :: past) waiter binding →
      ∃ mailbox, now.engine.registry.get? binding.mailbox = some mailbox ∧
        mailbox.Awaits binding call.transfer call.condition

theorem start_suspended (limits : Limits) (waiter : Nat) :
    (start limits).suspended[waiter]? = none :=
  Table.empty_at waiter

theorem start_waits (limits : Limits) (waiter : Nat) (call : Suspended) :
    ¬ (start limits).Waits waiter call := by
  intro waits
  have found := waits.suspended
  rw [start_suspended] at found
  cases found

theorem start_orderly (limits : Limits) : (start limits).Orderly [] := by
  have nobody : ∀ (waiter : Nat) (call : Suspended),
      (start limits).suspended[waiter]? ≠ some call := by
    intro waiter call
    simp [start_suspended]
  have unknown : ∀ waiter : Nat, (start limits).waits.waiters[waiter]? ≠ some .waiting := by
    intro waiter found
    rw [start, Table.empty_at] at found
    cases found
  refine ⟨Engine.start_sound limits, rfl, rfl, WaitQueues.sound_nothing, ?_, ?_, ?_, ?_⟩
  · intro exchange member waiter call found
    rw [List.mem_singleton.mp member] at found
    exact absurd found (nobody _ _)
  · intro waiter waiting
    exact absurd waiting (unknown _)
  · intro waiter call waits
    exact absurd waits (start_waits limits waiter call)
  · intro waiter call binding found
    exact absurd found (nobody _ _)

variable {before after : Exchange} {earlier : List Exchange} {waiter : Nat} {call : Suspended}
  {news : List Wakeup}

theorem suspended_of_shed {gone : Option Nat}
    (suspended : (before.shed gone).suspended[waiter]? = some call) :
    before.suspended[waiter]? = some call := by
  rw [shed_suspended] at suspended
  split at suspended
  · cases suspended
  · exact suspended

theorem waits_of_shed {gone : Option Nat}
    (suspended : (before.shed gone).suspended[waiter]? = some call)
    (waiting : (before.shed gone).waits.waiters[waiter]? = some .waiting) :
    before.Waits waiter call := by
  refine ⟨suspended_of_shed suspended, ?_⟩
  rw [shed_waiters] at waiting
  split at waiting
  · cases waiting
  · exact waiting

theorem shed_waitingFor {gone : Option Nat}
    (passed : ∀ waiter, gone = some waiter → before.waits.waiters[waiter]? ≠ some .waiting)
    (condition : Condition) :
    (before.shed gone).waits.waitingFor condition = before.waits.waitingFor condition := by
  cases gone with
  | none => rfl
  | some waiter => exact WaitQueues.abandon_waitingFor (passed waiter rfl) condition

structure Endures (before after : Exchange) (waiter : Nat) (call : Suspended) (binding : Binding)
    (earlier later : Mailbox) (news : List Wakeup) : Prop where
  waits : before.Waits waiter call
  held : before.engine.handles.binding? call.transfer.endpoint = some binding
  found : before.engine.registry.get? binding.mailbox = some earlier
  awaits : earlier.Awaits binding call.transfer call.condition
  kept : after.engine.handles.binding? call.transfer.endpoint = some binding
  remains : after.engine.registry.get? binding.mailbox = some later
  steady : earlier.Steady news later
  untold : ⟨call.condition, .all⟩ ∉ news
  others : ∀ endpoint other, before.engine.handles.binding? endpoint = some other →
    other.mailbox = binding.mailbox → after.engine.handles.binding? endpoint = some other

theorem all_mem_rousing (condition : Condition) :
    ⟨condition, .all⟩ ∈ Engine.rousing condition.mailbox := by
  obtain ⟨kind, mailbox⟩ := condition
  cases kind <;> simp [Engine.rousing]

theorem Orderly.endures (orderly : before.Orderly earlier) (after : Exchange)
    (waits : before.Waits waiter call) {engine : Engine}
    (passes : before.engine.scene.Passes engine.scene)
    (untold : ⟨call.condition, .all⟩ ∉ engine.wakeups)
    (registry_eq : after.engine.registry = engine.registry)
    (handles_eq : after.engine.handles = engine.handles) :
    ∃ binding mailbox later, before.Endures after waiter call binding mailbox later
      engine.wakeups := by
  obtain ⟨binding, stayed⟩ := orderly.bound waiter call waits
  have held := (stayedOpen_cons.mp stayed).1 call waits.suspended
  obtain ⟨mailbox, found, awaits⟩ := orderly.matched waiter call binding waits.suspended stayed
  obtain ⟨news, wakeups_eq, settles⟩ := passes.news
  have toldEq : engine.wakeups = news := by
    change engine.wakeups = news ++ before.engine.wakeups at wakeups_eq
    rw [wakeups_eq, orderly.quiet, List.append_nil]
  subst toldEq
  rcases settles binding.mailbox mailbox found with roused | ⟨⟨later, there, steady⟩, kept⟩
  · refine absurd (roused ?_) untold
    rw [← awaits.1]
    exact all_mem_rousing call.condition
  · refine ⟨binding, mailbox, later, waits, held, found, awaits, ?_, ?_, steady, untold, ?_⟩
    · rw [handles_eq]
      exact kept _ _ held rfl
    · rw [registry_eq]
      exact there
    · intro endpoint other bound leads
      rw [handles_eq]
      exact kept endpoint other bound leads

theorem Becomes.waiting_cases (becomes : before.Becomes news after)
    (orderly : before.Orderly earlier) (waits : after.Waits waiter call) :
    (∃ binding mailbox later, before.Endures after waiter call binding mailbox later news) ∨
    (waiter = before.waits.next ∧ ∃ binding mailbox,
      after.engine.Stuck call.transfer call.condition binding mailbox) := by
  cases becomes with
  | flushed gone engine advances engine_eq waits_eq suspended_eq =>
      left
      have sound := shed_sound orderly.waits gone
      have waiting := waits.waiting
      have suspended := waits.suspended
      rw [waits_eq] at waiting
      rw [suspended_eq] at suspended
      have was := waits_of_shed suspended (sound.waiting_before waiting)
      obtain ⟨other, found, member⟩ := orderly.queued waiter was.waiting
      cases was.suspended.symm.trans found
      have untold : ⟨call.condition, .all⟩ ∉ engine.wakeups := by
        intro told
        rw [← shed_waitingFor advances.passed] at member
        have kept := sound.wakeAll_keeps engine.wakeups.reverse member waiting
        rw [sound.wakeAll_waitingFor, if_pos (List.mem_reverse.mpr told)] at kept
        cases kept
      obtain ⟨binding, mailbox, later, endures⟩ := orderly.endures after was
        advances.passes untold (by rw [engine_eq]) (by rw [engine_eq])
      exact ⟨binding, mailbox, later, endures⟩
  | parked gone engine parked advances quiet stuck engine_eq waits_eq suspended_eq =>
      have waiting := waits.waiting
      have suspended := waits.suspended
      rw [waits_eq, WaitQueues.park_waiters, shed_next] at waiting
      rw [suspended_eq, Table.insert_at] at suspended
      split at waiting
      · rename_i new
        rw [if_pos new] at suspended
        cases suspended
        obtain ⟨binding, mailbox, stuck⟩ := stuck
        rw [engine_eq]
        exact Or.inr ⟨new.symm, binding, mailbox, stuck⟩
      · rename_i old
        rw [if_neg old] at suspended
        have was := waits_of_shed suspended waiting
        have silent : engine.wakeups = [] := quiet.trans orderly.quiet
        obtain ⟨binding, mailbox, later, endures⟩ := orderly.endures after was
          advances.passes (by simp [silent]) (by rw [engine_eq]) (by rw [engine_eq])
        exact Or.inl ⟨binding, mailbox, later, endures⟩
  | rested lapsed waited engine_eq waits_eq suspended_eq =>
      have waiting := waits.waiting
      have suspended := waits.suspended
      rw [waits_eq, shed_waiters] at waiting
      rw [suspended_eq] at suspended
      split at waiting
      · cases waiting
      · obtain ⟨binding, mailbox, later, endures⟩ := orderly.endures after
          ⟨suspended, waiting⟩ (Scene.Passes.refl orderly.sound) (by simp [orderly.quiet])
          (by rw [engine_eq]) (by rw [engine_eq])
        rw [orderly.quiet] at endures
        exact Or.inl ⟨binding, mailbox, later, endures⟩

theorem Becomes.lasts (becomes : before.Becomes news after) (orderly : before.Orderly earlier)
    {id : MailboxId} {old new : Mailbox} (found : before.engine.registry.get? id = some old)
    (there : after.engine.registry.get? id = some new) : old.Lasts new := by
  cases becomes with
  | flushed gone engine advances engine_eq waits_eq suspended_eq =>
      rw [engine_eq] at there
      exact advances.passes.lasts orderly.sound found there
  | parked gone engine parked advances quiet stuck engine_eq waits_eq suspended_eq =>
      rw [engine_eq] at there
      exact advances.passes.lasts orderly.sound found there
  | rested lapsed waited engine_eq waits_eq suspended_eq =>
      rw [engine_eq] at there
      cases found.symm.trans there
      exact .refl old

theorem Becomes.waits_sound (becomes : before.Becomes news after) (sound : before.waits.Sound) :
    after.waits.Sound ∧ before.waits.next ≤ after.waits.next := by
  cases becomes with
  | flushed gone engine advances engine_eq waits_eq suspended_eq =>
      rw [waits_eq, WaitQueues.wakeAll_next, shed_next]
      exact ⟨(shed_sound sound gone).wakeAll _, Nat.le_refl _⟩
  | parked gone engine parked advances quiet stuck engine_eq waits_eq suspended_eq =>
      rw [waits_eq]
      refine ⟨(shed_sound sound gone).park _, ?_⟩
      rw [← shed_next before gone]
      exact Nat.le_succ _
  | rested lapsed waited engine_eq waits_eq suspended_eq =>
      rw [waits_eq, shed_next]
      exact ⟨shed_sound sound lapsed, Nat.le_refl _⟩

theorem Becomes.suspended_cases (becomes : before.Becomes news after)
    (suspended : after.suspended[waiter]? = some call) :
    before.suspended[waiter]? = some call ∨
    (waiter = before.waits.next ∧ waiter < after.waits.next ∧ ∃ binding mailbox,
      after.engine.Stuck call.transfer call.condition binding mailbox) := by
  cases becomes with
  | flushed gone engine advances engine_eq waits_eq suspended_eq =>
      rw [suspended_eq] at suspended
      exact Or.inl (suspended_of_shed suspended)
  | parked gone engine parked advances quiet stuck engine_eq waits_eq suspended_eq =>
      rw [suspended_eq, Table.insert_at] at suspended
      split at suspended
      · rename_i new
        cases suspended
        obtain ⟨binding, mailbox, stuck⟩ := stuck
        refine Or.inr ⟨new.symm, ?_, binding, mailbox, engine_eq ▸ stuck⟩
        rw [waits_eq, ← new, ← shed_next before gone]
        exact Nat.lt_succ_self _
      · exact Or.inl (suspended_of_shed suspended)
  | rested lapsed waited engine_eq waits_eq suspended_eq =>
      rw [suspended_eq] at suspended
      exact Or.inl suspended

theorem Orderly.queued_shed (orderly : before.Orderly earlier) {gone : Option Nat}
    (passed : ∀ waiter, gone = some waiter → before.waits.waiters[waiter]? ≠ some .waiting)
    (waiting : (before.shed gone).waits.waiters[waiter]? = some .waiting) :
    ∃ call, (before.shed gone).suspended[waiter]? = some call ∧
      waiter ∈ (before.shed gone).waits.waitingFor call.condition := by
  rw [shed_waiters] at waiting
  split at waiting
  · cases waiting
  · rename_i other
    obtain ⟨call, found, member⟩ := orderly.queued waiter waiting
    refine ⟨call, ?_, ?_⟩
    · rw [shed_suspended, if_neg other]
      exact found
    · rw [shed_waitingFor passed]
      exact member

theorem Becomes.queued (becomes : before.Becomes news after) (orderly : before.Orderly earlier)
    (waiting : after.waits.waiters[waiter]? = some .waiting) :
    ∃ call, after.suspended[waiter]? = some call ∧
      waiter ∈ after.waits.waitingFor call.condition := by
  cases becomes with
  | flushed gone engine advances engine_eq waits_eq suspended_eq =>
      have sound := shed_sound orderly.waits gone
      rw [waits_eq] at waiting ⊢
      rw [suspended_eq]
      obtain ⟨call, found, member⟩ :=
        orderly.queued_shed advances.passed (sound.waiting_before waiting)
      exact ⟨call, found, sound.wakeAll_keeps _ member waiting⟩
  | parked gone engine parked advances quiet stuck engine_eq waits_eq suspended_eq =>
      have sound := shed_sound orderly.waits gone
      rw [waits_eq, WaitQueues.park_waiters] at waiting
      rw [waits_eq, suspended_eq]
      split at waiting
      · rename_i new
        refine ⟨parked, ?_, ?_⟩
        · rw [Table.insert_at, if_pos (new ▸ (shed_next before gone).symm)]
        · rw [sound.park_waitingFor, if_pos rfl, new]
          exact List.mem_append_right _ List.mem_cons_self
      · rename_i old
        obtain ⟨call, found, member⟩ := orderly.queued_shed advances.passed waiting
        refine ⟨call, ?_, ?_⟩
        · rw [Table.insert_at, if_neg (shed_next before gone ▸ old)]
          exact found
        · rw [sound.park_waitingFor]
          split
          · rename_i same
            rw [same]
            exact List.mem_append_left _ member
          · exact member
  | rested lapsed waited engine_eq waits_eq suspended_eq =>
      rw [waits_eq, shed_waiters] at waiting
      split at waiting
      · cases waiting
      · rename_i other
        obtain ⟨call, found, member⟩ := orderly.queued waiter waiting
        refine ⟨call, suspended_eq ▸ found, ?_⟩
        obtain ⟨queued, _⟩ := WaitQueues.mem_waitingFor.mp member
        rw [waits_eq, WaitQueues.mem_waitingFor, shed_waiters, if_neg other]
        refine ⟨?_, waiting⟩
        cases lapsed <;> exact queued

theorem Becomes.orderly (becomes : before.Becomes news after) (orderly : before.Orderly earlier) :
    after.Orderly (before :: earlier) := by
  obtain ⟨sound, running⟩ := becomes.sound orderly.sound orderly.running
  obtain ⟨waits, more⟩ := becomes.waits_sound orderly.waits
  have unborn : ∀ binding, StayedOpen (before :: earlier) before.waits.next binding := by
    intro binding exchange member call found
    exact absurd (orderly.older exchange member _ call found) (Nat.lt_irrefl _)
  refine ⟨sound, running, becomes.quiet orderly.quiet, waits, ?_,
    fun _ => becomes.queued orderly, ?_, ?_⟩
  · intro exchange member waiter call found
    rcases List.mem_cons.mp member with rfl | past
    · rcases becomes.suspended_cases found with old | ⟨_, new, _⟩
      · exact Nat.lt_of_lt_of_le (orderly.older before List.mem_cons_self waiter call old) more
      · exact new
    · exact Nat.lt_of_lt_of_le (orderly.older exchange past waiter call found) more
  · intro waiter call waits
    rcases becomes.waiting_cases orderly waits with
      ⟨binding, mailbox, later, endures⟩ | ⟨rfl, binding, mailbox, stuck⟩
    · refine ⟨binding, stayedOpen_cons.mpr ⟨?_, ?_⟩⟩
      · intro other found
        cases waits.suspended.symm.trans found
        exact endures.kept
      · obtain ⟨other, stayed⟩ := orderly.bound waiter call endures.waits
        have held := (stayedOpen_cons.mp stayed).1 call endures.waits.suspended
        cases held.symm.trans endures.held
        exact stayed
    · refine ⟨binding, stayedOpen_cons.mpr ⟨?_, unborn binding⟩⟩
      intro other found
      cases waits.suspended.symm.trans found
      exact stuck.held
  · intro waiter call binding suspended stayed
    obtain ⟨holds, past⟩ := stayedOpen_cons.mp stayed
    have held := holds call suspended
    rcases becomes.suspended_cases suspended with old | ⟨rfl, _, other, mailbox, stuck⟩
    · obtain ⟨mailbox, found, awaits⟩ := orderly.matched waiter call binding old past
      obtain ⟨later, there⟩ := sound.supports.present _ binding held
      exact ⟨later, there, awaits.lasts (becomes.lasts orderly found there)⟩
    · cases stuck.held.symm.trans held
      exact ⟨mailbox, stuck.found, stuck.awaits⟩

theorem Run.orderly {first : Exchange} (begun : first.Orderly []) {now : Exchange}
    {past : List Exchange} (run : Run first (now :: past))
    (few : now.engine.registrations ≤ Registry.mostNumbers) : now.Orderly past := by
  generalize all : now :: past = states at run
  induction run generalizing now past with
  | start =>
      cases all
      exact begun
  | turn sofar turn ih =>
      cases all
      have orderly := ih (Nat.le_trans turn.grows few) rfl
      obtain ⟨⟨news, becomes⟩, _⟩ := turn.becomes orderly.sound orderly.running few
      exact becomes.orderly orderly

theorem Run.always {first : Exchange} (begun : first.Orderly [])
    {holds : Exchange → List Exchange → Prop} (begins : holds first [])
    (keeps : ∀ {before after : Exchange} {earlier : List Exchange} {news : List Wakeup},
      before.Becomes news after → before.Orderly earlier → holds before earlier →
        holds after (before :: earlier))
    {now : Exchange} {past : List Exchange} (run : Run first (now :: past))
    (few : now.engine.registrations ≤ Registry.mostNumbers) : holds now past := by
  generalize all : now :: past = states at run
  induction run generalizing now past with
  | start =>
      cases all
      exact begins
  | turn sofar turn ih =>
      cases all
      have sooner := Nat.le_trans turn.grows few
      have orderly := sofar.orderly begun sooner
      obtain ⟨⟨news, becomes⟩, _⟩ := turn.becomes orderly.sound orderly.running few
      exact keeps becomes orderly (ih sooner rfl)

end Mailroom.Exchange
