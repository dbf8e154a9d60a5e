import Mailroom.Proofs.Engine.Consistency
import Mailroom.Proofs.Waiting.Attempts
import Mailroom.Proofs.Waiting.Queues

/-!
Turns. The calls of any number of callers take turns at an exchange in any order. A turn is all
that happens while nobody else can act: one attempt, with the wakeups that follow from it or with
the parking of the call; a deadline that passes a waiter by; or time that goes by.
-/

namespace Mailroom.Exchange

def Overdue (exchange : Exchange) (call : Suspended) : Prop :=
  ∃ deadline, call.deadline = some deadline ∧ deadline ≤ exchange.clock

def reporting (after : Exchange) (caller : Nat) (outcome : Option (Except Fault Answer)) :
    Option Finished :=
  outcome.map fun outcome => ⟨caller, outcome, after.clock⟩

inductive Turn (before : Exchange) : Option Finished → Exchange → Prop
  | perform {caller : Nat} {operation : Operation} {outcome : Except Fault Answer}
      {after : Exchange} (asked : operation.halts = false)
      (ran : before.perform operation = (outcome, after)) :
      Turn before (after.reporting caller (some outcome)) after
  /-- The first attempt of a call. Its deadline counts from the moment it was made, which may be
  before its turn. -/
  | enter {caller : Nat} {transfer : Transfer} {timeout : Timeout} {made : Nat}
      {outcome : Option (Except Fault Answer)} {after : Exchange} (past : made ≤ before.clock)
      (ran : before.attempt caller transfer (timeout.duration?.map (made + ·)) (!timeout.isPoll) =
        (outcome, after)) :
      Turn before (after.reporting caller outcome) after
  | resume {waiter : Nat} {call : Suspended} {outcome : Option (Except Fault Answer)}
      {after : Exchange} (suspended : before.suspended[waiter]? = some call)
      (woken : before.waits.waiters[waiter]? = some .woken)
      (ran : ({ before with ready := before.ready.erase waiter } : Exchange).resume waiter call =
        (outcome, after)) :
      Turn before (after.reporting call.caller outcome) after
  /-- A deadline comes while nobody has woken the call. No wake reaches it from now on. -/
  | lapse {waiter : Nat} {call : Suspended} (suspended : before.suspended[waiter]? = some call)
      (waiting : before.waits.waiters[waiter]? = some .waiting) (overdue : before.Overdue call) :
      Turn before none { before with waits := before.waits.abandon waiter }
  /-- The last attempt of a call whose deadline has come. A wake may have come together with the
  deadline. -/
  | expire {waiter : Nat} {call : Suspended} {outcome : Except Fault Answer} {after : Exchange}
      (suspended : before.suspended[waiter]? = some call)
      (passed : before.waits.waiters[waiter]? ≠ some .waiting) (overdue : before.Overdue call)
      (ran : before.expire waiter call = (outcome, after)) :
      Turn before (after.reporting call.caller (some outcome)) after
  | tick {time : Nat} (later : before.clock ≤ time) : Turn before none { before with clock := time }

/-- All states of an exchange so far, latest first. -/
inductive Run (first : Exchange) : List Exchange → Prop
  | start : Run first [first]
  | turn {now after : Exchange} {past : List Exchange} {report : Option Finished}
      (sofar : Run first (now :: past)) (turn : now.Turn report after) :
      Run first (after :: now :: past)

def performed (exchange : Exchange) (operation : Operation) : Exchange :=
  (exchange.perform operation).2

def entered (exchange : Exchange) (caller : Nat) (transfer : Transfer) : Exchange :=
  (exchange.attempt caller transfer none true).2

theorem Run.performs {first now : Exchange} {past : List Exchange} (sofar : Run first (now :: past))
    (caller : Nat) (operation : Operation) (asked : operation.halts = false) :
    Run first (now.performed operation :: now :: past) :=
  .turn sofar (@Turn.perform now caller operation _ _ asked rfl)

theorem Run.enters {first now : Exchange} {past : List Exchange} (sofar : Run first (now :: past))
    (caller : Nat) (transfer : Transfer) :
    Run first (now.entered caller transfer :: now :: past) :=
  .turn sofar (@Turn.enter now caller transfer .infinite now.clock _ _ (Nat.le_refl _) rfl)

def shed (exchange : Exchange) : Option Nat → Exchange
  | none => exchange
  | some waiter => exchange.forget waiter

theorem shed_waiters (exchange : Exchange) (gone : Option Nat) (waiter : Nat) :
    (exchange.shed gone).waits.waiters[waiter]? =
      if gone = some waiter then none else exchange.waits.waiters[waiter]? := by
  cases gone with
  | none => rfl
  | some other =>
      rw [show (exchange.shed (some other)).waits = exchange.waits.abandon other from rfl,
        WaitQueues.abandon_waiters]
      simp

theorem shed_suspended (exchange : Exchange) (gone : Option Nat) (waiter : Nat) :
    (exchange.shed gone).suspended[waiter]? =
      if gone = some waiter then none else exchange.suspended[waiter]? := by
  cases gone with
  | none => rfl
  | some other =>
      rw [show (exchange.shed (some other)).suspended = exchange.suspended.erase other from rfl,
        Table.erase_at]
      simp

theorem shed_next (exchange : Exchange) (gone : Option Nat) :
    (exchange.shed gone).waits.next = exchange.waits.next := by
  cases gone <;> rfl

theorem shed_sound {exchange : Exchange} (sound : exchange.waits.Sound) (gone : Option Nat) :
    (exchange.shed gone).waits.Sound := by
  cases gone with
  | none => exact sound
  | some waiter => exact sound.abandon waiter

theorem wakes_eq (wakeups : List Wakeup) (exchange : Exchange) :
    (wakeups.foldl wake exchange).engine = exchange.engine ∧
      (wakeups.foldl wake exchange).waits = exchange.waits.wakeAll wakeups ∧
      (wakeups.foldl wake exchange).suspended = exchange.suspended ∧
      (wakeups.foldl wake exchange).clock = exchange.clock := by
  induction wakeups generalizing exchange with
  | nil => exact ⟨rfl, rfl, rfl, rfl⟩
  | cons wakeup rest ih => exact ih (exchange.wake wakeup)

theorem flush_engine (exchange : Exchange) :
    exchange.flush.engine = { exchange.engine with wakeups := [] } :=
  (wakes_eq _ _).1

theorem flush_waits (exchange : Exchange) :
    exchange.flush.waits = exchange.waits.wakeAll exchange.engine.wakeups.reverse :=
  (wakes_eq _ _).2.1

theorem flush_suspended (exchange : Exchange) : exchange.flush.suspended = exchange.suspended :=
  (wakes_eq _ _).2.2.1

theorem flush_clock (exchange : Exchange) : exchange.flush.clock = exchange.clock :=
  (wakes_eq _ _).2.2.2

structure Advances (before : Exchange) (gone : Option Nat) (engine : Engine) : Prop where
  passed : ∀ waiter, gone = some waiter → before.waits.waiters[waiter]? ≠ some .waiting
  passes : before.engine.scene.Passes engine.scene
  drains : ∀ waiter call endpoint room, gone = some waiter →
    before.suspended[waiter]? = some call → call.transfer = .receive endpoint room →
      before.engine.Drains engine endpoint

/-- What becomes of an exchange in one turn, and which wakeups come up in it. -/
inductive Becomes (before : Exchange) : List Wakeup → Exchange → Prop
  | flushed {after : Exchange} (gone : Option Nat) (engine : Engine)
      (advances : before.Advances gone engine)
      (engine_eq : after.engine = { engine with wakeups := [] })
      (waits_eq : after.waits = (before.shed gone).waits.wakeAll engine.wakeups.reverse)
      (suspended_eq : after.suspended = (before.shed gone).suspended) :
      Becomes before engine.wakeups after
  | parked {after : Exchange} (gone : Option Nat) (engine : Engine) (call : Suspended)
      (advances : before.Advances gone engine) (quiet : engine.wakeups = before.engine.wakeups)
      (stuck : ∃ binding mailbox, engine.Stuck call.transfer call.condition binding mailbox)
      (engine_eq : after.engine = engine)
      (waits_eq : after.waits = ((before.shed gone).waits.park call.condition).2)
      (suspended_eq : after.suspended =
        (before.shed gone).suspended.insert before.waits.next call) :
      Becomes before engine.wakeups after
  | rested {after : Exchange} (lapsed : Option Nat)
      (waited : ∀ waiter, lapsed = some waiter → before.waits.waiters[waiter]? = some .waiting)
      (engine_eq : after.engine = before.engine)
      (waits_eq : after.waits = (before.shed lapsed).waits)
      (suspended_eq : after.suspended = before.suspended) : Becomes before [] after

variable {before after left : Exchange} {news : List Wakeup} {gone : Option Nat}
  {transfer : Transfer} {report : Option Finished}

theorem Becomes.sound (becomes : before.Becomes news after) (sound : before.engine.scene.Sound)
    (running : before.engine.halted = none) :
    after.engine.scene.Sound ∧ after.engine.halted = none := by
  cases becomes with
  | flushed gone engine advances engine_eq waits_eq suspended_eq =>
      have later := advances.passes.sound
      rw [engine_eq]
      exact ⟨⟨later.supports, later.tidy, later.numbered, later.handles⟩,
        advances.passes.halted_eq.trans running⟩
  | parked gone engine parked advances quiet stuck engine_eq waits_eq suspended_eq =>
      rw [engine_eq]
      exact ⟨advances.passes.sound, advances.passes.halted_eq.trans running⟩
  | rested lapsed waited engine_eq waits_eq suspended_eq =>
      rw [engine_eq]
      exact ⟨sound, running⟩

theorem Becomes.quiet (becomes : before.Becomes news after) (quiet : before.engine.wakeups = []) :
    after.engine.wakeups = [] := by
  cases becomes with
  | flushed gone engine advances engine_eq waits_eq suspended_eq => rw [engine_eq]
  | parked gone engine parked advances same stuck engine_eq waits_eq suspended_eq =>
      rw [engine_eq, same, quiet]
  | rested lapsed waited engine_eq waits_eq suspended_eq => rw [engine_eq, quiet]

theorem Advances.emit {engine : Engine} (advances : before.Advances gone engine)
    (sound : before.engine.scene.Sound) {event : Event} (other : event.isCreated = false) :
    before.Advances gone (engine.emit event) :=
  ⟨advances.passed,
    advances.passes.trans sound (Engine.scene_passes_emit advances.passes.sound other),
    advances.drains⟩

structure Begins (before : Exchange) (gone : Option Nat) (transfer : Transfer) (left : Exchange) :
    Prop where
  passed : ∀ waiter, gone = some waiter → before.waits.waiters[waiter]? ≠ some .waiting
  own : ∀ waiter call, gone = some waiter → before.suspended[waiter]? = some call →
    call.transfer = transfer
  passes : before.engine.scene.Passes left.engine.scene
  registry_eq : left.engine.registry = before.engine.registry
  handles_eq : left.engine.handles = before.engine.handles
  wakeups_eq : left.engine.wakeups = before.engine.wakeups
  waits_eq : left.waits = (before.shed gone).waits
  suspended_eq : left.suspended = (before.shed gone).suspended

theorem Begins.advances (begins : before.Begins gone transfer left)
    (sound : before.engine.scene.Sound) (running : before.engine.halted = none) {engine : Engine}
    {outcome : Except Fault Answer} (ran : transfer.attempt left.engine = (outcome, engine)) :
    Mild outcome ∧ before.Advances gone engine ∧
      (outcome = .error transfer.unavailable → left.engine.Waits engine transfer) := by
  have still : left.engine.halted = none := begins.passes.halted_eq.trans running
  obtain ⟨mild, passes, waits⟩ := Engine.attempt_ends begins.passes.sound still ran
  refine ⟨mild, ⟨begins.passed, begins.passes.trans sound passes, ?_⟩, waits⟩
  intro waiter call endpoint room here suspended receives
  have drains : left.engine.Drains engine endpoint := by
    rw [← begins.own waiter call here suspended, receives] at ran
    exact Engine.attempt_drains begins.passes.sound still ran
  intro binding mailbox reader queued
  rw [← begins.wakeups_eq]
  refine drains binding mailbox ⟨?_, ?_, reader.readable⟩ queued
  · rw [begins.handles_eq]
    exact reader.held
  · rw [begins.registry_eq]
    exact reader.found

theorem Begins.flushes (begins : before.Begins gone transfer left) {engine : Engine}
    (advances : before.Advances gone engine) :
    before.Becomes engine.wakeups (flush { left with engine }) := by
  refine .flushed gone engine advances (flush_engine _) ?_ ?_
  · rw [flush_waits, ← begins.waits_eq]
  · rw [flush_suspended, ← begins.suspended_eq]

theorem Begins.attempt_becomes (begins : before.Begins gone transfer left)
    (sound : before.engine.scene.Sound) (running : before.engine.halted = none) {caller : Nat}
    {deadline : Option Nat} {mayWait : Bool} {outcome : Option (Except Fault Answer)}
    (ran : left.attempt caller transfer deadline mayWait = (outcome, after)) :
    (∃ news, before.Becomes news after) ∧ ∀ result, outcome = some result → Mild result := by
  cases attempted : transfer.attempt left.engine with
  | mk result engine =>
      obtain ⟨mild, advances, waits⟩ := begins.advances sound running attempted
      cases result with
      | ok answer =>
          simp only [attempt, attempted] at ran
          cases ran
          refine ⟨⟨_, begins.flushes advances⟩, ?_⟩
          intro result ended
          cases ended
          exact mild
      | error fault =>
          simp only [attempt, attempted] at ran
          split at ran
          · rename_i both
            rw [Bool.and_eq_true, decide_eq_true_eq] at both
            obtain ⟨rfl, _⟩ := both
            obtain ⟨quiet, condition, binding, mailbox, found, stuck⟩ := waits rfl
            simp only [found] at ran
            cases ran
            refine ⟨?_, nofun⟩
            let event : Event := .waiting transfer.pid condition.mailbox transfer.kind
            refine ⟨_, .parked gone (engine.emit event) ⟨caller, transfer, deadline, condition⟩
              (advances.emit sound rfl) (quiet.trans begins.wakeups_eq)
              ⟨binding, mailbox, stuck.held, stuck.found, stuck.awaits, stuck.full, stuck.empty⟩
              rfl ?_ ?_⟩
            · rw [← begins.waits_eq]
              rfl
            · rw [← begins.suspended_eq, ← shed_next before gone, ← begins.waits_eq]
              rfl
          · cases ran
            refine ⟨⟨_, begins.flushes advances⟩, ?_⟩
            intro result ended
            cases ended
            exact mild

theorem begins_here (exchange : Exchange) (sound : exchange.engine.scene.Sound)
    (transfer : Transfer) : exchange.Begins none transfer exchange :=
  ⟨nofun, nofun, Scene.Passes.refl sound, rfl, rfl, rfl, rfl, rfl⟩

theorem begins_forgotten {waiter : Nat} {call : Suspended} (sound : before.engine.scene.Sound)
    (suspended : before.suspended[waiter]? = some call)
    (passed : before.waits.waiters[waiter]? ≠ some .waiting) (ready : List Nat) :
    before.Begins (some waiter) call.transfer
      (({ before with ready } : Exchange).forget waiter) := by
  refine ⟨?_, ?_, Scene.Passes.refl sound, rfl, rfl, rfl, rfl, rfl⟩
  · intro other same
    cases same
    exact passed
  · intro other later same found
    cases same
    cases suspended.symm.trans found
    rfl

theorem Begins.emit (begins : before.Begins gone transfer left)
    (sound : before.engine.scene.Sound) {event : Event} (other : event.isCreated = false) :
    before.Begins gone transfer (left.emit event) :=
  ⟨begins.passed, begins.own,
    begins.passes.trans sound (Engine.scene_passes_emit begins.passes.sound other),
    begins.registry_eq, begins.handles_eq, begins.wakeups_eq, begins.waits_eq, begins.suspended_eq⟩

theorem expire_becomes {waiter : Nat} {call : Suspended} {outcome : Except Fault Answer}
    (sound : before.engine.scene.Sound) (running : before.engine.halted = none)
    (suspended : before.suspended[waiter]? = some call)
    (passed : before.waits.waiters[waiter]? ≠ some .waiting)
    (ran : before.expire waiter call = (outcome, after)) :
    (∃ news, before.Becomes news after) ∧ Mild outcome := by
  have begins := begins_forgotten sound suspended passed before.ready
  cases attempted : call.transfer.attempt (before.forget waiter).engine with
  | mk result engine =>
      obtain ⟨mild, advances, _⟩ := begins.advances sound running attempted
      cases result with
      | ok answer =>
          simp only [expire, attempted] at ran
          cases ran
          exact ⟨⟨_, begins.flushes advances⟩, mild⟩
      | error fault =>
          simp only [expire, attempted] at ran
          split at ran
          · cases ran
            let event : Event :=
              .timedOut call.transfer.pid call.condition.mailbox call.transfer.kind
            refine ⟨⟨_, .flushed (some waiter) (engine.emit event) (advances.emit sound rfl)
              ?_ (flush_waits _) (flush_suspended _)⟩, mild_error rfl⟩
            simp only [Exchange.emit, flush_engine]
            rfl
          · cases ran
            exact ⟨⟨_, begins.flushes advances⟩, mild⟩

theorem Turn.becomes (turn : before.Turn report after)
    (sound : before.engine.scene.Sound) (running : before.engine.halted = none)
    (few : after.engine.registrations ≤ Registry.mostNumbers) :
    (∃ news, before.Becomes news after) ∧
      ∀ finished, report = some finished → Mild finished.outcome := by
  have reported : ∀ {caller : Nat} {outcome : Option (Except Fault Answer)},
      (∀ result, outcome = some result → Mild result) →
        ∀ finished, after.reporting caller outcome = some finished → Mild finished.outcome := by
    intro caller outcome mild finished told
    obtain ⟨result, ended, rfl⟩ := Option.map_eq_some_iff.mp told
    exact mild result ended
  cases turn with
  | @perform caller operation outcome _ asked ran =>
      cases stepped : operation.step before.engine with
      | mk result engine =>
          simp only [Exchange.perform, stepped] at ran
          cases ran
          have fits : engine.registrations ≤ Registry.mostNumbers := by
            rw [flush_engine] at few
            exact few
          obtain ⟨mild, _, passes⟩ := Engine.operation_passes sound running asked _ _ stepped
            fun _ => fits
          have advances : before.Advances none engine := ⟨nofun, passes fits, nofun⟩
          refine ⟨⟨_, (begins_here before sound default).flushes advances⟩, reported ?_⟩
          intro result ended
          cases ended
          exact mild
  | enter past ran =>
      obtain ⟨becomes, mild⟩ := (begins_here before sound _).attempt_becomes sound running ran
      exact ⟨becomes, reported mild⟩
  | @resume waiter call outcome _ suspended woken ran =>
      have passed : before.waits.waiters[waiter]? ≠ some .waiting := by simp [woken]
      have begins := begins_forgotten sound suspended passed (before.ready.erase waiter)
      have uncreated : (Event.woken call.transfer.pid call.condition.mailbox
        call.transfer.kind).isCreated = false := rfl
      obtain ⟨becomes, mild⟩ := (begins.emit sound uncreated).attempt_becomes sound running ran
      exact ⟨becomes, reported mild⟩
  | @lapse waiter call suspended waiting overdue =>
      refine ⟨⟨_, .rested (some waiter) ?_ rfl rfl rfl⟩, nofun⟩
      intro other same
      cases same
      exact waiting
  | expire suspended passed overdue ran =>
      obtain ⟨becomes, mild⟩ := expire_becomes sound running suspended passed ran
      refine ⟨becomes, reported ?_⟩
      intro result ended
      cases ended
      exact mild
  | tick later => exact ⟨⟨_, .rested none nofun rfl rfl rfl⟩, nofun⟩

structure Escorts (R : Engine → Engine → Prop) : Prop where
  course : Step.Course R
  told : ∀ (engine : Engine) {event : Event}, event.isCreated = false → R engine (engine.emit event)
  drained : ∀ engine : Engine, R engine { engine with wakeups := [] }

variable {R : Engine → Engine → Prop}

theorem Escorts.flushed (escorts : Escorts R) (exchange : Exchange) :
    R exchange.engine exchange.flush.engine := by
  rw [flush_engine]
  exact escorts.drained _

theorem Escorts.attempted (escorts : Escorts R) {caller : Nat} {deadline : Option Nat}
    {mayWait : Bool} {outcome : Option (Except Fault Answer)}
    (tries : R before.engine (transfer.attempt before.engine).2)
    (ran : before.attempt caller transfer deadline mayWait = (outcome, after)) :
    R before.engine after.engine := by
  have course := escorts.course
  cases attempted : transfer.attempt before.engine with
  | mk result engine =>
      rw [attempted] at tries
      have flushed : R before.engine (flush { before with engine }).engine :=
        course.trans tries (escorts.flushed { before with engine })
      cases result with
      | ok answer =>
          simp only [Exchange.attempt, attempted] at ran
          cases ran
          exact flushed
      | error fault =>
          simp only [Exchange.attempt, attempted] at ran
          split at ran
          · have looks := course.trans tries (Engine.condition_obeys course transfer engine)
            cases found : transfer.condition engine with
            | mk answer last =>
                rw [found] at looks
                cases answer with
                | ok condition =>
                    simp only [found] at ran
                    cases ran
                    exact course.trans looks (escorts.told last rfl)
                | error fault =>
                    simp only [found] at ran
                    cases ran
                    exact course.trans looks (escorts.flushed { before with engine := last })
          · cases ran
            exact flushed

theorem Escorts.expired (escorts : Escorts R) {waiter : Nat} {call : Suspended}
    {outcome : Except Fault Answer}
    (tries : R before.engine (call.transfer.attempt before.engine).2)
    (ran : before.expire waiter call = (outcome, after)) : R before.engine after.engine := by
  have course := escorts.course
  have same : (before.forget waiter).engine = before.engine := rfl
  cases attempted : call.transfer.attempt before.engine with
  | mk result engine =>
      rw [attempted] at tries
      have flushed : R before.engine (flush { before.forget waiter with engine }).engine :=
        course.trans tries (escorts.flushed { before.forget waiter with engine })
      cases result with
      | ok answer =>
          simp only [Exchange.expire, same, attempted] at ran
          cases ran
          exact flushed
      | error fault =>
          simp only [Exchange.expire, same, attempted] at ran
          split at ran
          · cases ran
            exact course.trans flushed (escorts.told _ rfl)
          · cases ran
            exact flushed

structure Bears (R : Engine → Engine → Prop) : Prop where
  admits : Engine.Admits R Engine.Conveys
  drained : ∀ engine : Engine, R engine { engine with wakeups := [] }

theorem Bears.told (bears : Bears R) (engine : Engine) {event : Event}
    (other : event.isCreated = false) : R engine (engine.emit event) :=
  bears.admits.edits (.told other)

theorem Bears.escorts (bears : Bears R) : Escorts R :=
  ⟨bears.admits.course, bears.told, bears.drained⟩

theorem Bears.attempted (bears : Bears R) {caller : Nat} {deadline : Option Nat} {mayWait : Bool}
    {outcome : Option (Except Fault Answer)}
    (ran : before.attempt caller transfer deadline mayWait = (outcome, after)) :
    R before.engine after.engine :=
  bears.escorts.attempted (Engine.attempt_obeys bears.admits transfer before.engine) ran

theorem Bears.expired (bears : Bears R) {waiter : Nat} {call : Suspended}
    {outcome : Except Fault Answer} (ran : before.expire waiter call = (outcome, after)) :
    R before.engine after.engine :=
  bears.escorts.expired (Engine.attempt_obeys bears.admits call.transfer before.engine) ran

theorem Turn.cases_of_bears (bears : Bears R) (turn : before.Turn report after) :
    R before.engine after.engine ∨
      ∃ operation outcome, operation.halts = false ∧
        before.perform operation = (outcome, after) := by
  cases turn with
  | perform asked ran => exact Or.inr ⟨_, _, asked, ran⟩
  | enter past ran => exact Or.inl (bears.attempted ran)
  | resume suspended woken ran =>
      exact Or.inl (bears.admits.course.trans (bears.told before.engine rfl) (bears.attempted ran))
  | expire suspended passed overdue ran => exact Or.inl (bears.expired ran)
  | lapse | tick => exact Or.inl (bears.admits.course.refl before.engine)

theorem perform_engine {operation : Operation} {outcome : Except Fault Answer}
    (ran : before.perform operation = (outcome, after)) :
    after.engine = { (operation.step before.engine).2 with wakeups := [] } := by
  simp only [perform] at ran
  cases ran
  exact flush_engine _

theorem bears_grows :
    Bears fun before after : Engine => before.registrations ≤ after.registrations :=
  ⟨⟨Step.grows_course, fun edit => edit.edit.registrations_le⟩, fun _ => Nat.le_refl _⟩

theorem Turn.grows (turn : before.Turn report after) :
    before.engine.registrations ≤ after.engine.registrations := by
  rcases turn.cases_of_bears bears_grows with grows | ⟨operation, outcome, _, ran⟩
  · exact grows
  · rw [perform_engine ran]
    exact Engine.operation_grows operation before.engine

theorem Run.grows {first now : Exchange} {past : List Exchange} (run : Run first (now :: past)) :
    first.engine.registrations ≤ now.engine.registrations := by
  generalize all : now :: past = states at run
  induction run generalizing now past with
  | start =>
      cases all
      exact Nat.le_refl _
  | turn sofar turn ih =>
      cases all
      exact Nat.le_trans (ih rfl) turn.grows

theorem Run.sound {first : Exchange} (begun : first.engine.scene.Sound)
    (running : first.engine.halted = none) {now : Exchange} {past : List Exchange}
    (run : Run first (now :: past)) (few : now.engine.registrations ≤ Registry.mostNumbers) :
    now.engine.scene.Sound ∧ now.engine.halted = none := by
  generalize all : now :: past = states at run
  induction run generalizing now past with
  | start =>
      cases all
      exact ⟨begun, running⟩
  | turn sofar turn ih =>
      cases all
      obtain ⟨sound, running⟩ := ih (Nat.le_trans turn.grows few) rfl
      obtain ⟨⟨news, becomes⟩, _⟩ := turn.becomes sound running few
      exact becomes.sound sound running

end Mailroom.Exchange
