import Mailroom.Proofs.Waiting.Failures
import Mailroom.Proofs.Waiting.Retries

/-!
How a call that may wait comes to its end. It is followed from its entry through every turn of a
run, whoever else acts in between and however often it is woken in vain, and each of its own
attempts is written down.
-/

namespace Mailroom

structure Visit where
  caller : Nat
  transfer : Transfer
  timeout : Timeout
  /-- When it was made, which may be before its first turn. -/
  made : Nat

def Visit.deadline (visit : Visit) : Option Nat := visit.timeout.duration?.map (visit.made + ·)

structure Round where
  met : Engine
  after : Engine
  time : Nat

inductive Stage where
  | waiting (waiter : Nat)
  | over (finished : Finished)

variable {first before after now : Exchange} {visit : Visit} {states past : List Exchange}
  {rounds : List Round} {place : Stage} {transfer : Transfer} {waiter : Nat} {call : Suspended}
  {outcome : Option (Except Fault Answer)} {finished : Finished}

namespace Exchange

def stage (before after : Exchange) (caller : Nat) : Option (Except Fault Answer) → Stage
  | some outcome => .over ⟨caller, outcome, after.clock⟩
  | none => .waiting before.waits.next

/-- A call from its entry on, through all states of the exchange: its attempts, latest first, and
where it stands. -/
inductive Story (first : Exchange) (visit : Visit) : List Exchange → List Round → Stage → Prop
  | enters {now after : Exchange} {past : List Exchange} {outcome : Option (Except Fault Answer)}
      (sofar : Run first (now :: past)) (made : visit.made ≤ now.clock)
      (ran : now.attempt visit.caller visit.transfer visit.deadline (!visit.timeout.isPoll) =
        (outcome, after)) :
      Story first visit (after :: now :: past) [⟨now.engine, after.engine, after.clock⟩]
        (now.stage after visit.caller outcome)
  | stays {now after : Exchange} {past : List Exchange} {rounds : List Round} {waiter : Nat}
      {report : Option Finished} (sofar : Story first visit (now :: past) rounds (.waiting waiter))
      (turn : now.Turn report after) (kept : after.suspended[waiter]? = now.suspended[waiter]?) :
      Story first visit (after :: now :: past) rounds (.waiting waiter)
  | resumes {now after : Exchange} {past : List Exchange} {rounds : List Round} {waiter : Nat}
      {call : Suspended} {outcome : Option (Except Fault Answer)}
      (sofar : Story first visit (now :: past) rounds (.waiting waiter))
      (suspended : now.suspended[waiter]? = some call)
      (woken : now.waits.waiters[waiter]? = some .woken)
      (ran : ({ now with ready := now.ready.erase waiter } : Exchange).resume waiter call =
        (outcome, after)) :
      Story first visit (after :: now :: past)
        (⟨now.engine.emit (.woken call.transfer.pid call.condition.mailbox call.transfer.kind),
          after.engine, after.clock⟩ :: rounds)
        (now.stage after call.caller outcome)
  | expires {now after : Exchange} {past : List Exchange} {rounds : List Round} {waiter : Nat}
      {call : Suspended} {outcome : Except Fault Answer}
      (sofar : Story first visit (now :: past) rounds (.waiting waiter))
      (suspended : now.suspended[waiter]? = some call)
      (passed : now.waits.waiters[waiter]? ≠ some .waiting) (overdue : now.Overdue call)
      (ran : now.expire waiter call = (outcome, after)) :
      Story first visit (after :: now :: past) (⟨now.engine, after.engine, after.clock⟩ :: rounds)
        (now.stage after call.caller (some outcome))

theorem Story.run (story : Story first visit states rounds place) : Run first states := by
  induction story with
  | enters sofar made ran => exact sofar.turn (.enter made ran)
  | stays sofar turn kept ih => exact ih.turn turn
  | resumes sofar suspended woken ran ih => exact ih.turn (.resume suspended woken ran)
  | expires sofar suspended passed overdue ran ih =>
      exact ih.turn (.expire suspended passed overdue ran)

theorem attempt_suspended {caller : Nat} {deadline : Option Nat} {mayWait : Bool}
    (ran : before.attempt caller transfer deadline mayWait = (outcome, after)) :
    (outcome ≠ none ∧ after.suspended = before.suspended ∧
        after.waits.next = before.waits.next) ∨
      outcome = none ∧ ∃ condition, after.suspended =
        before.suspended.insert before.waits.next ⟨caller, transfer, deadline, condition⟩ := by
  have flushed : ∀ engine : Engine, ∀ result : Except Fault Answer, some result ≠ none ∧
      (flush { before with engine }).suspended = before.suspended ∧
        (flush { before with engine }).waits.next = before.waits.next := by
    intro engine result
    refine ⟨nofun, flush_suspended _, ?_⟩
    rw [flush_waits, WaitQueues.wakeAll_next]
  cases attempted : transfer.attempt before.engine with
  | mk result engine =>
      cases result with
      | ok answer =>
          simp only [Exchange.attempt, attempted] at ran
          cases ran
          exact Or.inl (flushed _ _)
      | error fault =>
          simp only [Exchange.attempt, attempted] at ran
          split at ran
          · cases found : transfer.condition engine with
            | mk answer last =>
                cases answer <;> simp only [found] at ran <;> cases ran
                · exact Or.inl (flushed _ _)
                · exact Or.inr ⟨rfl, _, rfl⟩
          · cases ran
            exact Or.inl (flushed _ _)

theorem expire_left {outcome : Except Fault Answer}
    (ran : before.expire waiter call = (outcome, after)) :
    after.suspended = before.suspended.erase waiter ∧ after.clock = before.clock := by
  have flushed : ∀ engine : Engine,
      (flush { before.forget waiter with engine }).suspended = before.suspended.erase waiter ∧
        (flush { before.forget waiter with engine }).clock = before.clock :=
    fun engine => ⟨flush_suspended _, flush_clock _⟩
  cases attempted : call.transfer.attempt (before.forget waiter).engine with
  | mk result engine =>
      cases result with
      | ok answer =>
          simp only [Exchange.expire, attempted] at ran
          cases ran
          exact flushed engine
      | error fault =>
          simp only [Exchange.expire, attempted] at ran
          split at ran <;> cases ran <;> exact flushed engine

theorem attempt_parks {caller : Nat} {deadline : Option Nat} {mayWait : Bool}
    (ran : before.attempt caller transfer deadline mayWait = (outcome, after))
    (waits : before.stage after caller outcome = .waiting waiter) :
    ∃ condition, after.suspended[waiter]? = some ⟨caller, transfer, deadline, condition⟩ := by
  cases outcome with
  | some result => cases waits
  | none =>
      cases waits
      rcases attempt_suspended ran with ⟨ended, _⟩ | ⟨_, condition, inserted⟩
      · exact absurd rfl ended
      · exact ⟨condition, by rw [inserted, Table.insert_at, if_pos rfl]⟩

theorem Story.suspended (story : Story first visit states rounds place)
    (all : states = now :: past) (waits : place = .waiting waiter) :
    ∃ condition, now.suspended[waiter]? =
      some ⟨visit.caller, visit.transfer, visit.deadline, condition⟩ := by
  induction story generalizing now past waiter with
  | enters sofar made ran =>
      cases all
      exact attempt_parks ran waits
  | stays sofar turn kept ih =>
      cases all
      cases waits
      obtain ⟨condition, suspended⟩ := ih rfl rfl
      exact ⟨condition, kept.trans suspended⟩
  | resumes sofar suspended woken ran ih =>
      cases all
      obtain ⟨condition, here⟩ := ih rfl rfl
      cases suspended.symm.trans here
      exact attempt_parks ran waits
  | expires => cases waits

theorem attempt_answered {caller : Nat} {deadline : Option Nat} {mayWait : Bool} {answer : Answer}
    (ran : before.attempt caller transfer deadline mayWait = (some (.ok answer), after)) :
    (transfer.attempt before.engine).1 = .ok answer := by
  cases attempted : transfer.attempt before.engine with
  | mk result engine =>
      cases result with
      | ok given =>
          simp only [Exchange.attempt, attempted] at ran
          cases ran
          rfl
      | error fault =>
          simp only [Exchange.attempt, attempted] at ran
          split at ran
          · split at ran <;> cases ran
          · cases ran

theorem expire_answered {answer : Answer}
    (ran : before.expire waiter call = (.ok answer, after)) :
    (call.transfer.attempt before.engine).1 = .ok answer := by
  have same : (before.forget waiter).engine = before.engine := rfl
  cases attempted : call.transfer.attempt before.engine with
  | mk result engine =>
      cases result with
      | ok given =>
          simp only [Exchange.expire, same, attempted] at ran
          cases ran
          rfl
      | error fault =>
          simp only [Exchange.expire, same, attempted] at ran
          split at ran <;> cases ran

theorem Story.answered (story : Story first visit states rounds (.over finished)) {answer : Answer}
    (succeeded : finished.outcome = .ok answer) :
    ∃ engine, (visit.transfer.attempt engine).1 = .ok answer := by
  generalize ended : Stage.over finished = place at story
  cases story with
  | @enters now after _ outcome sofar made ran =>
      cases outcome <;> cases ended
      cases succeeded
      exact ⟨_, attempt_answered ran⟩
  | stays => cases ended
  | @resumes now after _ _ _ call outcome sofar suspended woken ran =>
      obtain ⟨condition, here⟩ := sofar.suspended rfl rfl
      cases suspended.symm.trans here
      cases outcome <;> cases ended
      cases succeeded
      exact ⟨_, attempt_answered ran⟩
  | expires sofar suspended passed overdue ran =>
      obtain ⟨condition, here⟩ := sofar.suspended rfl rfl
      cases suspended.symm.trans here
      cases ended
      cases succeeded
      exact ⟨_, expire_answered ran⟩

end Exchange

def Visit.Due (visit : Visit) (time : Nat) : Prop :=
  ∃ count : UInt16, visit.timeout = .millis count ∧ count ≠ 0 ∧ visit.made + count.toNat ≤ time

theorem Visit.due_of_deadline {deadline time : Nat}
    (patient : visit.timeout.isPoll = false) (here : visit.deadline = some deadline)
    (passed : deadline ≤ time) : visit.Due time := by
  unfold Visit.deadline at here
  cases timeout : visit.timeout with
  | poll => simp [timeout, Timeout.isPoll] at patient
  | infinite => simp [timeout, Timeout.duration?] at here
  | millis count =>
      simp only [timeout, Timeout.isPoll, decide_eq_false_iff_not] at patient
      simp only [timeout, Timeout.duration?, Option.map_some, Option.some.injEq] at here
      exact ⟨count, timeout, patient, by omega⟩

namespace Round

/-- The call could not go on, and did no harm. -/
def Stuck (round : Round) (transfer : Transfer) : Prop :=
  (transfer.attempt round.met).1 = .error transfer.unavailable ∧
    transfer.Spares round.met round.after

inductive Ends (round : Round) (transfer : Transfer) (mayWait : Bool) (overdue : Prop) :
    Option (Except Fault Answer) → Prop
  | answered {answer : Answer} (answered : (transfer.attempt round.met).1 = .ok answer)
      (left : round.after.registry = (transfer.attempt round.met).2.registry) :
      Ends round transfer mayWait overdue (some (.ok answer))
  | refused {fault : Fault} (spares : transfer.Spares round.met round.after)
      (untimed : fault ≠ .timedOut) (settled : mayWait = true → fault ≠ transfer.unavailable) :
      Ends round transfer mayWait overdue (some (.error fault))
  | postponed (stuck : round.Stuck transfer) (patient : mayWait = true) :
      Ends round transfer mayWait overdue none
  | lapsed (stuck : round.Stuck transfer) (late : overdue) :
      Ends round transfer mayWait overdue (some (.error .timedOut))

end Round

theorem Fault.ne_of_calm {fault : Fault} (calm : fault.isWaiting = false) (transfer : Transfer) :
    fault ≠ .timedOut ∧ fault ≠ transfer.unavailable := by
  refine ⟨?_, ?_⟩ <;> rintro rfl
  · cases calm
  · rw [transfer.unavailable_isWaiting] at calm
    cases calm

namespace Exchange

theorem attempt_ends (intact : before.engine.Intact) {caller : Nat} {deadline : Option Nat}
    {mayWait : Bool} (ran : before.attempt caller transfer deadline mayWait = (outcome, after))
    (time : Nat) : Round.Ends ⟨before.engine, after.engine, time⟩ transfer mayWait False outcome :=
    by
  cases attempted : transfer.attempt before.engine with
  | mk result engine =>
      cases result with
      | ok answer =>
          simp only [Exchange.attempt, attempted] at ran
          cases ran
          refine .answered (congrArg Prod.fst attempted) ?_
          rw [flush_engine, attempted]
      | error fault =>
          obtain ⟨untimed, spares⟩ := transfer.attempt_fails intact fault engine attempted
          have flushed : ∀ last : Engine, last.registry = engine.registry →
              transfer.Spares before.engine (flush { before with engine := last }).engine := by
            intro last same
            rw [flush_engine]
            exact spares.with_registry same
          simp only [Exchange.attempt, attempted] at ran
          split at ran
          · rename_i both
            rw [Bool.and_eq_true, decide_eq_true_eq] at both
            obtain ⟨rfl, patient⟩ := both
            have kept := Engine.condition_obeys Engine.registry_course transfer engine
            cases found : transfer.condition engine with
            | mk answer last =>
                rw [found] at kept
                cases answer with
                | ok condition =>
                    simp only [found] at ran
                    cases ran
                    exact .postponed ⟨congrArg Prod.fst attempted, spares.with_registry kept⟩
                      patient
                | error fault =>
                    simp only [found] at ran
                    cases ran
                    have calm := transfer.condition_fails engine fault last found
                    obtain ⟨untimed, other⟩ := Fault.ne_of_calm calm transfer
                    exact .refused (flushed last kept) untimed fun _ => other
          · rename_i other
            cases ran
            refine .refused (flushed engine rfl) untimed ?_
            rintro patient rfl
            exact other (by simp [patient])

theorem expire_ends (intact : before.engine.Intact) {outcome : Except Fault Answer}
    (ran : before.expire waiter call = (outcome, after)) (overdue : before.Overdue call)
    (time : Nat) :
    Round.Ends ⟨before.engine, after.engine, time⟩ call.transfer true (before.Overdue call)
      (some outcome) := by
  have same : (before.forget waiter).engine = before.engine := rfl
  cases attempted : call.transfer.attempt before.engine with
  | mk result engine =>
      cases result with
      | ok answer =>
          simp only [Exchange.expire, same, attempted] at ran
          cases ran
          refine .answered (congrArg Prod.fst attempted) ?_
          rw [flush_engine, attempted]
      | error fault =>
          obtain ⟨untimed, spares⟩ := call.transfer.attempt_fails intact fault engine attempted
          have flushed : call.transfer.Spares before.engine
              (flush { before.forget waiter with engine }).engine := by
            rw [flush_engine]
            exact spares.with_registry rfl
          simp only [Exchange.expire, same, attempted] at ran
          split at ran
          · rename_i stuck
            cases ran
            subst stuck
            exact .lapsed ⟨congrArg Prod.fst attempted, flushed.with_registry rfl⟩ overdue
          · rename_i other
            cases ran
            exact .refused flushed untimed fun _ => other

end Exchange

structure Visit.Accounts (visit : Visit) (rounds : List Round) (finished : Finished) : Prop where
  polled : visit.timeout.isPoll = true → finished.outcome ≠ .error .timedOut
  patient : visit.timeout.isPoll = false → finished.outcome ≠ .error visit.transfer.unavailable
  endless : visit.timeout = .infinite → finished.outcome ≠ .error .timedOut
  /-- A call times out no earlier than it said, and only if it could still not go on then. -/
  late : finished.outcome = .error .timedOut →
    (∃ count, visit.timeout = .millis count ∧ visit.made + count.toNat ≤ finished.time) ∧
      ∃ last earlier, rounds = last :: earlier ∧ last.time = finished.time ∧
        last.Stuck visit.transfer
  /-- A call that succeeds has succeeded in its last attempt and in no other, and what it has
  moved is what this attempt moves. -/
  once : ∀ answer, finished.outcome = .ok answer →
    ∃ last earlier, rounds = last :: earlier ∧
      (visit.transfer.attempt last.met).1 = .ok answer ∧
      last.after.registry = (visit.transfer.attempt last.met).2.registry ∧
      ∀ round ∈ earlier, round.Stuck visit.transfer
  harmless : ∀ fault, finished.outcome = .error fault →
    ∀ round ∈ rounds, visit.transfer.Spares round.met round.after

structure Visit.Waits (visit : Visit) (rounds : List Round) : Prop where
  patient : visit.timeout.isPoll = false
  stuck : ∀ round ∈ rounds, round.Stuck visit.transfer

def Visit.Holds (visit : Visit) (rounds : List Round) : Stage → Prop
  | .waiting _ => visit.Waits rounds
  | .over finished => visit.Accounts rounds finished

theorem Round.Ends.accounts {round : Round} {visit : Visit} {overdue : Prop}
    {outcome : Except Fault Answer} {rounds : List Round}
    (ends : round.Ends visit.transfer (!visit.timeout.isPoll) overdue (some outcome))
    (due : overdue → visit.Due round.time)
    (stuck : ∀ earlier ∈ rounds, earlier.Stuck visit.transfer) (caller : Nat) :
    visit.Accounts (round :: rounds) ⟨caller, outcome, round.time⟩ := by
  have spared : visit.transfer.Spares round.met round.after →
      ∀ each ∈ round :: rounds, visit.transfer.Spares each.met each.after := by
    intro spares each member
    rcases List.mem_cons.mp member with rfl | earlier
    · exact spares
    · exact (stuck each earlier).2
  cases ends with
  | answered answered left =>
      refine ⟨nofun, nofun, nofun, nofun, ?_, nofun⟩
      intro answer same
      cases same
      exact ⟨round, rounds, rfl, answered, left, stuck⟩
  | refused spares untimed settled =>
      have other : ∀ {fault : Fault}, fault ≠ .timedOut →
          (Except.error fault : Except Fault Answer) ≠ .error .timedOut :=
        fun differs same => differs (Except.error.inj same)
      refine ⟨fun _ => other untimed, ?_, fun _ => other untimed,
        fun same => absurd same (other untimed), nofun, fun _ _ => spared spares⟩
      intro patient same
      exact settled (by simp [patient]) (Except.error.inj same)
  | lapsed last overdue =>
      obtain ⟨count, timeout, nonzero, passed⟩ := due overdue
      refine ⟨?_, ?_, ?_, ?_, nofun, fun _ _ => spared last.2⟩
      · intro polls
        simp [timeout, Timeout.isPoll, nonzero] at polls
      · intro _ same
        have waiting : Fault.timedOut ≠ visit.transfer.unavailable := by
          cases visit.transfer <;> nofun
        exact absurd (Except.error.inj same) waiting
      · intro endless
        simp [timeout] at endless
      · intro _
        exact ⟨⟨count, timeout, passed⟩, round, rounds, rfl, rfl, last⟩

namespace Exchange

theorem holds_attempt (intact : before.engine.Intact)
    (ran : before.attempt visit.caller visit.transfer visit.deadline (!visit.timeout.isPoll) =
      (outcome, after)) (stuck : ∀ round ∈ rounds, round.Stuck visit.transfer) :
    visit.Holds (⟨before.engine, after.engine, after.clock⟩ :: rounds)
      (before.stage after visit.caller outcome) := by
  have ends := attempt_ends intact ran after.clock
  cases outcome with
  | some result => exact ends.accounts False.elim stuck visit.caller
  | none =>
      cases ends with
      | postponed here patient =>
          refine ⟨by simpa using patient, ?_⟩
          intro round member
          rcases List.mem_cons.mp member with rfl | earlier
          · exact here
          · exact stuck round earlier

theorem Story.holds (story : Story first visit states rounds place)
    (begun : first.engine.Intact) : visit.Holds rounds place := by
  induction story with
  | enters sofar made ran => exact holds_attempt (sofar.intact begun) ran (by simp)
  | stays sofar turn kept ih => exact ih
  | @resumes now after past rounds waiter call outcome sofar suspended woken ran ih =>
      obtain ⟨patient, stuck⟩ := ih
      obtain ⟨condition, here⟩ := sofar.suspended rfl rfl
      cases suspended.symm.trans here
      let resting : Exchange := { now with ready := now.ready.erase waiter }
      let left : Exchange := (resting.forget waiter).emit
        (.woken visit.transfer.pid condition.mailbox visit.transfer.kind)
      have intact : left.engine.Intact := sofar.run.intact begun
      have ran : left.attempt visit.caller visit.transfer visit.deadline (!visit.timeout.isPoll) =
          (outcome, after) := by
        rw [patient]
        exact ran
      exact holds_attempt intact ran stuck
  | @expires now after past rounds waiter call outcome sofar suspended passed overdue ran ih =>
      obtain ⟨patient, stuck⟩ := ih
      obtain ⟨condition, here⟩ := sofar.suspended rfl rfl
      cases suspended.symm.trans here
      have ends := expire_ends (sofar.run.intact begun) ran overdue after.clock
      rw [← Bool.not_false, ← patient] at ends
      refine ends.accounts ?_ stuck visit.caller
      rintro ⟨deadline, same, reached⟩
      rw [← (expire_left ran).2] at reached
      exact visit.due_of_deadline patient same reached

/-- What a call comes to, whatever the other callers do meanwhile and however often it is woken:
one that polls is over in its first turn, in which nothing is parked, and every call that comes to
an end accounts for its attempts. -/
theorem story_outcome (limits : Limits)
    (story : Story (start limits) visit (now :: past) rounds place) :
    (visit.timeout.isPoll = true → ∃ round finished before earlier,
      rounds = [round] ∧ place = .over finished ∧ past = before :: earlier ∧
        now.suspended = before.suspended ∧ now.waits.next = before.waits.next) ∧
    ∀ finished, place = .over finished → visit.Accounts rounds finished := by
  have begun := Engine.start_intact limits
  refine ⟨fun polls => ?_, ?_⟩
  · have unparked : ∀ {middle : Exchange} {earlier : List Exchange} {sofar : List Round}
        {waiter : Nat},
        ¬ Story (start limits) visit (middle :: earlier) sofar (.waiting waiter) := by
      intro middle earlier sofar waiter parked
      have waits : visit.Waits sofar := parked.holds begun
      rw [waits.patient] at polls
      cases polls
    cases story with
    | @enters before _ earlier outcome sofar made ran =>
        rcases attempt_suspended ran with ⟨ended, suspended, next⟩ | ⟨rfl, _⟩
        · obtain ⟨result, rfl⟩ := Option.ne_none_iff_exists'.mp ended
          exact ⟨_, _, before, earlier, rfl, rfl, rfl, suspended, next⟩
        · exact absurd (Story.enters sofar made ran) unparked
    | stays sofar | resumes sofar | expires sofar => exact absurd sofar unparked
  · rintro finished rfl
    exact story.holds begun

def deskVisit : Visit := ⟨1, .receive ⟨1, 1⟩ 64, .millis 5, 0⟩

def deskSuspended : Suspended := ⟨1, .receive ⟨1, 1⟩ 64, some 5, ⟨.readable, ⟨2⟩⟩⟩

def deskHoping : Exchange :=
  (deskSet.attempt 1 deskVisit.transfer deskVisit.deadline (!deskVisit.timeout.isPoll)).2

def deskRoused : Exchange := deskHoping.performed (.send ⟨1, 1⟩ [97] 0 0)

def deskCheated : Exchange := deskRoused.performed (.receive ⟨1, 1⟩ 64)

def deskParked : Exchange := (deskCheated.retried 0 deskSuspended).2

def deskLate : Exchange := { deskParked with clock := 5 }

def deskLapsed : Exchange := { deskLate with waits := deskLate.waits.abandon 1 }

def deskExpired : Exchange := (deskLapsed.expire 1 deskSuspended).2

theorem deskVisit_story :
    Story (start {}) deskVisit
      [deskExpired, deskLapsed, deskLate, deskParked, deskCheated, deskRoused, deskHoping, deskSet,
        start {}]
      [⟨deskLapsed.engine, deskExpired.engine, deskExpired.clock⟩,
        ⟨deskCheated.engine.emit (.woken 1 ⟨2⟩ .receive), deskParked.engine, deskParked.clock⟩,
        ⟨deskSet.engine, deskHoping.engine, deskHoping.clock⟩]
      (.over ⟨1, .error .timedOut, deskExpired.clock⟩) := by
  have set : Run (start {}) [deskSet, start {}] := Run.start.performs 1 (.register 1) rfl
  have hoping := @Story.enters _ deskVisit _ deskHoping _ none set (by decide) (by
    exact Prod.ext (by decide +kernel) rfl)
  have roused := hoping.stays (@Turn.perform _ 2 (.send ⟨1, 1⟩ [97] 0 0) _ deskRoused rfl rfl)
    (by decide +kernel)
  have cheated := roused.stays (@Turn.perform _ 2 (.receive ⟨1, 1⟩ 64) _ deskCheated rfl rfl)
    (by decide +kernel)
  have parked := @Story.resumes _ _ _ deskParked _ _ _ deskSuspended none cheated
    (by decide +kernel) (by decide +kernel) (by exact Prod.ext (by decide +kernel) rfl)
  have late := parked.stays (@Turn.tick _ 5 (by decide +kernel)) (by decide +kernel)
  have lapsed := late.stays (@Turn.lapse deskLate 1 deskSuspended (by decide +kernel)
    (by decide +kernel) ⟨5, rfl, by decide⟩) (by decide +kernel)
  exact @Story.expires _ _ _ deskExpired _ _ _ deskSuspended (.error .timedOut) lapsed
    (by decide +kernel) (by decide +kernel) ⟨5, rfl, by decide⟩
    (by exact Prod.ext (by decide +kernel) rfl)

theorem deskVisit_outcome :
    deskExpired.clock = 5 ∧ ∃ rounds : List Round, rounds.length = 3 ∧
      deskVisit.Accounts rounds ⟨1, .error .timedOut, deskExpired.clock⟩ :=
  ⟨by decide +kernel, _, rfl, (story_outcome {} deskVisit_story).2 _ rfl⟩

theorem Run.story (begun : ∀ waiter : Nat, first.suspended[waiter]? = none)
    (run : Run first (now :: past)) (suspended : now.suspended[waiter]? = some call) :
    ∃ visit rounds, Story first visit (now :: past) rounds (.waiting waiter) := by
  generalize all : now :: past = states at run
  induction run generalizing now past waiter call with
  | start =>
      cases all
      rw [begun] at suspended
      cases suspended
  | @turn before after earlier report sofar turn ih =>
      cases all
      have stays : after.suspended[waiter]? = before.suspended[waiter]? →
          ∃ visit rounds, Story first visit (after :: before :: earlier) rounds (.waiting waiter)
          := by
        intro kept
        obtain ⟨visit, rounds, story⟩ := ih (kept.symm.trans suspended) rfl
        exact ⟨visit, rounds, story.stays turn kept⟩
      have erased : ∀ {other : Nat}, after.suspended[waiter]? =
          (before.suspended.erase other)[waiter]? →
          ∃ visit rounds, Story first visit (after :: before :: earlier) rounds (.waiting waiter)
          := by
        intro other left
        rw [Table.erase_at] at left
        split at left
        · rw [left] at suspended
          cases suspended
        · exact stays left
      cases turn with
      | perform asked ran =>
          simp only [perform] at ran
          cases ran
          exact stays (by rw [flush_suspended])
      | @enter caller transfer timeout made outcome after later ran =>
          rcases attempt_suspended ran with ⟨_, same, _⟩ | ⟨rfl, condition, inserted⟩
          · exact stays (by rw [same])
          · by_cases new : before.waits.next = waiter
            · subst new
              let visit : Visit := ⟨caller, transfer, timeout, made⟩
              exact ⟨visit, _, @Story.enters first visit before after earlier none sofar later ran⟩
            · exact stays (by rw [inserted, Table.insert_at, if_neg new])
      | @resume other call outcome after there woken ran =>
          rcases attempt_suspended ran with ⟨_, same, _⟩ | ⟨rfl, condition, inserted⟩
          · exact erased (by rw [same]; rfl)
          · by_cases new : before.waits.next = waiter
            · subst new
              obtain ⟨visit, rounds, story⟩ := ih there rfl
              exact ⟨visit, _, story.resumes there woken ran⟩
            · exact erased (by rw [inserted, Table.insert_at]; exact if_neg new)
      | lapse | tick => exact stays rfl
      | expire there passed overdue ran => exact erased (by rw [(expire_left ran).1])

theorem Turn.story (begun : ∀ waiter : Nat, first.suspended[waiter]? = none)
    (run : Run first (now :: past)) (turn : now.Turn (some finished) after) :
    (∃ operation outcome, operation.halts = false ∧ now.perform operation = (outcome, after)) ∨
      ∃ visit rounds, Story first visit (after :: now :: past) rounds (.over finished) := by
  generalize told : some finished = report at turn
  cases turn with
  | perform asked ran => exact Or.inl ⟨_, _, asked, ran⟩
  | @enter caller transfer timeout made outcome _ later ran =>
      obtain ⟨result, rfl, rfl⟩ := Option.map_eq_some_iff.mp told.symm
      let visit : Visit := ⟨caller, transfer, timeout, made⟩
      exact Or.inr ⟨visit, _, @Story.enters first visit now after past (some result) run later ran⟩
  | resume there woken ran =>
      obtain ⟨result, rfl, rfl⟩ := Option.map_eq_some_iff.mp told.symm
      obtain ⟨visit, rounds, story⟩ := run.story begun there
      exact Or.inr ⟨visit, _, story.resumes there woken ran⟩
  | lapse | tick => cases told
  | expire there passed overdue ran =>
      cases told
      obtain ⟨visit, rounds, story⟩ := run.story begun there
      exact Or.inr ⟨visit, _, story.expires there passed overdue ran⟩

end Exchange

end Mailroom
