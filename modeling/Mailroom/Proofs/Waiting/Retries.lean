import Mailroom.Proofs.Engine.Handles
import Mailroom.Proofs.Waiting.Turns

/-!
What becomes of a call whose handle is taken away while it waits. Its next attempt asks for the
handle's number again, and says that the number stands for nothing unless the task has been given
it anew in the meantime.
-/

namespace Mailroom

namespace Transfer

variable {transfer : Transfer} {engine : Engine}

def unknown (transfer : Transfer) : Fault :=
  .invalidHandle transfer.endpoint.pid transfer.endpoint.handle

theorem unknown_ne_unavailable (transfer : Transfer) :
    transfer.unknown ≠ transfer.unavailable := by
  cases transfer <;> simp [unknown, unavailable]

theorem attempt_free (running : engine.halted = none)
    (free : engine.handles.binding? transfer.endpoint = none) :
    transfer.attempt engine = (.error transfer.unknown, engine) := by
  cases transfer with
  | send endpoint payload flags channel =>
      exact Step.bind_error (Engine.trySend_free running free payload flags channel)
  | receive endpoint room => exact Step.bind_error (Engine.tryReceive_free running free room)

theorem attempt_knows (intact : engine.Intact) {binding : Binding}
    (held : engine.handles.binding? transfer.endpoint = some binding) :
    Engine.Knows transfer.attempt engine := by
  cases transfer with
  | send endpoint payload flags channel =>
      exact Engine.knows_bind (Engine.trySend_knows intact held payload flags channel)
        fun _ _ _ _ _ => nofun
  | receive endpoint room =>
      exact Engine.knows_bind (Engine.tryReceive_knows intact held room) fun _ _ _ _ _ => nofun

theorem condition_knows {binding : Binding}
    (held : engine.handles.binding? transfer.endpoint = some binding) :
    Engine.Knows transfer.condition engine := by
  cases transfer with
  | send endpoint payload flags channel => exact Engine.sendCondition_knows held
  | receive endpoint room => exact Engine.receiveCondition_knows held

end Transfer

namespace Exchange

/-- The next attempt of a suspended call, which was woken or whose deadline has come. -/
inductive Retries (before : Exchange) (waiter : Nat) (call : Suspended) :
    Option (Except Fault Answer) → Exchange → Prop
  | woken {outcome : Option (Except Fault Answer)} {after : Exchange}
      (suspended : before.suspended[waiter]? = some call)
      (woken : before.waits.waiters[waiter]? = some .woken)
      (ran : ({ before with ready := before.ready.erase waiter } : Exchange).resume waiter call =
        (outcome, after)) : Retries before waiter call outcome after
  | overdue {outcome : Except Fault Answer} {after : Exchange}
      (suspended : before.suspended[waiter]? = some call)
      (passed : before.waits.waiters[waiter]? ≠ some .waiting) (overdue : before.Overdue call)
      (ran : before.expire waiter call = (outcome, after)) :
      Retries before waiter call (some outcome) after

variable {before after : Exchange} {waiter : Nat} {call : Suspended} {transfer : Transfer}
  {outcome : Option (Except Fault Answer)} {endpoint : Endpoint}

theorem Retries.turn (retries : before.Retries waiter call outcome after) :
    before.Turn (after.reporting call.caller outcome) after := by
  cases retries with
  | woken suspended woken ran => exact .resume suspended woken ran
  | overdue suspended passed overdue ran => exact .expire suspended passed overdue ran

theorem attempt_unknown_iff (intact : before.engine.Intact) (running : before.engine.halted = none)
    {caller : Nat} {deadline : Option Nat} {mayWait : Bool}
    (ran : before.attempt caller transfer deadline mayWait = (outcome, after)) :
    outcome = some (.error transfer.unknown) ∧
        after.engine.registry = before.engine.registry ↔
      before.engine.handles.binding? transfer.endpoint = none := by
  cases held : before.engine.handles.binding? transfer.endpoint with
  | none =>
      simp only [Exchange.attempt, Transfer.attempt_free running held,
        transfer.unknown_ne_unavailable, decide_false, Bool.false_and, Bool.false_eq_true,
        if_false] at ran
      cases ran
      refine iff_of_true ⟨rfl, ?_⟩ rfl
      rw [flush_engine]
  | some binding =>
      refine iff_of_false ?_ (Option.some_ne_none binding)
      rintro ⟨rfl, _⟩
      have kept := Engine.attempt_obeys Engine.handles_conveys transfer before.engine
      have knows := Transfer.attempt_knows intact held transfer.endpoint.pid
        transfer.endpoint.handle
      cases attempted : transfer.attempt before.engine with
      | mk result engine =>
          rw [attempted] at kept knows
          cases result with
          | ok answer =>
              simp only [Exchange.attempt, attempted] at ran
              cases ran
          | error fault =>
              simp only [Exchange.attempt, attempted] at ran
              split at ran
              · have looks := Transfer.condition_knows (kept.symm ▸ held : _ = some binding)
                  transfer.endpoint.pid transfer.endpoint.handle
                cases found : transfer.condition engine with
                | mk answer last =>
                    rw [found] at looks
                    cases answer <;> simp only [found] at ran <;> cases ran
                    exact looks rfl
              · cases ran
                exact knows rfl

theorem expire_unknown_iff (intact : before.engine.Intact) (running : before.engine.halted = none)
    {result : Except Fault Answer} (ran : before.expire waiter call = (result, after)) :
    result = .error call.transfer.unknown ∧ after.engine.registry = before.engine.registry ↔
      before.engine.handles.binding? call.transfer.endpoint = none := by
  have same : (before.forget waiter).engine = before.engine := rfl
  cases held : before.engine.handles.binding? call.transfer.endpoint with
  | none =>
      simp only [Exchange.expire, same, Transfer.attempt_free running held,
        call.transfer.unknown_ne_unavailable, if_false] at ran
      cases ran
      refine iff_of_true ⟨rfl, ?_⟩ rfl
      rw [flush_engine]
  | some binding =>
      refine iff_of_false ?_ (Option.some_ne_none binding)
      rintro ⟨rfl, _⟩
      have knows := Transfer.attempt_knows intact held call.transfer.endpoint.pid
        call.transfer.endpoint.handle
      cases attempted : call.transfer.attempt before.engine with
      | mk result engine =>
          rw [attempted] at knows
          cases result <;> simp only [Exchange.expire, same, attempted] at ran
          · split at ran <;> cases ran
            exact knows rfl
          · cases ran

theorem Retries.unknown_iff (retries : before.Retries waiter call outcome after)
    (intact : before.engine.Intact) (running : before.engine.halted = none) :
    outcome = some (.error call.transfer.unknown) ∧
        after.engine.registry = before.engine.registry ↔
      before.engine.handles.binding? call.transfer.endpoint = none := by
  cases retries with
  | woken suspended woken ran =>
      let resting : Exchange := { before with ready := before.ready.erase waiter }
      let left : Exchange := (resting.forget waiter).emit
        (.woken call.transfer.pid call.condition.mailbox call.transfer.kind)
      have whole : left.engine.Intact := intact
      have unknown := attempt_unknown_iff whole running ran
      exact unknown
  | overdue suspended passed overdue ran =>
      rw [Option.some.injEq]
      exact expire_unknown_iff intact running ran

theorem bears_intact :
    Bears fun before after : Engine => before.Intact → after.Intact :=
  ⟨⟨Engine.intact_course, fun conveys => conveys.edit.intact⟩, fun _ intact => intact⟩

theorem Turn.intact {report : Option Finished} (turn : before.Turn report after)
    (intact : before.engine.Intact) : after.engine.Intact := by
  rcases turn.cases_of_bears bears_intact with keeps | ⟨operation, outcome, _, ran⟩
  · exact keeps intact
  · rw [perform_engine ran]
    exact (Engine.operation_edited operation before.engine).intact intact

theorem Run.intact {first now : Exchange} {past : List Exchange} (run : Run first (now :: past))
    (begun : first.engine.Intact) : now.engine.Intact := by
  generalize all : now :: past = states at run
  induction run generalizing now past with
  | start =>
      cases all
      exact begun
  | turn sofar turn ih =>
      cases all
      exact turn.intact (ih rfl)

def GivesOut (before after : Exchange) (endpoint : Endpoint) : Prop :=
  (∃ operation outcome, operation.acquires endpoint.pid = true ∧
    before.perform operation = (outcome, after)) ∧
  before.engine.handles.binding? endpoint = none ∧ after.engine.handles.binding? endpoint ≠ none

theorem Turn.givesOut {report : Option Finished} (turn : before.Turn report after)
    (free : before.engine.handles.binding? endpoint = none)
    (held : after.engine.handles.binding? endpoint ≠ none) : before.GivesOut after endpoint := by
  have bears : Bears (Engine.GivesNone endpoint.pid) :=
    ⟨Engine.givesNone_conveys endpoint.pid, fun _ _ free => free⟩
  rcases turn.cases_of_bears bears with none | ⟨operation, outcome, _, ran⟩
  · exact absurd (none endpoint.handle free) held
  · refine ⟨⟨operation, outcome, ?_, ran⟩, free, held⟩
    by_contra other
    have idle : operation.acquires endpoint.pid = false := by simpa using other
    have none := Engine.operation_givesNone idle before.engine endpoint.handle free
    rw [perform_engine ran] at held
    exact held none

theorem Run.givesOut {first now : Exchange} {past : List Exchange} (run : Run first (now :: past))
    (free : first.engine.handles.binding? endpoint = none)
    (held : now.engine.handles.binding? endpoint ≠ none) :
    ∃ before ∈ now :: past, ∃ after ∈ now :: past, before.GivesOut after endpoint := by
  generalize all : now :: past = states at run
  induction run generalizing now past with
  | start =>
      cases all
      exact absurd free held
  | @turn middle last earlier report sofar turn ih =>
      cases all
      by_cases still : middle.engine.handles.binding? endpoint = none
      · exact ⟨middle, by simp, last, by simp, turn.givesOut still held⟩
      · obtain ⟨before, there, after, later, gives⟩ := ih still rfl
        exact ⟨before, List.mem_cons_of_mem _ there, after, List.mem_cons_of_mem _ later, gives⟩

/-- A call whose handle was closed, reaped or reset away hears of it at its next attempt, and
touches no mailbox, if and only if the handle's number stands for nothing then. Otherwise the task
itself has opened something in the meantime and was given the number again. -/
theorem invalidated_call_unknown_iff (limits : Limits) {closing closed now : Exchange}
    {past between : List Exchange} {operation : Operation} {ended : Except Fault Answer}
    (reached : Run (start limits) (closing :: past)) (going : closing.engine.halted = none)
    (invalidates : operation.Invalidates call.transfer.endpoint)
    (closes : closing.perform operation = (ended, closed)) (run : Run closed (now :: between))
    (running : now.engine.halted = none) (retries : now.Retries waiter call outcome after) :
    (outcome = some (.error call.transfer.unknown) ∧
        after.engine.registry = now.engine.registry ↔
      now.engine.handles.binding? call.transfer.endpoint = none) ∧
    (now.engine.handles.binding? call.transfer.endpoint ≠ none →
      ∃ before ∈ now :: between, ∃ later ∈ now :: between,
        before.GivesOut later call.transfer.endpoint) := by
  have intact : closing.engine.Intact := reached.intact (Engine.start_intact limits)
  have edited := (Engine.operation_edited operation closing.engine).intact intact
  have free := Engine.step_unbound invalidates going
  have left := perform_engine closes
  refine ⟨retries.unknown_iff (run.intact ?_) running, run.givesOut ?_⟩
  · rw [left]
    exact edited
  · rw [left]
    exact free

def deskSet : Exchange := (start {}).performed (.register 1)

def deskWaiting : Exchange := deskSet.entered 1 (.receive ⟨1, 1⟩ 64)

def deskCall : Suspended := ⟨1, .receive ⟨1, 1⟩ 64, none, ⟨.readable, ⟨2⟩⟩⟩

def deskClosed : Exchange := deskWaiting.performed (.close ⟨1, 1⟩)

def deskOpened : Exchange := deskClosed.performed (.openName 1 "svc:stdio.in" 3)

def retried (before : Exchange) (waiter : Nat) (call : Suspended) :
    Option (Except Fault Answer) × Exchange :=
  ({ before with ready := before.ready.erase waiter } : Exchange).resume waiter call

theorem Retries.of_woken (suspended : before.suspended[waiter]? = some call)
    (woken : before.waits.waiters[waiter]? = some .woken) :
    before.Retries waiter call (before.retried waiter call).1 (before.retried waiter call).2 :=
  .woken suspended woken rfl

theorem performed_eq (before : Exchange) (operation : Operation) :
    before.perform operation = ((before.perform operation).1, before.performed operation) := rfl

theorem deskWaiting_run : Run (start {}) [deskWaiting, deskSet, start {}] := by
  have set : Run (start {}) [deskSet, start {}] := Run.start.performs 1 (.register 1) rfl
  exact set.enters 1 (.receive ⟨1, 1⟩ 64)

theorem deskOpened_unknown :
    (deskOpened.retried 0 deskCall).1 = some (.error deskCall.transfer.unknown) ∧
      (deskOpened.retried 0 deskCall).2.engine.registry = deskOpened.engine.registry := by
  have invalidates : (Operation.close ⟨1, 1⟩).Invalidates deskCall.transfer.endpoint := .close
  have closes := performed_eq deskWaiting (.close ⟨1, 1⟩)
  have opened : Run deskClosed [deskOpened, deskClosed] :=
    Run.start.performs 1 (.openName 1 "svc:stdio.in" 3) rfl
  have suspended : deskOpened.suspended[0]? = some deskCall := by decide +kernel
  have woken : deskOpened.waits.waiters[0]? = some .woken := by decide +kernel
  have free : deskOpened.engine.handles.binding? deskCall.transfer.endpoint = none := by
    decide +kernel
  have ends := invalidated_call_unknown_iff {} deskWaiting_run (by decide +kernel) invalidates
    closes opened (by decide +kernel) (Retries.of_woken suspended woken)
  exact ends.1.mpr free

def deskReaped : Exchange := deskWaiting.performed (.reap 1)

def deskRenewed : Exchange := deskReaped.performed (.register 1)

def deskAddressed : Exchange := deskRenewed.performed (.send ⟨1, 1⟩ [97] 0 0)

/-- The number may have been given out anew: a call of a task that was reaped takes a message from
a mailbox of the task that has its number now. -/
theorem invalidated_call_goes_on :
    ¬ ∀ (limits : Limits) (closing closed now after : Exchange) (past between : List Exchange)
      (operation : Operation) (ended : Except Fault Answer) (waiter : Nat) (call : Suspended)
      (outcome : Option (Except Fault Answer)),
      Run (start limits) (closing :: past) → closing.engine.halted = none →
      closing.suspended[waiter]? = some call →
      operation.Invalidates call.transfer.endpoint →
      closing.perform operation = (ended, closed) → Run closed (now :: between) →
      (∀ exchange ∈ now :: between, exchange.suspended[waiter]? = some call) →
      now.engine.halted = none → now.Retries waiter call outcome after →
        outcome = some (.error call.transfer.unknown) ∧
          after.engine.registry = now.engine.registry := by
  intro always
  have waits : deskWaiting.suspended[0]? = some deskCall := by decide +kernel
  have invalidates : (Operation.reap 1).Invalidates deskCall.transfer.endpoint := .reap
  have reaps := performed_eq deskWaiting (.reap 1)
  have renewed : Run deskReaped [deskRenewed, deskReaped] := Run.start.performs 1 (.register 1) rfl
  have addressed : Run deskReaped [deskAddressed, deskRenewed, deskReaped] :=
    renewed.performs 2 (.send ⟨1, 1⟩ [97] 0 0) rfl
  have suspended : ∀ exchange ∈ [deskAddressed, deskRenewed, deskReaped],
      exchange.suspended[0]? = some deskCall := by decide +kernel
  have woken : deskAddressed.waits.waiters[0]? = some .woken := by decide +kernel
  have unknown := (always {} deskWaiting deskReaped deskAddressed
    (deskAddressed.retried 0 deskCall).2 [deskSet, start {}] [deskRenewed, deskReaped] (.reap 1)
    (deskWaiting.perform (.reap 1)).1 0 deskCall (deskAddressed.retried 0 deskCall).1
    deskWaiting_run (by decide +kernel) waits invalidates reaps addressed suspended
    (by decide +kernel) (Retries.of_woken (suspended _ List.mem_cons_self) woken)).1
  have answered : ((deskAddressed.retried 0 deskCall).1.map Except.isOk) = some true := by
    decide +kernel
  rw [unknown] at answered
  cases answered

end Exchange

end Mailroom
