import Mailroom.Engine.Operation

/-!
How steps are taken apart and put together again: what holds along each of the steps that an
operation goes through holds along the operation.
-/

namespace Mailroom

def Fault.isInternal (fault : Fault) : Bool := fault.status = .internalError

theorem Fault.isFatal_of_mild {fault : Fault} (mild : fault.isInternal = false) :
    fault.isFatal = false := by
  cases fault <;> first | rfl | cases mild

def Mild {α : Type} (outcome : Except Fault α) : Prop :=
  ∀ fault, outcome = .error fault → fault.isInternal = false

theorem mild_ok {α : Type} (answer : α) : Mild (.ok answer : Except Fault α) := by
  intro fault failed
  cases failed

theorem mild_error {α : Type} {fault : Fault} (mild : fault.isInternal = false) :
    Mild (.error fault : Except Fault α) := by
  intro other failed
  cases failed
  exact mild

theorem Mild.fault {α β : Type} {fault : Fault} (mild : Mild (.error fault : Except Fault α)) :
    Mild (.error fault : Except Fault β) :=
  mild_error (mild fault rfl)

namespace Step

variable {α β : Type}

theorem bind_ok {first : Step α} {next : α → Step β} {engine middle : Engine} {answer : α}
    (ran : first engine = (.ok answer, middle)) : (first >>= next) engine = next answer middle := by
  change Step.bind first next engine = _
  simp only [Step.bind, ran]

theorem bind_error {first : Step α} {next : α → Step β} {engine after : Engine} {fault : Fault}
    (ran : first engine = (.error fault, after)) :
    (first >>= next) engine = (.error fault, after) := by
  change Step.bind first next engine = _
  simp only [Step.bind, ran]

theorem bind_cases {first : Step α} {next : α → Step β} {engine after : Engine}
    {outcome : Except Fault β} (ran : (first >>= next) engine = (outcome, after)) :
    (∃ answer middle, first engine = (.ok answer, middle) ∧
      next answer middle = (outcome, after)) ∨
    ∃ fault, first engine = (.error fault, after) ∧ outcome = .error fault := by
  cases begun : first engine with
  | mk result middle =>
      cases result with
      | ok answer =>
          rw [bind_ok begun] at ran
          exact Or.inl ⟨answer, middle, rfl, ran⟩
      | error fault =>
          rw [bind_error begun] at ran
          cases ran
          exact Or.inr ⟨fault, rfl, rfl⟩

theorem bind_answers {first : Step α} {next : α → Step β} {engine after : Engine} {answer : β}
    (ran : (first >>= next) engine = (.ok answer, after)) :
    ∃ found middle, first engine = (.ok found, middle) ∧
      next found middle = (.ok answer, after) := by
  rcases bind_cases ran with ends | ⟨fault, _, failed⟩
  · exact ends
  · cases failed

theorem guarded_answers {step : Step α} {engine after : Engine} {answer : α}
    (ran : guarded step engine = (.ok answer, after)) : step engine = (.ok answer, after) := by
  simp only [guarded] at ran
  split at ran
  · cases ran
  · split at ran
    · rename_i inner
      rw [inner, ran]
    · cases ran

theorem running_of_answers {step : Step α} {engine after : Engine} {answer : α}
    (ran : guarded step engine = (.ok answer, after)) : engine.halted = none := by
  cases halted : engine.halted with
  | none => rfl
  | some reason =>
      simp only [guarded, halted] at ran
      cases ran

theorem guarded_running {step : Step α} {engine after : Engine} {outcome : Except Fault α}
    (running : engine.halted = none) (ran : step engine = (outcome, after)) (mild : Mild outcome) :
    guarded step engine = (outcome, after) := by
  cases outcome with
  | ok answer => simp only [guarded, running, ran]
  | error fault => simp [guarded, running, ran, Fault.isFatal_of_mild (mild fault rfl)]

theorem guarded_halted {step : Step α} {engine : Engine} {reason : String}
    (halted : engine.halted = some reason) :
    guarded step engine = (.error (.internal ("engine halted: " ++ reason)), engine) := by
  simp only [guarded, halted]

def Fails (P : Fault → Engine → Prop) (step : Step α) (engine : Engine) : Prop :=
  ∀ fault after, step engine = (.error fault, after) → P fault after

variable {P : Fault → Engine → Prop} {engine : Engine}

theorem fails_of_ok {step : Step α} {answer : α} {after : Engine}
    (ran : step engine = (.ok answer, after)) : Fails P step engine := by
  intro fault later failed
  rw [ran] at failed
  cases failed

theorem fails_of_error {step : Step α} {fault : Fault} {after : Engine}
    (ran : step engine = (.error fault, after)) (holds : P fault after) : Fails P step engine := by
  intro other later failed
  rw [ran] at failed
  cases failed
  exact holds

theorem fails_bind {first : Step α} {next : α → Step β} (begins : Fails P first engine)
    (onward : ∀ answer middle, first engine = (.ok answer, middle) →
      Fails P (next answer) middle) : Fails P (first >>= next) engine := by
  intro fault after ran
  rcases bind_cases ran with ⟨answer, middle, begun, rest⟩ | ⟨other, failed, same⟩
  · exact onward answer middle begun fault after rest
  · cases same
    exact begins fault after failed

theorem fails_guarded {step : Step α} (inner : Fails P step engine)
    (refused : ∀ reason, P (.internal reason) engine)
    (halts : ∀ fault after reason, P fault after → P fault (after.halt reason)) :
    Fails P (guarded step) engine := by
  cases halted : engine.halted with
  | some reason => exact fails_of_error (guarded_halted halted) (refused _)
  | none =>
      intro fault after ran
      cases stepped : step engine with
      | mk outcome later =>
          cases outcome <;> simp only [guarded, halted, stepped] at ran <;> cases ran
          have holds := inner fault later stepped
          split
          · exact halts _ _ _ holds
          · exact holds

end Step

def Event.isCreated : Event → Bool
  | .created .. => true
  | _ => false

theorem no_events : ∀ event ∈ ([] : List Event), event.isCreated = false := by
  simp

/-- How many mailboxes have been registered, as the events tell. -/
def Engine.registrations (engine : Engine) : Nat := engine.events.countP Event.isCreated

namespace Engine

def rousing (id : MailboxId) : List Wakeup :=
  [⟨⟨.writable, id⟩, .all⟩, ⟨⟨.subscriber, id⟩, .all⟩, ⟨⟨.readable, id⟩, .all⟩]

theorem destroy_of_found {engine : Engine} {mailbox : Mailbox} {registry : Registry}
    (id : MailboxId) (removed : engine.registry.remove id = (some mailbox, registry)) :
    engine.destroy id =
      { engine with
        registry
        wakeups := rousing id ++ engine.wakeups
        events := .destroyed id mailbox.name.canonical mailbox.pending :: engine.events } := by
  simp only [destroy, removed]
  rfl

theorem destroy_of_absent {engine : Engine} {registry : Registry} (id : MailboxId)
    (absent : engine.registry.remove id = (none, registry)) : engine.destroy id = engine := by
  simp only [destroy, absent]

theorem destroy_rest (engine : Engine) (id : MailboxId) :
    (engine.destroy id).halted = engine.halted ∧ (engine.destroy id).limits = engine.limits ∧
      (engine.destroy id).handles = engine.handles := by
  cases removed : engine.registry.remove id with
  | mk mailbox? registry =>
      cases mailbox? with
      | none =>
          rw [destroy_of_absent id removed]
          exact ⟨rfl, rfl, rfl⟩
      | some mailbox =>
          rw [destroy_of_found id removed]
          exact ⟨rfl, rfl, rfl⟩

theorem emit_registrations (engine : Engine) {event : Event} (other : event.isCreated = false) :
    (engine.emit event).registrations = engine.registrations := by
  simp [emit, registrations, other]

theorem emit_created (engine : Engine) (id : MailboxId) (text : String) (capacity : UInt16)
    (policy : Policy) (creator : Pid) :
    (engine.emit (.created id text capacity policy creator)).registrations =
      engine.registrations + 1 :=
  List.countP_cons_of_pos rfl

theorem destroy_registrations (engine : Engine) (id : MailboxId) :
    (engine.destroy id).registrations = engine.registrations := by
  cases removed : engine.registry.remove id with
  | mk mailbox? registry =>
      cases mailbox? with
      | none => rw [destroy_of_absent id removed]
      | some mailbox =>
          rw [destroy_of_found id removed]
          simp [registrations, Event.isCreated]

end Engine

namespace Step

/-- A relation between engines that holds along any steps once it holds along each of them. -/
structure Course (R : Engine → Engine → Prop) : Prop where
  refl : ∀ engine, R engine engine
  trans : ∀ {first second third}, R first second → R second third → R first third
  halt : ∀ engine reason, R engine (engine.halt reason)

variable {α β : Type} {R : Engine → Engine → Prop}

def Obeys (R : Engine → Engine → Prop) (step : Step α) : Prop :=
  ∀ engine : Engine, R engine (step engine).2

theorem map_after (step : Step α) (form : α → β) (engine : Engine) :
    ((step >>= fun answer => Pure.pure (form answer)) engine).2 = (step engine).2 := by
  cases ran : step engine with
  | mk outcome after =>
      cases outcome with
      | ok answer =>
          rw [bind_ok ran]
          rfl
      | error fault => rw [bind_error ran]

theorem Obeys.map {step : Step α} (obeys : Obeys R step) (form : α → β) :
    Obeys R (step >>= fun answer => Pure.pure (form answer)) := by
  intro engine
  rw [map_after]
  exact obeys engine

namespace Course

theorem pure (course : Course R) (answer : α) : Obeys R (Pure.pure answer : Step α) :=
  course.refl

theorem fail (course : Course R) (fault : Fault) : Obeys R (Step.fail fault : Step α) :=
  course.refl

theorem inspect (course : Course R) (look : Engine → Except Fault α) :
    Obeys R (Step.inspect look) := course.refl

theorem bind_at (course : Course R) {first : Step α} {next : α → Step β} {engine : Engine}
    (begins : R engine (first engine).2)
    (onward : ∀ answer middle, first engine = (.ok answer, middle) →
      R middle (next answer middle).2) : R engine ((first >>= next) engine).2 := by
  cases ran : first engine with
  | mk result middle =>
      rw [ran] at begins
      cases result with
      | ok answer =>
          rw [bind_ok ran]
          exact course.trans begins (onward answer middle ran)
      | error fault =>
          rw [bind_error ran]
          exact begins

theorem bind (course : Course R) {first : Step α} {next : α → Step β} (begins : Obeys R first)
    (onward : ∀ answer, Obeys R (next answer)) : Obeys R (first >>= next) :=
  fun engine => course.bind_at (begins engine) fun answer middle _ => onward answer middle

theorem guarded (course : Course R) {step : Step α} (obeys : Obeys R step) :
    Obeys R (Step.guarded step) := by
  intro engine
  have inner := obeys engine
  simp only [Step.guarded]
  cases engine.halted with
  | some reason => exact course.refl engine
  | none =>
      cases ran : step engine with
      | mk result after =>
          rw [ran] at inner
          cases result with
          | ok answer => exact inner
          | error fault =>
              simp only
              split
              · exact course.trans inner (course.halt after fault.message)
              · exact inner

theorem forEach (course : Course R) {action : α → Step Unit}
    (obeys : ∀ item, Obeys R (action item)) (items : List α) :
    Obeys R (Step.forEach action items) := by
  induction items with
  | nil => exact course.pure ()
  | cons item rest ih => exact course.bind (obeys item) fun _ => ih

end Course

def Grows (step : Step α) : Prop :=
  ∀ engine : Engine, engine.registrations ≤ (step engine).2.registrations

theorem grows_course :
    Course fun before after : Engine => before.registrations ≤ after.registrations
    :=
  ⟨fun _ => Nat.le_refl _, Nat.le_trans, fun _ _ => Nat.le_refl _⟩

theorem grows_pure (answer : α) : Grows (Pure.pure answer : Step α) := grows_course.pure answer

theorem Grows.bind {first : Step α} {next : α → Step β} (firstGrows : first.Grows)
    (nextGrows : ∀ answer, (next answer).Grows) : (first >>= next).Grows :=
  grows_course.bind firstGrows nextGrows

end Step

end Mailroom
