import Mailroom.Proofs.Engine.Handles
import Mailroom.Proofs.History.Moments

/-!
What is done to one mailbox cannot be told from what its users do to another. Two engines that have
the same handles and the same mailbox are alike for it: a call through its handles goes the same
way in both, and a call through any other handle leaves an engine that is alike.
-/

namespace Mailroom

def Operation.dataHandle? : Operation → Option Endpoint
  | .send endpoint .. | .receive endpoint _ | .peek endpoint | .tap endpoint _ => some endpoint
  | _ => none

def Operation.isData (operation : Operation) : Bool := operation.dataHandle?.isSome

def Engine.through (engine : Engine) (id : MailboxId) (operation : Operation) : Bool :=
  (operation.dataHandle?.bind engine.handles.binding?).any fun binding => binding.mailbox = id

def outcomesThrough (id : MailboxId) (moments : List Moment) : List (Except Fault Answer) :=
  (moments.filter fun moment => moment.engine.through id moment.operation).map Moment.outcome

namespace Engine

open Step Scene

theorem through_iff {engine : Engine} {id : MailboxId} {operation : Operation}
    {endpoint : Endpoint} (used : operation.dataHandle? = some endpoint) :
    engine.through id operation = true ↔
      ∃ binding, engine.handles.binding? endpoint = some binding ∧ binding.mailbox = id := by
  simp [through, Option.any_eq_true, used]

/-- Two engines that cannot be told apart through handles on this mailbox. -/
structure Alike (id : MailboxId) (left right : Engine) : Prop where
  handles_eq : left.handles = right.handles
  halted_eq : left.halted = right.halted
  mailbox_eq : left.registry.get? id = right.registry.get? id

namespace Alike

variable {id : MailboxId} {first left right : Engine}

theorem refl (id : MailboxId) (engine : Engine) : Alike id engine engine := ⟨rfl, rfl, rfl⟩

theorem symm (alike : Alike id left right) : Alike id right left :=
  ⟨alike.handles_eq.symm, alike.halted_eq.symm, alike.mailbox_eq.symm⟩

theorem trans (begins : Alike id first left) (onward : Alike id left right) :
    Alike id first right :=
  ⟨begins.handles_eq.trans onward.handles_eq, begins.halted_eq.trans onward.halted_eq,
    begins.mailbox_eq.trans onward.mailbox_eq⟩

theorem through_eq (alike : Alike id left right) : left.through id = right.through id := by
  funext operation
  rw [through, through, alike.handles_eq]

end Alike

def Agrees {α : Type} (id : MailboxId) (step : Step α) (left right : Engine) : Prop :=
  ∃ outcome leftAfter rightAfter, step left = (outcome, leftAfter) ∧
    step right = (outcome, rightAfter) ∧ Alike id leftAfter rightAfter

section Agreement

variable {α β : Type} {id : MailboxId} {left right : Engine}

theorem agrees_bind {first : Step α} {next : α → Step β} (begins : Agrees id first left right)
    (onward : ∀ answer leftMiddle rightMiddle, first left = (.ok answer, leftMiddle) →
      Alike id leftMiddle rightMiddle → Agrees id (next answer) leftMiddle rightMiddle) :
    Agrees id (first >>= next) left right := by
  obtain ⟨outcome, leftMiddle, rightMiddle, leftRan, rightRan, between⟩ := begins
  cases outcome with
  | ok answer =>
      obtain ⟨outcome, leftAfter, rightAfter, leftEnds, rightEnds, after⟩ :=
        onward answer leftMiddle rightMiddle leftRan between
      exact ⟨outcome, leftAfter, rightAfter, (bind_ok leftRan).trans leftEnds,
        (bind_ok rightRan).trans rightEnds, after⟩
  | error fault =>
      exact ⟨.error fault, leftMiddle, rightMiddle, bind_error leftRan, bind_error rightRan,
        between⟩

variable (alike : Alike id left right)

include alike

theorem agrees_pure (answer : α) : Agrees id (Pure.pure answer) left right :=
  ⟨.ok answer, left, right, rfl, rfl, alike⟩

theorem agrees_fail (fault : Fault) : Agrees id (Step.fail fault : Step α) left right :=
  ⟨.error fault, left, right, rfl, rfl, alike⟩

theorem agrees_inspect {look : Engine → Except Fault α} (same : look left = look right) :
    Agrees id (Step.inspect look) left right :=
  ⟨look left, left, right, rfl, by rw [same]; rfl, alike⟩

theorem agrees_change {edit : Engine → Engine} (keeps : ∀ engine, Alike id engine (edit engine)) :
    Agrees id (Step.change edit) left right :=
  ⟨.ok (), edit left, edit right, rfl, rfl, ((keeps left).symm.trans alike).trans (keeps right)⟩

theorem agrees_guarded {step : Step α} (inner : Agrees id step left right) :
    Agrees id (Step.guarded step) left right := by
  cases halted : left.halted with
  | some reason =>
      exact ⟨_, left, right, guarded_halted halted,
        guarded_halted (alike.halted_eq.symm.trans halted), alike⟩
  | none =>
      have running := alike.halted_eq.symm.trans halted
      obtain ⟨outcome, leftAfter, rightAfter, leftRan, rightRan, after⟩ := inner
      simp only [Agrees, Step.guarded, halted, running, leftRan, rightRan]
      cases outcome with
      | ok answer => exact ⟨.ok answer, leftAfter, rightAfter, rfl, rfl, after⟩
      | error fault =>
          refine ⟨.error fault, _, _, rfl, rfl, ?_⟩
          split
          · exact ⟨after.handles_eq, by simp only [halt, after.halted_eq], after.mailbox_eq⟩
          · exact after

theorem agrees_mailboxOf : Agrees id (mailboxOf id) left right :=
  agrees_inspect alike (by rw [alike.mailbox_eq])

theorem agrees_onMailbox (operation : Mailbox → Except Fault α × Mailbox) :
    Agrees id (onMailbox id operation) left right := by
  refine agrees_bind (agrees_mailboxOf alike) fun mailbox leftMiddle rightMiddle _ between => ?_
  have put : Agrees id (putMailbox (operation mailbox).2) leftMiddle rightMiddle := by
    refine ⟨.ok (), _, _, rfl, rfl, between.handles_eq, between.halted_eq, ?_⟩
    rw [Registry.update_get, Registry.update_get, between.mailbox_eq]
  exact agrees_bind put fun _ _ _ _ after => agrees_inspect after rfl

end Agreement

section Through

variable {left right : Engine} {endpoint : Endpoint} {binding : Binding}
  (alike : Alike binding.mailbox left right)
  (held : left.handles.binding? endpoint = some binding)

include alike held

theorem agrees_bindingOf {α : Type} {next : Binding → Step α}
    (onward : Agrees binding.mailbox (next binding) left right) :
    Agrees binding.mailbox (bindingOf endpoint >>= next) left right := by
  obtain ⟨outcome, leftAfter, rightAfter, leftRan, rightRan, after⟩ := onward
  have same : right.handles.binding? endpoint = some binding := by rw [← alike.handles_eq, held]
  exact ⟨outcome, leftAfter, rightAfter, (bind_ok (bindingOf_held held)).trans leftRan,
    (bind_ok (bindingOf_held same)).trans rightRan, after⟩

theorem agrees_readableView {α : Type} {next : Binding × View → Step α}
    (onward : ∀ view leftMiddle rightMiddle, Alike binding.mailbox leftMiddle rightMiddle →
      Agrees binding.mailbox (next (binding, view)) leftMiddle rightMiddle) :
    Agrees binding.mailbox (readableView endpoint >>= next) left right := by
  have begins : Agrees binding.mailbox (readableView endpoint) left right := by
    refine agrees_bindingOf alike held ?_
    split
    · exact agrees_bind (agrees_mailboxOf alike) fun mailbox _ _ _ between => agrees_pure between _
    · exact agrees_fail alike _
  refine agrees_bind begins fun seen leftMiddle rightMiddle looked between => ?_
  obtain ⟨other, _, begun, rest⟩ := bind_answers looked
  rw [bindingOf_held held] at begun
  cases begun
  split at rest
  · obtain ⟨mailbox, _, _, ended⟩ := bind_answers rest
    cases ended
    exact onward _ leftMiddle rightMiddle between
  · cases rest

theorem trySend_agrees (payload : Bytes) (flags channel : UInt16) :
    Agrees binding.mailbox (trySend endpoint payload flags channel) left right := by
  refine agrees_guarded alike (agrees_bindingOf alike held ?_)
  split
  · refine agrees_bind (agrees_onMailbox alike _) fun accepted _ _ _ between =>
      agrees_bind (agrees_change between fun engine => ?_) fun _ _ _ _ after => agrees_pure after _
    rw [announce_eq]
    exact ⟨rfl, rfl, rfl⟩
  · exact agrees_fail alike _

theorem tryReceive_agrees (room : Nat) :
    Agrees binding.mailbox (tryReceive endpoint room) left right := by
  refine agrees_guarded alike (agrees_readableView alike held fun view _ _ between =>
    agrees_bind (agrees_onMailbox between _) fun taken _ _ _ later => ?_)
  cases taken with
  | none => exact agrees_fail later _
  | some receipt =>
      refine agrees_bind (agrees_change later fun engine => ?_) fun _ _ _ _ after =>
        agrees_pure after _
      rw [acknowledge_eq]
      exact ⟨rfl, rfl, rfl⟩

theorem peek_agrees : Agrees binding.mailbox (peek endpoint) left right :=
  agrees_guarded alike (agrees_readableView alike held fun _ _ _ between =>
    agrees_bind (agrees_mailboxOf between) fun _ _ _ _ later =>
      agrees_bind (agrees_inspect later rfl) fun _ _ _ _ after => agrees_pure after _)

theorem tap_agrees (enabled : Bool) :
    Agrees binding.mailbox (tap endpoint enabled) left right := by
  refine agrees_guarded alike (agrees_bindingOf alike held ?_)
  split
  · exact agrees_bind (agrees_onMailbox alike _) fun _ _ _ _ between =>
      agrees_change between fun engine => ⟨rfl, rfl, rfl⟩
  · exact agrees_fail alike _

end Through

theorem agrees_map {α : Type} {id : MailboxId} {left right : Engine} {step : Step α}
    (form : α → Answer) (agrees : Agrees id step left right) :
    Agrees id (step >>= fun answer => Pure.pure (form answer)) left right :=
  agrees_bind agrees fun _ _ _ _ after => agrees_pure after _

theorem data_agrees {id : MailboxId} {left right : Engine} (alike : Alike id left right)
    {operation : Operation} (through : left.through id operation = true) :
    Agrees id operation.step left right := by
  have bound : ∀ {endpoint : Endpoint}, operation.dataHandle? = some endpoint →
      ∃ binding, left.handles.binding? endpoint = some binding ∧ binding.mailbox = id :=
    fun used => (through_iff used).mp through
  cases operation with
  | send endpoint payload flags channel =>
      obtain ⟨binding, held, rfl⟩ := bound rfl
      exact agrees_map _ (trySend_agrees alike held payload flags channel)
  | receive endpoint room =>
      obtain ⟨binding, held, rfl⟩ := bound rfl
      exact agrees_map _ (tryReceive_agrees alike held room)
  | peek endpoint =>
      obtain ⟨binding, held, rfl⟩ := bound rfl
      exact agrees_map _ (peek_agrees alike held)
  | tap endpoint enabled =>
      obtain ⟨binding, held, rfl⟩ := bound rfl
      exact agrees_map _ (tap_agrees alike held enabled)
  | _ => cases through

theorem data_obeys {R : Engine → Engine → Prop} (admits : Admits R Conveys) {operation : Operation}
    (data : operation.isData = true) : Obeys R operation.step := by
  cases operation with
  | send endpoint payload flags channel =>
      exact (trySend_obeys admits endpoint payload flags channel).map _
  | receive endpoint room => exact (tryReceive_obeys admits endpoint room).map _
  | peek endpoint => exact (peek_obeys admits.course endpoint).map _
  | tap endpoint enabled => exact (tap_obeys admits endpoint enabled).map _
  | _ => cases data

theorem registrations_conveys :
    Admits (fun before after : Engine => after.registrations = before.registrations) Conveys := by
  refine ⟨⟨fun _ => rfl, fun first second => second.trans first, fun _ _ => rfl⟩, fun conveys => ?_⟩
  cases conveys with
  | told other => exact emit_registrations _ other
  | woken | moved => rfl

theorem keepsThere_conveys :
    Admits (fun before after : Engine => ∀ id mailbox, before.registry.get? id = some mailbox →
      ∃ later, after.registry.get? id = some later) Conveys := by
  refine ⟨⟨fun _ _ mailbox found => ⟨mailbox, found⟩, ?_,
    fun _ _ _ mailbox found => ⟨mailbox, found⟩⟩, fun conveys id mailbox found => ?_⟩
  · intro first second third begins onward id mailbox found
    obtain ⟨between, there⟩ := begins id mailbox found
    exact onward id between there
  · cases conveys with
    | told | woken => exact ⟨mailbox, found⟩
    | @moved _ _ after _ _ =>
        simp only [Registry.update_get]
        split
        · exact ⟨after, rfl⟩
        · exact ⟨mailbox, found⟩

theorem data_run_obeys {R : Engine → Engine → Prop} (admits : Admits R Conveys)
    (operations : List Operation) (data : ∀ operation ∈ operations, operation.isData = true)
    (engine : Engine) : R engine (engine.run operations) := by
  induction operations generalizing engine with
  | nil => exact admits.course.refl engine
  | cons operation rest ih =>
      obtain ⟨first, others⟩ := List.forall_mem_cons.mp data
      exact admits.course.trans (data_obeys admits first engine) (ih others _)

section Elsewhere

variable {id : MailboxId} {engine : Engine} {operation : Operation}

theorem untouched_update {binding : Binding} {mailbox after : Mailbox} (sound : engine.scene.Sound)
    (found : engine.registry.get? binding.mailbox = some mailbox) (same : after.id = mailbox.id)
    (elsewhere : binding.mailbox ≠ id) :
    (engine.registry.update after).get? id = engine.registry.get? id :=
  Registry.update_elsewhere _ (same.trans (sound.supports.id_eq found)) elsewhere.symm

theorem data_spares (sound : engine.scene.Sound) (running : engine.halted = none)
    (data : operation.isData = true) (elsewhere : engine.through id operation = false) :
    (operation.step engine).2.registry.get? id = engine.registry.get? id := by
  have apart : ∀ {endpoint binding}, operation.dataHandle? = some endpoint →
      engine.handles.binding? endpoint = some binding → binding.mailbox ≠ id := by
    intro endpoint binding used held here
    have through := (through_iff used).mpr ⟨binding, held, here⟩
    rw [elsewhere] at through
    cases through
  have mapped : ∀ {α : Type} (step : Step α) (form : α → Answer),
      (step engine).2.registry.get? id = engine.registry.get? id →
        ((step >>= fun answer => Pure.pure (form answer)) engine).2.registry.get? id =
          engine.registry.get? id := by
    intro α step form same
    rw [map_after, same]
  cases operation with
  | send endpoint payload flags channel =>
      refine mapped (trySend endpoint payload flags channel) .count ?_
      cases ran : trySend endpoint payload flags channel engine with
      | mk outcome after =>
          cases trySend_ends sound running ran with
          | refused => rfl
          | full held found =>
              have serves := sound.supports.serves _ _ found
              exact untouched_update sound found (serves.sound.marked_traffic endpoint).id_eq
                (apart rfl held)
          | sent held found =>
              have serves := sound.supports.serves _ _ found
              rw [announce_eq]
              exact untouched_update sound found (serves.sound.marked_traffic endpoint).id_eq
                (apart rfl held)
  | receive endpoint room =>
      refine mapped (tryReceive endpoint room) .receipt ?_
      cases ran : tryReceive endpoint room engine with
      | mk outcome after =>
          cases tryReceive_ends sound running ran with
          | refused | empty => rfl
          | received reader =>
              have serves := sound.supports.serves _ _ reader.found
              rw [acknowledge_eq]
              exact untouched_update sound reader.found
                (serves.sound.withdrawn_traffic _).id_eq (apart rfl reader.held)
  | peek endpoint =>
      refine mapped (peek endpoint) .peek ?_
      obtain ⟨outcome, left, _⟩ := peek_ends sound running endpoint
      rw [left]
  | tap endpoint enabled =>
      refine mapped (tap endpoint enabled) (fun _ => .nothing) ?_
      cases ran : tap endpoint enabled engine with
      | mk outcome after =>
          cases tap_ends sound running ran with
          | refused => rfl
          | switched held found => exact untouched_update sound found rfl (apart rfl held)
  | _ => cases data

theorem data_elsewhere (sound : engine.scene.Sound) (data : operation.isData = true)
    (few : engine.registrations ≤ Registry.mostNumbers)
    (elsewhere : engine.through id operation = false) :
    Alike id engine (operation.step engine).2 := by
  cases halted : engine.halted with
  | some reason =>
      rcases operation_halted halted operation with same | rfl | ⟨reason, rfl⟩
      · rw [same]
        exact .refl id engine
      · cases data
      · cases data
  | none =>
      have caller : operation.halts = false := by
        cases operation <;> first | rfl | cases data
      have fewer : (operation.step engine).2.registrations ≤ Registry.mostNumbers := by
        rw [data_obeys registrations_conveys data engine]
        exact few
      obtain ⟨_, still, _⟩ := operation_passes sound halted caller _ _ rfl fun _ => fewer
      exact ⟨(data_obeys handles_conveys data engine).symm, halted.trans still.symm,
        (data_spares sound halted data elsewhere).symm⟩

end Elsewhere

theorem outcomesThrough_cons (id : MailboxId) (engine : Engine) (operation : Operation)
    (rest : List Operation) :
    outcomesThrough id (engine.moments (operation :: rest)) =
      if engine.through id operation = true then
        (operation.step engine).1 ::
          outcomesThrough id ((operation.step engine).2.moments rest)
      else outcomesThrough id ((operation.step engine).2.moments rest) := by
  rw [moments, outcomesThrough, List.filter_cons]
  split <;> rfl

/-- For a mailbox, a run of calls comes to the same as the run of those through its handles. -/
theorem run_projects {id : MailboxId} (operations : List Operation)
    (data : ∀ operation ∈ operations, operation.isData = true) {engine other : Engine}
    (sound : engine.scene.Sound) (few : engine.registrations ≤ Registry.mostNumbers)
    (alike : Alike id engine other) :
    outcomesThrough id (engine.moments operations) =
        outcomesThrough id (other.moments (operations.filter (engine.through id))) ∧
      Alike id (engine.run operations) (other.run (operations.filter (engine.through id))) := by
  induction operations generalizing engine other with
  | nil => exact ⟨rfl, alike⟩
  | cons operation rest ih =>
      obtain ⟨first, others⟩ := List.forall_mem_cons.mp data
      have fewer : (operation.step engine).2.registrations ≤ Registry.mostNumbers := by
        rw [data_obeys registrations_conveys first engine]
        exact few
      have later {other : Engine} (alike : Alike id (operation.step engine).2 other) :=
        ih others (operation_sound sound operation fewer) fewer alike
      -- No call opens or closes a handle, so that the rest goes through the same handles as before.
      have stays : (operation.step engine).2.through id = engine.through id := by
        funext next
        rw [through, through, data_obeys handles_conveys first engine]
      rw [stays] at later
      cases goes : engine.through id operation with
      | true =>
          obtain ⟨outcome, after, otherAfter, ran, otherRan, between⟩ := data_agrees alike goes
          have goesToo := alike.through_eq ▸ goes
          rw [ran] at later
          rw [List.filter_cons_of_pos goes, outcomesThrough_cons, outcomesThrough_cons, if_pos goes,
            if_pos goesToo, ran, otherRan, (later between).1]
          refine ⟨rfl, ?_⟩
          change Alike id ((operation.step engine).2.run rest) ((operation.step other).2.run _)
          rw [ran, otherRan]
          exact (later between).2
      | false =>
          have passed := (data_elsewhere sound first few goes).symm.trans alike
          rw [List.filter_cons_of_neg (by simp [goes]), outcomesThrough_cons,
            if_neg (by simp [goes])]
          exact later passed

/-- Two runs of calls that agree on what goes through the handles of one mailbox: those calls come
to the same in both, and so does the mailbox, whatever is done to other mailboxes in between. -/
theorem run_isolated (limits : Limits) (past : List Operation)
    (few : ((start limits).run past).registrations ≤ Registry.mostNumbers) {id : MailboxId}
    {mailbox : Mailbox} (found : ((start limits).run past).registry.get? id = some mailbox)
    {left right : List Operation} (leftData : ∀ operation ∈ left, operation.isData = true)
    (rightData : ∀ operation ∈ right, operation.isData = true)
    (same : left.filter (((start limits).run past).through id) =
      right.filter (((start limits).run past).through id)) :
    outcomesThrough id (((start limits).run past).moments left) =
        outcomesThrough id (((start limits).run past).moments right) ∧
      ∃ later, (((start limits).run past).run left).registry.get? id = some later ∧
        (((start limits).run past).run right).registry.get? id = some later := by
  have sound := run_sound past (start_sound limits) few
  obtain ⟨leftOutcomes, leftAlike⟩ :=
    run_projects left leftData sound few (.refl id _)
  obtain ⟨rightOutcomes, rightAlike⟩ :=
    run_projects right rightData sound few (.refl id _)
  rw [same] at leftOutcomes leftAlike
  obtain ⟨later, there⟩ := data_run_obeys keepsThere_conveys left leftData _ id mailbox found
  exact ⟨leftOutcomes.trans rightOutcomes.symm, later, there,
    (leftAlike.trans rightAlike.symm).mailbox_eq ▸ there⟩

/-- A queue with room for one message, while a fan-out of the same tasks is busy or idle. -/
theorem quiet_neighbour_isolated :
    let before := (start {}).run
      [.bindName 1 "shared:jobs" 9 3, .openName 2 "shared:jobs" 3, .bindName 1 "app:log" 64 0x0b,
        .openName 2 "app:log" 4]
    let busy : List Operation :=
      [.send ⟨1, 1⟩ [7] 0 0, .tap ⟨2, 2⟩ true, .send ⟨1, 2⟩ [1, 2, 3] 0 0, .send ⟨2, 1⟩ [8] 0 0,
        .receive ⟨2, 2⟩ 16, .peek ⟨2, 1⟩, .receive ⟨2, 1⟩ 16]
    let alone : List Operation :=
      [.send ⟨1, 1⟩ [7] 0 0, .send ⟨2, 1⟩ [8] 0 0, .peek ⟨2, 1⟩, .receive ⟨2, 1⟩ 16]
    outcomesThrough ⟨1⟩ (before.moments busy) = outcomesThrough ⟨1⟩ (before.moments alone) ∧
      ∃ later, (before.run busy).registry.get? ⟨1⟩ = some later ∧
        (before.run alone).registry.get? ⟨1⟩ = some later :=
  run_isolated {}
    [.bindName 1 "shared:jobs" 9 3, .openName 2 "shared:jobs" 3, .bindName 1 "app:log" 64 0x0b,
      .openName 2 "app:log" 4]
    (by decide +kernel) (Option.some_get (by decide +kernel)).symm (by decide +kernel)
    (by decide +kernel) (by decide +kernel)

end Engine

end Mailroom
