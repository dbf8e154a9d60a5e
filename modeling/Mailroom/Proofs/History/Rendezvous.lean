import Mailroom.Proofs.Engine.Demands
import Mailroom.Proofs.History.Moments
import Mailroom.Proofs.Name

/-!
Tasks meet by name: two handles that are open at one time stand for one mailbox exactly if the names
that they were opened with mean the same, however often mailboxes of that name have come and gone.
-/

namespace Mailroom.Engine

variable {limits : Limits} {past : List Operation} {engine : Engine} {endpoint : Endpoint}
  {demand : Demand}

/-- A handle is open for a demand from the moment on when it is given out for it, as long as it
stands for anything. -/
inductive OpenFor (limits : Limits) (endpoint : Endpoint) : Demand → List Operation → Prop
  | granted {past : List Operation} {demand : Demand}
      (grants : ((demand.operation endpoint.pid).step ((start limits).run past)).1 =
        .ok (.handle endpoint.handle)) :
      OpenFor limits endpoint demand (past ++ [demand.operation endpoint.pid])
  | registered {past : List Operation} {handles : StandardHandles} {raw : String}
      (registers : ((Operation.register endpoint.pid).step ((start limits).run past)).1 =
        .ok (.standard handles))
      (stream : (endpoint.handle, raw) ∈ handles.streams) :
      OpenFor limits endpoint { raw, word := Mode.readWrite.bits }
        (past ++ [.register endpoint.pid])
  | stays {past : List Operation} {demand : Demand} {last : Operation}
      (openFor : OpenFor limits endpoint demand past)
      (still : ∃ binding,
        ((start limits).run (past ++ [last])).handles.binding? endpoint = some binding) :
      OpenFor limits endpoint demand (past ++ [last])

theorem Meets.step {binding : Binding} {mailbox : Mailbox}
    (meets : engine.Meets endpoint demand binding mailbox) (sound : engine.scene.Sound)
    (operation : Operation)
    (few : (operation.step engine).2.registrations ≤ Registry.mostNumbers)
    (still : ∃ binding, (operation.step engine).2.handles.binding? endpoint = some binding) :
    ∃ later, (operation.step engine).2.Meets endpoint demand binding later := by
  have course : Moment.Course ⟨engine, operation⟩ := Moment.course sound few
  have held : (operation.step engine).2.handles.binding? endpoint = some binding := by
    obtain ⟨other, there⟩ := still
    cases course with
    | calm _ calm =>
        rcases calm.bound endpoint other there with free | same
        · cases free.symm.trans meets.held
        · rw [there, ← same, meets.held]
    | touched _ _ _ handles_eq =>
        exact (congrArg (fun handles => handles.binding? endpoint) handles_eq).trans meets.held
  have soundAfter := operation_sound sound operation few
  obtain ⟨later, found⟩ := soundAfter.supports.present endpoint binding held
  have lasts := course.lasts (intact_of_sound sound) meets.found found
  exact ⟨later, held, found, meets.suits.lasts lasts⟩

theorem OpenFor.meets (openFor : OpenFor limits endpoint demand past)
    (few : ((start limits).run past).registrations ≤ Registry.mostNumbers) :
    ∃ binding mailbox, ((start limits).run past).Meets endpoint demand binding mailbox := by
  induction openFor with
  | @granted past demand grants =>
      have sound := run_sound past (start_sound limits) (run_sooner few)
      have ran : (demand.operation endpoint.pid).step ((start limits).run past) =
          (.ok (.handle endpoint.handle), _) := Prod.ext grants rfl
      rw [run_concat]
      exact demand_meets sound ran
  | @registered past handles raw registers stream =>
      have sound := run_sound past (start_sound limits) (run_sooner few)
      have ran : (Operation.register endpoint.pid).step ((start limits).run past) =
          (.ok (.standard handles), _) := Prod.ext registers rfl
      obtain ⟨given, after, opens, ended⟩ := Step.bind_answers ran
      cases ended
      rw [run_concat] at few ⊢
      exact registerTask_meets sound opens few (endpoint.handle, raw) stream
  | @stays past demand last openFor still ih =>
      have sound := run_sound past (start_sound limits) (run_sooner few)
      obtain ⟨binding, mailbox, meets⟩ := ih (run_sooner few)
      rw [run_concat] at few still ⊢
      exact ⟨binding, meets.step sound last few still⟩

/-- Two open handles stand for one mailbox if and only if the names they were opened with have one
canonical text. A handle that was opened with a capacity stands for a mailbox of that capacity and
of the policy that its mode asks for. -/
theorem rendezvous_by_name (limits : Limits) (past : List Operation)
    (few : ((start limits).run past).registrations ≤ Registry.mostNumbers)
    {left right : Endpoint} {leftDemand rightDemand : Demand}
    (leftOpen : OpenFor limits left leftDemand past)
    (rightOpen : OpenFor limits right rightDemand past) :
    ∃ leftBinding leftMailbox rightBinding rightMailbox,
      ((start limits).run past).Meets left leftDemand leftBinding leftMailbox ∧
      ((start limits).run past).Meets right rightDemand rightBinding rightMailbox ∧
      (leftBinding.mailbox = rightBinding.mailbox ↔
        (Name.parse leftDemand.raw left.pid).map Name.canonical =
          (Name.parse rightDemand.raw right.pid).map Name.canonical) := by
  have sound := run_sound past (start_sound limits) few
  obtain ⟨leftBinding, leftMailbox, leftMeets⟩ := leftOpen.meets few
  obtain ⟨rightBinding, rightMailbox, rightMeets⟩ := rightOpen.meets few
  refine ⟨leftBinding, leftMailbox, rightBinding, rightMailbox, leftMeets, rightMeets, ?_⟩
  rw [leftMeets.suits.named, rightMeets.suits.named]
  constructor
  · intro same
    have found := rightMeets.found
    rw [← same] at found
    cases leftMeets.found.symm.trans found
    rfl
  · intro same
    have names := (Name.parse_resolved leftMeets.suits.named).canonical_inj
      (Name.parse_resolved rightMeets.suits.named) (Except.ok.inj same)
    exact sound.supports.name_inj leftMeets.found rightMeets.found names

/-- Task 5 binds a box of task 4 anew after the first one is gone, and task 4 opens it by the bare
name. -/
theorem bound_anew_meets_by_name :
    let past : List Operation :=
      [.bindName 5 "svc:box@+04" 16 3, .close ⟨5, 1⟩] ++ [.bindName 5 "svc:box@+04" 32 0x2b] ++
        [.openName 4 "svc:box" 1]
    ∃ leftBinding leftMailbox rightBinding rightMailbox,
      ((start {}).run past).Meets ⟨5, 2⟩ ⟨"svc:box@+04", 0x2b, some 32⟩ leftBinding leftMailbox ∧
      ((start {}).run past).Meets ⟨4, 1⟩ ⟨"svc:box", 1, none⟩ rightBinding rightMailbox ∧
      leftBinding.mailbox = rightBinding.mailbox := by
  intro past
  have leftOpen : OpenFor {} ⟨5, 2⟩ ⟨"svc:box@+04", 0x2b, some 32⟩ past :=
    .stays (.granted (by decide +kernel)) ⟨⟨⟨2⟩, ⟨0x2b⟩⟩, by decide +kernel⟩
  have rightOpen : OpenFor {} ⟨4, 1⟩ ⟨"svc:box", 1, none⟩ past := .granted (by decide +kernel)
  obtain ⟨leftBinding, leftMailbox, rightBinding, rightMailbox, leftMeets, rightMeets, same⟩ :=
    rendezvous_by_name {} past (by decide +kernel) leftOpen rightOpen
  exact ⟨leftBinding, leftMailbox, rightBinding, rightMailbox, leftMeets, rightMeets,
    same.mpr (by decide +kernel)⟩

end Mailroom.Engine
