import Mailroom.Proofs.Engine.Intact
import Mailroom.Proofs.Engine.Transfer

/-!
Who comes to hold handles, and who loses them. A task gets handles through its own openings only,
and a call through a handle that stands for nothing says so and does nothing.
-/

namespace Mailroom

def Operation.acquires (pid : Pid) : Operation → Bool
  | .openName other .. | .bindName other .. | .register other => other = pid
  | _ => false

inductive Operation.Invalidates (endpoint : Endpoint) : Operation → Prop
  | close : Invalidates endpoint (.close endpoint)
  | reap : Invalidates endpoint (.reap endpoint.pid)
  | reset : Invalidates endpoint .reset

namespace Mailbox

theorem Sound.accept_knows {mailbox : Mailbox} (sound : mailbox.Sound) (source : Endpoint)
    (flags : Flags) (channel : UInt16) (payload : Bytes) (pid : Pid) (handle : Handle) :
    (mailbox.accept source flags channel payload).1 ≠ .error (.invalidHandle pid handle) := by
  by_cases fits : framedSize payload.length ≤ mailbox.capacity.toNat
  · rw [sound.accept_fitting source flags channel fits]
    split <;> simp
  · rw [sound.accept_large source flags channel (Nat.lt_of_not_le fits)]
    simp

theorem Sound.take_knows {mailbox : Mailbox} (sound : mailbox.Sound) (view : View) (room : Nat)
    (pid : Pid) (handle : Handle) :
    (mailbox.take view room).1 ≠ .error (.invalidHandle pid handle) := by
  cases found : mailbox.ringOf? view with
  | none =>
      cases view with
      | queue => cases found
      | subscriber endpoint | tap endpoint =>
          have absent : mailbox.subscribers[endpoint]? = none := Option.map_eq_none_iff.mp found
          simp [take, Subscribers.take, absent]
  | some ring =>
      by_cases empty : ring.frames = []
      · rw [take_of_empty room found empty]
        simp
      · obtain ⟨frame, rest, front⟩ := List.exists_cons_of_ne_nil empty
        rw [sound.take_of_front room found front]
        simp

end Mailbox

namespace Engine

open Step

def GivesNone (pid : Pid) (before after : Engine) : Prop :=
  ∀ handle : Handle, before.handles.binding? ⟨pid, handle⟩ = none →
    after.handles.binding? ⟨pid, handle⟩ = none

variable {engine before after : Engine} {pid other : Pid} {endpoint : Endpoint}

theorem givesNone_course (pid : Pid) : Course (GivesNone pid) :=
  ⟨fun _ _ free => free, fun first second handle free => second handle (first handle free),
    fun _ _ _ free => free⟩

theorem givesNone_of_fewer
    (fewer : ∀ endpoint binding, after.handles.binding? endpoint = some binding →
      before.handles.binding? endpoint = some binding) : GivesNone pid before after := by
  intro handle free
  cases held : after.handles.binding? ⟨pid, handle⟩ with
  | none => rfl
  | some binding =>
      rw [fewer _ binding held] at free
      cases free

theorem OpensFor.givesNone (opens : OpensFor other before after) (apart : other ≠ pid) :
    GivesNone pid before after := by
  have elsewhere : ∀ handle number : Handle, (⟨pid, handle⟩ : Endpoint) ≠ ⟨other, number⟩ :=
    fun _ _ same => apart (congrArg Endpoint.pid same).symm
  intro handle free
  cases opens with
  | told | made => exact free
  | searched same =>
      simp only [same]
      exact free
  | missed _ given _ | attached _ given _ =>
      simp only [given]
      rw [Function.update_of_ne (elsewhere _ _)]
      exact free

theorem Closed.givesNone (closed : before.Closed after) : GivesNone pid before after := by
  induction closed with
  | refl => exact (givesNone_course pid).refl before
  | @tail middle last _ closes ih =>
      refine (givesNone_course pid).trans ih ?_
      cases closes with
      | stopped | woken | loosened => exact fun _ free => free
      | unbound fewer => exact givesNone_of_fewer fewer
      | destroyed id =>
          intro handle free
          rw [(destroy_rest middle id).2.2]
          exact free

theorem givesNone_opens (apart : other ≠ pid) : Admits (GivesNone pid) (OpensFor other) :=
  ⟨givesNone_course pid, fun opens => opens.givesNone apart⟩

theorem givesNone_closes (pid other : Pid) : Admits (GivesNone pid) (ClosesFor other) :=
  ⟨givesNone_course pid, fun closes => closes.closes.closed.givesNone⟩

theorem handles_conveys :
    Admits (fun before after : Engine => after.handles = before.handles) Conveys := by
  refine ⟨⟨fun _ => rfl, fun first second => second.trans first, fun _ _ => rfl⟩, fun conveys => ?_⟩
  cases conveys <;> rfl

theorem givesNone_conveys (pid : Pid) : Admits (GivesNone pid) Conveys := by
  refine ⟨givesNone_course pid, fun conveys handle free => ?_⟩
  rw [handles_conveys.edits conveys]
  exact free

theorem operation_obeys {R : Engine → Engine → Prop} {operation : Operation}
    (opens : ∀ caller, operation.acquires caller = true → Admits R (OpensFor caller))
    (closes : ∀ caller, Admits R (ClosesFor caller)) (conveys : Admits R Conveys)
    (unreaped : ∀ caller, operation ≠ .reap caller) (kept : operation ≠ .reset) :
    Obeys R operation.step := by
  have course := conveys.course
  have own : ∀ caller : Pid, decide (caller = caller) = true := fun _ => decide_eq_true rfl
  cases operation with
  | openName caller raw word => exact (openName_obeys caller (opens caller (own _)) raw word).map _
  | bindName caller raw capacity word =>
      exact (bindName_obeys caller (opens caller (own _)) raw capacity word).map _
  | register caller =>
      exact (registerTask_obeys caller (opens caller (own _)) (closes caller)).map _
  | send endpoint payload flags channel =>
      exact (trySend_obeys conveys endpoint payload flags channel).map _
  | receive endpoint room => exact (tryReceive_obeys conveys endpoint room).map _
  | tap endpoint enabled => exact (tap_obeys conveys endpoint enabled).map fun _ => Answer.nothing
  | peek endpoint => exact (peek_obeys course endpoint).map _
  | receiveCondition endpoint => exact (receiveCondition_obeys course endpoint).map _
  | sendCondition endpoint => exact (sendCondition_obeys course endpoint).map _
  | close endpoint => exact (close_obeys endpoint (closes _)).map fun _ => Answer.nothing
  | halt reason => exact fun engine => course.halt engine reason
  | reap caller => exact absurd rfl (unreaped caller)
  | reset => exact absurd rfl kept

theorem operation_givesNone {operation : Operation} (idle : operation.acquires pid = false) :
    Obeys (GivesNone pid) operation.step := by
  have closed : ∀ {α : Type} {step : Step α}, Obeys Closed step → Obeys (GivesNone pid) step :=
    fun obeys engine => (obeys engine).givesNone
  have apart : ∀ caller, operation.acquires caller = true → caller ≠ pid := by
    rintro caller acquires rfl
    rw [idle] at acquires
    cases acquires
  by_cases reaping : ∃ caller, operation = .reap caller
  · obtain ⟨caller, rfl⟩ := reaping
    exact (closed (reapTask_closed caller)).map _
  · by_cases reset : operation = .reset
    · subst reset
      exact closed (change_obeys reset_closed)
    · exact operation_obeys (fun caller acquires => givesNone_opens (apart caller acquires))
        (givesNone_closes pid) (givesNone_conveys pid) (fun caller same => reaping ⟨caller, same⟩)
        reset

theorem givesNone_bind {α β : Type} {first : Step α} {next : α → Step β}
    (onward : ∀ answer, Obeys (GivesNone pid) (next answer)) (engine : Engine) :
    GivesNone pid (first engine).2 ((first >>= next) engine).2 := by
  cases begun : first engine with
  | mk outcome middle =>
      cases outcome with
      | ok answer =>
          rw [bind_ok begun]
          exact onward answer middle
      | error fault =>
          rw [bind_error begun]
          exact (givesNone_course pid).refl middle

theorem givesNone_guarded {α : Type} {step : Step α} (running : engine.halted = none) :
    GivesNone pid (step engine).2 (guarded step engine).2 := by
  intro handle free
  cases ran : step engine with
  | mk outcome after =>
      rw [ran] at free
      cases outcome with
      | ok answer => simpa only [guarded, running, ran] using free
      | error fault =>
          simp only [guarded, running, ran]
          split <;> exact free

theorem close_unbound (running : engine.halted = none) (endpoint : Endpoint) :
    (close endpoint engine).2.handles.binding? endpoint = none := by
  have taken : (takeBinding endpoint engine).2.handles.binding? endpoint = none := by
    change (engine.handles.remove endpoint).2.binding? endpoint = none
    rw [HandleTable.remove_binding, Function.update_self]
  have detached : ∀ binding : Binding,
      Obeys (GivesNone endpoint.pid) (detach endpoint binding.mailbox) :=
    fun binding => detach_obeys endpoint (givesNone_closes _ _) binding.mailbox
  exact givesNone_guarded running _ (givesNone_bind detached engine _ taken)

theorem reapTask_unbound (running : engine.halted = none) (endpoint : Endpoint) :
    (reapTask endpoint.pid engine).2.handles.binding? endpoint = none := by
  have course := givesNone_course endpoint.pid
  have released := fun held => course.forEach
    (release_obeys endpoint.pid (givesNone_closes endpoint.pid endpoint.pid)) held
  have unpinned := fun owned => course.forEach
    (fun id engine => (unpin_closed id engine).givesNone) owned
  refine givesNone_guarded running _ ?_
  have looked : Step.inspect (fun engine => .ok (engine.handles.held endpoint.pid)) engine =
      (.ok (engine.handles.held endpoint.pid), engine) := rfl
  rw [bind_ok looked]
  refine givesNone_bind (fun _ => course.bind (released _) fun _ =>
    course.bind (course.inspect _) fun owned => course.bind (unpinned owned) fun _ =>
      course.pure _) engine _ ?_
  change (engine.handles.dropTask endpoint.pid).binding? endpoint = none
  rw [HandleTable.dropTask_binding, if_pos rfl]

theorem reset_unbound (engine : Engine) (endpoint : Endpoint) :
    (reset engine).handles.binding? endpoint = none := by
  change (HandleTable.clear _).binding? endpoint = none
  rw [HandleTable.clear_binding]

theorem step_unbound {operation : Operation} (invalidates : operation.Invalidates endpoint)
    (running : engine.halted = none) :
    (operation.step engine).2.handles.binding? endpoint = none := by
  have answered : ∀ {α : Type} {step : Step α} (form : α → Answer),
      (step engine).2.handles.binding? endpoint = none →
        ((step >>= fun answer => Pure.pure (form answer)) engine).2.handles.binding? endpoint =
          none :=
    fun form free => givesNone_bind (fun _ => (givesNone_course endpoint.pid).pure _) engine _ free
  cases invalidates with
  | close => exact answered (fun _ => .nothing) (close_unbound running endpoint)
  | reap => exact answered .count (reapTask_unbound running endpoint)
  | reset => exact answered (fun _ => .nothing) (reset_unbound engine endpoint)

def Knows {α : Type} (step : Step α) (engine : Engine) : Prop :=
  ∀ pid handle, (step engine).1 ≠ .error (.invalidHandle pid handle)

theorem knows_iff {α : Type} {step : Step α} :
    Knows step engine ↔
      Fails (fun fault _ => ∀ pid handle, fault ≠ .invalidHandle pid handle) step engine := by
  constructor
  · intro knows fault after ran pid handle same
    have other := knows pid handle
    rw [ran, same] at other
    exact other rfl
  · intro fails pid handle same
    exact fails _ _ (Prod.ext same rfl) pid handle rfl

theorem knows_bind {α β : Type} {first : Step α} {next : α → Step β} (begins : Knows first engine)
    (onward : ∀ answer middle, first engine = (.ok answer, middle) → Knows (next answer) middle) :
    Knows (first >>= next) engine :=
  knows_iff.mpr (fails_bind (knows_iff.mp begins) fun answer middle begun =>
    knows_iff.mp (onward answer middle begun))

theorem knows_guarded {α : Type} {step : Step α} (knows : Knows step engine) :
    Knows (guarded step) engine :=
  knows_iff.mpr (fails_guarded (knows_iff.mp knows) (fun _ _ _ => nofun) fun _ _ _ other => other)

theorem fails_onMailbox {α : Type} {P : Fault → Engine → Prop} {id : MailboxId}
    {operation : Mailbox → Except Fault α × Mailbox}
    (missing : ∀ reason, P (.internal reason) engine)
    (fails : ∀ mailbox, engine.registry.get? id = some mailbox → ∀ fault later,
      operation mailbox = (.error fault, later) →
        P fault { engine with registry := engine.registry.update later }) :
    Fails P (onMailbox id operation) engine := by
  cases found : engine.registry.get? id with
  | none => exact fails_of_error (onMailbox_missing operation found) (missing _)
  | some mailbox =>
      cases ran : operation mailbox with
      | mk outcome later =>
          have here := onMailbox_found operation found ran
          cases outcome with
          | ok answer => exact fails_of_ok here
          | error fault => exact fails_of_error here (fails mailbox found fault later ran)

theorem knows_onMailbox {α : Type} {id : MailboxId}
    {operation : Mailbox → Except Fault α × Mailbox}
    (knows : ∀ mailbox, engine.registry.get? id = some mailbox → ∀ pid handle,
      (operation mailbox).1 ≠ .error (.invalidHandle pid handle)) :
    Knows (onMailbox id operation) engine := by
  refine knows_iff.mpr (fails_onMailbox (fun _ _ _ => nofun) ?_)
  intro mailbox found fault later ran pid handle same
  have other := knows mailbox found pid handle
  rw [ran, same] at other
  exact other rfl

theorem knows_bindingOf {binding : Binding}
    (held : engine.handles.binding? endpoint = some binding) :
    Knows (bindingOf endpoint) engine := by
  intro pid handle
  rw [bindingOf_held held]
  simp

theorem knows_mailboxOf (id : MailboxId) : Knows (mailboxOf id) engine := by
  intro pid handle
  cases found : engine.registry.get? id with
  | none =>
      rw [mailboxOf_missing found]
      simp
  | some mailbox =>
      rw [mailboxOf_found found]
      simp

theorem trySend_knows (intact : engine.Intact) {binding : Binding}
    (held : engine.handles.binding? endpoint = some binding) (payload : Bytes)
    (flags channel : UInt16) : Knows (trySend endpoint payload flags channel) engine := by
  rw [trySend_eq]
  refine knows_guarded (knows_bind (knows_bindingOf held) fun binding middle begun => ?_)
  rw [bindingOf_held held] at begun
  cases begun
  split
  · refine knows_bind (knows_onMailbox fun mailbox found pid handle => ?_) ?_
    · exact (intact _ _ found).2.accept_knows _ _ _ _ pid handle
    · intro accepted middle _ pid handle
      exact nofun
  · intro pid handle
    exact nofun

theorem readableView_knows {binding : Binding}
    (held : engine.handles.binding? endpoint = some binding) :
    Knows (readableView endpoint) engine := by
  refine knows_bind (knows_bindingOf held) fun binding middle _ => ?_
  split
  · exact knows_bind (knows_mailboxOf _) fun _ _ _ _ _ => nofun
  · exact fun _ _ => nofun

theorem tryReceive_knows (intact : engine.Intact) {binding : Binding}
    (held : engine.handles.binding? endpoint = some binding) (room : Nat) :
    Knows (tryReceive endpoint room) engine := by
  rw [tryReceive_eq]
  refine knows_guarded (knows_bind (readableView_knows held) fun seen middle begun => ?_)
  have looked := readableView_obeys intact_course endpoint engine intact
  rw [begun] at looked
  refine knows_bind (knows_onMailbox fun mailbox found pid handle => ?_) ?_
  · exact (looked _ _ found).2.take_knows seen.2 room pid handle
  · intro taken last _ pid handle
    cases taken <;> exact nofun

theorem sendCondition_knows {binding : Binding}
    (held : engine.handles.binding? endpoint = some binding) :
    Knows (sendCondition endpoint) engine :=
  knows_guarded (knows_bind (knows_bindingOf held) fun _ _ _ _ _ => nofun)

theorem receiveCondition_knows {binding : Binding}
    (held : engine.handles.binding? endpoint = some binding) :
    Knows (receiveCondition endpoint) engine := by
  refine knows_guarded (knows_bind (readableView_knows held) fun seen _ _ => ?_)
  obtain ⟨binding, view⟩ := seen
  cases view <;> exact fun _ _ => nofun

theorem trySend_free (running : engine.halted = none)
    (free : engine.handles.binding? endpoint = none) (payload : Bytes) (flags channel : UInt16) :
    trySend endpoint payload flags channel engine =
      (.error (.invalidHandle endpoint.pid endpoint.handle), engine) := by
  rw [trySend_eq]
  exact guarded_running running (bind_error (bindingOf_free free)) (mild_error rfl)

theorem tryReceive_free (running : engine.halted = none)
    (free : engine.handles.binding? endpoint = none) (room : Nat) :
    tryReceive endpoint room engine =
      (.error (.invalidHandle endpoint.pid endpoint.handle), engine) := by
  rw [tryReceive_eq]
  exact guarded_running running (bind_error (bind_error (bindingOf_free free))) (mild_error rfl)

end Engine

end Mailroom
