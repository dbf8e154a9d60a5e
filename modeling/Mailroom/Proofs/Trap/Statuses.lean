import Mailroom.Proofs.Engine.Exhaustion
import Mailroom.Proofs.Trap.Calls
import Mailroom.Proofs.Waiting.Turns

/-!
Which traps end in an internal error: those for another service or another function, and no others,
however long they wait and whatever goes on meanwhile. As long as the numbers of mailboxes last, no
call of a task brings the engine to a halt; the registration that uses up the last of them may.
-/

namespace Mailroom

namespace TrapFrame

theorem setStatus_r0 (frame : TrapFrame) (status : Status) :
    (frame.setStatus status).r0 = status.code.toUInt32 := by
  change (frame.registers.setIfInBounds 0 status.code.toUInt32)[0] = _
  simp

theorem status?_setStatus (frame : TrapFrame) (status : Status) :
    (frame.setStatus status).status? = some status := by
  rw [status?, setStatus_r0]
  cases status <;> rfl

end TrapFrame

namespace Selector

theorem code_le (selector : Selector) : selector.code.toNat ≤ 6 := by
  cases selector <;> decide

theorem ofCode_of_le {code : UInt8} (known : code.toNat ≤ 6) :
    ∃ selector, ofCode code = .ok selector := by
  have named : ∃ selector : Selector, selector.code = code := by
    have cases : code = 0 ∨ code = 1 ∨ code = 2 ∨ code = 3 ∨ code = 4 ∨ code = 5 ∨ code = 6 := by
      simp only [← UInt8.toNat_inj]
      simp only [UInt8.reduceToNat]
      omega
    rcases cases with rfl | rfl | rfl | rfl | rfl | rfl | rfl
    · exact ⟨.openName, rfl⟩
    · exact ⟨.bindName, rfl⟩
    · exact ⟨.send, rfl⟩
    · exact ⟨.receive, rfl⟩
    · exact ⟨.peek, rfl⟩
    · exact ⟨.tap, rfl⟩
    · exact ⟨.close, rfl⟩
  obtain ⟨selector, rfl⟩ := named
  exact ⟨selector, ofCode_code selector⟩

theorem ofCode_of_lt {code : UInt8} (unknown : 6 < code.toNat) :
    ofCode code = .error (.unknownSelector code) := by
  have missing : all.find? (fun selector => selector.code = code) = none := by
    rw [List.find?_eq_none]
    intro selector _ same
    have known := code_le selector
    rw [of_decide_eq_true same] at known
    omega
  simp only [ofCode, missing]

end Selector

def TrapFrame.IsServed (frame : TrapFrame) : Prop :=
  frame.service = mailboxService ∧ frame.selector.toNat ≤ 6

theorem TrapFrame.not_isServed_iff (frame : TrapFrame) :
    ¬ frame.IsServed ↔ frame.service ≠ mailboxService ∨ 6 < frame.selector.toNat := by
  rw [IsServed, not_and_or, Nat.not_le]

section Outcomes

variable {α β : Type}

theorem mild_bind {first : Except Fault α} {next : α → Except Fault β} (begins : Mild first)
    (onward : ∀ answer, first = .ok answer → Mild (next answer)) : Mild (first >>= next) := by
  cases first with
  | ok answer => exact onward answer rfl
  | error fault => exact begins.fault

theorem mild_map {first : Except Fault α} (begins : Mild first) (form : α → β) :
    Mild (first.map form) := by
  cases first with
  | ok answer => exact mild_ok _
  | error fault => exact begins.fault

end Outcomes

namespace Memory

variable (memory : Memory)

theorem check_mild (address : UInt32) (length : Nat) : Mild (memory.check address length) := by
  unfold check
  split
  · exact mild_ok _
  · exact mild_error rfl

theorem read_mild (address : UInt32) (length : Nat) : Mild (memory.read address length) := by
  unfold read
  split
  · exact mild_ok _
  · exact mild_error rfl

theorem write_mild (address : UInt32) (data : Bytes) : Mild (memory.write address data) := by
  unfold write
  split
  · exact mild_ok _
  · exact mild_error rfl

theorem terminatedText_mild (address : UInt32) (limit : Nat) :
    Mild (memory.terminatedText address limit) := by
  unfold terminatedText
  split
  · exact mild_error rfl
  · dsimp only
    split
    · split
      · exact mild_ok _
      · exact mild_error rfl
    · split <;> exact mild_error rfl

end Memory

namespace TrapCall

theorem narrow_mild (register : UInt32) {fault : Fault} (mild : fault.isInternal = false) :
    Mild (narrow register fault) := by
  unfold narrow
  split
  · exact mild_ok _
  · exact mild_error mild

theorem decode_mild (pid : Pid) {frame : TrapFrame} (memory : Memory)
    (served : frame.IsServed) : Mild (decode pid frame memory) := by
  have handle : Mild (handleOf pid frame.r1) := narrow_mild _ rfl
  have mode : ∀ register, Mild (modeOf register) := fun register => narrow_mild register rfl
  unfold decode
  rw [if_neg (by simp [served.1])]
  obtain ⟨known, code⟩ := Selector.ofCode_of_le served.2
  rw [code]
  refine mild_bind (mild_ok known) ?_
  intro selector _
  cases selector with
  | openName =>
      refine mild_bind (memory.terminatedText_mild _ _) fun name _ => ?_
      exact mild_bind (mode _) fun _ _ => mild_ok _
  | bindName =>
      refine mild_bind (memory.terminatedText_mild _ _) fun name _ => ?_
      refine mild_bind (narrow_mild _ rfl) fun capacity _ => ?_
      exact mild_bind (mode _) fun _ _ => mild_ok _
  | send =>
      refine mild_bind handle fun handle _ => ?_
      exact mild_bind (memory.read_mild _ _) fun payload _ => mild_ok _
  | receive => exact mild_bind handle fun _ _ => mild_ok _
  | peek => exact mild_bind handle fun _ _ => mild_ok _
  | tap => exact mild_bind handle fun _ _ => mild_ok _
  | close => exact mild_bind handle fun _ _ => mild_ok _

theorem decode_unserved (pid : Pid) {frame : TrapFrame} (memory : Memory)
    (unserved : ¬ frame.IsServed) :
    ∃ fault, decode pid frame memory = .error fault ∧ fault.status = .internalError := by
  unfold decode
  by_cases service : frame.service = TrapFrame.mailboxService
  · rw [if_neg (by simp [service])]
    have unknown : 6 < frame.selector.toNat := by
      rcases frame.not_isServed_iff.mp unserved with other | unknown
      · exact absurd service other
      · exact unknown
    rw [Selector.ofCode_of_lt unknown]
    exact ⟨_, rfl, rfl⟩
  · rw [if_pos service]
    exact ⟨_, rfl, rfl⟩

end TrapCall

def Call.halts : Call → Bool
  | .now operation => operation.halts
  | .transfer .. => false

namespace Trap

theorem callOf_mild (pid : Pid) (memory : Memory) (asked : TrapCall) :
    Mild (callOf pid memory asked) := by
  cases asked with
  | receive handle buffer room timeout info =>
      apply mild_map
      unfold checkDestinations
      have checked := memory.check_mild buffer room
      split
      · rename_i fault failed
        rw [failed] at checked
        exact checked
      · split
        · exact mild_ok ()
        · exact memory.check_mild _ _
  | openName | bindName | send | peek | tap | close => exact mild_ok _

variable (trap : Trap) (memory : Memory)

theorem prepare_mild (served : trap.frame.IsServed) : Mild (trap.prepare memory) :=
  mild_bind (TrapCall.decode_mild trap.pid memory served) fun asked _ =>
    callOf_mild trap.pid memory asked

theorem prepare_unserved (unserved : ¬ trap.frame.IsServed) :
    ∃ fault, trap.prepare memory = .error fault ∧ fault.status = .internalError := by
  obtain ⟨fault, failed, status⟩ := TrapCall.decode_unserved trap.pid memory unserved
  refine ⟨fault, ?_, status⟩
  simp only [prepare, failed]
  rfl

variable {trap memory}

theorem prepare_halts {call : Call} (read : trap.prepare memory = .ok call) :
    call.halts = false := by
  obtain ⟨selector, _, prepares⟩ := prepare_cases read
  cases prepares <;> rfl

theorem report_status (frame : TrapFrame) {outcome : Except Fault Answer} (mild : Mild outcome) :
    (report frame outcome).status? ≠ some .internalError := by
  cases outcome with
  | ok answer =>
      rw [report, TrapFrame.status?_setStatus]
      simp
  | error fault =>
      rw [report, TrapFrame.status?_setStatus]
      intro same
      have internal := of_decide_eq_false (mild fault rfl)
      exact internal (Option.some.inj same)

theorem writeInfo_mild (memory : Memory) (address : UInt32) (block : InfoBlock) :
    Mild (writeInfo memory address block) := by
  unfold writeInfo
  split
  · exact mild_ok _
  · exact memory.write_mild _ _

theorem store_mild (trap : Trap) (memory : Memory) {outcome : Except Fault Answer}
    (mild : Mild outcome) : Mild (trap.store memory outcome).1 := by
  unfold store
  split
  · rename_i receipt
    have filling := memory.write_mild trap.buffer receipt.payload
    split
    · rename_i fault failed
      rw [failed] at filling
      exact filling.fault
    · rename_i filled _
      have telling := writeInfo_mild filled trap.info (.ofReceipt receipt)
      split
      · rename_i fault failed
        rw [failed] at telling
        exact telling.fault
      · exact mild_ok _
  · exact mild
  · rename_i fault
    have telling := writeInfo_mild memory trap.info (.failed fault.status)
    split
    · rename_i other failed
      rw [failed] at telling
      exact telling.fault
    · exact mild

theorem finish_status (trap : Trap) (memory : Memory) {outcome : Except Fault Answer}
    (mild : Mild outcome) : (trap.finish memory outcome).1.status? ≠ some .internalError := by
  unfold finish
  split
  · exact report_status trap.frame (store_mild trap memory mild)
  · exact report_status trap.frame mild

theorem refuse_status (trap : Trap) (memory : Memory) (fault : Fault) :
    (trap.refuse memory fault).1.status? = some fault.status :=
  TrapFrame.status?_setStatus _ _

/-- How a trap is answered that comes to an exchange: at once, or after any turns of this and
other calls for which the numbers last. What memory holds when its call ends need not be what it
held before. -/
inductive Answered (trap : Trap) (first : Exchange) (memory : Memory) :
    TrapFrame → Exchange → Prop
  | refused {fault : Fault} (unread : trap.prepare memory = .error fault) :
      Answered trap first memory (trap.refuse memory fault).1 first
  | ended {call : Call} {caller : Nat} {outcome : Except Fault Answer} {last : Exchange}
      (read : trap.prepare memory = .ok call)
      (began : first.begin caller call = (some outcome, last)) :
      Answered trap first memory (trap.finish memory outcome).1 last
  | resumed {call : Call} {caller : Nat} {second now last : Exchange} {past : List Exchange}
      {finished : Finished} {later : Memory} (read : trap.prepare memory = .ok call)
      (began : first.begin caller call = (none, second)) (run : second.Run (now :: past))
      (turn : now.Turn (some finished) last) (own : finished.caller = caller)
      (few : last.engine.registrations ≤ Registry.mostNumbers) :
      Answered trap first memory (trap.finish later finished.outcome).1 last

theorem answered_or_parked (trap : Trap) (first : Exchange) (memory : Memory) (caller : Nat) :
    (∃ frame last, trap.Answered first memory frame last) ∨
      ∃ call second, trap.prepare memory = .ok call ∧ first.begin caller call = (none, second) := by
  cases read : trap.prepare memory with
  | error fault => exact Or.inl ⟨_, _, .refused read⟩
  | ok call =>
      rcases began : first.begin caller call with ⟨outcome?, last⟩
      cases outcome? with
      | none => exact Or.inr ⟨call, last, rfl, began⟩
      | some outcome => exact Or.inl ⟨_, _, .ended read began⟩

theorem begin_turn {first after : Exchange} {caller : Nat} {call : Call}
    {outcome : Option (Except Fault Answer)} (asked : call.halts = false)
    (began : first.begin caller call = (outcome, after)) :
    first.Turn (after.reporting caller outcome) after := by
  cases call with
  | now operation =>
      simp only [Exchange.begin] at began
      cases began
      exact .perform asked rfl
  | transfer transfer timeout => exact .enter (Nat.le_refl _) began

theorem prepare_unregistered {operation : Operation}
    (read : trap.prepare memory = .ok (.now operation)) : ¬ ∃ pid, operation = .register pid := by
  obtain ⟨selector, _, prepares⟩ := prepare_cases read
  rintro ⟨pid, rfl⟩
  cases prepares

theorem begin_ends {first last : Exchange} {caller : Nat} {call : Call}
    {outcome : Except Fault Answer} (read : trap.prepare memory = .ok call)
    (sound : first.engine.scene.Sound) (running : first.engine.halted = none)
    (began : first.begin caller call = (some outcome, last)) :
    Mild outcome ∧ last.engine.halted = none := by
  cases call with
  | now operation =>
      rcases stepped : operation.step first.engine with ⟨result, engine⟩
      obtain ⟨mild, still, _⟩ := Engine.operation_passes sound running (prepare_halts read) _ _
        stepped fun registers => absurd registers (prepare_unregistered read)
      simp only [Exchange.begin, Exchange.perform, stepped] at began
      cases began
      rw [Exchange.flush_engine]
      exact ⟨mild, still⟩
  | transfer transfer timeout =>
      obtain ⟨⟨news, becomes⟩, mild⟩ :=
        (Exchange.begins_here first sound transfer).attempt_becomes sound running began
      exact ⟨mild _ rfl, (becomes.sound sound running).2⟩

theorem Answered.status {first last : Exchange} {frame : TrapFrame}
    (answered : trap.Answered first memory frame last) (sound : first.engine.scene.Sound)
    (running : first.engine.halted = none) :
    (frame.status? = some .internalError ↔ ¬ trap.frame.IsServed) ∧ last.engine.halted = none := by
  have readable : ∀ {call : Call}, trap.prepare memory = .ok call → trap.frame.IsServed := by
    intro call read
    by_contra unserved
    obtain ⟨fault, failed, _⟩ := trap.prepare_unserved memory unserved
    rw [failed] at read
    cases read
  cases answered with
  | @refused fault unread =>
      refine ⟨?_, running⟩
      rw [refuse_status]
      constructor
      · intro internal served
        have mild := trap.prepare_mild memory served fault unread
        exact of_decide_eq_false mild (Option.some.inj internal)
      · intro unserved
        obtain ⟨other, failed, status⟩ := trap.prepare_unserved memory unserved
        cases unread.symm.trans failed
        rw [status]
  | ended read began =>
      obtain ⟨mild, still⟩ := begin_ends read sound running began
      exact ⟨iff_of_false (finish_status trap memory mild) (not_not.mpr (readable read)), still⟩
  | @resumed call caller second now _ past finished later read began run turn own few =>
      -- First the turn in which the call was parked, then the run, then the turn that ends it.
      have entered := begin_turn (prepare_halts read) began
      have sooner := Nat.le_trans turn.grows few
      obtain ⟨⟨_, begins⟩, _⟩ := entered.becomes sound running (Nat.le_trans run.grows sooner)
      obtain ⟨begunSound, begunRunning⟩ := begins.sound sound running
      obtain ⟨lateSound, lateRunning⟩ := run.sound begunSound begunRunning sooner
      obtain ⟨⟨news, becomes⟩, mild⟩ := turn.becomes lateSound lateRunning few
      refine ⟨?_, (becomes.sound lateSound lateRunning).2⟩
      exact iff_of_false (finish_status trap later (mild _ rfl)) (not_not.mpr (readable read))

end Trap

/-- Nothing that a task can ask for finds the engine broken or brings it to a halt, in any state
that such requests lead to, except that the numbers must last for the mailboxes of a registration. A
trap is answered with an internal error if it is for another service or another function, and
otherwise never. -/
theorem callers_never_halt (limits : Limits) (operations : List Operation)
    (asked : ∀ operation ∈ operations, operation.halts = false)
    (few : ((Engine.start limits).run operations).registrations ≤ Registry.mostNumbers) :
    let engine := (Engine.start limits).run operations
    engine.halted = none ∧
    (∀ operation : Operation, operation.halts = false →
      ((∃ pid, operation = .register pid) →
        (operation.step engine).2.registrations ≤ Registry.mostNumbers) →
      (∀ reason, (operation.step engine).1 ≠ .error (.internal reason)) ∧
        (operation.step engine).2.halted = none) ∧
    ∀ (trap : Trap) (memory : Memory) (first : Exchange), first.engine = engine →
      (¬ trap.frame.IsServed → ∃ frame, trap.Answered first memory frame first) ∧
      (∀ caller, (∃ frame last, trap.Answered first memory frame last) ∨
        ∃ call second, trap.prepare memory = .ok call ∧
          first.begin caller call = (none, second)) ∧
      ∀ frame last, trap.Answered first memory frame last →
        (frame.status? = some .internalError ↔
          trap.frame.service ≠ TrapFrame.mailboxService ∨ 6 < trap.frame.selector.toNat) ∧
        last.engine.halted = none := by
  intro engine
  have begun := Engine.start_sound limits
  have sound : engine.scene.Sound := Engine.run_sound operations begun few
  have running : engine.halted = none := Engine.run_running operations asked begun rfl few
  refine ⟨running, ?_, ?_⟩
  · intro operation caller fits
    obtain ⟨mild, halted, _⟩ := Engine.operation_passes sound running caller _ _ rfl fits
    refine ⟨?_, halted⟩
    intro reason failed
    have never := mild _ failed
    cases never
  · intro trap memory first same
    rw [← same] at sound running
    refine ⟨?_, trap.answered_or_parked first memory, ?_⟩
    · intro unserved
      obtain ⟨fault, failed, _⟩ := trap.prepare_unserved memory unserved
      exact ⟨_, .refused failed⟩
    · intro frame last answered
      rw [← TrapFrame.not_isServed_iff]
      exact answered.status sound running

def deskOperations : List Operation :=
  [.bindName 1 "app:desk" 64 3, .bindName 1 "app:full" 16 3,
    .send ⟨1, 2⟩ [1, 2, 3, 4, 5, 6, 7, 8] 0 0]

def openDesk : Exchange := { engine := (Engine.start {}).run deskOperations }

def patientTrap : Trap := ⟨1, .call .receive [1, 8, 2, 0xffff, 32]⟩

def strayTrap : Trap := ⟨1, { patientTrap.frame with selector := 7 }⟩

def patientCall : Suspended := ⟨0, .receive ⟨1, 1⟩ 2, none, ⟨.readable, ⟨1⟩⟩⟩

def patientDesk : Exchange := openDesk.entered 0 patientCall.transfer

def servedDesk : Exchange := patientDesk.performed (.send ⟨1, 1⟩ [97, 98] 0 0)

def emptiedDesk : Exchange :=
  (({ servedDesk with ready := servedDesk.ready.erase 0 } : Exchange).resume 0 patientCall).2

theorem patientTrap_answered :
    ∃ frame, patientTrap.Answered openDesk (.zeros 64) frame emptiedDesk := by
  let outcome : Except Fault Answer := .ok (.receipt ⟨⟨2, .none, 1, 0⟩, [97, 98]⟩)
  have read : patientTrap.prepare (.zeros 64) = .ok (.transfer patientCall.transfer .infinite) := by
    decide +kernel
  have began : openDesk.begin 0 (.transfer patientCall.transfer .infinite) = (none, patientDesk) :=
    Prod.ext (by decide +kernel) rfl
  have run : patientDesk.Run [servedDesk, patientDesk] := Exchange.Run.start.performs 1 _ rfl
  have turn : servedDesk.Turn (emptiedDesk.reporting 0 (some outcome)) emptiedDesk :=
    @Exchange.Turn.resume servedDesk 0 patientCall _ emptiedDesk (by decide +kernel)
      (by decide +kernel) (Prod.ext (by decide +kernel) rfl)
  exact ⟨_, @Trap.Answered.resumed _ _ _ _ _ _ _ _ _ _ (.zeros 64) read began run turn rfl
    (by decide +kernel)⟩

/-- A task registers while a mailbox is full; a trap for a function that is not there is answered at
once, and a receive when there is a message. -/
theorem openDesk_never_fatal :
    ((∀ reason, ((Operation.register 2).step openDesk.engine).1 ≠ .error (.internal reason)) ∧
      ((Operation.register 2).step openDesk.engine).2.halted = none) ∧
    (∃ frame, strayTrap.Answered openDesk (.zeros 64) frame openDesk ∧
      frame.status? = some .internalError ∧ openDesk.engine.halted = none) ∧
    ∃ frame, patientTrap.Answered openDesk (.zeros 64) frame emptiedDesk ∧
      frame.status? ≠ some .internalError ∧ emptiedDesk.engine.halted = none := by
  obtain ⟨_, operates, answers⟩ :=
    callers_never_halt {} deskOperations (by decide) (by decide +kernel)
  obtain ⟨unserved, _, strayStatus⟩ := answers strayTrap (.zeros 64) openDesk rfl
  obtain ⟨_, _, patientStatus⟩ := answers patientTrap (.zeros 64) openDesk rfl
  refine ⟨operates (.register 2) rfl fun _ => by decide +kernel, ?_, ?_⟩
  · obtain ⟨frame, answered⟩ := unserved fun served => absurd served.2 (by decide)
    obtain ⟨internal, running⟩ := strayStatus frame openDesk answered
    exact ⟨frame, answered, internal.mpr (Or.inr (by decide)), running⟩
  · obtain ⟨frame, answered⟩ := patientTrap_answered
    obtain ⟨internal, running⟩ := patientStatus frame emptiedDesk answered
    exact ⟨frame, answered, internal.not.mpr (by decide), running⟩

section Exhausted

open Engine

def passerby : Guest := ⟨1, "app:passerby", ⟨.app, "passerby", none⟩, 64, 3, .readWrite⟩

def throng (count : Nat) : List Operation :=
  .openName 5 "svc:stdio.in@4" 3 :: (List.replicate count passerby.operations).flatten

def inn : Engine := .start { handlesPerTask := 2 }

def lodgedInn : Engine := inn.run [.openName 5 "svc:stdio.in@4" 3]

def innAt (number : UInt32) (wakeups : List Wakeup) (events : List Event) : Engine :=
  { lodgedInn with registry := { lodgedInn.registry with nextId := number }, wakeups, events }

theorem lodgedInn_welcomes : lodgedInn.Welcomes passerby where
  asks := by decide
  reads := rfl
  passing := by decide
  usable := by decide +kernel
  running := by decide +kernel
  idle := Option.isNone_iff_eq_none.mp (by decide +kernel)
  quota := by decide +kernel
  owning := by decide +kernel
  room := by decide +kernel
  unnamed := by decide +kernel

theorem throng_asked (count : Nat) : ∀ operation ∈ throng count, operation.halts = false := by
  intro operation member
  rcases List.mem_cons.mp member with rfl | later
  · rfl
  · obtain ⟨operations, repeated, among⟩ := List.mem_flatten.mp later
    rw [List.eq_of_mem_replicate repeated] at among
    simp only [Guest.operations, List.mem_cons, List.not_mem_nil, or_false] at among
    rcases among with rfl | rfl <;> rfl

theorem throng_passed (count : Nat) (few : count + 1 < Registry.mostNumbers) :
    (inn.run (throng count)).registrations = count + 1 ∧
      inn.run (throng count) = innAt (.ofNat (count + 2)) (inn.run (throng count)).wakeups
        (inn.run (throng count)).events := by
  have sound : lodgedInn.scene.Sound := run_sound _ (start_sound _) (by decide +kernel)
  have first : lodgedInn.registrations = 1 := by decide +kernel
  have same : inn.run (throng count) =
      lodgedInn.run (List.replicate count passerby.operations).flatten := rfl
  obtain ⟨total, next, rest⟩ := guests_use_numbers count sound lodgedInn_welcomes (by omega)
  rw [← same, first] at total next
  rw [← same] at rest
  have number : (inn.run (throng count)).registry.nextId = .ofNat (count + 2) := by
    apply UInt32.toNat_inj.mp
    unfold Registry.mostNumbers at few
    rw [next, UInt32.toNat_ofNat_of_lt' (by simp [UInt32.size]; omega)]
    omega
  rw [number] at rest
  exact ⟨by omega, rest⟩

theorem innAt_halts :
    ((Operation.register 4).step (innAt (.ofNat (4294967293 + 2))
      (inn.run (throng 4294967293)).wakeups (inn.run (throng 4294967293)).events)).2.halted =
        some "internal error: svc:stdio.out@4 reference count underflow" := by
  decide +kernel

/-- When one number is left to give out, task 4 registers. Its control mailbox gets that number, and
its output stream the first one again, in the place of the input stream it has just opened. The
third stream is one handle too many, and the two that are closed again are by now one mailbox, which
has counted one of them only. -/
theorem registration_halts :
    (∀ operation ∈ throng 4294967293, operation.halts = false) ∧
      (inn.run (throng 4294967293)).registrations ≤ Registry.mostNumbers ∧
      (inn.run (throng 4294967293)).halted = none ∧
      ((Operation.register 4).step (inn.run (throng 4294967293))).2.halted =
        some "internal error: svc:stdio.out@4 reference count underflow" := by
  obtain ⟨total, rest⟩ := throng_passed 4294967293 (by decide)
  have most : (inn.run (throng 4294967293)).registrations ≤ Registry.mostNumbers := by
    rw [total]
    decide
  have running : (inn.run (throng 4294967293)).halted = none := by
    rw [rest]
    exact lodgedInn_welcomes.running
  have halts := innAt_halts
  rw [← rest] at halts
  exact ⟨throng_asked _, most, running, halts⟩

end Exhausted

end Mailroom
