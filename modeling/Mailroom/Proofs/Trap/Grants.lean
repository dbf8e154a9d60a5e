import Mailroom.Proofs.Trap.Statuses
import Mailroom.Proofs.Waiting.Outcomes

/-!
What a trap may change: in memory nothing but the buffer and the information block of a receive,
in the registers the status and the results of its function. All that is read or written lies
within memory.
-/

namespace Mailroom

namespace TrapFrame

theorem fill_outside (registers : Vector UInt32 8) (words : List UInt32) (index : Nat)
    {register : Nat} (bound : register < 8)
    (outside : register < index ∨ index + words.length ≤ register) :
    (fill registers index words)[register] = registers[register] := by
  induction words generalizing registers index with
  | nil => rfl
  | cons word rest ih =>
      rw [List.length_cons] at outside
      rw [fill, ih _ _ (by omega)]
      exact Vector.getElem_setIfInBounds_ne bound (by omega)

end TrapFrame

namespace Trap

variable {trap : Trap} {memory after : Memory} {selector : Selector} {call : Call}
  {answer : Answer} {outcome : Except Fault Answer}

/-- What a trap may write, after what its caller is told: the information block if there is one,
and the buffer if a message was delivered. -/
inductive Grants (trap : Trap) : Except Fault Answer → Area → Prop
  | buffer {receipt : Receipt} (receives : trap.isReceive = true) :
      Grants trap (.ok (.receipt receipt)) ⟨trap.buffer, receipt.payload.length⟩
  | info {told : Except Fault Answer} (receives : trap.isReceive = true) (given : trap.info ≠ 0) :
      Grants trap told ⟨trap.info, InfoBlock.size⟩

def Writes (trap : Trap) (told : Except Fault Answer) (before after : Memory) : Prop :=
  ∃ areas, before.ChangesOnly after areas ∧ ∀ area ∈ areas, trap.Grants told area

theorem Writes.refl (trap : Trap) (told : Except Fault Answer) (memory : Memory) :
    trap.Writes told memory memory := ⟨[], .refl memory, nofun⟩

theorem Writes.trans {told : Except Fault Answer} {first second third : Memory}
    (begins : trap.Writes told first second) (ends : trap.Writes told second third) :
    trap.Writes told first third := by
  obtain ⟨left, begun, leftGranted⟩ := begins
  obtain ⟨right, ended, rightGranted⟩ := ends
  refine ⟨left ++ right, begun.trans ended, ?_⟩
  intro area member
  rcases List.mem_append.mp member with earlier | later
  · exact leftGranted area earlier
  · exact rightGranted area later

theorem writeInfo_writes (receives : trap.isReceive = true) {block : InfoBlock}
    (written : writeInfo memory trap.info block = .ok after) (told : Except Fault Answer) :
    trap.Writes told memory after := by
  unfold writeInfo at written
  split at written
  · cases written
    exact .refl trap told memory
  · rename_i given
    refine ⟨_, Memory.write_changes written, ?_⟩
    intro area member
    cases List.mem_singleton.mp member
    rw [block.length_encode]
    exact .info receives given

theorem writeInfo_succeeds {buffer info : UInt32} {room : Nat} {filled : Memory}
    (checked : checkDestinations memory buffer room info = .ok ())
    (same : filled.size = memory.size)
    (block : InfoBlock) : ∃ written, writeInfo filled info block = .ok written := by
  unfold checkDestinations at checked
  split at checked
  · cases checked
  · unfold writeInfo
    split at checked
    · rename_i absent
      exact ⟨filled, by rw [if_pos absent]⟩
    · rename_i given
      rw [if_neg given]
      apply Memory.write_of_covers
      unfold Memory.check at checked
      split at checked
      · rename_i covers
        rw [block.length_encode, Memory.covers, same]
        exact covers
      · cases checked

theorem store_writes (receives : trap.isReceive = true) {room : Nat}
    (checked : checkDestinations memory trap.buffer room trap.info = .ok ())
    (outcome : Except Fault Answer) :
    trap.Writes (trap.store memory outcome).1 memory (trap.store memory outcome).2 := by
  unfold store
  split
  · rename_i receipt
    split
    · exact .refl trap _ memory
    · rename_i filled filling
      have changes := Memory.write_changes filling
      obtain ⟨written, telling⟩ := writeInfo_succeeds checked changes.size_eq (.ofReceipt receipt)
      rw [telling]
      have first : trap.Writes (.ok (.receipt receipt)) memory filled := by
        refine ⟨_, changes, ?_⟩
        intro area member
        cases List.mem_singleton.mp member
        exact .buffer receives
      exact first.trans (writeInfo_writes receives telling _)
  · exact .refl trap _ memory
  · rename_i fault
    split
    · exact .refl trap _ memory
    · rename_i written telling
      exact writeInfo_writes receives telling _

theorem refuse_writes (trap : Trap) (memory : Memory) (fault : Fault) :
    trap.Writes (.error fault) memory (trap.refuse memory fault).2 := by
  unfold refuse
  dsimp only
  split
  · rename_i receives
    split
    · rename_i written telling
      exact writeInfo_writes receives telling _
    · exact .refl trap _ memory
  · exact .refl trap _ memory

def told (trap : Trap) (memory : Memory) (outcome : Except Fault Answer) : Except Fault Answer :=
  if trap.isReceive then (trap.store memory outcome).1 else outcome

theorem finish_frame (trap : Trap) (memory : Memory) (outcome : Except Fault Answer) :
    (trap.finish memory outcome).1 = report trap.frame (trap.told memory outcome) := by
  unfold finish told
  split <;> rfl

theorem finish_writes (asks : trap.Asks selector) (prepares : trap.Prepares memory selector call)
    (outcome : Except Fault Answer) :
    trap.Writes (trap.told memory outcome) memory (trap.finish memory outcome).2 := by
  unfold finish told
  split
  · rename_i receives
    cases asks.isReceive_iff.mp receives
    cases prepares with
    | receive handle timeout checked => exact store_writes receives checked outcome
  · exact .refl trap _ memory

theorem told_answers (answered : trap.told memory outcome = .ok answer) : outcome = .ok answer := by
  unfold told at answered
  split at answered
  · unfold store at answered
    split at answered
    · split at answered
      · cases answered
      · split at answered <;> cases answered
        rfl
    · exact answered
    · split at answered <;> cases answered
  · exact answered

def statusOf : Except Fault Answer → Status
  | .ok _ => .ok
  | .error fault => fault.status

theorem report_r0 (frame : TrapFrame) (told : Except Fault Answer) :
    (report frame told).r0 = (statusOf told).code.toUInt32 := by
  cases told <;> exact TrapFrame.setStatus_r0 _ _

theorem report_selectors (frame : TrapFrame) (told : Except Fault Answer) :
    (report frame told).service = frame.service ∧
      (report frame told).selector = frame.selector := by
  cases told <;> exact ⟨rfl, rfl⟩

theorem report_registers (frame : TrapFrame) {told : Except Fault Answer} {register : Nat}
    (bound : register < 8) (later : register ≠ 0)
    (beyond : ∀ answer, told = .ok answer → (results answer).length < register) :
    (report frame told).registers[register] = frame.registers[register] := by
  have unset : ∀ (registers : Vector UInt32 8) (word : UInt32),
      (registers.setIfInBounds 0 word)[register] = registers[register] :=
    fun registers word => Vector.getElem_setIfInBounds_ne bound later.symm
  cases told with
  | error fault => exact unset frame.registers fault.status.code.toUInt32
  | ok answer =>
      have last := beyond answer rfl
      refine (unset (TrapFrame.fill frame.registers 1 (results answer)) _).trans ?_
      exact TrapFrame.fill_outside frame.registers (results answer) 1 bound (Or.inr (by omega))

theorem report_r1 (frame : TrapFrame) (receipt : Receipt) :
    (report frame (.ok (.receipt receipt))).r1 = receipt.header.length.toUInt32 := by
  change (report frame (.ok (.receipt receipt))).registers[1] = _
  simp [report, results, TrapFrame.setStatus, TrapFrame.setResults, TrapFrame.fill]

/-- How a trap is handled from some state of the exchange on: it is turned away, or its call never
waits, or it is followed to its end through the turns of all others. What its caller is told, its
frame, and its memory, in which nobody else writes meanwhile. -/
inductive Handled (trap : Trap) (first : Exchange) (memory : Memory) :
    Except Fault Answer → TrapFrame → Memory → Prop
  | refused {fault : Fault} (unread : trap.prepare memory = .error fault) :
      Handled trap first memory (.error fault) (trap.refuse memory fault).1
        (trap.refuse memory fault).2
  | performed {operation : Operation} {outcome : Except Fault Answer} {last : Exchange}
      (read : trap.prepare memory = .ok (.now operation))
      (ran : first.perform operation = (outcome, last)) :
      Handled trap first memory (trap.told memory outcome) (trap.finish memory outcome).1
        (trap.finish memory outcome).2
  | followed {visit : Visit} {states : List Exchange} {rounds : List Round} {finished : Finished}
      (read : trap.prepare memory = .ok (.transfer visit.transfer visit.timeout))
      (story : first.Story visit states rounds (.over finished)) :
      Handled trap first memory (trap.told memory finished.outcome)
        (trap.finish memory finished.outcome).1 (trap.finish memory finished.outcome).2

variable {first : Exchange} {told : Except Fault Answer} {frame : TrapFrame}

theorem Handled.reports (handled : trap.Handled first memory told frame after) :
    frame = report trap.frame told ∧ trap.Writes told memory after ∧
      ∀ answer, told = .ok answer →
        ∃ selector, trap.Asks selector ∧ selector.Answers trap.frame.r3.toNat answer := by
  cases handled with
  | @refused fault unread => exact ⟨rfl, trap.refuse_writes memory fault, nofun⟩
  | @performed operation outcome last read ran =>
      obtain ⟨selector, asks, prepares⟩ := prepare_cases read
      refine ⟨trap.finish_frame memory outcome, finish_writes asks prepares outcome, ?_⟩
      intro answer answered
      cases told_answers answered
      have stepped : (operation.step first.engine).1 = .ok answer := congrArg Prod.fst ran
      exact ⟨selector, asks, prepares.answers_now (Prod.ext stepped rfl)⟩
  | @followed visit states rounds finished read story =>
      obtain ⟨selector, asks, prepares⟩ := prepare_cases read
      refine ⟨trap.finish_frame memory finished.outcome,
        finish_writes asks prepares finished.outcome, ?_⟩
      intro answer answered
      obtain ⟨engine, attempted⟩ := story.answered (told_answers answered)
      exact ⟨selector, asks, prepares.answers_transfer attempted⟩

/-- Whatever a task's registers hold, a trap writes nowhere but where it is meant to, and reads
nowhere but in memory. -/
theorem handled_within_grants (handled : trap.Handled first memory told frame after) :
    (∃ areas, memory.ChangesOnly after areas ∧ ∀ area ∈ areas, trap.Grants told area) ∧
    (∀ receipt, told = .ok (.receipt receipt) →
      receipt.payload.length ≤ trap.frame.r3.toNat ∧
        frame.r1 = (UInt16.ofNat receipt.payload.length).toUInt32) ∧
    ((∀ area, trap.Reads memory area → area.Within memory) ∧
      ∀ other : Memory, other.size = memory.size →
        (∀ area, trap.Reads memory area → other.AgreesOn memory area) →
          trap.prepare other = trap.prepare memory) ∧
    (∀ (register : Nat) (bound : register < 8),
      frame.registers[register] ≠ trap.frame.registers[register] →
        register = 0 ∨ ∃ answer selector, told = .ok answer ∧ trap.Asks selector ∧
          register ≤ selector.results) ∧
    frame.service = trap.frame.service ∧ frame.selector = trap.frame.selector ∧
    frame.r0 = (statusOf told).code.toUInt32 := by
  obtain ⟨rfl, writes, answers⟩ := handled.reports
  obtain ⟨service, selector⟩ := report_selectors trap.frame told
  refine ⟨writes, ?_, ⟨fun _ reads => reads.within, fun _ => prepare_congr⟩, ?_, service, selector,
    report_r0 trap.frame told⟩
  · rintro receipt rfl
    obtain ⟨selector, _, fits⟩ := answers _ rfl
    cases fits with
    | receive fits => exact ⟨fits.1, by rw [report_r1, fits.2]⟩
  · intro register bound differs
    by_contra kept
    push Not at kept
    refine differs (report_registers trap.frame bound kept.1 ?_)
    rintro answer rfl
    obtain ⟨selector, asks, fits⟩ := answers answer rfl
    rw [fits.length]
    exact kept.2 answer selector rfl asks

def deskLetter : Exchange := Exchange.deskSet.performed (.send ⟨1, 1⟩ [97, 98, 99] 0 0)

def deskTrap : Trap := ⟨1, .call .receive [1, 8, 2, 0, 32]⟩

def deskReceipt : Receipt := ⟨⟨2, .overrun, 1, 0⟩, [97, 98]⟩

theorem deskTrap_handled :
    deskTrap.Handled deskLetter (.zeros 64) (deskTrap.told (.zeros 64) (.ok (.receipt deskReceipt)))
      (deskTrap.finish (.zeros 64) (.ok (.receipt deskReceipt))).1
      (deskTrap.finish (.zeros 64) (.ok (.receipt deskReceipt))).2 := by
  let visit : Visit := ⟨0, .receive ⟨1, 1⟩ 2, .poll, 0⟩
  let outcome : Except Fault Answer := .ok (.receipt deskReceipt)
  let reading := deskLetter.attempt 0 visit.transfer visit.deadline (!visit.timeout.isPoll)
  have read : deskTrap.prepare (.zeros 64) = .ok (.transfer visit.transfer visit.timeout) := by
    decide +kernel
  have ran : reading = (some outcome, reading.2) := Prod.ext (by decide +kernel) rfl
  have story := @Exchange.Story.enters deskLetter visit deskLetter reading.2 [] (some outcome)
    .start (by decide +kernel) ran
  exact .followed read story

theorem deskTrap_within_grants :
    deskTrap.told (.zeros 64) (.ok (.receipt deskReceipt)) = .ok (.receipt deskReceipt) ∧
    (∃ areas, (Memory.zeros 64).ChangesOnly
        (deskTrap.finish (.zeros 64) (.ok (.receipt deskReceipt))).2 areas ∧
      ∀ area ∈ areas, deskTrap.Grants (.ok (.receipt deskReceipt)) area) ∧
    (deskTrap.finish (.zeros 64) (.ok (.receipt deskReceipt))).1.r0 = 0 := by
  have told : deskTrap.told (.zeros 64) (.ok (.receipt deskReceipt)) = .ok (.receipt deskReceipt) :=
    by decide +kernel
  have granted := handled_within_grants deskTrap_handled
  rw [told] at granted
  exact ⟨told, granted.1, granted.2.2.2.2.2.2⟩

end Trap

end Mailroom
