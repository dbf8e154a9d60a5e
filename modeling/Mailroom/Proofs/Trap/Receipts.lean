import Mailroom.Proofs.History.Messages
import Mailroom.Proofs.Trap.Grants

/-!
What becomes of a message that a trap receives. It leaves its ring if the trap says so and only
then, and the registers, the buffer and the information block tell of the same message.
-/

namespace Mailroom

namespace Bytes

def value : Bytes → Nat
  | [] => 0
  | byte :: rest => byte.toNat + 256 * value rest

def wideWords : Bytes → List UInt32
  | first :: second :: third :: fourth :: rest =>
    UInt32.ofNat (value [first, second, third, fourth]) :: wideWords rest
  | _ => []

theorem wideWords_append (word : UInt16) (rest : Bytes) :
    wideWords (ofWideWord word ++ rest) = word.toUInt32 :: wideWords rest := by
  have bound := word.toNat_lt
  have same : UInt32.ofNat (value (ofWideWord word)) = word.toUInt32 := by
    apply UInt32.toNat_inj.mp
    simp only [ofWideWord, ofWord, List.cons_append, List.nil_append, value, UInt16.toNat_toUInt8,
      UInt16.toNat_shiftRight, UInt16.toNat_toUInt32, UInt32.toNat_ofNat']
    simp [Nat.shiftRight_eq_div_pow]
    omega
  exact congrArg (· :: wideWords rest) same

end Bytes

theorem InfoBlock.wideWords_encode (block : InfoBlock) :
    Bytes.wideWords block.encode =
      [block.status.toUInt32, block.length.toUInt32, block.flags.toUInt32,
        block.channel.toUInt32, block.source.toUInt32] := by
  unfold encode
  simp only [List.append_assoc]
  rw [Bytes.wideWords_append, Bytes.wideWords_append, Bytes.wideWords_append,
    Bytes.wideWords_append, ← List.append_nil (Bytes.ofWideWord block.source),
    Bytes.wideWords_append]
  rfl

theorem Mailbox.take_sees {mailbox : Mailbox} {view : View} {room : Nat} {taken? : Option Receipt}
    (taken : (mailbox.take view room).1 = .ok taken?) :
    ∃ ring, mailbox.ringOf? view = some ring := by
  cases view with
  | queue => exact ⟨mailbox.queue, rfl⟩
  | subscriber endpoint | tap endpoint =>
      cases present : mailbox.subscribers[endpoint]? with
      | none =>
          simp only [take, Subscribers.take, present] at taken
          cases taken
      | some subscription => exact ⟨subscription.ring, congrArg (Option.map _) present⟩

def Registry.letters (registry : Registry) (endpoint : Endpoint) (binding : Binding) :
    List Frame :=
  ((registry.get? binding.mailbox).bind fun mailbox =>
    mailbox.ringOf? (mailbox.view endpoint binding.mode)).elim [] Ring.frames

theorem Registry.letters_of_seen {registry : Registry} {endpoint : Endpoint} {binding : Binding}
    {mailbox : Mailbox} {ring : Ring} (found : registry.get? binding.mailbox = some mailbox)
    (seen : mailbox.ringOf? (mailbox.view endpoint binding.mode) = some ring) :
    registry.letters endpoint binding = ring.frames := by
  simp only [letters, found, Option.bind_some, seen, Option.elim_some]

namespace Engine

open Step

variable {engine after : Engine} {endpoint : Endpoint}

theorem onMailbox_leaves {α : Type} {id : MailboxId} {mailbox : Mailbox}
    {operation : Mailbox → Except Fault α × Mailbox} {outcome : Except Fault α}
    (found : engine.registry.get? id = some mailbox)
    (ran : onMailbox id operation engine = (outcome, after)) :
    ∃ later, operation mailbox = (outcome, later) ∧
      after = { engine with registry := engine.registry.update later } := by
  rw [onMailbox_found operation found rfl] at ran
  cases ran
  exact ⟨_, rfl, rfl⟩

theorem tryReceive_takes (intact : engine.Intact) {room : Nat} {receipt : Receipt}
    (ran : tryReceive endpoint room engine = (.ok receipt, after)) :
    ∃ binding letter, engine.handles.binding? endpoint = some binding ∧
      engine.registry.letters endpoint binding =
        letter :: after.registry.letters endpoint binding ∧
      letter.IsMeasured ∧ ∃ lossy, receipt = letter.receipt room lossy := by
  rw [tryReceive_eq] at ran
  obtain ⟨⟨binding, view⟩, middle, viewed, rest⟩ := bind_answers (guarded_answers ran)
  cases readableView_engine viewed
  obtain ⟨mailbox, ⟨held, found, _⟩, rfl⟩ := readableView_answers viewed
  obtain ⟨same, sound⟩ := intact _ mailbox found
  obtain ⟨taken?, last, took, told⟩ := bind_answers rest
  let view := mailbox.view endpoint binding.mode
  obtain ⟨later, taken, rfl⟩ := onMailbox_leaves found took
  obtain ⟨ring, seen⟩ : ∃ ring, mailbox.ringOf? view = some ring :=
    Mailbox.take_sees (congrArg Prod.fst taken)
  by_cases empty : ring.frames = []
  · cases (Mailbox.take_of_empty room seen empty).symm.trans taken
    cases told
  · obtain ⟨letter, others, front⟩ := List.exists_cons_of_ne_nil empty
    cases (sound.take_of_front room seen front).symm.trans taken
    cases told
    have traffic := sound.withdrawn_traffic view
    have here := engine.registry.update_here (traffic.id_eq.trans same)
    have viewed : (mailbox.withdrawn view).view endpoint binding.mode = view := by
      rw [Mailbox.view, traffic.policy_eq]
      rfl
    have shorter : (mailbox.withdrawn view).ringOf?
        ((mailbox.withdrawn view).view endpoint binding.mode) = some ring.dropped := by
      rw [viewed]
      exact Mailbox.withdrawn_ring seen empty
    have left : ring.dropped.frames = others := congrArg List.tail front
    refine ⟨binding, letter, held, ?_, ?_, _, rfl⟩
    · change _ = letter :: (acknowledge _ endpoint binding.mailbox view _).registry.letters
        endpoint binding
      rw [Registry.letters_of_seen found seen, front, acknowledge_eq,
        Registry.letters_of_seen here shorter, left]
    · exact (sound.ring seen).measured letter (by simp [front])

end Engine

variable {first : Exchange} {visit : Visit} {states : List Exchange} {rounds : List Round}
  {place : Stage}

namespace Round

def Takes (round : Round) (endpoint : Endpoint) (letter : Frame) : Prop :=
  ∃ binding, round.met.handles.binding? endpoint = some binding ∧
    round.met.registry.letters endpoint binding =
      letter :: round.after.registry.letters endpoint binding

theorem not_takes_of_spared {round : Round} (spared : round.after.registry = round.met.registry)
    (endpoint : Endpoint) (letter : Frame) : ¬ round.Takes endpoint letter := by
  rintro ⟨binding, _, shorter⟩
  rw [spared] at shorter
  exact List.cons_ne_self letter _ shorter.symm

end Round

theorem Exchange.Story.met_intact (story : first.Story visit states rounds place)
    (begun : first.engine.Intact) : ∀ round ∈ rounds, round.met.Intact := by
  induction story with
  | enters sofar made ran =>
      intro round member
      cases List.mem_singleton.mp member
      exact sofar.intact begun
  | stays sofar turn kept ih => exact ih
  | resumes sofar suspended woken ran ih | expires sofar suspended passed overdue ran ih =>
      intro round member
      rcases List.mem_cons.mp member with rfl | earlier
      · exact sofar.run.intact begun
      · exact ih round earlier

theorem Visit.Accounts.receipt {endpoint : Endpoint} {room : Nat} {finished : Finished}
    (accounts : visit.Accounts rounds finished) (asked : visit.transfer = .receive endpoint room)
    (intact : ∀ round ∈ rounds, round.met.Intact) {answer : Answer}
    (succeeded : finished.outcome = .ok answer) :
    ∃ last earlier letter lossy, rounds = last :: earlier ∧ last.Takes endpoint letter ∧
      letter.IsMeasured ∧ answer = .receipt (letter.receipt room lossy) ∧
      ∀ round ∈ earlier, round.after.registry = round.met.registry := by
  obtain ⟨last, earlier, rfl, answered, left, stuck⟩ := accounts.once answer succeeded
  rw [asked] at answered left stuck
  obtain ⟨receipt, middle, received, told⟩ := Step.bind_answers (Prod.ext answered rfl)
  obtain ⟨same, rfl⟩ := Prod.ext_iff.mp told
  cases same
  obtain ⟨binding, letter, held, shorter, measured, lossy, rfl⟩ :=
    Engine.tryReceive_takes (intact last List.mem_cons_self) received
  refine ⟨last, earlier, letter, lossy, rfl, ⟨binding, held, ?_⟩, measured, rfl,
    fun round member => (stuck round member).2⟩
  rw [left]
  exact shorter

theorem Fault.status_ne_ok (fault : Fault) : fault.status ≠ .ok := by
  cases fault <;> nofun

theorem TrapFrame.fill_inside (registers : Vector UInt32 8) (words : List UInt32) (index : Nat)
    {offset : Nat} (inside : offset < words.length) (bound : index + offset < 8) :
    (fill registers index words)[index + offset] = words[offset] := by
  induction words generalizing registers index offset with
  | nil => cases inside
  | cons word rest ih =>
      rw [fill]
      cases offset with
      | zero =>
          rw [fill_outside _ rest (index + 1) bound (Or.inl (by omega))]
          exact Vector.getElem_setIfInBounds_self bound
      | succ offset =>
          have later := ih (registers.setIfInBounds index word) (index + 1)
            (Nat.lt_of_succ_lt_succ inside) (by omega)
          simp only [Nat.add_assoc, Nat.add_comm 1 offset] at later
          exact later

namespace Trap

variable {trap : Trap} {memory after : Memory} {call : Call} {told : Except Fault Answer}
  {frame : TrapFrame}

theorem prepare_receive (asks : trap.Asks .receive) (read : trap.prepare memory = .ok call) :
    checkDestinations memory trap.buffer trap.frame.r3.toNat trap.info = .ok () ∧
    ∃ timeout, call =
      .transfer (.receive ⟨trap.pid, trap.frame.r1.toUInt16⟩ trap.frame.r3.toNat) timeout := by
  obtain ⟨asked, decoded, called⟩ := bind_gives read
  have known : Selector.ofCode trap.frame.selector = .ok .receive := by
    rw [asks.2]
    exact Selector.ofCode_code .receive
  rw [TrapCall.decode, if_neg (not_not.mpr asks.1), known] at decoded
  obtain ⟨selector, served, decoded⟩ := bind_gives decoded
  cases served
  obtain ⟨handle, narrowed, decoded⟩ := bind_gives decoded
  have same : handle = trap.frame.r1.toUInt16 := by
    unfold TrapCall.handleOf TrapCall.narrow at narrowed
    split at narrowed <;> cases narrowed
    rfl
  subst same
  cases decoded
  cases checked : checkDestinations memory trap.frame.r2 trap.frame.r3.toNat trap.frame.r5 with
  | error fault =>
      rw [callOf, checked] at called
      cases called
  | ok nothing =>
      rw [callOf, checked] at called
      cases called
      exact ⟨checked, _, rfl⟩

/-- A trap is handled in these attempts, latest first: in none if it is turned away. -/
inductive Tried (trap : Trap) (first : Exchange) (memory : Memory) :
    List Round → Except Fault Answer → TrapFrame → Memory → Prop
  | refused {fault : Fault} (unread : trap.prepare memory = .error fault) :
      Tried trap first memory [] (.error fault) (trap.refuse memory fault).1
        (trap.refuse memory fault).2
  | followed {visit : Visit} {states : List Exchange} {rounds : List Round} {finished : Finished}
      (read : trap.prepare memory = .ok (.transfer visit.transfer visit.timeout))
      (story : first.Story visit states rounds (.over finished)) :
      Tried trap first memory rounds (trap.told memory finished.outcome)
        (trap.finish memory finished.outcome).1 (trap.finish memory finished.outcome).2

theorem Tried.handled (tried : trap.Tried first memory rounds told frame after) :
    trap.Handled first memory told frame after := by
  cases tried with
  | refused unread => exact .refused unread
  | followed read story => exact .followed read story

theorem Handled.tried (asks : trap.Asks .receive)
    (handled : trap.Handled first memory told frame after) :
    ∃ rounds, trap.Tried first memory rounds told frame after := by
  cases handled with
  | refused unread => exact ⟨[], .refused unread⟩
  | performed read ran =>
      obtain ⟨_, timeout, waits⟩ := prepare_receive asks read
      cases waits
  | followed read story => exact ⟨_, .followed read story⟩

/-- What a receive leaves in memory. The information block of one that failed is written if it lies
in memory, and nothing else is. -/
inductive Leaves (trap : Trap) (memory : Memory) : Except Fault Answer → Memory → Prop
  | delivered {receipt : Receipt} {filled after : Memory}
      (filling : memory.write trap.buffer receipt.payload = .ok filled)
      (telling : writeInfo filled trap.info (.ofReceipt receipt) = .ok after) :
      Leaves trap memory (.ok (.receipt receipt)) after
  | failed {fault : Fault} {after : Memory}
      (telling : writeInfo memory trap.info (.failed fault.status) = .ok after) :
      Leaves trap memory (.error fault) after
  | outside {fault : Fault} (given : trap.info ≠ 0)
      (outside : memory.covers trap.info InfoBlock.size = false) :
      Leaves trap memory (.error fault) memory

theorem refuse_leaves (receives : trap.isReceive = true) (memory : Memory) (fault : Fault) :
    trap.Leaves memory (.error fault) (trap.refuse memory fault).2 := by
  simp only [refuse, receives, if_true]
  split
  · rename_i written telling
    exact .failed telling
  · rename_i other unwritten
    by_cases given : trap.info = 0
    · rw [writeInfo, if_pos given] at unwritten
      cases unwritten
    · cases covers : memory.covers trap.info InfoBlock.size with
      | false => exact .outside given covers
      | true =>
          rw [← InfoBlock.length_encode (.failed fault.status)] at covers
          obtain ⟨written, telling⟩ := Memory.write_of_covers covers
          rw [writeInfo, if_neg given, telling] at unwritten
          cases unwritten

theorem told_receipt (receives : trap.isReceive = true) {room : Nat} {receipt : Receipt}
    (checked : checkDestinations memory trap.buffer room trap.info = .ok ())
    (fits : receipt.payload.length ≤ room) :
    trap.told memory (.ok (.receipt receipt)) = .ok (.receipt receipt) ∧
      trap.Leaves memory (.ok (.receipt receipt))
        (trap.finish memory (.ok (.receipt receipt))).2 := by
  have covers : memory.covers trap.buffer receipt.payload.length = true := by
    unfold checkDestinations Memory.check at checked
    split at checked
    · cases checked
    · rename_i roomy
      split at roomy
      · rename_i covered
        have inside : trap.buffer.toNat + room ≤ memory.size := of_decide_eq_true covered
        exact decide_eq_true (by omega)
      · cases roomy
  obtain ⟨filled, filling⟩ := Memory.write_of_covers covers
  obtain ⟨written, telling⟩ :=
    writeInfo_succeeds checked (Memory.write_changes filling).size_eq (.ofReceipt receipt)
  have stored : trap.store memory (.ok (.receipt receipt)) = (.ok (.receipt receipt), written) := by
    simp only [store, filling, telling]
  simp only [Trap.told, finish, receives, if_true, stored]
  exact ⟨trivial, .delivered filling telling⟩

theorem told_fault (receives : trap.isReceive = true) {room : Nat}
    (checked : checkDestinations memory trap.buffer room trap.info = .ok ()) (fault : Fault) :
    trap.told memory (.error fault) = .error fault ∧
      trap.Leaves memory (.error fault) (trap.finish memory (.error fault)).2 := by
  obtain ⟨written, telling⟩ := writeInfo_succeeds checked rfl (.failed fault.status)
  have stored : trap.store memory (.error fault) = (.error fault, written) := by
    simp only [store, telling]
  simp only [Trap.told, finish, receives, if_true, stored]
  exact ⟨trivial, .failed telling⟩

def InInfo (trap : Trap) (position : Nat) : Prop :=
  trap.info ≠ 0 ∧ (⟨trap.info, InfoBlock.size⟩ : Area).Covers position

theorem writeInfo_apart {block : InfoBlock} {position : Nat}
    (written : writeInfo memory trap.info block = .ok after) (apart : ¬ trap.InInfo position) :
    after.bytes[position]? = memory.bytes[position]? := by
  unfold writeInfo at written
  split at written
  · cases written
    rfl
  · rename_i given
    rw [Memory.write_at written, block.length_encode]
    exact if_neg fun covered => apart ⟨given, covered⟩

theorem writeInfo_reads {block : InfoBlock} (given : trap.info ≠ 0)
    (written : writeInfo memory trap.info block = .ok after) :
    after.read trap.info InfoBlock.size = .ok block.encode := by
  rw [writeInfo, if_neg given] at written
  exact Memory.read_of_write written

theorem Leaves.delivered_at {receipt : Receipt} {position : Nat}
    (leaves : trap.Leaves memory (.ok (.receipt receipt)) after)
    (apart : ¬ trap.InInfo position) :
    after.bytes[position]? =
      if (⟨trap.buffer, receipt.payload.length⟩ : Area).Covers position then
        receipt.payload[position - trap.buffer.toNat]?
      else memory.bytes[position]? := by
  cases leaves with
  | delivered filling telling => rw [writeInfo_apart telling apart, Memory.write_at filling]

theorem Leaves.failed_at {fault : Fault} {position : Nat}
    (leaves : trap.Leaves memory (.error fault) after) (apart : ¬ trap.InInfo position) :
    after.bytes[position]? = memory.bytes[position]? := by
  cases leaves with
  | failed telling => exact writeInfo_apart telling apart
  | outside => rfl

theorem report_ok_iff (frame : TrapFrame) (told : Except Fault Answer) :
    (report frame told).r0 = Status.ok.code.toUInt32 ↔ ∃ answer, told = .ok answer := by
  have distinct : ∀ status : Status,
      status.code.toUInt32 = Status.ok.code.toUInt32 → status = .ok := by
    intro status
    cases status <;> decide
  rw [report_r0]
  cases told with
  | ok answer => exact iff_of_true rfl ⟨answer, rfl⟩
  | error fault => exact iff_of_false (fun same => fault.status_ne_ok (distinct _ same)) nofun

theorem report_fault_ne (frame : TrapFrame) (fault : Fault) :
    (report frame (.error fault)).r0 ≠ Status.ok.code.toUInt32 :=
  fun same => nomatch (report_ok_iff frame (.error fault)).mp same

theorem report_result (frame : TrapFrame) (answer : Answer) {offset : Nat}
    (inside : offset < (results answer).length) (bound : 1 + offset < 8) :
    (report frame (.ok answer)).registers[1 + offset] = (results answer)[offset] := by
  have unset : (report frame (.ok answer)).registers[1 + offset] =
      (TrapFrame.fill frame.registers 1 (results answer))[1 + offset] :=
    Vector.getElem_setIfInBounds_ne bound (by omega)
  exact unset.trans (TrapFrame.fill_inside _ _ _ inside bound)

theorem report_count (frame : TrapFrame) {letter : Frame} (measured : letter.IsMeasured)
    (room : Nat) (lossy : Bool) :
    (report frame (.ok (.receipt (letter.receipt room lossy)))).r1.toNat =
      (letter.receipt room lossy).payload.length := by
  have bound : letter.payload.length < UInt16.size := measured ▸ letter.header.length.toNat_lt
  have shorter : (letter.receipt room lossy).payload.length ≤ letter.payload.length :=
    List.length_take_le' _ _
  rw [report_r1, UInt16.toNat_toUInt32]
  exact UInt16.toNat_ofNat_of_lt' (Nat.lt_of_le_of_lt shorter bound)

theorem report_receipt (frame : TrapFrame) (receipt : Receipt) :
    Bytes.wideWords (InfoBlock.ofReceipt receipt).encode =
      [(report frame (.ok (.receipt receipt))).r0, (report frame (.ok (.receipt receipt))).r1,
        (report frame (.ok (.receipt receipt))).r2, (report frame (.ok (.receipt receipt))).r3,
        (report frame (.ok (.receipt receipt))).r4] := by
  have result : ∀ offset (inside : offset < 4), _ = _ := fun offset inside =>
    report_result frame (.receipt receipt) inside (by omega)
  rw [InfoBlock.wideWords_encode, report_r0]
  simp only [List.cons.injEq, and_true]
  exact ⟨rfl, (result 0 (by decide)).symm, (result 1 (by decide)).symm,
    (result 2 (by decide)).symm, (result 3 (by decide)).symm⟩

theorem Leaves.block (leaves : trap.Leaves memory told after) (given : trap.info ≠ 0)
    (covers : memory.covers trap.info InfoBlock.size = true) (frame : TrapFrame) :
    ∃ block, after.read trap.info InfoBlock.size = .ok block ∧
      Bytes.wideWords block =
        if (report frame told).r0 = Status.ok.code.toUInt32 then
          [(report frame told).r0, (report frame told).r1, (report frame told).r2,
            (report frame told).r3, (report frame told).r4]
        else [(report frame told).r0, 0, 0, 0, 0] := by
  cases leaves with
  | delivered filling telling =>
      refine ⟨_, writeInfo_reads given telling, ?_⟩
      rw [if_pos ((report_ok_iff frame _).mpr ⟨_, rfl⟩)]
      exact report_receipt frame _
  | @failed fault _ telling =>
      refine ⟨_, writeInfo_reads given telling, ?_⟩
      rw [if_neg (report_fault_ne frame fault), report_r0]
      exact InfoBlock.wideWords_encode (.failed fault.status)
  | outside _ beyond =>
      rw [covers] at beyond
      cases beyond

/-- How a receive trap can end, with its attempts: it failed and none of them changed a mailbox, or
the last one took a message and this is what it tells of. -/
inductive Settled (trap : Trap) (memory : Memory) :
    List Round → Except Fault Answer → Memory → Prop
  | failed {rounds : List Round} {fault : Fault} {after : Memory}
      (spared : ∀ round ∈ rounds, round.after.registry = round.met.registry)
      (leaves : trap.Leaves memory (.error fault) after) :
      Settled trap memory rounds (.error fault) after
  | received {last : Round} {earlier : List Round} {letter : Frame} {lossy : Bool}
      {after : Memory} (measured : letter.IsMeasured)
      (takes : last.Takes ⟨trap.pid, trap.frame.r1.toUInt16⟩ letter)
      (spared : ∀ round ∈ earlier, round.after.registry = round.met.registry)
      (leaves : trap.Leaves memory
        (.ok (.receipt (letter.receipt trap.frame.r3.toNat lossy))) after) :
      Settled trap memory (last :: earlier)
        (.ok (.receipt (letter.receipt trap.frame.r3.toNat lossy))) after

theorem Tried.settled (asks : trap.Asks .receive) (begun : first.engine.Intact)
    (tried : trap.Tried first memory rounds told frame after) :
    trap.Settled memory rounds told after := by
  have receives : trap.isReceive = true := asks.isReceive_iff.mpr rfl
  cases tried with
  | @refused fault unread => exact .failed nofun (refuse_leaves receives memory fault)
  | @followed visit states _ finished read story =>
      obtain ⟨checked, timeout, called⟩ := prepare_receive asks read
      obtain ⟨asked, rfl⟩ := Call.transfer.inj called
      have accounts : visit.Accounts rounds finished := story.holds begun
      cases ended : finished.outcome with
      | error fault =>
          obtain ⟨same, leaves⟩ := told_fault receives checked fault
          rw [same]
          have harmless := accounts.harmless fault ended
          rw [asked] at harmless
          exact .failed harmless leaves
      | ok answer =>
          obtain ⟨last, earlier, letter, lossy, rfl, takes, measured, rfl, spared⟩ :=
            accounts.receipt asked (story.met_intact begun) ended
          have fits : (letter.receipt trap.frame.r3.toNat lossy).payload.length ≤
              trap.frame.r3.toNat := List.length_take_le _ _
          obtain ⟨same, leaves⟩ := told_receipt receives checked fits
          rw [same]
          exact .received measured takes spared leaves

/-- No receive trap loses a message, from whatever state its engine has come to. The handle has one
message less if the trap says so, and then the buffer holds its first bytes and the registers say
how many; otherwise no mailbox has changed. And the information block says the same as the
registers, of success and of any failure. -/
theorem receive_consistent (limits : Limits) (past : List Operation)
    (reached : first.engine.registry = ((Engine.start limits).run past).registry)
    (asks : trap.Asks .receive) (tried : trap.Tried first memory rounds told frame after) :
    let endpoint : Endpoint := ⟨trap.pid, trap.frame.r1.toUInt16⟩
    (frame.r0 = Status.ok.code.toUInt32 ↔
      ∃ round ∈ rounds, ∃ letter, round.Takes endpoint letter) ∧
    (frame.r0 ≠ Status.ok.code.toUInt32 →
      (∀ round ∈ rounds, round.after.registry = round.met.registry) ∧
      ∀ position, ¬ trap.InInfo position → after.bytes[position]? = memory.bytes[position]?) ∧
    (frame.r0 = Status.ok.code.toUInt32 → ∃ last earlier letter,
      rounds = last :: earlier ∧ last.Takes endpoint letter ∧
      (∀ round ∈ earlier, round.after.registry = round.met.registry) ∧
      frame.r1.toNat = min trap.frame.r3.toNat letter.payload.length ∧
      ∀ position, ¬ trap.InInfo position → after.bytes[position]? =
        if (⟨trap.buffer, frame.r1.toNat⟩ : Area).Covers position then
          letter.payload[position - trap.buffer.toNat]?
        else memory.bytes[position]?) ∧
    (trap.info ≠ 0 → memory.covers trap.info InfoBlock.size = true →
      ∃ block, after.read trap.info InfoBlock.size = .ok block ∧
        Bytes.wideWords block =
          if frame.r0 = Status.ok.code.toUInt32 then
            [frame.r0, frame.r1, frame.r2, frame.r3, frame.r4]
          else [frame.r0, 0, 0, 0, 0]) := by
  have begun : first.engine.Intact := by
    unfold Engine.Intact
    rw [reached]
    exact Engine.run_intact limits past
  obtain ⟨rfl, _⟩ := tried.handled.reports
  have settled := tried.settled asks begun
  cases settled with
  | @failed _ fault _ spared leaves =>
      have unlike := report_fault_ne trap.frame fault
      refine ⟨iff_of_false unlike ?_, fun _ => ⟨spared, fun _ => leaves.failed_at⟩,
        fun same => absurd same unlike, fun given covers => leaves.block given covers trap.frame⟩
      rintro ⟨round, member, letter, takes⟩
      exact Round.not_takes_of_spared (spared round member) _ letter takes
  | @received last earlier letter lossy _ measured takes spared leaves =>
      let receipt := letter.receipt trap.frame.r3.toNat lossy
      have like := (report_ok_iff trap.frame (.ok (.receipt receipt))).mpr ⟨_, rfl⟩
      have length : receipt.payload.length = min trap.frame.r3.toNat letter.payload.length :=
        List.length_take
      have count := report_count trap.frame measured trap.frame.r3.toNat lossy
      refine ⟨iff_of_true like ⟨last, List.mem_cons_self, letter, takes⟩,
        fun unlike => absurd like unlike, fun _ => ?_,
        fun given covers => leaves.block given covers trap.frame⟩
      refine ⟨last, earlier, letter, rfl, takes, spared, count.trans length, ?_⟩
      intro position apart
      rw [leaves.delivered_at apart, count]
      split
      · rename_i covered
        obtain ⟨reached, inside⟩ : trap.buffer.toNat ≤ position ∧
            position < trap.buffer.toNat + receipt.payload.length := covered
        exact List.getElem?_take_of_lt (by omega)
      · rfl

def deskOffice : Exchange :=
  { engine := (Engine.start {}).run [.register 1, .send ⟨1, 1⟩ [97, 98, 99] 0 7] }

def overlapTrap : Trap := ⟨1, .call .receive [1, 8, 3, 0, 10]⟩

def overlapOutcome : Except Fault Answer := .ok (.receipt ⟨⟨3, .none, 1, 7⟩, [97, 98, 99]⟩)

def overlapRound : Round :=
  let after := (deskOffice.attempt 0 (.receive ⟨1, 1⟩ 3) none false).2
  ⟨deskOffice.engine, after.engine, after.clock⟩

theorem overlapTrap_tried :
    overlapTrap.Tried deskOffice (.zeros 64) [overlapRound]
      (overlapTrap.told (.zeros 64) overlapOutcome)
      (overlapTrap.finish (.zeros 64) overlapOutcome).1
      (overlapTrap.finish (.zeros 64) overlapOutcome).2 := by
  let visit : Visit := ⟨0, .receive ⟨1, 1⟩ 3, .poll, 0⟩
  let reading := deskOffice.attempt 0 visit.transfer visit.deadline (!visit.timeout.isPoll)
  have read : overlapTrap.prepare (.zeros 64) = .ok (.transfer visit.transfer visit.timeout) := by
    decide +kernel
  have ran : reading = (some overlapOutcome, reading.2) := Prod.ext (by decide +kernel) rfl
  have story := @Exchange.Story.enters deskOffice visit deskOffice reading.2 []
    (some overlapOutcome) .start (by decide +kernel) ran
  exact .followed read story

theorem overlapTrap_consistent :
    let ended := overlapTrap.finish (.zeros 64) overlapOutcome
    (∃ letter, overlapRound.Takes ⟨1, 1⟩ letter) ∧ ended.1.r1 = 3 ∧
      ∃ block, ended.2.read 10 20 = .ok block ∧ Bytes.wideWords block = [0, 3, 0, 7, 1] := by
  intro ended
  have ok : ended.1.r0 = Status.ok.code.toUInt32 := by decide +kernel
  obtain ⟨taken, _, _, written⟩ := receive_consistent {} _ rfl ⟨rfl, rfl⟩ overlapTrap_tried
  obtain ⟨round, member, takes⟩ := taken.mp ok
  obtain ⟨block, reads, words⟩ := written (by decide) (by decide +kernel)
  cases List.mem_singleton.mp member
  rw [if_pos ok] at words
  exact ⟨takes, by decide +kernel, block, reads, words.trans (by decide +kernel)⟩

end Trap

end Mailroom
