import Mailroom.Host.Handler
import Mailroom.Proofs.Admission
import Mailroom.Proofs.History.Messages
import Mailroom.Proofs.Text.Hex
import Mailroom.Proofs.Waiting.Custody

/-!
Payloads survive the host byte for byte: what a request sends into an empty queue, in hexadecimal
or as text, the next request that receives from the queue is told in both forms.
-/

namespace Mailroom

namespace Payload

/-- How bytes are given as a payload: by their digits, in letters of any case, or by their text. -/
inductive Carries (bytes : Bytes) : Payload → Prop
  | hex {digits : String} (written : digits.toLower = Text.hex bytes) : Carries bytes (.hex digits)
  | text {words : String} (written : Bytes.ofText words = bytes) : Carries bytes (.text words)

theorem carries_iff {payload : Payload} {bytes : Bytes} :
    payload.Carries bytes ↔ payload.toBytes = .ok bytes := by
  constructor
  · rintro (written | written)
    · exact Text.unhex_iff.mpr written
    · exact congrArg Except.ok written
  · intro read
    cases payload with
    | text words => exact .text (Except.ok.inj read)
    | hex digits => exact .hex (Text.unhex_iff.mp read)

theorem carries_hex (bytes : Bytes) :
    Carries bytes (.hex (Text.hex bytes)) ∧ Carries bytes (.hex (Text.hex bytes).toUpper) := by
  rw [carries_iff, carries_iff]
  exact Text.unhex_hex bytes

end Payload

namespace Engine

def Feeds (engine : Engine) (endpoint : Endpoint) (id : MailboxId) : Prop :=
  ∃ binding, engine.handles.binding? endpoint = some binding ∧ binding.mailbox = id ∧
    binding.mode.canWrite = true

def Accommodates (engine : Engine) (id : MailboxId) (length : Nat) : Prop :=
  ∃ mailbox, engine.registry.get? id = some mailbox ∧ mailbox.policy = .queue ∧
    mailbox.queue.frames = [] ∧ framedSize length ≤ mailbox.capacity.toNat

variable {engine : Engine} {endpoint : Endpoint} {id : MailboxId}

theorem Accommodates.of_state {length : Nat} (capacity : UInt16)
    (state : (engine.registry.get? id).map (fun mailbox =>
      (mailbox.policy, mailbox.queue.frames, mailbox.capacity)) = some (.queue, [], capacity))
    (fits : framedSize length ≤ capacity.toNat) : engine.Accommodates id length := by
  obtain ⟨mailbox, found, same⟩ := Option.map_eq_some_iff.mp state
  obtain ⟨queued, empty, rfl⟩ : _ ∧ _ ∧ _ = capacity := by simpa only [Prod.mk.injEq] using same
  exact ⟨mailbox, found, queued, empty, fits⟩

theorem Feeds.sends (feeds : engine.Feeds endpoint id) (intact : engine.Intact)
    (running : engine.halted = none) {bytes : Bytes}
    (accommodates : engine.Accommodates id bytes.length) (flags channel : UInt16) :
    ∃ frame after, trySend endpoint bytes flags channel engine = (.ok bytes.length, after) ∧
      after.Holds id [frame] ∧ frame.IsMeasured ∧
      frame.message = ⟨endpoint.pid, channel, Flags.ofSender flags, bytes⟩ := by
  obtain ⟨binding, held, rfl, writes⟩ := feeds
  obtain ⟨mailbox, found, queued, empty, fits⟩ := accommodates
  obtain ⟨same, sound⟩ := intact binding.mailbox mailbox found
  have unmarked : mailbox.marked endpoint = mailbox := if_pos queued
  have room : (mailbox.marked endpoint).hasRoom (framedSize bytes.length) = true := by
    rw [unmarked, Mailbox.hasRoom, queued]
    refine Ring.hasRoom_iff.mpr ?_
    rw [sound.queue_sound.free_of_empty empty, sound.queue_capacity]
    exact fits
  have accept := sound.accept_fitting endpoint (Flags.ofSender flags) channel fits
  rw [if_pos room, unmarked] at accept
  let letter := mailbox.letter endpoint (Flags.ofSender flags) channel bytes
  let posted : Engine := { engine with registry := engine.registry.update (mailbox.posted letter) }
  have first : onMailbox binding.mailbox (acceptance endpoint bytes flags channel) engine =
      (.ok (mailbox.acceptance letter), posted) := onMailbox_found _ found accept
  have sent : trySend endpoint bytes flags channel engine =
      (.ok bytes.length, posted.announce endpoint binding.mailbox channel bytes.length
        (mailbox.acceptance letter)) := by
    rw [trySend_eq]
    refine Step.guarded_running running ?_ (mild_ok _)
    rw [Step.bind_ok (bindingOf_held held), if_pos writes, Step.bind_ok first]
    rfl
  refine ⟨letter, _, sent, ?_, Mailbox.letter_measured endpoint _ channel fits, rfl⟩
  rw [announce_eq]
  refine ⟨_, engine.registry.update_here same, queued, ?_⟩
  simp [Mailbox.posted, queued, Ring.appended, empty]

theorem Draws.receives (draws : engine.Draws endpoint id) (intact : engine.Intact)
    (running : engine.halted = none) {frame : Frame} {rest : List Frame}
    (holds : engine.Holds id (frame :: rest)) (room : Nat) :
    (tryReceive endpoint room engine).1 = .ok (frame.receipt room false) := by
  obtain ⟨binding, held, rfl, readable, untapped⟩ := draws
  obtain ⟨mailbox, found, queued, front⟩ := holds
  obtain ⟨-, sound⟩ := intact binding.mailbox mailbox found
  have view : mailbox.view endpoint binding.mode = .queue := by
    simp [Mailbox.view, untapped, queued]
  have viewed : readableView endpoint engine = (.ok (binding, .queue), engine) := by
    rw [readableView, Step.bind_ok (bindingOf_held held), if_pos (by simp [readable]),
      Step.bind_ok (mailboxOf_found found), view]
    rfl
  have take : mailbox.take .queue room =
      (.ok (some (frame.receipt room false)), mailbox.withdrawn .queue) :=
    sound.take_of_front room rfl front
  have taken := onMailbox_found (fun other => other.take .queue room) found take
  rw [tryReceive_eq, Step.guarded_running running (by
    rw [Step.bind_ok viewed]
    exact Step.bind_ok taken) (mild_ok _)]

end Engine

namespace Exchange

variable {exchange : Exchange} {endpoint : Endpoint} {engine : Engine} (caller : Nat)

theorem handle_send {payload : Payload} {bytes : Bytes} (read : payload.toBytes = .ok bytes)
    {flags channel : UInt16} {count : Nat}
    (sent : Engine.trySend endpoint bytes flags channel exchange.engine = (.ok count, engine))
    (timeout : UInt16) :
    exchange.handle caller (.send endpoint payload flags channel timeout) =
      (some (.accepted count), flush { exchange with engine }) := by
  have attempted : (Transfer.send endpoint bytes flags channel).attempt exchange.engine =
      (.ok (.count count), engine) := Step.bind_ok sent
  simp only [handle, Request.errand, read, begin, attempt, attempted]
  rfl

theorem handle_receive {room : Nat} {receipt : Receipt}
    (received : (Engine.tryReceive endpoint room exchange.engine).1 = .ok receipt)
    (timeout : UInt16) :
    (exchange.handle caller (.receive endpoint room timeout)).1 = some (.received receipt) := by
  have attempted : (Transfer.receive endpoint room).attempt exchange.engine =
      (.ok (.receipt receipt), _) := Step.bind_ok (Prod.ext received rfl)
  simp only [handle, Request.errand, begin, attempt, attempted]
  rfl

theorem handle_refused {digits : String} {fault : Text.HexFault}
    (refused : Text.unhex (Bytes.ofText digits) = .error fault) (exchange : Exchange)
    (endpoint : Endpoint) (flags channel timeout : UInt16) :
    exchange.handle caller (.send endpoint (.hex digits) flags channel timeout) =
      (some (.refused fault), exchange) := by
  simp only [handle, Request.errand, Payload.toBytes, refused]

/-- Nothing is in the way of so many bytes from one handle through an empty queue to another. -/
structure Clear (exchange : Exchange) (id : MailboxId) (length : Nat) (writer reader : Endpoint) :
    Prop where
  running : exchange.engine.halted = none
  accommodates : exchange.engine.Accommodates id length
  feeds : exchange.engine.Feeds writer id
  draws : exchange.engine.Draws reader id
  unattended : exchange.Unattended id

theorem receiptData_eq {frame : Frame} {source : Pid} {channel word : UInt16} {bytes : Bytes}
    (measured : frame.IsMeasured)
    (message : frame.message = ⟨source, channel, Flags.ofSender word, bytes⟩) {room : Nat}
    (enough : bytes.length ≤ room) (stamp : String) :
    Response.receiptData stamp (frame.receipt room false) =
      .object
        [("length", .nat bytes.length), ("flags", .word (Flags.ofSender word).bits),
         ("channel", .word channel), ("src_id", .word source), ("overrun", .bool false),
         ("hex", .text (Text.hex bytes)), ("text", .option .text (Bytes.text? bytes)),
         ("received_at", .text stamp)] := by
  have unmarked : frame.message.IsUnmarked := by
    rw [message]
    exact Flags.has_ofSender_overrun word
  obtain ⟨payload, length, origin, channel, flags, overrun⟩ :=
    Frame.yields measured unmarked room false
  rw [message] at payload origin channel flags overrun
  dsimp only at payload length origin channel flags overrun
  have whole : ¬ (room < bytes.length ∨ false = true) := by simp [enough]
  rw [if_neg whole] at flags
  rw [List.take_of_length_le enough] at payload
  have kept : (frame.receipt room false).overrun = false := by
    rw [← Bool.not_eq_true, overrun]
    exact whole
  simp only [Response.receiptData, Json.word, length, payload, origin, channel, flags, kept]

theorem Clear.sends {now : Exchange} {id : MailboxId} {bytes : Bytes} {writer reader : Endpoint}
    (clear : now.Clear id bytes.length writer reader) (intact : now.engine.Intact)
    {payload : Payload} (read : payload.toBytes = .ok bytes) (flags channel patience : UInt16) :
    let sent := now.handle caller (.send writer payload flags channel patience)
    sent.1 = some (.accepted bytes.length) ∧
      now.engine.Keeps id sent.2.engine ∧ sent.2.Unattended id ∧
      ∃ frame, sent.2.engine.Holds id [frame] ∧ frame.IsMeasured ∧
        frame.message = ⟨writer.pid, channel, Flags.ofSender flags, bytes⟩ := by
  obtain ⟨frame, engine, sent, holds, measured, message⟩ :=
    clear.feeds.sends intact clear.running clear.accommodates flags channel
  have keeps : now.engine.Keeps id (Engine.trySend writer bytes flags channel now.engine).2 :=
    Transfer.trySend_passesBy writer bytes flags channel now.engine intact not_false
  rw [sent] at keeps
  rw [handle_send caller read sent patience]
  have flushed : (flush { now with engine }).engine = { engine with wakeups := [] } :=
    flush_engine _
  refine ⟨rfl, ?_, ?_, frame, ?_, measured, message⟩
  · rw [flushed]
    exact keeps.trans (.of_same keeps.intact rfl rfl)
  · refine clear.unattended.goes ?_ fun waiter call suspended => ⟨waiter, call, ?_, rfl⟩
    · rw [flushed]
      exact keeps.handles_eq
    · rwa [flush_suspended] at suspended
  · rw [flushed]
    exact holds

/-- Bytes that are sent through an empty queue, given by their digits or by their text, are told to
the receiver in both forms, whatever the calls that wait do in the meantime. The digits that are
told stand for the bytes again, and digits that stand for nothing are refused without a trace. -/
theorem payloads_survive (limits : Limits) (stamp : String) (bytes : Bytes) :
    (∀ (now : Exchange) (past : List Exchange) (id : MailboxId) (writer reader : Endpoint)
      (payload : Payload) (sender : Nat) (flags channel patience : UInt16),
      Run (start limits) (now :: past) → now.Clear id bytes.length writer reader →
      payload.Carries bytes →
      let sent := now.handle sender (.send writer payload flags channel patience)
      sent.1.map (Response.reply stamp) =
        some (.success (.field "accepted" (.nat bytes.length))) ∧
      ∀ later, Relation.ReflTransGen Continues sent.2 later → later.engine.halted = none →
        ∀ (receiver room : Nat) (timeout : UInt16), bytes.length ≤ room →
          (later.handle receiver (.receive reader room timeout)).1.map (Response.reply stamp) =
            some (.success (.object
              [("length", .nat bytes.length), ("flags", .word (Flags.ofSender flags).bits),
               ("channel", .word channel), ("src_id", .word writer.pid),
               ("overrun", .bool false), ("hex", .text (Text.hex bytes)),
               ("text", .option .text (Bytes.text? bytes)), ("received_at", .text stamp)]))) ∧
    (Payload.Carries bytes (.hex (Text.hex bytes)) ∧
      Payload.Carries bytes (.hex (Text.hex bytes).toUpper) ∧
      (Payload.hex (Text.hex bytes)).toBytes = .ok bytes ∧
      ∀ words, Bytes.text? bytes = some words ↔ Bytes.ofText words = bytes) ∧
    ∀ digits : String, (digits.length % 2 = 1 ∨ ∃ char ∈ digits.toList, ¬ Text.IsHexDigit char) →
      ∀ (exchange : Exchange) (caller : Nat) (endpoint : Endpoint) (flags channel timeout : UInt16),
        ∃ fault, exchange.handle caller (.send endpoint (.hex digits) flags channel timeout) =
            (some (.refused fault), exchange) ∧
          (Response.refused fault).reply stamp = .failure (Payload.refusal fault) 5 := by
  refine ⟨?_, ⟨(Payload.carries_hex bytes).1, (Payload.carries_hex bytes).2,
    Payload.carries_iff.mp (Payload.carries_hex bytes).1, fun _ => Bytes.text_iff⟩, ?_⟩
  · intro now past id writer reader payload sender flags channel patience run clear carries sent
    have intact := run.intact (Engine.start_intact limits)
    obtain ⟨accepted, keeps, unattended, frame, holds, measured, message⟩ :=
      clear.sends sender intact (Payload.carries_iff.mp carries) flags channel patience
    refine ⟨congrArg (Option.map (Response.reply stamp)) accepted, ?_⟩
    intro later between running receiver room timeout enough
    obtain ⟨stays, _⟩ := continued_keeps between keeps.intact unattended
    obtain ⟨others, holds⟩ := stays.holds [frame] holds
    have draws : later.engine.Draws reader id := by
      rw [Engine.Draws, stays.handles_eq, keeps.handles_eq]
      exact clear.draws
    have received := draws.receives stays.intact running holds room
    rw [handle_receive receiver received timeout, Option.map_some, Response.reply,
      receiptData_eq measured message enough stamp]
  · intro digits bad exchange caller endpoint flags channel timeout
    obtain ⟨fault, refused⟩ := Text.unhex_refuses bad
    exact ⟨fault, handle_refused caller refused exchange endpoint flags channel timeout, rfl⟩

def box : Exchange := (start {}).performed (.bindName 1 "app:box" 64 3)

def boxWatched : Exchange :=
  ((box.performed (.openName 2 "app:box" 4)).performed (.tap ⟨2, 1⟩ true)).entered 2
    (.receive ⟨2, 1⟩ 64)

theorem boxWatched_unattended : boxWatched.Unattended ⟨1⟩ := by
  intro waiter call suspended
  let live := (box.performed (.openName 2 "app:box" 4)).performed (.tap ⟨2, 1⟩ true)
  have nobody : live.suspended[waiter]? = none := by
    rw [show live.suspended = (start {}).suspended from
      (flush_suspended _).trans ((flush_suspended _).trans (flush_suspended _))]
    exact Table.empty_at waiter
  have entered : live.attempt 2 (.receive ⟨2, 1⟩ 64) none true = (_, boxWatched) :=
    (Prod.eta _).symm
  rcases attempt_adds entered suspended with earlier | watches
  · rw [nobody] at earlier
    cases earlier
  · rw [watches]
    rintro ⟨binding, held, _, _, untapped⟩
    have tapping : boxWatched.engine.handles.binding? ⟨2, 1⟩ = some ⟨⟨1⟩, ⟨4⟩⟩ := by
      decide +kernel
    cases tapping.symm.trans held
    cases untapped

theorem boxWatched_clear : boxWatched.Clear ⟨1⟩ 2 ⟨1, 1⟩ ⟨1, 1⟩ :=
  ⟨by decide +kernel, .of_state 64 (by decide +kernel) (by decide),
    ⟨⟨⟨1⟩, ⟨3⟩⟩, by decide +kernel, rfl, by decide⟩,
    ⟨⟨⟨1⟩, ⟨3⟩⟩, by decide +kernel, rfl, by decide, by decide⟩, boxWatched_unattended⟩

/-- Two bytes that are no text, while a watcher of the box is woken and served; and a text that is
no bytes. -/
theorem watched_bytes_survive :
    let sent := boxWatched.handle 1 (.send ⟨1, 1⟩ (.hex "68FF") 0 7 0)
    let later := (sent.2.settleWithin 1).2
    sent.2.ready = [0] ∧
    sent.1.map (Response.reply "noon") = some (.success (.field "accepted" (.nat 2))) ∧
    (later.handle 1 (.receive ⟨1, 1⟩ 2 0)).1.map (Response.reply "noon") =
      some (.success (.object
        [("length", .nat 2), ("flags", .nat 0), ("channel", .nat 7), ("src_id", .nat 1),
         ("overrun", .bool false), ("hex", .text "68ff"), ("text", .null),
         ("received_at", .text "noon")])) ∧
    ∃ fault, boxWatched.handle 1 (.send ⟨1, 1⟩ (.hex "0g") 0 7 0) =
        (some (.refused fault), boxWatched) ∧
      (Response.refused fault).reply "noon" = .failure (Payload.refusal fault) 5 := by
  intro sent later
  have run : Run (start {}) [boxWatched, _, _, box, start {}] :=
    (((Run.start.performs 1 _ rfl).performs 2 _ rfl).performs 2 _ rfl).enters 2 _
  have carries : Payload.Carries [0x68, 0xff] (.hex "68FF") := .hex (by decide +kernel)
  obtain ⟨survives, _, refuses⟩ := payloads_survive {} "noon" [0x68, 0xff]
  obtain ⟨accepted, received⟩ := survives boxWatched _ ⟨1⟩ ⟨1, 1⟩ ⟨1, 1⟩ (.hex "68FF") 1 0 7 0 run
    boxWatched_clear carries
  have refused := refuses "0g" (Or.inr ⟨'g', by decide, by decide⟩) boxWatched 1 ⟨1, 1⟩ 0 7 0
  have written : Text.hex [0x68, 0xff] = "68ff" := by decide +kernel
  have unreadable : Bytes.text? [0x68, 0xff] = none := by decide +kernel
  have between := settleWithin_continues 1 sent.2
  have told := received later between (by decide +kernel) 1 2 0 (by decide)
  rw [written, unreadable] at told
  exact ⟨by decide +kernel, accepted, told, refused⟩

def boxTapped : Exchange := box.performed (.openName 2 "app:box" 5)

def boxHalted : Exchange := box.performed (.halt "stopped")

/-- A handle with read access that is a tap does not get what was sent, and an engine that was
halted takes nothing in. -/
theorem tapping_reader_hears_nothing :
    let sent := boxTapped.handle 1 (.send ⟨1, 1⟩ (.hex "6869") 0 0 0)
    Run (start {}) [boxTapped, box, start {}] ∧
    boxTapped.engine.Accommodates ⟨1⟩ 2 ∧ boxTapped.engine.Feeds ⟨1, 1⟩ ⟨1⟩ ∧
    (∃ binding, boxTapped.engine.handles.binding? ⟨2, 1⟩ = some binding ∧
      binding.mailbox = ⟨1⟩ ∧ binding.mode.canRead = true) ∧
    (∀ waiter : Nat, boxTapped.suspended[waiter]? = none) ∧
    (sent.1 matches some (.accepted 2)) ∧
    ((sent.2.handle 2 (.receive ⟨2, 1⟩ 2 0)).1 matches some (.fault .noData)) ∧
    ((boxHalted.handle 1 (.send ⟨1, 1⟩ (.hex "6869") 0 0 0)).1 matches
      some (.fault (.internal _))) := by
  refine ⟨(Run.start.performs 1 _ rfl).performs 2 _ rfl,
    .of_state 64 (by decide +kernel) (by decide),
    ⟨⟨⟨1⟩, ⟨3⟩⟩, by decide +kernel, rfl, by decide⟩,
    ⟨⟨⟨1⟩, ⟨5⟩⟩, by decide +kernel, rfl, by decide⟩, fun waiter => ?_, by decide +kernel,
    by decide +kernel, by decide +kernel⟩
  rw [show boxTapped.suspended = (start {}).suspended from
    (flush_suspended _).trans (flush_suspended _)]
  exact Table.empty_at waiter

end Exchange

end Mailroom
