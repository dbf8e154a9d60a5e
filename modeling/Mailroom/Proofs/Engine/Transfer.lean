import Mailroom.Engine.Transfer
import Mailroom.Proofs.Engine.Opening
import Mailroom.Proofs.Traffic

/-!
Sending, receiving, peeking and tapping, each in its possible ends: what the engine is then and
which wakeups it leaves. What only watches leaves no trace, and what moves a message leaves a
passage.
-/

namespace Mailroom

namespace Mailbox

theorem Sound.marked_steady {mailbox : Mailbox} (sound : mailbox.Sound) (source : Endpoint) :
    mailbox.Steady [] (mailbox.marked source) := by
  have traffic := sound.marked_traffic source
  have changed : ∀ (endpoint : Endpoint) (subscription : Subscription),
      mailbox.subscribers[endpoint]? = some subscription →
        (mailbox.marked source).subscribers[endpoint]? = some subscription ∨
        (mailbox.marked source).subscribers[endpoint]? = some subscription.becomeSender := by
    intro endpoint subscription found
    rw [marked_at, found]
    split
    · exact Or.inr rfl
    · exact Or.inl rfl
  refine ⟨⟨traffic.name_eq, traffic.capacity_eq, traffic.policy_eq⟩, ?_, Or.inr ?_,
    Or.inr ⟨?_, ?_⟩⟩
  · rw [marked_queue]
    exact Nat.le_add_right _ _
  · intro endpoint subscription found empty
    rcases changed endpoint subscription found with same | sender
    · exact ⟨subscription, same, empty⟩
    · exact ⟨_, sender, Subscription.becomeSender_frames empty⟩
  · rw [marked_queue]
  · intro endpoint subscription found
    rcases changed endpoint subscription found with same | sender
    · exact ⟨subscription, same, fun reader => ⟨reader, Nat.le_refl _⟩⟩
    · refine ⟨_, sender, ?_⟩
      intro reader
      rw [Subscription.becomeSender_isReader] at reader
      cases reader

def announcing (id : MailboxId) (acceptance : Acceptance) : List Wakeup :=
  (if acceptance.fanout.fedAnyone || acceptance.taps.fedAnyone then
    [⟨⟨.subscriber, id⟩, .all⟩]
  else []) ++
  if acceptance.queued then [⟨⟨.readable, id⟩, .one⟩] else []

theorem announcing_count (id : MailboxId) (acceptance : Acceptance) :
    (announcing id acceptance).count ⟨⟨.readable, id⟩, .one⟩ =
      if acceptance.queued then 1 else 0 := by
  have other : (⟨⟨.subscriber, id⟩, .all⟩ : Wakeup) ≠ ⟨⟨.readable, id⟩, .one⟩ := by simp
  unfold announcing
  rw [List.count_append]
  split <;> split <;> simp

theorem Sound.posted_steady {mailbox : Mailbox} (sound : mailbox.Sound) {frame : Frame}
    (measured : frame.IsMeasured) (fits : frame.cost ≤ mailbox.capacity.toNat) :
    mailbox.Steady (announcing mailbox.id (mailbox.acceptance frame)) (mailbox.posted frame) := by
  have ringFits : ∀ (endpoint : Endpoint) (subscription : Subscription),
      mailbox.subscribers[endpoint]? = some subscription →
        frame.cost ≤ subscription.ring.capacity := by
    intro endpoint subscription found
    rw [sound.ring_capacity _ _ found]
    exact fits
  have changed : ∀ (endpoint : Endpoint) (subscription : Subscription),
      mailbox.subscribers[endpoint]? = some subscription →
        (mailbox.posted frame).subscribers[endpoint]? =
          some (if mailbox.feeds subscription then subscription.offered frame else subscription)
      := by
    intro endpoint subscription found
    rw [posted_at, found, Option.map_some]
  refine ⟨⟨rfl, rfl, rfl⟩, ?_, ?_, Or.inr ⟨?_, ?_⟩⟩
  · rw [announcing_count]
    by_cases queued : mailbox.policy = .queue
    · simp [Mailbox.posted, acceptance, queued, Ring.depth, Ring.appended]
    · simp [Mailbox.posted, acceptance, queued]
  · cases fed : (mailbox.acceptance frame).fanout.fedAnyone ||
        (mailbox.acceptance frame).taps.fedAnyone with
    | true => exact Or.inl (by simp [announcing, fed])
    | false =>
        right
        intro endpoint subscription found empty
        obtain ⟨unread, unwatched⟩ := Bool.or_eq_false_iff.mp fed
        refine ⟨_, changed _ _ found, ?_⟩
        split
        · rename_i fed
          have full : subscription.ring.free < frame.cost := by
            simp only [feeds, Bool.or_eq_true, Bool.and_eq_true, decide_eq_true_eq] at fed
            rcases fed with live | ⟨fanned, reader⟩
            · exact Subscribers.full_of_unfed unwatched found live
            · simp only [acceptance, fanned, if_false] at unread
              exact Subscribers.full_of_unfed unread found reader
          rw [Subscription.offered_ring_of_full measured (ringFits _ _ found) full]
          exact empty
        · exact empty
  · simp only [Mailbox.posted]
    split
    · simp only [Ring.free, Ring.appended]
      omega
    · exact Nat.le_refl _
  · intro endpoint subscription found
    refine ⟨_, changed _ _ found, ?_⟩
    split
    · intro reader
      rw [Subscription.offered_isReader] at reader
      exact ⟨reader, Subscription.offered_free_le measured (ringFits _ _ found)⟩
    · intro reader
      exact ⟨reader, Nat.le_refl _⟩

def acknowledging (id : MailboxId) (view : View) : List Wakeup :=
  if view.freesSenderSpace then [⟨⟨.writable, id⟩, .all⟩] else []

theorem withdrawn_steady {mailbox : Mailbox} {view : View}
    (tapped : ∀ (endpoint : Endpoint) (subscription : Subscription), view = .tap endpoint →
      mailbox.subscribers[endpoint]? = some subscription → subscription.isTap = true) :
    mailbox.Steady (acknowledging mailbox.id view) (mailbox.withdrawn view) := by
  have changed : ∀ (endpoint : Endpoint) (subscription : Subscription),
      mailbox.subscribers[endpoint]? = some subscription →
        (mailbox.withdrawn view).subscribers[endpoint]? = some subscription ∨
        ((view = .subscriber endpoint ∨ view = .tap endpoint) ∧
          (mailbox.withdrawn view).subscribers[endpoint]? = some subscription.taken) := by
    intro endpoint subscription found
    rw [withdrawn_at, found]
    split
    · rename_i seen
      exact Or.inr ⟨seen, rfl⟩
    · exact Or.inl rfl
  refine ⟨?_, ?_, Or.inr ?_, ?_⟩
  · cases view <;> exact ⟨rfl, rfl, rfl⟩
  · cases view with
    | queue =>
        simp only [withdrawn, Ring.depth, Ring.dropped, List.length_tail]
        omega
    | subscriber endpoint | tap endpoint => exact Nat.le_add_right _ _
  · intro endpoint subscription found empty
    rcases changed endpoint subscription found with same | ⟨_, taken⟩
    · exact ⟨subscription, same, empty⟩
    · refine ⟨_, taken, ?_⟩
      rw [Subscription.taken_of_empty empty]
      exact empty
  · cases view with
    | queue | subscriber endpoint =>
        exact Or.inl (by simp [acknowledging, View.freesSenderSpace])
    | tap endpoint =>
        right
        refine ⟨Nat.le_refl _, ?_⟩
        intro other subscription found
        rcases changed other subscription found with same | ⟨seen, taken⟩
        · exact ⟨subscription, same, fun reader => ⟨reader, Nat.le_refl _⟩⟩
        · refine ⟨_, taken, ?_⟩
          intro reader
          have watched : subscription.isTap = true := by
            rcases seen with impossible | here
            · cases impossible
            · exact tapped other subscription here found
          rw [Subscription.taken_isReader] at reader
          rw [Subscription.isReader_false_of_isTap watched] at reader
          cases reader

theorem switched_steady {mailbox : Mailbox} (endpoint : Endpoint) (enabled : Bool) :
    mailbox.Steady [] (mailbox.switched endpoint enabled) := by
  have changed : ∀ (other : Endpoint) (subscription : Subscription),
      mailbox.subscribers[other]? = some subscription →
        (mailbox.switched endpoint enabled).subscribers[other]? = some subscription ∨
        (mailbox.switched endpoint enabled).subscribers[other]? =
          some { subscription with kind := .tap enabled } := by
    intro other subscription found
    rw [switched_at, found]
    split
    · exact Or.inr rfl
    · exact Or.inl rfl
  refine ⟨⟨rfl, rfl, rfl⟩, Nat.le_add_right _ _, Or.inr ?_, Or.inr ⟨Nat.le_refl _, ?_⟩⟩
  · intro other subscription found empty
    rcases changed other subscription found with same | switched
    · exact ⟨subscription, same, empty⟩
    · exact ⟨_, switched, empty⟩
  · intro other subscription found
    rcases changed other subscription found with same | switched
    · exact ⟨subscription, same, fun reader => ⟨reader, Nat.le_refl _⟩⟩
    · exact ⟨_, switched, by simp [Subscription.isReader]⟩

end Mailbox

def Peek.of (ring : Ring) : Peek :=
  let state := RingState.of ring
  ⟨state.depth, state.used, state.capacity, state.nextLength.getD 0⟩

namespace Engine

open Scene

variable {engine : Engine} {endpoint : Endpoint} {binding : Binding} {mailbox : Mailbox}

theorem bindingOf_held (held : engine.handles.binding? endpoint = some binding) :
    bindingOf endpoint engine = (.ok binding, engine) := by
  simp only [bindingOf, Step.inspect, HandleTable.get, held]

theorem bindingOf_free (free : engine.handles.binding? endpoint = none) :
    bindingOf endpoint engine = (.error (.invalidHandle endpoint.pid endpoint.handle), engine) := by
  simp only [bindingOf, Step.inspect, HandleTable.get, free]

theorem update_same {id : MailboxId} (found : engine.registry.get? id = some mailbox)
    (same : mailbox.id = id) :
    { engine with registry := engine.registry.update mailbox } = engine := by
  subst same
  have table : engine.registry.mailboxes.insert mailbox.id mailbox = engine.registry.mailboxes :=
    Table.insert_same found
  simp only [Registry.update, table]

inductive Sends (engine : Engine) (endpoint : Endpoint) (payload : Bytes) (flags channel : UInt16) :
    Except Fault Nat → Engine → Prop
  | refused {fault : Fault} (other : fault ≠ .wouldBlock) (mild : fault.isInternal = false) :
      Sends engine endpoint payload flags channel (.error fault) engine
  | full {binding : Binding} {mailbox : Mailbox}
      (held : engine.handles.binding? endpoint = some binding)
      (found : engine.registry.get? binding.mailbox = some mailbox)
      (fits : framedSize payload.length ≤ mailbox.capacity.toNat)
      (full : (mailbox.marked endpoint).hasRoom (framedSize payload.length) = false) :
      Sends engine endpoint payload flags channel (.error .wouldBlock)
        { engine with registry := engine.registry.update (mailbox.marked endpoint) }
  | sent {binding : Binding} {mailbox : Mailbox} {frame : Frame}
      (held : engine.handles.binding? endpoint = some binding)
      (found : engine.registry.get? binding.mailbox = some mailbox)
      (fits : framedSize payload.length ≤ mailbox.capacity.toNat)
      (room : (mailbox.marked endpoint).hasRoom (framedSize payload.length) = true)
      (letter : frame = mailbox.letter endpoint (Flags.ofSender flags) channel payload) :
      Sends engine endpoint payload flags channel (.ok payload.length)
        (announce
          { engine with
            registry := engine.registry.update ((mailbox.marked endpoint).posted frame) }
          endpoint binding.mailbox channel payload.length
          ((mailbox.marked endpoint).acceptance frame))

def acceptance (endpoint : Endpoint) (payload : Bytes) (flags channel : UInt16)
    (mailbox : Mailbox) : Except Fault Acceptance × Mailbox :=
  mailbox.accept endpoint (Flags.ofSender flags) channel payload

theorem trySend_eq (endpoint : Endpoint) (payload : Bytes) (flags channel : UInt16) :
    trySend endpoint payload flags channel = Step.guarded
      (bindingOf endpoint >>= fun binding =>
        if binding.mode.canWrite then
          onMailbox binding.mailbox (acceptance endpoint payload flags channel) >>= fun accepted =>
            Step.change (fun engine =>
              engine.announce endpoint binding.mailbox channel payload.length accepted) >>= fun _ =>
              Pure.pure payload.length
        else Step.fail (.permissionDenied endpoint.handle .write)) := rfl

theorem trySend_cases
    (served : ∀ binding, engine.handles.binding? endpoint = some binding →
      binding.mode.canWrite = true → ∃ mailbox,
        engine.registry.get? binding.mailbox = some mailbox ∧ mailbox.id = binding.mailbox ∧
          mailbox.Sound)
    (running : engine.halted = none) {payload : Bytes} {flags channel : UInt16}
    {outcome : Except Fault Nat} {after : Engine}
    (ran : trySend endpoint payload flags channel engine = (outcome, after)) :
    engine.Sends endpoint payload flags channel outcome after := by
  rw [trySend_eq] at ran
  cases held : engine.handles.binding? endpoint with
  | none =>
      rw [Step.guarded_running running (Step.bind_error (bindingOf_free held)) (mild_error rfl)]
        at ran
      cases ran
      exact .refused (by simp) rfl
  | some binding =>
      have begun := bindingOf_held held
      by_cases writes : binding.mode.canWrite = true
      · obtain ⟨mailbox, found, same, sound⟩ := served binding held writes
        by_cases fits : framedSize payload.length ≤ mailbox.capacity.toNat
        · have accept := sound.accept_fitting endpoint (Flags.ofSender flags) channel fits
          cases room : (mailbox.marked endpoint).hasRoom (framedSize payload.length) with
          | true =>
              rw [room, if_pos rfl] at accept
              have first := onMailbox_found (acceptance endpoint payload flags channel) found accept
              rw [Step.guarded_running running (by
                rw [Step.bind_ok begun, if_pos writes, Step.bind_ok first]; rfl) (mild_ok _)] at ran
              cases ran
              exact .sent held found fits room rfl
          | false =>
              rw [room, if_neg (by simp)] at accept
              have first := onMailbox_found (acceptance endpoint payload flags channel) found accept
              rw [Step.guarded_running running (by
                rw [Step.bind_ok begun, if_pos writes, Step.bind_error first]) (mild_error rfl)]
                at ran
              cases ran
              exact .full held found fits room
        · have large := sound.accept_large endpoint (Flags.ofSender flags) channel
            (Nat.lt_of_not_le fits)
          have first := onMailbox_found (acceptance endpoint payload flags channel) found large
          rw [update_same found same] at first
          rw [Step.guarded_running running (by
            rw [Step.bind_ok begun, if_pos writes, Step.bind_error first]) (mild_error rfl)] at ran
          cases ran
          exact .refused (by simp) rfl
      · rw [Step.guarded_running running (by
          rw [Step.bind_ok begun, if_neg writes]; rfl) (mild_error rfl)] at ran
        cases ran
        exact .refused (by simp) rfl

theorem trySend_ends (sound : engine.scene.Sound) (running : engine.halted = none)
    {payload : Bytes} {flags channel : UInt16} {outcome : Except Fault Nat} {after : Engine}
    (ran : trySend endpoint payload flags channel engine = (outcome, after)) :
    engine.Sends endpoint payload flags channel outcome after := by
  refine trySend_cases (fun binding held _ => ?_) running ran
  obtain ⟨mailbox, found⟩ := sound.supports.present endpoint binding held
  have serves := sound.supports.serves binding.mailbox mailbox found
  exact ⟨mailbox, found, serves.id_eq, serves.sound⟩

theorem emitAll_eq (events : List Event) (engine : Engine) :
    engine.emitAll events = { engine with events := events.reverse ++ engine.events } := by
  induction events generalizing engine with
  | nil => rfl
  | cons event rest ih =>
      change (engine.emit event).emitAll rest = _
      rw [ih]
      simp [emit]

def announcements (endpoint : Endpoint) (id : MailboxId) (channel : UInt16) (bytes : Nat)
    (acceptance : Acceptance) : List Event :=
  .sent endpoint.pid id bytes channel ::
    ((acceptance.fanout.overrun ++ acceptance.taps.overrun).map fun subscriber =>
      Event.overrun id subscriber.pid subscriber.handle).reverse

theorem announcements_others {endpoint : Endpoint} {id : MailboxId} {channel : UInt16}
    {bytes : Nat} {acceptance : Acceptance} :
    ∀ event ∈ announcements endpoint id channel bytes acceptance, event.isCreated = false := by
  intro event member
  simp only [announcements, List.mem_cons, List.mem_reverse, List.mem_map] at member
  rcases member with rfl | ⟨subscriber, _, rfl⟩ <;> rfl

theorem announce_eq (engine : Engine) (endpoint : Endpoint) (id : MailboxId) (channel : UInt16)
    (bytes : Nat) (acceptance : Acceptance) :
    engine.announce endpoint id channel bytes acceptance =
      { engine with
        wakeups := Mailbox.announcing id acceptance ++ engine.wakeups
        events := announcements endpoint id channel bytes acceptance ++ engine.events } := by
  simp only [announce, emitAll_eq, emit, Mailbox.announcing, wake, announcements]
  cases acceptance.queued <;>
    cases acceptance.fanout.fedAnyone || acceptance.taps.fedAnyone <;> rfl

theorem acknowledge_eq (engine : Engine) (endpoint : Endpoint) (id : MailboxId) (view : View)
    (receipt : Receipt) :
    engine.acknowledge endpoint id view receipt =
      { engine with
        wakeups := Mailbox.acknowledging id view ++ engine.wakeups
        events :=
          [.received endpoint.pid id receipt.payload.length receipt.overrun] ++ engine.events } :=
    by
  cases view <;> rfl

theorem traffic_passes (sound : engine.scene.Sound) {id : MailboxId} {before after : Mailbox}
    (found : engine.registry.get? id = some before) (traffic : before.Traffic after)
    {news : List Wakeup} (steady : before.Steady news after) {events : List Event}
    (others : ∀ event ∈ events, event.isCreated = false) :
    engine.scene.Passes
      ({ engine with
        registry := engine.registry.update after
        wakeups := news ++ engine.wakeups
        events := events ++ engine.events } : Engine).scene := by
  have held : after.isUnreferenced = false := by
    have earlierHeld : before.isUnreferenced = false :=
      sound.tidy id before found (by simp [scene, expecting])
    simp only [Mailbox.isUnreferenced, traffic.references_eq, traffic.persistent_eq]
    exact earlierHeld
  exact sound.passes_update found (sound.supports.traffic found traffic) traffic.id_eq held
    (Or.inl rfl) steady (fun _ _ held => held) sound.handles others

theorem Sends.passes {payload : Bytes} {flags channel : UInt16} {outcome : Except Fault Nat}
    {after : Engine} (sound : engine.scene.Sound)
    (sends : engine.Sends endpoint payload flags channel outcome after) :
    Mild outcome ∧ engine.scene.Passes after.scene := by
  cases sends with
  | refused other mild => exact ⟨mild_error mild, Passes.refl sound⟩
  | @full binding mailbox held found fits full =>
      have serves := sound.supports.serves binding.mailbox mailbox found
      exact ⟨mild_error rfl, traffic_passes sound found (serves.sound.marked_traffic endpoint)
        (serves.sound.marked_steady endpoint) no_events⟩
  | @sent binding mailbox frame held found fits room letter =>
      have serves := sound.supports.serves binding.mailbox mailbox found
      have marked := serves.sound.marked_traffic endpoint
      have cost : frame.cost = framedSize payload.length := by rw [letter]; rfl
      have measured : frame.IsMeasured := by
        rw [letter]
        exact Mailbox.letter_measured endpoint _ channel fits
      have fits' : frame.cost ≤ (mailbox.marked endpoint).capacity.toNat := by
        rw [cost, marked.capacity_eq]
        exact fits
      have posted := marked.sound.posted_traffic measured fits' (by rw [cost]; exact room)
      have traffic := marked.trans posted
      have same : (mailbox.marked endpoint).id = binding.mailbox :=
        marked.id_eq.trans serves.id_eq
      have steady := (serves.sound.marked_steady endpoint).trans marked.id_eq
        (marked.sound.posted_steady measured fits')
      rw [announce_eq]
      rw [List.append_nil, same] at steady
      exact ⟨mild_ok _, traffic_passes sound found traffic steady announcements_others⟩

theorem trySend_succeeds (sound : engine.scene.Sound) (running : engine.halted = none)
    (endpoint : Endpoint) (payload : Bytes) (flags channel : UInt16) :
    Succeeds (trySend endpoint payload flags channel) engine :=
  fun _ _ ran =>
    have ended := (trySend_ends sound running ran).passes sound
    ends_well ended.1 ended.2

def reads (mode : Mode) : Bool := mode.canRead || mode.isTap

structure Reads (engine : Engine) (endpoint : Endpoint) (binding : Binding) (mailbox : Mailbox) :
    Prop where
  held : engine.handles.binding? endpoint = some binding
  found : engine.registry.get? binding.mailbox = some mailbox
  readable : reads binding.mode = true

theorem readableView_cases (sound : engine.scene.Sound) (endpoint : Endpoint) :
    (∃ binding mailbox, engine.Reads endpoint binding mailbox ∧
      readableView endpoint engine =
        (.ok (binding, mailbox.view endpoint binding.mode), engine)) ∨
    ∃ fault, readableView endpoint engine = (.error fault, engine) ∧
      (∀ binding mailbox, ¬ engine.Reads endpoint binding mailbox) ∧ fault ≠ .noData ∧
      fault.isInternal = false := by
  cases held : engine.handles.binding? endpoint with
  | none =>
      refine Or.inr ⟨_, Step.bind_error (bindingOf_free held), ?_, by simp, rfl⟩
      intro binding mailbox reader
      cases held.symm.trans reader.held
  | some binding =>
      have begun := bindingOf_held held
      by_cases readable : reads binding.mode = true
      · obtain ⟨mailbox, found⟩ := sound.supports.present endpoint binding held
        have found : engine.registry.get? binding.mailbox = some mailbox := found
        have allowed : (binding.mode.canRead || binding.mode.isTap) = true := readable
        refine Or.inl ⟨binding, mailbox, ⟨held, found, readable⟩, ?_⟩
        rw [readableView, Step.bind_ok begun, if_pos allowed, Step.bind_ok (mailboxOf_found found)]
        rfl
      · have denied : ¬ (binding.mode.canRead || binding.mode.isTap) = true := readable
        refine Or.inr ⟨.permissionDenied endpoint.handle .read, ?_, ?_, by simp, rfl⟩
        · rw [readableView, Step.bind_ok begun, if_neg denied]
          rfl
        · intro other mailbox reader
          cases held.symm.trans reader.held
          exact readable reader.readable

theorem Reads.view_eq (sound : engine.scene.Sound) (first : engine.Reads endpoint binding mailbox) :
    readableView endpoint engine = (.ok (binding, mailbox.view endpoint binding.mode), engine) := by
  rcases readableView_cases sound endpoint with
    ⟨other, there, second, viewed⟩ | ⟨_, _, unread, _⟩
  · cases first.held.symm.trans second.held
    cases first.found.symm.trans second.found
    exact viewed
  · exact absurd first (unread _ _)

theorem Reads.ring (sound : engine.scene.Sound) (reader : engine.Reads endpoint binding mailbox) :
    ∃ ring, mailbox.ringOf? (mailbox.view endpoint binding.mode) = some ring := by
  have serves := sound.supports.serves binding.mailbox mailbox reader.found
  have seated := serves.seated endpoint
  have held : engine.scene.bound endpoint = some binding := reader.held
  have seat : mailbox.seats binding.mode = true →
      ∃ subscription, mailbox.subscribers[endpoint]? = some subscription := by
    intro seats
    rw [held, Mailbox.tapped?] at seated
    simp only [Mailbox.wanted?, Option.bind_some, serves.id_eq, seats, and_self, if_true] at seated
    obtain ⟨subscription, there, _⟩ := Option.map_eq_some_iff.mp seated
    exact ⟨subscription, there⟩
  have readable := reader.readable
  unfold Mailbox.view
  by_cases tapped : binding.mode.isTap = true
  · obtain ⟨subscription, there⟩ := seat (by simp [Mailbox.seats, tapped])
    exact ⟨subscription.ring, by simp [tapped, Mailbox.ringOf?, there]⟩
  · by_cases queued : mailbox.policy = .queue
    · exact ⟨mailbox.queue, by simp [tapped, queued, Mailbox.ringOf?]⟩
    · have canRead : binding.mode.canRead = true := by simpa [reads, tapped] using readable
      obtain ⟨subscription, there⟩ := seat (by simp [Mailbox.seats, canRead, queued])
      exact ⟨subscription.ring, by simp [tapped, queued, Mailbox.ringOf?, there]⟩

theorem Reads.tapped (sound : engine.scene.Sound) (reader : engine.Reads endpoint binding mailbox)
    {other : Endpoint} {subscription : Subscription}
    (viewed : mailbox.view endpoint binding.mode = .tap other)
    (there : mailbox.subscribers[other]? = some subscription) : subscription.isTap = true := by
  have serves := sound.supports.serves binding.mailbox mailbox reader.found
  have held : engine.scene.bound endpoint = some binding := reader.held
  unfold Mailbox.view at viewed
  by_cases tapped : binding.mode.isTap = true
  · rw [if_pos tapped] at viewed
    cases viewed
    have seated := serves.seated endpoint
    have seats : mailbox.seats binding.mode = true := by simp [Mailbox.seats, tapped]
    rw [held, Mailbox.tapped?, there] at seated
    simp only [Mailbox.wanted?, Option.bind_some, serves.id_eq, seats, and_self, if_true, tapped,
      Option.map_some, Option.some.injEq] at seated
    exact seated
  · rw [if_neg tapped] at viewed
    split at viewed <;> cases viewed

inductive Receives (engine : Engine) (endpoint : Endpoint) (room : Nat) :
    Except Fault Receipt → Engine → Prop
  | refused {fault : Fault} (unread : ∀ binding mailbox, ¬ engine.Reads endpoint binding mailbox)
      (other : fault ≠ .noData) (mild : fault.isInternal = false) :
      Receives engine endpoint room (.error fault) engine
  | empty {binding : Binding} {mailbox : Mailbox} {ring : Ring}
      (reader : engine.Reads endpoint binding mailbox)
      (seen : mailbox.ringOf? (mailbox.view endpoint binding.mode) = some ring)
      (empty : ring.frames = []) : Receives engine endpoint room (.error .noData) engine
  | received {binding : Binding} {mailbox : Mailbox} {ring : Ring} {frame : Frame}
      {rest : List Frame} {receipt : Receipt} (reader : engine.Reads endpoint binding mailbox)
      (seen : mailbox.ringOf? (mailbox.view endpoint binding.mode) = some ring)
      (front : ring.frames = frame :: rest)
      (delivered :
        receipt = frame.receipt room (mailbox.lossAt (mailbox.view endpoint binding.mode))) :
      Receives engine endpoint room (.ok receipt)
        (acknowledge
          { engine with
            registry :=
              engine.registry.update (mailbox.withdrawn (mailbox.view endpoint binding.mode)) }
          endpoint binding.mailbox (mailbox.view endpoint binding.mode) receipt)

theorem tryReceive_eq (endpoint : Endpoint) (room : Nat) :
    tryReceive endpoint room = Step.guarded
      (readableView endpoint >>= fun seen =>
        onMailbox seen.1.mailbox (fun mailbox => mailbox.take seen.2 room) >>= fun taken =>
          match taken with
          | some receipt =>
            Step.change (fun engine =>
              engine.acknowledge endpoint seen.1.mailbox seen.2 receipt) >>= fun _ =>
              Pure.pure receipt
          | none => Step.fail .noData) := rfl

theorem tryReceive_ends (sound : engine.scene.Sound) (running : engine.halted = none) {room : Nat}
    {outcome : Except Fault Receipt} {after : Engine}
    (ran : tryReceive endpoint room engine = (outcome, after)) :
    engine.Receives endpoint room outcome after := by
  rw [tryReceive_eq] at ran
  rcases readableView_cases sound endpoint with
    ⟨binding, mailbox, reader, viewed⟩ | ⟨fault, failed, unread, other, mild⟩
  · have serves := sound.supports.serves binding.mailbox mailbox reader.found
    obtain ⟨ring, seen⟩ := reader.ring sound
    by_cases empty : ring.frames = []
    · have taken := onMailbox_found
        (fun other => other.take (mailbox.view endpoint binding.mode) room) reader.found
        (Mailbox.take_of_empty room seen empty)
      rw [update_same reader.found serves.id_eq] at taken
      rw [Step.guarded_running running (by
        rw [Step.bind_ok viewed]
        exact Step.bind_ok taken) (mild_error rfl)] at ran
      cases ran
      exact .empty reader seen empty
    · obtain ⟨frame, rest, front⟩ := List.exists_cons_of_ne_nil empty
      have taken := onMailbox_found
        (fun other => other.take (mailbox.view endpoint binding.mode) room) reader.found
        (serves.sound.take_of_front room seen front)
      rw [Step.guarded_running running (by
        rw [Step.bind_ok viewed]
        exact Step.bind_ok taken) (mild_ok _)] at ran
      cases ran
      exact .received reader seen front rfl
  · rw [Step.guarded_running running (Step.bind_error failed) (mild_error mild)] at ran
    cases ran
    exact .refused unread other mild

theorem Receives.passes {room : Nat} {outcome : Except Fault Receipt} {after : Engine}
    (sound : engine.scene.Sound) (receives : engine.Receives endpoint room outcome after) :
    Mild outcome ∧ engine.scene.Passes after.scene := by
  cases receives with
  | refused unread other mild => exact ⟨mild_error mild, Passes.refl sound⟩
  | empty reader seen empty => exact ⟨mild_error rfl, Passes.refl sound⟩
  | @received binding mailbox ring frame rest receipt reader seen front delivered =>
      have serves := sound.supports.serves binding.mailbox mailbox reader.found
      let view := mailbox.view endpoint binding.mode
      have steady :
          mailbox.Steady (Mailbox.acknowledging mailbox.id view) (mailbox.withdrawn view) :=
        Mailbox.withdrawn_steady fun other subscription viewed there =>
          reader.tapped sound viewed there
      rw [acknowledge_eq]
      rw [serves.id_eq] at steady
      exact ⟨mild_ok _, traffic_passes sound reader.found (serves.sound.withdrawn_traffic view)
        steady (by simp [Event.isCreated])⟩

theorem tryReceive_succeeds (sound : engine.scene.Sound) (running : engine.halted = none)
    (endpoint : Endpoint) (room : Nat) : Succeeds (tryReceive endpoint room) engine :=
  fun _ _ ran =>
    have ended := (tryReceive_ends sound running ran).passes sound
    ends_well ended.1 ended.2

theorem succeeds_of_still {α : Type} {step : Step α} (sound : engine.scene.Sound)
    (still : ∃ outcome, step engine = (outcome, engine) ∧ Mild outcome) : Succeeds step engine := by
  intro outcome after ran
  obtain ⟨ended, left, mild⟩ := still
  rw [left] at ran
  cases ran
  exact ends_well mild (Passes.refl sound)

def Sees (engine : Engine) (endpoint : Endpoint) (ring : Ring) : Prop :=
  ∃ binding mailbox, engine.Reads endpoint binding mailbox ∧
    mailbox.ringOf? (mailbox.view endpoint binding.mode) = some ring

theorem peek_eq (endpoint : Endpoint) :
    peek endpoint = Step.guarded
      (readableView endpoint >>= fun seen =>
        mailboxOf seen.1.mailbox >>= fun mailbox =>
          Step.inspect (fun _ => mailbox.stat seen.2) >>= fun state =>
            Pure.pure ⟨state.depth, state.used, state.capacity, state.nextLength.getD 0⟩) := rfl

theorem Sees.peek (sound : engine.scene.Sound) (running : engine.halted = none) {ring : Ring}
    (sees : engine.Sees endpoint ring) :
    Engine.peek endpoint engine = (.ok (Peek.of ring), engine) := by
  obtain ⟨binding, mailbox, reader, seen⟩ := sees
  have stat : Step.inspect (fun _ => mailbox.stat (mailbox.view endpoint binding.mode)) engine =
      (.ok (.of ring), engine) := by
    rw [Step.inspect, Mailbox.stat_eq seen]
  rw [peek_eq]
  refine Step.guarded_running running ?_ (mild_ok _)
  rw [Step.bind_ok (reader.view_eq sound), Step.bind_ok (mailboxOf_found reader.found)]
  exact Step.bind_ok stat

theorem peek_ends (sound : engine.scene.Sound) (running : engine.halted = none)
    (endpoint : Endpoint) : ∃ outcome, peek endpoint engine = (outcome, engine) ∧ Mild outcome := by
  rcases readableView_cases sound endpoint with
    ⟨binding, mailbox, reader, _⟩ | ⟨fault, failed, _, _, mild⟩
  · obtain ⟨ring, seen⟩ := reader.ring sound
    have sees : engine.Sees endpoint ring := ⟨binding, mailbox, reader, seen⟩
    exact ⟨_, sees.peek sound running, mild_ok _⟩
  · exact ⟨_, Step.guarded_running running (Step.bind_error failed) (mild_error mild),
      mild_error mild⟩

def switching (endpoint : Endpoint) (enabled : Bool) (mailbox : Mailbox) :
    Except Fault Unit × Mailbox :=
  match mailbox.subscribers.setTap endpoint enabled with
  | .ok subscribers => (.ok (), { mailbox with subscribers })
  | .error fault => (.error fault, mailbox)

inductive Switches (engine : Engine) (endpoint : Endpoint) (enabled : Bool) :
    Except Fault Unit → Engine → Prop
  | refused {fault : Fault} (mild : fault.isInternal = false) :
      Switches engine endpoint enabled (.error fault) engine
  | switched {binding : Binding} {mailbox : Mailbox} {subscription : Subscription}
      (held : engine.handles.binding? endpoint = some binding)
      (found : engine.registry.get? binding.mailbox = some mailbox)
      (there : mailbox.subscribers[endpoint]? = some subscription)
      (tapped : subscription.isTap = true) :
      Switches engine endpoint enabled (.ok ())
        { engine with
          registry := engine.registry.update (mailbox.switched endpoint enabled)
          events :=
            [.tapped endpoint.pid binding.mailbox endpoint.handle enabled] ++ engine.events }

theorem tap_ends (sound : engine.scene.Sound) (running : engine.halted = none) {enabled : Bool}
    {outcome : Except Fault Unit} {after : Engine}
    (ran : tap endpoint enabled engine = (outcome, after)) :
    engine.Switches endpoint enabled outcome after := by
  have tapEq : tap endpoint enabled = Step.guarded
      (bindingOf endpoint >>= fun binding =>
        if binding.mode.isTap then
          onMailbox binding.mailbox (switching endpoint enabled) >>= fun _ =>
            Step.change fun engine =>
              engine.emit (.tapped endpoint.pid binding.mailbox endpoint.handle enabled)
        else Step.fail (.tapUnsupported endpoint.handle)) := rfl
  rw [tapEq] at ran
  cases held : engine.handles.binding? endpoint with
  | none =>
      rw [Step.guarded_running running (Step.bind_error (bindingOf_free held)) (mild_error rfl)]
        at ran
      cases ran
      exact .refused rfl
  | some binding =>
      have begun := bindingOf_held held
      by_cases tapped : binding.mode.isTap = true
      · obtain ⟨mailbox, found⟩ := sound.supports.present endpoint binding held
        have found : engine.registry.get? binding.mailbox = some mailbox := found
        have serves := sound.supports.serves binding.mailbox mailbox found
        have seated := serves.seated endpoint
        have bound : engine.scene.bound endpoint = some binding := held
        have seats : mailbox.seats binding.mode = true := by simp [Mailbox.seats, tapped]
        rw [bound, Mailbox.tapped?] at seated
        simp only [Mailbox.wanted?, Option.bind_some, serves.id_eq, seats, and_self, if_true,
          tapped] at seated
        obtain ⟨subscription, there, isTap⟩ := Option.map_eq_some_iff.mp seated
        have switched : switching endpoint enabled mailbox =
            (.ok (), mailbox.switched endpoint enabled) := by
          rw [switching, Mailbox.setTap_eq there isTap]
          rfl
        have switch := onMailbox_found (switching endpoint enabled) found switched
        rw [Step.guarded_running running (by
          rw [Step.bind_ok begun, if_pos tapped, Step.bind_ok switch]; rfl) (mild_ok ())] at ran
        cases ran
        exact .switched held found there isTap
      · rw [Step.guarded_running running (by
          rw [Step.bind_ok begun, if_neg tapped]; rfl) (mild_error rfl)] at ran
        cases ran
        exact .refused rfl

theorem tap_succeeds (sound : engine.scene.Sound) (running : engine.halted = none)
    (endpoint : Endpoint) (enabled : Bool) : Succeeds (tap endpoint enabled) engine := by
  intro outcome after ran
  cases tap_ends sound running ran with
  | refused mild => exact ends_well (mild_error mild) (Passes.refl sound)
  | @switched binding mailbox subscription held found there tapped =>
      have serves := sound.supports.serves binding.mailbox mailbox found
      exact ends_well (mild_ok ()) (traffic_passes sound found
        (serves.sound.switched_traffic there tapped enabled)
        (Mailbox.switched_steady endpoint enabled) (by simp [Event.isCreated]))

def awaited : View → ConditionKind
  | .queue => .readable
  | .subscriber _ | .tap _ => .subscriber

theorem receiveCondition_of (sound : engine.scene.Sound) (running : engine.halted = none)
    (reader : engine.Reads endpoint binding mailbox) :
    receiveCondition endpoint engine =
      (.ok ⟨awaited (mailbox.view endpoint binding.mode), binding.mailbox⟩, engine) := by
  have conditionEq : receiveCondition endpoint = Step.guarded
      (readableView endpoint >>= fun seen =>
        match seen.2 with
        | .queue => Pure.pure ⟨.readable, seen.1.mailbox⟩
        | .subscriber _ | .tap _ => Pure.pure ⟨.subscriber, seen.1.mailbox⟩) := rfl
  rw [conditionEq]
  apply Step.guarded_running running _ (mild_ok _)
  rw [Step.bind_ok (reader.view_eq sound)]
  cases mailbox.view endpoint binding.mode <;> rfl

theorem receiveCondition_ends (sound : engine.scene.Sound) (running : engine.halted = none)
    (endpoint : Endpoint) :
    ∃ outcome, receiveCondition endpoint engine = (outcome, engine) ∧ Mild outcome := by
  rcases readableView_cases sound endpoint with
    ⟨binding, mailbox, reader, viewed⟩ | ⟨fault, failed, _, _, mild⟩
  · exact ⟨_, receiveCondition_of sound running reader, mild_ok _⟩
  · exact ⟨_, Step.guarded_running running (Step.bind_error failed) (mild_error mild),
      mild_error mild⟩

theorem sendCondition_of (running : engine.halted = none)
    (held : engine.handles.binding? endpoint = some binding) :
    sendCondition endpoint engine = (.ok ⟨.writable, binding.mailbox⟩, engine) :=
  Step.guarded_running running (Step.bind_ok (bindingOf_held held)) (mild_ok _)

theorem sendCondition_ends (running : engine.halted = none) (endpoint : Endpoint) :
    ∃ outcome, sendCondition endpoint engine = (outcome, engine) ∧ Mild outcome := by
  cases held : engine.handles.binding? endpoint with
  | some binding => exact ⟨_, sendCondition_of running held, mild_ok _⟩
  | none =>
      exact ⟨_, Step.guarded_running running (Step.bind_error (bindingOf_free held))
        (mild_error rfl), mild_error rfl⟩

end Engine

end Mailroom
