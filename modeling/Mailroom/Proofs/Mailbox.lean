import Mailroom.Mailbox.Basic
import Mailroom.Proofs.Subscribers

/-!
What the operations of one mailbox do, said once and in full: accepting a message either turns it
away for its size, makes the sender wait, or puts it wherever the policy sends it; taking one
shortens one ring. None of them finds a broken counter in a sound mailbox.
-/

namespace Mailroom

def Frame.receipt (frame : Frame) (room : Nat) (lossy : Bool) : Receipt :=
  let receipt := frame.deliver room
  let flags :=
    if lossy then receipt.header.flags.union .overrun else receipt.header.flags
  { receipt with header := { receipt.header with flags } }

namespace Subscription

@[simp] theorem becomeSender_isTap (subscription : Subscription) :
    subscription.becomeSender.isTap = subscription.isTap := by
  unfold becomeSender
  split <;> rfl

@[simp] theorem becomeSender_capacity (subscription : Subscription) :
    subscription.becomeSender.ring.capacity = subscription.ring.capacity := by
  unfold becomeSender
  split <;> rfl

@[simp] theorem becomeSender_isReader (subscription : Subscription) :
    subscription.becomeSender.isReader = false := by
  unfold becomeSender
  split
  · simp [isReader]
  · rename_i other
    simpa using other

theorem becomeSender_sound {subscription : Subscription} (sound : subscription.ring.Sound) :
    subscription.becomeSender.ring.Sound := by
  unfold becomeSender
  split
  · exact sound.clear
  · exact sound

theorem becomeSender_of_tap {subscription : Subscription} (tapped : subscription.isTap = true) :
    subscription.becomeSender = subscription := by
  simp [becomeSender, isReader_false_of_isTap tapped]

theorem becomeSender_frames {subscription : Subscription}
    (empty : subscription.ring.frames = []) : subscription.becomeSender.ring.frames = [] := by
  unfold becomeSender
  split
  · rfl
  · exact empty

def taken (subscription : Subscription) : Subscription :=
  if subscription.ring.frames = [] then subscription
  else { subscription with ring := subscription.ring.dropped, lossPending := false }

theorem take_of_empty {subscription : Subscription} (empty : subscription.ring.frames = [])
    (room : Nat) : subscription.take room = (.ok none, subscription) := by
  simp only [take, Ring.pop_nil empty]

theorem take_of_front {subscription : Subscription} {frame : Frame} {rest : List Frame}
    (sound : subscription.ring.Sound) (front : subscription.ring.frames = frame :: rest)
    (room : Nat) :
    subscription.take room =
      (.ok (some (frame.receipt room subscription.lossPending)), subscription.taken) := by
  have filled : subscription.ring.frames ≠ [] := by simp [front]
  simp only [take, sound.pop_cons front, taken, filled, if_false, Frame.receipt]

@[simp] theorem taken_isTap (subscription : Subscription) :
    subscription.taken.isTap = subscription.isTap := by
  unfold taken
  split <;> rfl

@[simp] theorem taken_isReader (subscription : Subscription) :
    subscription.taken.isReader = subscription.isReader := by
  unfold taken
  split <;> rfl

@[simp] theorem taken_capacity (subscription : Subscription) :
    subscription.taken.ring.capacity = subscription.ring.capacity := by
  unfold taken
  split <;> rfl

theorem taken_sound {subscription : Subscription} (sound : subscription.ring.Sound) :
    subscription.taken.ring.Sound := by
  unfold taken
  split
  · exact sound
  · exact sound.dropped

theorem taken_of_empty {subscription : Subscription} (empty : subscription.ring.frames = []) :
    subscription.taken = subscription := by
  simp [taken, empty]

end Subscription

namespace Mailbox

/-- Every ring of the mailbox has the mailbox's capacity and keeps its books. -/
structure Sound (mailbox : Mailbox) : Prop where
  queue_capacity : mailbox.queue.capacity = mailbox.capacity.toNat
  queue_sound : mailbox.queue.Sound
  ring_capacity : ∀ (endpoint : Endpoint) (subscription : Subscription),
    mailbox.subscribers[endpoint]? = some subscription →
      subscription.ring.capacity = mailbox.capacity.toNat
  ring_sound : ∀ (endpoint : Endpoint) (subscription : Subscription),
    mailbox.subscribers[endpoint]? = some subscription → subscription.ring.Sound

theorem Sound.with_subscribers {mailbox : Mailbox} (sound : mailbox.Sound)
    {subscribers : Subscribers}
    (rings : ∀ (endpoint : Endpoint) (subscription : Subscription),
      subscribers[endpoint]? = some subscription →
        subscription.ring.capacity = mailbox.capacity.toNat ∧ subscription.ring.Sound) :
    ({ mailbox with subscribers } : Mailbox).Sound :=
  ⟨sound.queue_capacity, sound.queue_sound,
    fun endpoint subscription found => (rings endpoint subscription found).1,
    fun endpoint subscription found => (rings endpoint subscription found).2⟩

theorem sound_empty (id : MailboxId) (name : Name) (capacity : UInt16) (policy : Policy)
    (creator : Pid) (persistent : Bool) :
    (empty id name capacity policy creator persistent).Sound := by
  refine ⟨rfl, Ring.sound_empty _, ?_, ?_⟩ <;>
    · intro endpoint subscription found
      simp [empty] at found

def marked (mailbox : Mailbox) (source : Endpoint) : Mailbox :=
  if mailbox.policy = .queue then mailbox
  else { mailbox with subscribers := mailbox.subscribers.markSender source }

theorem marked_at (mailbox : Mailbox) (source endpoint : Endpoint) :
    (mailbox.marked source).subscribers[endpoint]? =
      if mailbox.policy ≠ .queue ∧ source = endpoint then
        mailbox.subscribers[endpoint]?.map Subscription.becomeSender
      else mailbox.subscribers[endpoint]? := by
  by_cases queued : mailbox.policy = .queue
  · simp [marked, queued]
  · simp only [marked, queued, if_false, Subscribers.markSender, Table.modify_at, ne_eq,
      not_false_eq_true, true_and]

@[simp] theorem marked_queue (mailbox : Mailbox) (source : Endpoint) :
    (mailbox.marked source).queue = mailbox.queue := by
  unfold marked
  split <;> rfl

@[simp] theorem marked_capacity (mailbox : Mailbox) (source : Endpoint) :
    (mailbox.marked source).capacity = mailbox.capacity := by
  unfold marked
  split <;> rfl

@[simp] theorem marked_policy (mailbox : Mailbox) (source : Endpoint) :
    (mailbox.marked source).policy = mailbox.policy := by
  unfold marked
  split <;> rfl

theorem Sound.marked {mailbox : Mailbox} (sound : mailbox.Sound) (source : Endpoint) :
    (mailbox.marked source).Sound := by
  unfold Mailbox.marked
  split
  · exact sound
  · apply sound.with_subscribers
    intro endpoint subscription found
    rw [Subscribers.markSender, Table.modify_at] at found
    split at found
    · cases before : mailbox.subscribers[endpoint]? with
      | none => simp [before] at found
      | some earlier =>
          rw [before, Option.map_some, Option.some.injEq] at found
          subst found
          exact ⟨by simp [sound.ring_capacity _ _ before],
            Subscription.becomeSender_sound (sound.ring_sound _ _ before)⟩
    · exact ⟨sound.ring_capacity _ _ found, sound.ring_sound _ _ found⟩

def feeds (mailbox : Mailbox) (subscription : Subscription) : Bool :=
  subscription.isLiveTap || (mailbox.policy ≠ .queue && subscription.isReader)

theorem feeds_iff {mailbox : Mailbox} {subscription : Subscription}
    (fanned : subscription.isTap = false → mailbox.policy ≠ .queue)
    (silent : subscription.sender = false) :
    mailbox.feeds subscription = true ↔ subscription.kind ≠ .tap false := by
  cases tapped : subscription.isTap with
  | true =>
      obtain ⟨enabled, kind⟩ := Subscription.kind_eq_tap tapped
      cases enabled <;> simp [feeds, Subscription.isLiveTap, Subscription.isReader, kind]
  | false =>
      have kind := Subscription.kind_eq_fanout tapped
      simp [feeds, Subscription.isLiveTap, Subscription.isReader, kind, silent, fanned tapped]

def posted (mailbox : Mailbox) (frame : Frame) : Mailbox :=
  { mailbox with
    nextSequence := mailbox.nextSequence + 1
    queue := if mailbox.policy = .queue then mailbox.queue.appended frame else mailbox.queue
    subscribers := mailbox.subscribers.offerTo mailbox.feeds frame }

def acceptance (mailbox : Mailbox) (frame : Frame) : Acceptance :=
  { sequence := frame.sequence
    queued := mailbox.policy = .queue
    fanout :=
      if mailbox.policy = .queue then {}
      else mailbox.subscribers.outcomeOf Subscription.isReader frame
    taps := mailbox.subscribers.outcomeOf Subscription.isLiveTap frame }

theorem posted_at (mailbox : Mailbox) (frame : Frame) (endpoint : Endpoint) :
    (mailbox.posted frame).subscribers[endpoint]? =
      mailbox.subscribers[endpoint]?.map fun subscription =>
        if mailbox.feeds subscription then subscription.offered frame else subscription :=
  Subscribers.offerTo_at _ _ _ _

theorem offerTo_both (mailbox : Mailbox) (frame : Frame) (fanned : mailbox.policy ≠ .queue) :
    (mailbox.subscribers.offerTo Subscription.isLiveTap frame).offerTo
        Subscription.isReader frame =
      mailbox.subscribers.offerTo mailbox.feeds frame := by
  apply Table.ext_at
  intro endpoint
  simp only [Subscribers.offerTo_at]
  cases mailbox.subscribers[endpoint]? with
  | none => rfl
  | some subscription =>
      simp only [Option.map_some, Option.some.injEq, feeds, fanned, ne_eq, not_false_eq_true,
        decide_true, Bool.true_and, Bool.or_eq_true]
      by_cases live : subscription.isLiveTap = true
      · simp [live, Subscription.isReader_of_isLiveTap live]
      · simp [live]

theorem offerTo_taps (mailbox : Mailbox) (frame : Frame) (queued : mailbox.policy = .queue) :
    mailbox.subscribers.offerTo Subscription.isLiveTap frame =
      mailbox.subscribers.offerTo mailbox.feeds frame := by
  simp [Subscribers.offerTo, feeds, queued]

theorem Sound.post_eq {mailbox : Mailbox} (sound : mailbox.Sound) {header : Header}
    {payload : Bytes} (measured : header.length.toNat = payload.length)
    (fits : framedSize payload.length ≤ mailbox.capacity.toNat)
    (room : mailbox.hasRoom (framedSize payload.length) = true) :
    mailbox.post header payload =
      (.ok (mailbox.acceptance ⟨mailbox.nextSequence, header, payload⟩),
        mailbox.posted ⟨mailbox.nextSequence, header, payload⟩) := by
  let frame : Frame := ⟨mailbox.nextSequence, header, payload⟩
  have framed : frame.IsMeasured := measured
  have ringFits : ∀ (endpoint : Endpoint) (subscription : Subscription),
      mailbox.subscribers[endpoint]? = some subscription →
        frame.cost ≤ subscription.ring.capacity := by
    intro endpoint subscription found
    rw [sound.ring_capacity _ _ found]
    exact fits
  have taps : mailbox.subscribers.replicateTaps frame =
      (.ok (mailbox.subscribers.outcomeOf Subscription.isLiveTap frame),
        mailbox.subscribers.offerTo Subscription.isLiveTap frame) :=
    Subscribers.replicate_eq framed ringFits
  have readers : (mailbox.subscribers.offerTo Subscription.isLiveTap frame).replicateReaders
      frame =
      (.ok (mailbox.subscribers.outcomeOf Subscription.isReader frame),
        (mailbox.subscribers.offerTo Subscription.isLiveTap frame).offerTo
          Subscription.isReader frame) := by
    rw [← Subscribers.outcomeOf_readers]
    apply Subscribers.replicate_eq framed
    intro endpoint subscription found
    rw [Subscribers.offerTo_at] at found
    obtain ⟨earlier, before, rfl⟩ := Option.map_eq_some_iff.mp found
    split <;> simpa using ringFits endpoint earlier before
  cases policy : mailbox.policy with
  | queue =>
      have push : mailbox.queue.push frame = .ok (mailbox.queue.appended frame) := by
        rw [hasRoom, policy] at room
        exact Ring.push_of_room framed (Ring.hasRoom_iff.mp room)
      simp only [post, taps, distribute, policy, push, acceptance, posted, frame, if_true,
        offerTo_taps _ _ policy, decide_true]
  | fanoutDrop =>
      have fanned : mailbox.policy ≠ .queue := by simp [policy]
      simp only [post, taps, distribute, policy, readers, acceptance, posted, frame, reduceCtorEq,
        if_false, offerTo_both _ _ fanned, decide_false]
  | fanoutBlock =>
      have fanned : mailbox.policy ≠ .queue := by simp [policy]
      have all : mailbox.subscribers.allHaveRoom frame.cost = true := by
        rw [hasRoom, policy] at room
        exact room
      simp only [post, taps, distribute, policy, readers, acceptance, posted, frame, reduceCtorEq,
        if_false, offerTo_both _ _ fanned, decide_false, Subscribers.overrun_nil all, if_true]

def letter (mailbox : Mailbox) (source : Endpoint) (flags : Flags) (channel : UInt16)
    (payload : Bytes) : Frame :=
  ⟨mailbox.nextSequence, ⟨UInt16.ofNat payload.length, flags, source.pid, channel⟩, payload⟩

theorem letter_measured {mailbox : Mailbox} {payload : Bytes} (source : Endpoint) (flags : Flags)
    (channel : UInt16) (fits : framedSize payload.length ≤ mailbox.capacity.toNat) :
    (mailbox.letter source flags channel payload).IsMeasured := by
  have bound := mailbox.capacity.toNat_lt
  simp only [framedSize] at fits
  simp only [Frame.IsMeasured, letter]
  exact UInt16.toNat_ofNat_of_lt' (by simp only [UInt16.size]; omega)

@[simp] theorem marked_nextSequence (mailbox : Mailbox) (source : Endpoint) :
    (mailbox.marked source).nextSequence = mailbox.nextSequence := by
  unfold marked
  split <;> rfl

theorem Sound.accept_large {mailbox : Mailbox} (sound : mailbox.Sound) {payload : Bytes}
    (source : Endpoint) (flags : Flags) (channel : UInt16)
    (large : mailbox.capacity.toNat < framedSize payload.length) :
    mailbox.accept source flags channel payload =
      (.error (.messageTooLarge (framedSize payload.length) mailbox.capacity.toNat), mailbox) := by
  have exceeds : framedSize payload.length > mailbox.capacity.toNat := large
  simp only [accept, Ring.costOf, sound.queue_capacity, exceeds, if_true]

/-- A message that could be held at all is accepted if the policy has room for it, after the
sender is marked, and makes the sender wait otherwise. -/
theorem Sound.accept_fitting {mailbox : Mailbox} (sound : mailbox.Sound) {payload : Bytes}
    (source : Endpoint) (flags : Flags) (channel : UInt16)
    (fits : framedSize payload.length ≤ mailbox.capacity.toNat) :
    mailbox.accept source flags channel payload =
      if (mailbox.marked source).hasRoom (framedSize payload.length) = true then
        (.ok ((mailbox.marked source).acceptance (mailbox.letter source flags channel payload)),
          (mailbox.marked source).posted (mailbox.letter source flags channel payload))
      else (.error .wouldBlock, mailbox.marked source) := by
  have measured : (⟨UInt16.ofNat payload.length, flags, source.pid, channel⟩ : Header).length.toNat
      = payload.length := letter_measured source flags channel fits
  have cost : mailbox.queue.costOf payload.length = .ok (framedSize payload.length) :=
    Ring.costOf_of_le (by rw [sound.queue_capacity]; exact fits)
  have short : ¬ payload.length > 0xffff := by
    have bound := mailbox.capacity.toNat_lt
    simp only [framedSize] at fits
    omega
  have mark : (if mailbox.policy = .queue then mailbox
      else { mailbox with subscribers := mailbox.subscribers.markSender source }) =
      mailbox.marked source := rfl
  simp only [accept, cost, short, if_false, mark]
  by_cases room : (mailbox.marked source).hasRoom (framedSize payload.length) = true
  · rw [if_pos room, if_pos room,
      (sound.marked source).post_eq measured (by rw [marked_capacity]; exact fits) room]
    simp only [letter, marked_nextSequence]
  · rw [if_neg room, if_neg room]

theorem Sound.posted {mailbox : Mailbox} (sound : mailbox.Sound) {frame : Frame}
    (measured : frame.IsMeasured) (fits : frame.cost ≤ mailbox.capacity.toNat)
    (room : mailbox.hasRoom frame.cost = true) : (mailbox.posted frame).Sound := by
  have rings : ∀ (endpoint : Endpoint) (subscription : Subscription),
      (mailbox.posted frame).subscribers[endpoint]? = some subscription →
        subscription.ring.capacity = mailbox.capacity.toNat ∧ subscription.ring.Sound := by
    intro endpoint subscription found
    rw [posted_at] at found
    obtain ⟨earlier, before, rfl⟩ := Option.map_eq_some_iff.mp found
    have capacity := sound.ring_capacity _ _ before
    have earlierSound := sound.ring_sound _ _ before
    split
    · exact ⟨by simpa using capacity,
        Subscription.offered_sound earlierSound measured (by rw [capacity]; exact fits)⟩
    · exact ⟨capacity, earlierSound⟩
  refine ⟨?_, ?_, fun endpoint subscription found => (rings endpoint subscription found).1,
    fun endpoint subscription found => (rings endpoint subscription found).2⟩
  · simp only [Mailbox.posted]
    split
    · exact sound.queue_capacity
    · exact sound.queue_capacity
  · simp only [Mailbox.posted]
    split
    · rename_i queued
      rw [hasRoom, queued] at room
      exact sound.queue_sound.appended measured (Ring.hasRoom_iff.mp room)
    · exact sound.queue_sound

def seats (mailbox : Mailbox) (mode : Mode) : Bool :=
  mode.isTap || (mode.canRead && mailbox.policy ≠ .queue)

def freshSeat (mailbox : Mailbox) (mode : Mode) : Subscription :=
  { kind := if mode.isTap then .tap false else .fanout
    ring := { capacity := mailbox.capacity.toNat } }

theorem freshSeat_isTap (mailbox : Mailbox) (mode : Mode) :
    (mailbox.freshSeat mode).isTap = mode.isTap := by
  cases tapped : mode.isTap <;> simp [freshSeat, tapped, Subscription.isTap]

theorem attach_eq (mailbox : Mailbox) (endpoint : Endpoint) (mode : Mode) :
    mailbox.attach endpoint mode =
      { mailbox with
        references := mailbox.references + 1
        subscribers :=
          if mailbox.seats mode then
            mailbox.subscribers.insert endpoint (mailbox.freshSeat mode)
          else mailbox.subscribers } := by
  cases tapped : mode.isTap with
  | true => simp [attach, view, tapped, seats, freshSeat, Subscribers.addTap]
  | false =>
      by_cases queued : mailbox.policy = .queue
      · simp [attach, view, tapped, seats, queued]
      · cases reads : mode.canRead <;>
          simp [attach, view, tapped, seats, queued, reads, freshSeat, Subscribers.addFanout]

theorem attach_at (mailbox : Mailbox) (endpoint other : Endpoint) (mode : Mode) :
    (mailbox.attach endpoint mode).subscribers[other]? =
      if mailbox.seats mode = true ∧ endpoint = other then some (mailbox.freshSeat mode)
      else mailbox.subscribers[other]? := by
  rw [attach_eq]
  by_cases seated : mailbox.seats mode = true
  · simp only [seated, if_true, Table.insert_at, true_and]
  · simp [seated]

theorem Sound.attach {mailbox : Mailbox} (sound : mailbox.Sound) (endpoint : Endpoint)
    (mode : Mode) : (mailbox.attach endpoint mode).Sound := by
  have rings : ∀ (other : Endpoint) (subscription : Subscription),
      (mailbox.attach endpoint mode).subscribers[other]? = some subscription →
        subscription.ring.capacity = mailbox.capacity.toNat ∧ subscription.ring.Sound := by
    intro other subscription found
    rw [attach_at] at found
    split at found
    · cases found
      exact ⟨rfl, Ring.sound_empty _⟩
    · exact ⟨sound.ring_capacity _ _ found, sound.ring_sound _ _ found⟩
  rw [attach_eq] at rings ⊢
  exact ⟨sound.queue_capacity, sound.queue_sound,
    fun other subscription found => (rings other subscription found).1,
    fun other subscription found => (rings other subscription found).2⟩

def detached (mailbox : Mailbox) (endpoint : Endpoint) : Mailbox :=
  { mailbox with
    references := mailbox.references - 1
    subscribers := mailbox.subscribers.erase endpoint }

theorem detach_eq {mailbox : Mailbox} (endpoint : Endpoint) (referenced : mailbox.references ≠ 0) :
    mailbox.detach endpoint = (.ok (), mailbox.detached endpoint) := by
  simp [detach, referenced, detached]

theorem Sound.detached {mailbox : Mailbox} (sound : mailbox.Sound) (endpoint : Endpoint) :
    (mailbox.detached endpoint).Sound := by
  have rings : ∀ (other : Endpoint) (subscription : Subscription),
      (mailbox.detached endpoint).subscribers[other]? = some subscription →
        mailbox.subscribers[other]? = some subscription := by
    intro other subscription found
    rw [Mailbox.detached, Table.erase_at] at found
    split at found
    · cases found
    · exact found
  exact ⟨sound.queue_capacity, sound.queue_sound,
    fun other subscription found => sound.ring_capacity other subscription (rings _ _ found),
    fun other subscription found => sound.ring_sound other subscription (rings _ _ found)⟩

def ringOf? (mailbox : Mailbox) : View → Option Ring
  | .queue => some mailbox.queue
  | .subscriber endpoint | .tap endpoint => mailbox.subscribers[endpoint]?.map Subscription.ring

def withdrawn (mailbox : Mailbox) : View → Mailbox
  | .queue => { mailbox with queue := mailbox.queue.dropped }
  | .subscriber endpoint | .tap endpoint =>
    { mailbox with subscribers := mailbox.subscribers.modify endpoint Subscription.taken }

theorem stat_eq {mailbox : Mailbox} {view : View} {ring : Ring}
    (found : mailbox.ringOf? view = some ring) : mailbox.stat view = .ok (.of ring) := by
  cases view with
  | queue =>
      cases found
      rfl
  | subscriber endpoint | tap endpoint =>
      obtain ⟨subscription, present, rfl⟩ := Option.map_eq_some_iff.mp found
      simp [stat, present]

theorem take_of_empty {mailbox : Mailbox} {view : View} {ring : Ring} (room : Nat)
    (found : mailbox.ringOf? view = some ring) (empty : ring.frames = []) :
    mailbox.take view room = (.ok none, mailbox) := by
  cases view with
  | queue =>
      cases found
      simp only [take, Ring.pop_nil empty]
      rfl
  | subscriber endpoint | tap endpoint =>
      obtain ⟨subscription, present, rfl⟩ := Option.map_eq_some_iff.mp found
      simp only [take, Subscribers.take, present, Subscription.take_of_empty empty,
        Table.insert_same present]

def lossAt (mailbox : Mailbox) : View → Bool
  | .queue => false
  | .subscriber endpoint | .tap endpoint =>
    (mailbox.subscribers[endpoint]?.map Subscription.lossPending).getD false

theorem Sound.take_of_front {mailbox : Mailbox} (sound : mailbox.Sound) {view : View}
    {ring : Ring} {frame : Frame} {rest : List Frame} (room : Nat)
    (found : mailbox.ringOf? view = some ring) (front : ring.frames = frame :: rest) :
    mailbox.take view room =
      (.ok (some (frame.receipt room (mailbox.lossAt view))), mailbox.withdrawn view) := by
  cases view with
  | queue =>
      cases found
      simp only [take, sound.queue_sound.pop_cons front]
      rfl
  | subscriber endpoint | tap endpoint =>
      obtain ⟨subscription, present, rfl⟩ := Option.map_eq_some_iff.mp found
      have taken := Subscription.take_of_front (sound.ring_sound _ _ present) front room
      simp only [take, Subscribers.take, present, taken, withdrawn, lossAt, Option.map_some,
        Option.getD_some]
      rw [Table.modify_of_some present]

theorem withdrawn_at (mailbox : Mailbox) (view : View) (endpoint : Endpoint) :
    (mailbox.withdrawn view).subscribers[endpoint]? =
      if view = .subscriber endpoint ∨ view = .tap endpoint then
        mailbox.subscribers[endpoint]?.map Subscription.taken
      else mailbox.subscribers[endpoint]? := by
  cases view with
  | queue => simp [withdrawn]
  | subscriber other | tap other => simp [withdrawn, Table.modify_at]

theorem withdrawn_ring {mailbox : Mailbox} {view : View} {ring : Ring}
    (seen : mailbox.ringOf? view = some ring) (filled : ring.frames ≠ []) :
    (mailbox.withdrawn view).ringOf? view = some ring.dropped := by
  cases view with
  | queue =>
      cases seen
      rfl
  | subscriber endpoint | tap endpoint =>
      obtain ⟨subscription, there, rfl⟩ := Option.map_eq_some_iff.mp seen
      have taken := mailbox.withdrawn_at (.subscriber endpoint) endpoint
      rw [if_pos (Or.inl rfl), there, Option.map_some] at taken
      simp only [withdrawn] at taken
      simp only [ringOf?, withdrawn, taken, Option.map_some, Subscription.taken, if_neg filled]

theorem Sound.ring {mailbox : Mailbox} (sound : mailbox.Sound) {view : View} {ring : Ring}
    (seen : mailbox.ringOf? view = some ring) : ring.Sound := by
  cases view with
  | queue =>
      cases seen
      exact sound.queue_sound
  | subscriber endpoint | tap endpoint =>
      obtain ⟨subscription, there, rfl⟩ := Option.map_eq_some_iff.mp seen
      exact sound.ring_sound endpoint subscription there

theorem Sound.withdrawn {mailbox : Mailbox} (sound : mailbox.Sound) (view : View) :
    (mailbox.withdrawn view).Sound := by
  have rings : ∀ (endpoint : Endpoint) (subscription : Subscription),
      (mailbox.withdrawn view).subscribers[endpoint]? = some subscription →
        subscription.ring.capacity = mailbox.capacity.toNat ∧ subscription.ring.Sound := by
    intro endpoint subscription found
    rw [withdrawn_at] at found
    split at found
    · obtain ⟨earlier, before, rfl⟩ := Option.map_eq_some_iff.mp found
      exact ⟨by simpa using sound.ring_capacity _ _ before,
        Subscription.taken_sound (sound.ring_sound _ _ before)⟩
    · exact ⟨sound.ring_capacity _ _ found, sound.ring_sound _ _ found⟩
  cases view with
  | queue =>
      exact ⟨sound.queue_capacity, sound.queue_sound.dropped, sound.ring_capacity,
        sound.ring_sound⟩
  | subscriber endpoint | tap endpoint => exact sound.with_subscribers rings

def switched (mailbox : Mailbox) (endpoint : Endpoint) (enabled : Bool) : Mailbox :=
  { mailbox with
    subscribers := mailbox.subscribers.modify endpoint fun subscription =>
      { subscription with kind := .tap enabled } }

theorem setTap_eq {mailbox : Mailbox} {endpoint : Endpoint} {subscription : Subscription}
    (found : mailbox.subscribers[endpoint]? = some subscription)
    (tapped : subscription.isTap = true) (enabled : Bool) :
    mailbox.subscribers.setTap endpoint enabled =
      .ok (mailbox.switched endpoint enabled).subscribers := by
  simp only [Subscribers.setTap, found, tapped, if_true, switched]
  rw [Table.modify_of_some found]

theorem switched_at (mailbox : Mailbox) (endpoint other : Endpoint) (enabled : Bool) :
    (mailbox.switched endpoint enabled).subscribers[other]? =
      if endpoint = other then
        mailbox.subscribers[other]?.map fun subscription =>
          { subscription with kind := .tap enabled }
      else mailbox.subscribers[other]? :=
  Table.modify_at _ _ _ _

theorem Sound.switched {mailbox : Mailbox} (sound : mailbox.Sound) (endpoint : Endpoint)
    (enabled : Bool) : (mailbox.switched endpoint enabled).Sound := by
  apply sound.with_subscribers
  intro other subscription found
  have found : (mailbox.switched endpoint enabled).subscribers[other]? = some subscription := found
  rw [switched_at] at found
  split at found
  · obtain ⟨earlier, before, rfl⟩ := Option.map_eq_some_iff.mp found
    exact ⟨sound.ring_capacity other earlier before, sound.ring_sound other earlier before⟩
  · exact ⟨sound.ring_capacity _ _ found, sound.ring_sound _ _ found⟩

end Mailbox

end Mailroom
