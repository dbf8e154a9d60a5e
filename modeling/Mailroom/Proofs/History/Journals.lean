import Mailroom.Proofs.History.Moments

/-!
Journals of subscribers: which messages came up for a subscriber, which of them did not fit into
its ring, and what it received. A journal tells what the ring holds, how many copies were lost and
whether that has been reported.
-/

namespace Mailroom

/-- What befalls a subscriber: a copy is put into its ring, or does not fit, or it receives one. -/
inductive Entry where
  | copied (message : Message)
  | missed (message : Message)
  | delivered (room : Nat) (receipt : Receipt)
  deriving DecidableEq, Repr, Inhabited

def Entry.delivered? : Entry → Option Delivery
  | .delivered room receipt => some ⟨room, false, receipt⟩
  | _ => none

abbrev Journal := List Entry

namespace Journal

def offers (journal : Journal) : List Message :=
  journal.filterMap fun
    | .copied message | .missed message => some message
    | .delivered .. => none

def copies (journal : Journal) : List Message :=
  journal.filterMap fun
    | .copied message => some message
    | _ => none

def misses (journal : Journal) : List Message :=
  journal.filterMap fun
    | .missed message => some message
    | _ => none

def unreported (lost : Bool) : Journal → Bool
  | [] => lost
  | .copied _ :: rest => unreported lost rest
  | .missed _ :: rest => unreported true rest
  | .delivered .. :: rest => unreported false rest

/-- What the subscriber received. A delivery is lossy if there was a miss since the one before. -/
def deliveries (lost : Bool) : Journal → List Delivery
  | [] => []
  | .copied _ :: rest => deliveries lost rest
  | .missed _ :: rest => deliveries true rest
  | .delivered room receipt :: rest => ⟨room, lost, receipt⟩ :: deliveries false rest

theorem offers_append (earlier later : Journal) :
    offers (earlier ++ later) = earlier.offers ++ later.offers := List.filterMap_append

theorem misses_append (earlier later : Journal) :
    misses (earlier ++ later) = earlier.misses ++ later.misses := List.filterMap_append

theorem unreported_append (lost : Bool) (earlier later : Journal) :
    unreported lost (earlier ++ later) = unreported (unreported lost earlier) later := by
  induction earlier generalizing lost with
  | nil => rfl
  | cons entry rest ih => cases entry <;> simp only [List.cons_append, unreported, ih]

theorem deliveries_append (lost : Bool) (earlier later : Journal) :
    deliveries lost (earlier ++ later) =
      deliveries lost earlier ++ deliveries (unreported lost earlier) later := by
  induction earlier generalizing lost with
  | nil => rfl
  | cons entry rest ih => cases entry <;> simp only [List.cons_append, deliveries, unreported, ih]

theorem whole_eq {journal : Journal} (whole : journal.misses = []) :
    journal.copies = journal.offers ∧
      journal.deliveries false = journal.filterMap Entry.delivered? := by
  induction journal with
  | nil => exact ⟨rfl, rfl⟩
  | cons entry rest ih =>
      cases entry with
      | missed message => cases whole
      | copied message => exact ⟨congrArg _ (ih whole).1, (ih whole).2⟩
      | delivered room receipt => exact ⟨(ih whole).1, congrArg _ (ih whole).2⟩

end Journal

namespace Subscription

def entry (subscription : Subscription) (message : Message) : Entry :=
  if message.cost ≤ subscription.ring.free then .copied message else .missed message

theorem misses_entry (subscription : Subscription) (message : Message) :
    Journal.misses [subscription.entry message] =
      if message.cost ≤ subscription.ring.free then [] else [message] := by
  unfold entry
  split <;> rfl

/-- The ring, the counter and the loss marker are as the journal since the subscriber came tells. -/
structure Accounts (subscription : Subscription) (journal : Journal) : Prop where
  carries :
    Carries [] journal.copies subscription.ring.messages (journal.deliveries false)
  dropped_eq : subscription.dropped = journal.misses.length
  pending_eq : subscription.lossPending = journal.unreported false
  filled : subscription.lossPending = true → subscription.ring.frames ≠ []

theorem IsNew.accounts {subscription : Subscription} (new : subscription.IsNew) :
    subscription.Accounts [] := by
  refine ⟨?_, new.dropped_eq, new.reported, ?_⟩
  · simp only [Ring.messages, new.empty, List.map_nil]
    exact .refl []
  · rw [new.reported]
    exact Bool.false_ne_true.elim

theorem Accounts.still {earlier later : Subscription} {journal : Journal}
    (accounts : earlier.Accounts journal) (ring_eq : later.ring = earlier.ring)
    (dropped_eq : later.dropped = earlier.dropped)
    (pending_eq : later.lossPending = earlier.lossPending) : later.Accounts journal := by
  obtain ⟨carries, dropped, pending, filled⟩ := accounts
  rw [← ring_eq] at carries
  rw [← ring_eq, ← pending_eq] at filled
  exact ⟨carries, dropped_eq.trans dropped, pending_eq.trans pending, filled⟩

theorem Accounts.offered {subscription : Subscription} {journal : Journal} {frame : Frame}
    (accounts : subscription.Accounts journal) (sound : subscription.ring.Sound)
    (measured : frame.IsMeasured) (fits : frame.cost ≤ subscription.ring.capacity) :
    (subscription.offered frame).Accounts (journal ++ [subscription.entry frame.message]) := by
  obtain ⟨carries, dropped, pending, filled⟩ := accounts
  by_cases room : frame.cost ≤ subscription.ring.free
  · have after : subscription.offered frame =
        { subscription with ring := subscription.ring.appended frame } := by
      rw [Subscription.offered, offer_of_room measured room]
    have copied : subscription.entry frame.message = .copied frame.message := if_pos room
    rw [after, copied]
    refine ⟨?_, ?_, ?_, ?_⟩
    · have more := carries.trans (subscription.ring.appended_carries frame)
      simpa [Journal.copies, Journal.deliveries_append, Journal.deliveries] using more
    · simpa [Journal.misses] using dropped
    · simpa [Journal.unreported_append, Journal.unreported] using pending
    · simp [Ring.appended]
  · have full := Nat.lt_of_not_le room
    have after : subscription.offered frame =
        { subscription with lossPending := true, dropped := subscription.dropped + 1 } := by
      rw [Subscription.offered, offer_of_full measured fits full]
    have missed : subscription.entry frame.message = .missed frame.message := if_neg room
    rw [after, missed]
    refine ⟨?_, ?_, ?_, fun _ empty => ?_⟩
    · simpa [Journal.copies, Journal.deliveries_append, Journal.deliveries] using carries
    · simp [Journal.misses, dropped]
    · simp [Journal.unreported_append, Journal.unreported]
    · have empty : subscription.ring.frames = [] := empty
      have unused := sound.used_eq
      rw [empty, Ring.load_nil] at unused
      simp only [Ring.free, unused] at full
      omega

theorem Accounts.taken {subscription : Subscription} {journal : Journal} {frame : Frame}
    {rest : List Frame} (accounts : subscription.Accounts journal)
    (sound : subscription.ring.Sound) (front : subscription.ring.frames = frame :: rest)
    (unmarked : ∀ message ∈ journal.copies, message.IsUnmarked) (room : Nat) :
    subscription.taken.Accounts
      (journal ++ [.delivered room (frame.receipt room subscription.lossPending)]) := by
  obtain ⟨carries, dropped, pending, _⟩ := accounts
  have after : subscription.taken =
      { subscription with ring := subscription.ring.dropped, lossPending := false } := by
    rw [Subscription.taken, if_neg (by simp [front])]
  rw [after]
  refine ⟨?_, ?_, ?_, Bool.false_ne_true.elim⟩
  · have plain : ∀ message ∈ subscription.ring.messages, message.IsUnmarked :=
      fun message member => unmarked message (carries.mem member)
    have more := carries.trans
      (Ring.dropped_carries sound plain front room subscription.lossPending)
    simpa [Journal.copies, Journal.deliveries_append, Journal.deliveries, ← pending] using more
  · simpa [Journal.misses] using dropped
  · simp [Journal.unreported_append, Journal.unreported]

end Subscription

def Engine.mailboxAt? (engine : Engine) (endpoint : Endpoint) : Option Mailbox :=
  (engine.handles.binding? endpoint).bind fun binding => engine.registry.get? binding.mailbox

def Event.overruns (endpoint : Endpoint) : Event → Bool
  | .overrun _ pid handle => decide (⟨pid, handle⟩ = endpoint)
  | _ => false

theorem Mailbox.acceptance_count (mailbox : Mailbox) (frame : Frame) (endpoint : Endpoint) :
    ((mailbox.acceptance frame).fanout.overrun ++
        (mailbox.acceptance frame).taps.overrun).count endpoint =
      mailbox.subscribers[endpoint]?.elim 0 fun subscription =>
        if mailbox.feeds subscription = true ∧ subscription.ring.free < frame.cost then 1 else 0 :=
  by
  have readers : (mailbox.acceptance frame).fanout.overrun.count endpoint =
      mailbox.subscribers[endpoint]?.elim 0 fun subscription =>
        if (mailbox.policy ≠ .queue ∧ subscription.isReader = true) ∧
          subscription.ring.free < frame.cost then 1 else 0 := by
    by_cases queued : mailbox.policy = .queue
    · cases mailbox.subscribers[endpoint]? <;> simp [Mailbox.acceptance, queued]
    · simp only [Mailbox.acceptance, queued, if_false, Subscribers.outcomeOf_count, ne_eq,
        not_false_eq_true, true_and]
  have taps := mailbox.subscribers.outcomeOf_count Subscription.isLiveTap frame endpoint
  rw [List.count_append, readers]
  simp only [Mailbox.acceptance, taps]
  cases mailbox.subscribers[endpoint]? with
  | none => rfl
  | some subscription =>
      simp only [Option.elim_some, Mailbox.feeds, Bool.or_eq_true, Bool.and_eq_true,
        decide_eq_true_eq]
      by_cases live : subscription.isLiveTap = true
      · simp [live, Subscription.isReader_of_isLiveTap live]
      · simp [live]

theorem Engine.announcements_count (endpoint source : Endpoint) (id : MailboxId)
    (channel : UInt16) (bytes : Nat) (acceptance : Acceptance) :
    (announcements source id channel bytes acceptance).countP (Event.overruns endpoint) =
      (acceptance.fanout.overrun ++ acceptance.taps.overrun).count endpoint := by
  simp only [announcements, List.countP_cons, List.countP_reverse, List.countP_map, Event.overruns,
    Bool.false_eq_true, if_false, Nat.add_zero, List.count]
  rfl

namespace Moment

def received? (endpoint : Endpoint) (moment : Moment) : Option (Nat × Receipt) :=
  moment.deed?.bind (Deed.received? endpoint)

def switched? (endpoint : Endpoint) (moment : Moment) : Option Bool :=
  moment.deed?.bind (Deed.switched? endpoint)

def noted? (endpoint : Endpoint) (moment : Moment) : Option Entry :=
  match moment.received? endpoint with
  | some (room, receipt) => some (.delivered room receipt)
  | none => do
    let mailbox ← moment.engine.mailboxAt? endpoint
    let subscription ← mailbox.subscribers[endpoint]?
    if subscription.kind = .tap false then none
    else (moment.accepted? mailbox.id).map subscription.entry

def delivered? (endpoint : Endpoint) (moment : Moment) : Option Delivery :=
  (moment.received? endpoint).map fun taken => ⟨taken.1, false, taken.2⟩

theorem delivered?_eq (endpoint : Endpoint) (moment : Moment) :
    (moment.noted? endpoint).bind Entry.delivered? = moment.delivered? endpoint := by
  simp only [noted?, delivered?]
  cases moment.received? endpoint with
  | some taken => rfl
  | none =>
      simp only [Option.map_none, Option.bind_eq_none_iff]
      rintro entry entered
      obtain ⟨mailbox, _, entered⟩ := Option.bind_eq_some_iff.mp entered
      obtain ⟨subscription, _, entered⟩ := Option.bind_eq_some_iff.mp entered
      split at entered
      · cases entered
      · obtain ⟨message, _, rfl⟩ := Option.map_eq_some_iff.mp entered
        simp only [Subscription.entry]
        split <;> rfl

def tries (endpoint : Endpoint) (moment : Moment) : Bool :=
  match moment.operation with
  | .send source payload _ _ =>
    decide (source = endpoint) && (moment.engine.mailboxAt? endpoint).any fun mailbox =>
      framedSize payload.length ≤ mailbox.capacity.toNat
  | _ => false

end Moment

def journal (endpoint : Endpoint) (history : List Moment) : Journal :=
  history.filterMap (Moment.noted? endpoint)

theorem Moment.noted?_accepted {endpoint : Endpoint} {moment : Moment} {message : Message}
    (copied : moment.noted? endpoint = some (.copied message)) :
    ∃ id, moment.accepted? id = some message := by
  simp only [noted?] at copied
  split at copied
  · cases copied
  · obtain ⟨mailbox, _, copied⟩ := Option.bind_eq_some_iff.mp copied
    obtain ⟨subscription, _, copied⟩ := Option.bind_eq_some_iff.mp copied
    split at copied
    · cases copied
    · obtain ⟨_, accepted, entered⟩ := Option.map_eq_some_iff.mp copied
      simp only [Subscription.entry] at entered
      split at entered
      · cases entered
        exact ⟨mailbox.id, accepted⟩
      · cases entered

theorem journal_unmarked {endpoint : Endpoint} {history : List Moment} {message : Message}
    (member : message ∈ (journal endpoint history).copies) : message.IsUnmarked := by
  obtain ⟨entry, listed, copied⟩ := List.mem_filterMap.mp member
  obtain ⟨moment, _, entered⟩ := List.mem_filterMap.mp listed
  cases entry with
  | copied other =>
      cases copied
      obtain ⟨id, accepted⟩ := Moment.noted?_accepted entered
      exact Moment.accepted_unmarked accepted
  | missed | delivered => cases copied

def watches (endpoint : Endpoint) (on : Bool) (history : List Moment) : Bool :=
  history.foldl (fun on moment => (moment.switched? endpoint).getD on) on

def watched (endpoint : Endpoint) (id : MailboxId) (on : Bool) : List Moment → List Message
  | [] => []
  | moment :: rest =>
    (if on then (moment.accepted? id).toList else []) ++
      watched endpoint id ((moment.switched? endpoint).getD on) rest

theorem watches_concat (endpoint : Endpoint) (on : Bool) (past : List Moment) (now : Moment) :
    watches endpoint on (past ++ [now]) =
      (now.switched? endpoint).getD (watches endpoint on past) := by
  simp only [watches, List.foldl_append, List.foldl_cons, List.foldl_nil]

theorem watched_concat (endpoint : Endpoint) (id : MailboxId) (on : Bool) (past : List Moment)
    (now : Moment) :
    watched endpoint id on (past ++ [now]) = watched endpoint id on past ++
      if watches endpoint on past then (now.accepted? id).toList else [] := by
  induction past generalizing on with
  | nil => exact List.append_nil _
  | cons moment rest ih =>
      simp only [List.cons_append, watched, ih, List.append_assoc]
      rfl

def overruns (endpoint : Endpoint) (history : List Moment) : Nat :=
  (history.flatMap Moment.news).countP (Event.overruns endpoint)

theorem overruns_concat (endpoint : Endpoint) (past : List Moment) (now : Moment) :
    overruns endpoint (past ++ [now]) =
      overruns endpoint past + now.news.countP (Event.overruns endpoint) := by
  simp only [overruns, List.flatMap_append, List.flatMap_cons, List.flatMap_nil, List.append_nil,
    List.countP_append]

end Mailroom
