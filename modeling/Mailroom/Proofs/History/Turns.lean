import Mailroom.Proofs.History.Journals

/-!
What a moment does to a subscriber that is there before and after it, and that nothing else but its
journal tells.
-/

namespace Mailroom

structure Engine.Seats (engine : Engine) (endpoint : Endpoint) (binding : Binding)
    (mailbox : Mailbox) (subscription : Subscription) : Prop where
  held : engine.handles.binding? endpoint = some binding
  found : engine.registry.get? binding.mailbox = some mailbox
  there : mailbox.subscribers[endpoint]? = some subscription

namespace Engine

variable {engine : Engine} {endpoint : Endpoint} {binding : Binding} {mailbox : Mailbox}
  {subscription : Subscription}

theorem Seats.seat (seats : engine.Seats endpoint binding mailbox subscription)
    (sound : engine.scene.Sound) :
    mailbox.seats binding.mode = true ∧ binding.mode.isTap = subscription.isTap := by
  obtain ⟨other, held, _, seat, same⟩ :=
    (subscribed_iff sound seats.found endpoint subscription.isTap).mp
      ⟨subscription, seats.there, rfl⟩
  cases seats.held.symm.trans held
  exact ⟨seat, same⟩

theorem Seats.fanned (seats : engine.Seats endpoint binding mailbox subscription)
    (sound : engine.scene.Sound) (untapped : subscription.isTap = false) :
    mailbox.policy ≠ .queue := by
  obtain ⟨seat, same⟩ := seats.seat sound
  simp only [Mailbox.seats, same.trans untapped, Bool.false_or, Bool.and_eq_true,
    decide_eq_true_eq] at seat
  exact seat.2

theorem seats_of_mode (sound : engine.scene.Sound)
    (held : engine.handles.binding? endpoint = some binding)
    (found : engine.registry.get? binding.mailbox = some mailbox)
    (seat : mailbox.seats binding.mode = true) :
    ∃ subscription, engine.Seats endpoint binding mailbox subscription := by
  obtain ⟨subscription, there, _⟩ := (subscribed_iff sound found endpoint binding.mode.isTap).mpr
    ⟨binding, held, rfl, seat, rfl⟩
  exact ⟨subscription, held, found, there⟩

theorem Seats.elsewhere (seats : engine.Seats endpoint binding mailbox subscription)
    (sound : engine.scene.Sound) {here : MailboxId} {other : Mailbox}
    (found : engine.registry.get? here = some other) (apart : here ≠ binding.mailbox) :
    other.subscribers[endpoint]? = none := by
  cases there : other.subscribers[endpoint]? with
  | none => rfl
  | some stranger =>
      obtain ⟨bound, held, leads, _⟩ :=
        (subscribed_iff sound found endpoint stranger.isTap).mp ⟨stranger, there, rfl⟩
      cases seats.held.symm.trans held
      exact absurd leads.symm apart

end Engine

namespace Moment

structure Turns (moment : Moment) (endpoint : Endpoint) (mailbox : Mailbox)
    (earlier later : Subscription) : Prop where
  accounts : ∀ journal, earlier.Accounts journal →
    (∀ message ∈ journal.copies, message.IsUnmarked) →
      later.Accounts (journal ++ (moment.noted? endpoint).toList)
  kind_eq : later.kind = (moment.switched? endpoint).elim earlier.kind .tap
  sender_eq : later.sender = earlier.sender
  untapped : earlier.isTap = false → moment.switched? endpoint = none
  told_eq : moment.news.countP (Event.overruns endpoint) =
    (Journal.misses (moment.noted? endpoint).toList).length
  whole : mailbox.policy = .fanoutBlock → earlier.isTap = false →
    Journal.misses (moment.noted? endpoint).toList = []

variable {moment : Moment} {endpoint : Endpoint} {binding : Binding} {mailbox : Mailbox}
  {subscription : Subscription}

theorem noted?_received {room : Nat} {receipt : Receipt}
    (taken : moment.received? endpoint = some (room, receipt)) :
    moment.noted? endpoint = some (.delivered room receipt) := by
  simp only [noted?, taken]

theorem noted?_unread (seats : moment.engine.Seats endpoint binding mailbox subscription)
    (unread : moment.received? endpoint = none) :
    moment.noted? endpoint =
      if subscription.kind = .tap false then none
      else (moment.accepted? mailbox.id).map subscription.entry := by
  simp only [noted?, unread, Engine.mailboxAt?, seats.held, seats.found, seats.there,
    Option.bind_some, Option.bind_eq_bind]

theorem noted?_none (seats : moment.engine.Seats endpoint binding mailbox subscription)
    (unread : moment.received? endpoint = none) (unsent : moment.accepted? mailbox.id = none) :
    moment.noted? endpoint = none := by
  simp [noted?_unread seats unread, unsent]

theorem turns_still (idle : moment.noted? endpoint = none)
    (unswitched : moment.switched? endpoint = none)
    (untold : moment.news.countP (Event.overruns endpoint) = 0) :
    moment.Turns endpoint mailbox subscription subscription := by
  refine ⟨fun journal accounts _ => ?_, ?_, rfl, fun _ => unswitched, ?_, fun _ _ => ?_⟩
  · rw [idle, Option.toList_none, List.append_nil]
    exact accounts
  · rw [unswitched, Option.elim_none]
  · rw [untold, idle]
    rfl
  · rw [idle]
    rfl

theorem tries_of_send {payload : Bytes} {flags channel : UInt16}
    (sends : moment.operation = .send endpoint payload flags channel)
    (seats : moment.engine.Seats endpoint binding mailbox subscription)
    (fits : framedSize payload.length ≤ mailbox.capacity.toNat) : moment.tries endpoint = true := by
  simp [tries, sends, Engine.mailboxAt?, seats.held, seats.found, fits]

theorem marked_there {source : Endpoint} {payload : Bytes} {flags channel : UInt16}
    (seats : moment.engine.Seats endpoint binding mailbox subscription)
    (quiet : moment.tries endpoint = false ∨ subscription.isTap = true)
    (sends : moment.operation = .send source payload flags channel)
    (fits : framedSize payload.length ≤ mailbox.capacity.toNat) :
    (mailbox.marked source).subscribers[endpoint]? = some subscription := by
  rw [Mailbox.marked_at, seats.there]
  split
  · rename_i own
    obtain ⟨_, rfl⟩ := own
    rcases quiet with untried | tapped
    · rw [tries_of_send sends seats fits] at untried
      cases untried
    · rw [Option.map_some, Subscription.becomeSender_of_tap tapped]
  · rfl

theorem letter_holds (whole : mailbox.Sound)
    (there : mailbox.subscribers[endpoint]? = some subscription) {source : Endpoint}
    {payload : Bytes} {flags channel : UInt16} {frame : Frame}
    (fits : framedSize payload.length ≤ mailbox.capacity.toNat)
    (letter : frame = mailbox.letter source (.ofSender flags) channel payload) :
    frame.IsMeasured ∧ frame.cost ≤ subscription.ring.capacity := by
  subst letter
  refine ⟨Mailbox.letter_measured source _ channel fits, ?_⟩
  rw [whole.ring_capacity endpoint subscription there]
  exact fits

theorem posted_turns {source : Endpoint} {payload : Bytes} {flags channel : UInt16}
    {here : MailboxId} {frame : Frame} (sound : moment.engine.scene.Sound)
    (seats : moment.engine.Seats endpoint binding mailbox subscription)
    (silent : subscription.sender = false)
    (stays : (mailbox.marked source).subscribers[endpoint]? = some subscription)
    (leads : binding.mailbox = here) (done : moment.deed? = some (.accepted here frame.message))
    (fits : framedSize payload.length ≤ mailbox.capacity.toNat)
    (room : (mailbox.marked source).hasRoom frame.cost = true)
    (letter : frame = mailbox.letter source (.ofSender flags) channel payload)
    (told : moment.news = Engine.announcements source here channel payload.length
      ((mailbox.marked source).acceptance frame)) :
    ∃ later, ((mailbox.marked source).posted frame).subscribers[endpoint]? = some later ∧
      moment.Turns endpoint mailbox subscription later := by
  obtain ⟨sameId, whole⟩ := Engine.intact_of_sound sound _ _ seats.found
  have unread : moment.received? endpoint = none := by
    simp only [received?, done, Option.bind_some, Deed.received?]
  have unswitched : moment.switched? endpoint = none := by
    simp only [switched?, done, Option.bind_some, Deed.switched?]
  have accepted : moment.accepted? mailbox.id = some frame.message := by
    simp only [accepted?, done, Option.bind_some, Deed.accepted?, sameId, leads, if_true]
  have fed : (mailbox.marked source).feeds subscription = true ↔ subscription.kind ≠ .tap false :=
    Mailbox.feeds_iff (by rw [Mailbox.marked_policy]; exact seats.fanned sound) silent
  have missed : moment.news.countP (Event.overruns endpoint) =
      if subscription.kind ≠ .tap false ∧ subscription.ring.free < frame.cost then 1 else 0 := by
    rw [told, Engine.announcements_count, Mailbox.acceptance_count, stays, Option.elim_some]
    simp only [fed]
  have posted : ((mailbox.marked source).posted frame).subscribers[endpoint]? =
      some (if subscription.kind ≠ .tap false then subscription.offered frame else subscription) :=
    by
    rw [Mailbox.posted_at, stays, Option.map_some]
    simp only [fed]
  by_cases off : subscription.kind = .tap false
  · refine ⟨subscription, by rw [posted, if_neg (not_not_intro off)], ?_⟩
    refine turns_still ?_ unswitched ?_
    · rw [noted?_unread seats unread, if_pos off]
    · rw [missed, if_neg fun both => both.1 off]
  · refine ⟨subscription.offered frame, by rw [posted, if_pos off], ?_⟩
    have entry : moment.noted? endpoint = some (subscription.entry frame.message) := by
      rw [noted?_unread seats unread, if_neg off, accepted, Option.map_some]
    obtain ⟨measured, holds⟩ := letter_holds whole seats.there fits letter
    refine ⟨fun journal accounts _ => ?_, ?_, ?_, fun _ => unswitched, ?_,
      fun blocks untapped => ?_⟩
    · rw [entry]
      exact accounts.offered (whole.ring_sound endpoint subscription seats.there) measured holds
    · rw [unswitched, Option.elim_none, Subscription.offered_kind]
    · rw [Subscription.offered_sender]
    · rw [missed, entry, Option.toList_some, Subscription.misses_entry]
      by_cases enough : frame.message.cost ≤ subscription.ring.free
      · rw [if_neg fun both => Nat.not_lt.mpr enough both.2, if_pos enough]
        rfl
      · rw [if_pos ⟨off, Nat.lt_of_not_le enough⟩, if_neg enough]
        rfl
    · have reader : subscription.isReader = true := by
        simp [Subscription.isReader, Subscription.kind_eq_fanout untapped, silent]
      have all : (mailbox.marked source).subscribers.allHaveRoom frame.cost = true := by
        rw [Mailbox.hasRoom, Mailbox.marked_policy, blocks] at room
        exact room
      have enough : frame.message.cost ≤ subscription.ring.free :=
        (Subscribers.allHaveRoom_iff _ _).mp all endpoint subscription stays reader
      rw [entry, Option.toList_some, Subscription.misses_entry, if_pos enough]

theorem withdrawn_turns {room : Nat} {ring : Ring} {frame : Frame} {rest : List Frame}
    {receipt : Receipt} (sound : moment.engine.scene.Sound)
    (seats : moment.engine.Seats endpoint binding mailbox subscription)
    (done : moment.deed? = some (.received endpoint binding room receipt))
    (seen : mailbox.ringOf? (mailbox.view endpoint binding.mode) = some ring)
    (front : ring.frames = frame :: rest)
    (delivered :
      receipt = frame.receipt room (mailbox.lossAt (mailbox.view endpoint binding.mode)))
    (told : moment.news = [.received endpoint.pid binding.mailbox receipt.payload.length
      receipt.overrun]) :
    ∃ later, (mailbox.withdrawn (mailbox.view endpoint binding.mode)).subscribers[endpoint]? =
      some later ∧ moment.Turns endpoint mailbox subscription later := by
  have own : mailbox.view endpoint binding.mode = .subscriber endpoint ∨
      mailbox.view endpoint binding.mode = .tap endpoint := by
    cases tapped : binding.mode.isTap with
    | true => exact Or.inr (by simp [Mailbox.view, tapped])
    | false =>
        have fanned := seats.fanned sound ((seats.seat sound).2.symm.trans tapped)
        exact Or.inl (by simp [Mailbox.view, tapped, fanned])
  have sameRing : subscription.ring = ring := by
    rcases own with viewed | viewed <;>
      · rw [viewed] at seen
        simpa [Mailbox.ringOf?, seats.there] using seen
  have loss : mailbox.lossAt (mailbox.view endpoint binding.mode) = subscription.lossPending := by
    rcases own with viewed | viewed <;> simp [viewed, Mailbox.lossAt, seats.there]
  have unswitched : moment.switched? endpoint = none := by
    simp only [switched?, done, Option.bind_some, Deed.switched?]
  have entry : moment.noted? endpoint =
      some (.delivered room (frame.receipt room subscription.lossPending)) := by
    apply noted?_received
    rw [received?, done, Option.bind_some, Deed.received?, if_pos rfl, delivered, loss]
  have taken : subscription.taken.kind = subscription.kind ∧
      subscription.taken.sender = subscription.sender := by
    unfold Subscription.taken
    split <;> exact ⟨rfl, rfl⟩
  refine ⟨subscription.taken, ?_, fun journal accounts unmarked => ?_, ?_, taken.2,
    fun _ => unswitched, ?_, fun _ _ => ?_⟩
  · rw [Mailbox.withdrawn_at, if_pos own, seats.there, Option.map_some]
  · have whole := (Engine.intact_of_sound sound _ _ seats.found).2
    rw [entry]
    exact accounts.taken (whole.ring_sound endpoint subscription seats.there)
      (by rw [sameRing]; exact front) unmarked room
  · rw [unswitched, Option.elim_none, taken.1]
  · rw [told, entry]
    rfl
  · rw [entry]
    rfl

theorem switched_turns {enabled : Bool}
    (seats : moment.engine.Seats endpoint binding mailbox subscription)
    (tapped : subscription.isTap = true)
    (done : moment.deed? = some (.switched endpoint enabled))
    (told : moment.news = [.tapped endpoint.pid binding.mailbox endpoint.handle enabled]) :
    moment.Turns endpoint mailbox subscription { subscription with kind := .tap enabled } := by
  have unread : moment.received? endpoint = none := by
    simp only [received?, done, Option.bind_some, Deed.received?]
  have unsent : moment.accepted? mailbox.id = none := by
    simp only [accepted?, done, Option.bind_some, Deed.accepted?]
  have switched : moment.switched? endpoint = some enabled := by
    simp only [switched?, done, Option.bind_some, Deed.switched?, if_true]
  have idle := noted?_none seats unread unsent
  refine ⟨fun journal accounts _ => ?_, ?_, rfl, fun untapped => ?_, ?_, fun _ _ => ?_⟩
  · rw [idle, Option.toList_none, List.append_nil]
    exact accounts.still rfl rfl rfl
  · rw [switched, Option.elim_some]
  · rw [tapped] at untapped
    cases untapped
  · rw [told, idle]
    rfl
  · rw [idle]
    rfl

theorem Touches.turns {here : MailboxId} {changed : Mailbox}
    (touches : moment.Touches here mailbox changed) (sound : moment.engine.scene.Sound)
    (seats : moment.engine.Seats endpoint binding mailbox subscription)
    (leads : binding.mailbox = here) (silent : subscription.sender = false)
    (quiet : moment.tries endpoint = false ∨ subscription.isTap = true) :
    ∃ later, changed.subscribers[endpoint]? = some later ∧
      moment.Turns endpoint mailbox subscription later := by
  cases touches with
  | marked idle sends _ fits told =>
      refine ⟨subscription, marked_there seats quiet sends fits, turns_still ?_ ?_ ?_⟩
      · exact noted?_none seats (by simp [received?, idle]) (by simp [accepted?, idle])
      · simp [switched?, idle]
      · simp [told]
  | posted done sends _ fits room letter told =>
      have stays := marked_there seats quiet sends fits
      exact posted_turns sound seats silent stays leads done fits room letter told
  | @withdrawn reader _ other _ _ _ _ receipt done reads seen front delivered told =>
      by_cases own : reader = endpoint
      · subst own
        cases seats.held.symm.trans reads.held
        exact withdrawn_turns sound seats done seen front delivered told
      · have apart : ¬ (mailbox.view reader other.mode = .subscriber endpoint ∨
            mailbox.view reader other.mode = .tap endpoint) := by
          unfold Mailbox.view
          split
          · simp [own]
          · split <;> simp [own]
        refine ⟨subscription, ?_, turns_still ?_ ?_ ?_⟩
        · rw [Mailbox.withdrawn_at, if_neg apart, seats.there]
        · exact noted?_none seats (by simp [received?, done, Deed.received?, own])
            (by simp [accepted?, done, Deed.accepted?])
        · simp [switched?, done, Deed.switched?]
        · simp [told, Event.overruns]
  | @switched tapper enabled other _ tap done held there tapped told =>
      by_cases own : tapper = endpoint
      · subst own
        cases seats.held.symm.trans held
        cases seats.there.symm.trans there
        refine ⟨_, ?_, switched_turns seats tapped done told⟩
        rw [Mailbox.switched_at, if_pos rfl, seats.there, Option.map_some]
      · refine ⟨subscription, ?_, turns_still ?_ ?_ ?_⟩
        · rw [Mailbox.switched_at, if_neg own, seats.there]
        · exact noted?_none seats (by simp [received?, done, Deed.received?])
            (by simp [accepted?, done, Deed.accepted?])
        · simp [switched?, done, Deed.switched?, own]
        · simp [told, Event.overruns]

theorem Touches.turns_elsewhere {here : MailboxId} {before changed : Mailbox}
    (touches : moment.Touches here before changed)
    (seats : moment.engine.Seats endpoint binding mailbox subscription)
    (sameId : mailbox.id = binding.mailbox) (apart : here ≠ binding.mailbox)
    (absent : before.subscribers[endpoint]? = none) :
    moment.Turns endpoint mailbox subscription subscription := by
  have other : ∀ {reader : Endpoint} {bound : Binding}, bound.mailbox ≠ binding.mailbox →
      moment.engine.handles.binding? reader = some bound → reader ≠ endpoint := by
    rintro reader bound apart held rfl
    cases seats.held.symm.trans held
    exact apart rfl
  have unsent : moment.accepted? mailbox.id = none :=
    (touches.idle_elsewhere (by rw [sameId]; exact apart)).1
  cases touches with
  | marked idle _ _ _ told =>
      refine turns_still (noted?_none seats ?_ unsent) ?_ ?_
      · simp [received?, idle]
      · simp [switched?, idle]
      · simp [told]
  | @posted source _ _ _ _ _ frame done _ _ _ _ _ told =>
      have missing : (before.marked source).subscribers[endpoint]? = none := by
        rw [Mailbox.marked_at, absent]
        split <;> rfl
      refine turns_still (noted?_none seats ?_ unsent) ?_ ?_
      · simp [received?, done, Deed.received?]
      · simp [switched?, done, Deed.switched?]
      · rw [told, Engine.announcements_count, Mailbox.acceptance_count, missing]
        rfl
  | withdrawn done reads _ _ _ told =>
      have unequal := other apart reads.held
      refine turns_still (noted?_none seats ?_ unsent) ?_ ?_
      · simp [received?, done, Deed.received?, unequal]
      · simp [switched?, done, Deed.switched?]
      · simp [told, Event.overruns]
  | switched done held _ _ told =>
      have unequal := other apart held
      refine turns_still (noted?_none seats ?_ unsent) ?_ ?_
      · simp [received?, done, Deed.received?]
      · simp [switched?, done, Deed.switched?, unequal]
      · simp [told, Event.overruns]

theorem offers_entry (seats : moment.engine.Seats endpoint binding mailbox subscription) :
    Journal.offers (moment.noted? endpoint).toList =
      if subscription.kind = .tap false then [] else (moment.accepted? mailbox.id).toList := by
  cases unread : moment.received? endpoint with
  | some taken =>
      obtain ⟨room, receipt⟩ := taken
      obtain ⟨deed, done, mine⟩ := Option.bind_eq_some_iff.mp unread
      have unsent : moment.accepted? mailbox.id = none := by
        cases deed <;> first | cases mine | simp [accepted?, done, Deed.accepted?]
      rw [noted?_received unread, unsent, Option.toList_none, ite_self]
      rfl
  | none =>
      rw [noted?_unread seats unread]
      by_cases off : subscription.kind = .tap false
      · rw [if_pos off, if_pos off]
        rfl
      · rw [if_neg off, if_neg off]
        cases moment.accepted? mailbox.id with
        | none => rfl
        | some message =>
            simp only [Option.map_some, Option.toList_some, Subscription.entry]
            split <;> rfl

theorem Course.turns (course : moment.Course) (sound : moment.engine.scene.Sound)
    (still : moment.after.scene.Sound) {later : Subscription}
    (seats : moment.after.Seats endpoint binding mailbox later) :
    (moment.engine.handles.binding? endpoint = none ∧ later.IsNew) ∨
    ∃ before earlier, moment.engine.Seats endpoint binding before earlier ∧
      before.Lasts mailbox ∧
      (earlier.sender = false → moment.tries endpoint = false ∨ binding.mode.isTap = true →
        moment.Turns endpoint before earlier later) := by
  have intact := Engine.intact_of_sound sound
  cases course with
  | calm idle calm =>
      rcases calm.seats _ mailbox seats.found endpoint later seats.there with
        new | ⟨before, present, rests, there⟩
      · exact Or.inl new
      · obtain ⟨bound, held, _⟩ := (Engine.subscribed_iff sound present endpoint later.isTap).mp
          ⟨later, there, rfl⟩
        rcases calm.bound endpoint binding seats.held with free | same
        · cases free.symm.trans held
        · have seated : moment.engine.Seats endpoint binding before later := ⟨same, present, there⟩
          refine Or.inr ⟨before, later, seated, rests.lasts, fun _ _ => turns_still ?_ ?_ ?_⟩
          · exact noted?_none seated (by simp [received?, idle]) (by simp [accepted?, idle])
          · simp [switched?, idle]
          · obtain ⟨news, told, others⟩ := calm.spares
            rw [news_eq told, List.countP_eq_zero]
            intro event member missed
            have other := others event member
            cases event <;> simp [Event.overruns, Event.isOverrun] at missed other
  | @touched here before changed touches present registry_eq handles_eq =>
      have held : moment.engine.handles.binding? endpoint = some binding := by
        rw [← handles_eq]
        exact seats.held
      obtain ⟨sameId, whole⟩ := intact here before present
      obtain ⟨kept, lasts⟩ := touches.lasts sameId whole
      have found : (moment.engine.registry.update changed).get? binding.mailbox = some mailbox := by
        rw [← registry_eq]
        exact seats.found
      right
      rcases Registry.update_cases kept found with ⟨rfl, rfl⟩ | ⟨apart, there⟩
      · have seat : before.seats binding.mode = true := by
          rw [Mailbox.seats, ← lasts.policy_eq]
          exact (seats.seat still).1
        obtain ⟨earlier, seated⟩ := Engine.seats_of_mode sound held present seat
        refine ⟨before, earlier, seated, lasts, fun silent quiet => ?_⟩
        rw [(seated.seat sound).2] at quiet
        obtain ⟨next, stays, turns⟩ := touches.turns sound seated rfl silent quiet
        cases seats.there.symm.trans stays
        exact turns
      · have seated : moment.engine.Seats endpoint binding mailbox later :=
          ⟨held, there, seats.there⟩
        have absent := seated.elsewhere sound present apart
        exact ⟨mailbox, later, seated, .refl mailbox, fun _ _ =>
          touches.turns_elsewhere seated (intact _ _ there).1 apart absent⟩

end Moment

end Mailroom
