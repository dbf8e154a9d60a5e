import Mailroom.Proofs.History.Turns

/-!
Subscribers over a whole run. As long as a handle with a ring of its own stays open, its journal
accounts for the ring: a blocking fan-out loses nothing, and where copies are lost, each loss is
counted, told and reported with the next delivery.
-/

namespace Mailroom

structure Keeps (endpoint : Endpoint) (binding : Binding) (history : List Moment)
    (mailbox : Mailbox) (subscription : Subscription) : Prop where
  accounts : subscription.Accounts (journal endpoint history)
  offers_eq : (journal endpoint history).offers =
    if binding.mode.isTap then watched endpoint binding.mailbox false history
    else history.filterMap (Moment.accepted? binding.mailbox)
  kind_eq : subscription.kind =
    if binding.mode.isTap then .tap (watches endpoint false history) else .fanout
  sender_eq : subscription.sender = false
  told_eq : overruns endpoint history = (journal endpoint history).misses.length
  whole : mailbox.policy = .fanoutBlock → binding.mode.isTap = false →
    (journal endpoint history).misses = []

section Keeps

open Moment

variable {endpoint : Endpoint} {binding : Binding} {mailbox : Mailbox}
  {subscription : Subscription} {history : List Moment}

theorem keeps_new (new : subscription.IsNew) (same : binding.mode.isTap = subscription.isTap) :
    Keeps endpoint binding [] mailbox subscription := by
  refine ⟨new.accounts, ?_, ?_, new.silent, rfl, fun _ _ => rfl⟩
  · cases binding.mode.isTap <;> rfl
  · cases tapped : binding.mode.isTap with
    | false => exact Subscription.kind_eq_fanout (same.symm.trans tapped)
    | true =>
        obtain ⟨enabled, kind⟩ := Subscription.kind_eq_tap (same.symm.trans tapped)
        cases enabled with
        | true => exact absurd kind new.off
        | false => exact kind

theorem journal_concat (now : Moment) :
    journal endpoint (history ++ [now]) =
      journal endpoint history ++ (now.noted? endpoint).toList :=
  filterMap_concat _ _ _

theorem Keeps.step {now : Moment} {later : Subscription}
    (keeps : Keeps endpoint binding history mailbox subscription)
    (seats : now.engine.Seats endpoint binding mailbox subscription)
    (sound : now.engine.scene.Sound)
    (turns : now.Turns endpoint mailbox subscription later) :
    Keeps endpoint binding (history ++ [now]) mailbox later := by
  have sameId := (Engine.intact_of_sound sound _ _ seats.found).1
  have isTap := (seats.seat sound).2.symm
  have offers := offers_entry seats
  rw [sameId] at offers
  refine ⟨?_, ?_, ?_, turns.sender_eq.trans keeps.sender_eq, ?_, fun blocks untapped => ?_⟩
  · rw [journal_concat]
    exact turns.accounts _ keeps.accounts fun message member => journal_unmarked member
  · rw [journal_concat, Journal.offers_append, keeps.offers_eq, offers, keeps.kind_eq]
    cases tapped : binding.mode.isTap with
    | false => simp only [Bool.false_eq_true, if_false, reduceCtorEq, filterMap_concat]
    | true =>
        simp only [if_true, watched_concat, SubscriptionKind.tap.injEq]
        cases watches endpoint false history <;> rfl
  · rw [turns.kind_eq, keeps.kind_eq]
    cases tapped : binding.mode.isTap with
    | false =>
        rw [turns.untapped (isTap.trans tapped)]
        rfl
    | true =>
        simp only [if_true, watches_concat]
        cases now.switched? endpoint <;> rfl
  · rw [overruns_concat, journal_concat, Journal.misses_append, List.length_append, keeps.told_eq,
      turns.told_eq]
  · rw [journal_concat, Journal.misses_append, keeps.whole blocks untapped,
      turns.whole blocks (isTap.trans untapped)]
    rfl

theorem Keeps.lasts {before : Mailbox} (keeps : Keeps endpoint binding history before subscription)
    (lasts : before.Lasts mailbox) : Keeps endpoint binding history mailbox subscription :=
  { keeps with whole := fun blocks => keeps.whole (lasts.policy_eq ▸ blocks) }

end Keeps

namespace Engine

open Moment

/-- Induction on the last operation: it opened the handle, or the handle was open before it and
what has held so far holds on. -/
theorem run_keeps (limits : Limits) (operations : List Operation)
    (few : ((start limits).run operations).registrations ≤ Registry.mostNumbers)
    {endpoint : Endpoint} {binding : Binding} {mailbox : Mailbox} {subscription : Subscription}
    (seats : ((start limits).run operations).Seats endpoint binding mailbox subscription)
    (quiet : (∀ moment ∈ openTime endpoint ((start limits).moments operations),
      moment.tries endpoint = false) ∨ binding.mode.isTap = true) :
    Keeps endpoint binding (openTime endpoint ((start limits).moments operations)) mailbox
      subscription := by
  induction operations using List.reverseRecOn generalizing mailbox subscription with
  | nil =>
      have found := seats.found
      simp [run, start, Registry.withLimit, Registry.get?] at found
  | append_singleton past last ih =>
      let now : Moment := ⟨(start limits).run past, last⟩
      have sooner := run_sooner few
      have still : ((start limits).run (past ++ [last])).scene.Sound :=
        run_sound _ (start_sound limits) few
      have same := (seats.seat still).2
      rw [run_concat] at few seats still
      have sound : now.engine.scene.Sound := run_sound past (start_sound limits) sooner
      rw [moments_concat, openTime, since_concat] at quiet ⊢
      rcases (now.course sound few).turns sound still seats with
        ⟨free, new⟩ | ⟨before, earlier, seated, lasts, turns⟩
      · have closed : ((start limits).run past).handles.binding? endpoint = none := free
        rw [closed, if_neg (by simp)]
        exact keeps_new new same
      · have held : ((start limits).run past).handles.binding? endpoint = some binding :=
          seated.held
        rw [held, Option.isSome_some, if_pos rfl] at quiet ⊢
        have kept := ih sooner seated (quiet.imp_left fun silent moment member =>
          silent moment (List.mem_append_left _ member))
        have unsent := quiet.imp_left fun silent =>
          silent now (List.mem_append_right _ (List.mem_singleton_self now))
        exact (kept.step seated sound (turns kept.sender_eq unsent)).lasts lasts

/-- A reader of a blocking fan-out that does not send gets everything that the mailbox accepts
while the reader is open, once and in order. -/
theorem blocking_fanout_lossless (limits : Limits) (operations : List Operation)
    (few : ((start limits).run operations).registrations ≤ Registry.mostNumbers)
    {endpoint : Endpoint} {binding : Binding} {mailbox : Mailbox}
    (held : ((start limits).run operations).handles.binding? endpoint = some binding)
    (found : ((start limits).run operations).registry.get? binding.mailbox = some mailbox)
    (blocks : mailbox.policy = .fanoutBlock) (readable : binding.mode.canRead = true)
    (untapped : binding.mode.isTap = false)
    (silent : ∀ moment ∈ openTime endpoint ((start limits).moments operations),
      moment.tries endpoint = false) :
    ∃ subscription, mailbox.subscribers[endpoint]? = some subscription ∧
      Carries []
        ((openTime endpoint ((start limits).moments operations)).filterMap
          (accepted? binding.mailbox))
        subscription.ring.messages
        ((openTime endpoint ((start limits).moments operations)).filterMap
          (delivered? endpoint)) ∧
      subscription.dropped = 0 ∧
      ∀ moment ∈ openTime endpoint ((start limits).moments operations),
        ∀ event ∈ moment.news, event.overruns endpoint = false := by
  have sound : ((start limits).run operations).scene.Sound :=
    run_sound operations (start_sound limits) few
  obtain ⟨subscription, seats⟩ :=
    seats_of_mode sound held found (by simp [Mailbox.seats, readable, blocks])
  have keeps := run_keeps limits operations few seats (Or.inl silent)
  have whole := keeps.whole blocks untapped
  have told := keeps.told_eq
  obtain ⟨copies, deliveries⟩ := Journal.whole_eq whole
  refine ⟨subscription, seats.there, ?_, ?_, ?_⟩
  · have carries := keeps.accounts.carries
    rw [copies, deliveries, keeps.offers_eq, untapped, if_neg Bool.false_ne_true, journal,
      List.filterMap_filterMap] at carries
    simpa only [delivered?_eq] using carries
  · rw [keeps.accounts.dropped_eq, whole]
    rfl
  · rw [whole, List.length_nil, overruns, List.countP_eq_zero] at told
    intro moment member event heard
    simpa using told event (List.mem_flatMap.mpr ⟨moment, member, heard⟩)

def blockingFeed : List Operation :=
  [.bindName 1 "shared:feed" 32 0x2a, .send ⟨1, 1⟩ [9] 0 0, .openName 2 "shared:feed" 1,
    .send ⟨1, 1⟩ [1, 2, 3] 1 5, .receive ⟨2, 1⟩ 2, .send ⟨1, 1⟩ [4, 5, 6] 0 0,
    .send ⟨1, 1⟩ (List.replicate 20 0) 0 0]

theorem blockingFeed_lossless :
    ∃ mailbox subscription, ((start {}).run blockingFeed).registry.get? ⟨1⟩ = some mailbox ∧
      mailbox.subscribers[(⟨2, 1⟩ : Endpoint)]? = some subscription ∧
      Carries [] [⟨1, 5, .stdout, [1, 2, 3]⟩, ⟨1, 0, ⟨0⟩, [4, 5, 6]⟩] subscription.ring.messages
        [⟨2, false, ⟨⟨2, Flags.stdout.union .overrun, 1, 5⟩, [1, 2]⟩⟩] ∧
      subscription.dropped = 0 := by
  have held : ((start {}).run blockingFeed).handles.binding? ⟨2, 1⟩ = some ⟨⟨1⟩, ⟨1⟩⟩ := by
    decide +kernel
  have policy : (((start {}).run blockingFeed).registry.get? ⟨1⟩).map Mailbox.policy =
      some .fanoutBlock := by decide +kernel
  have accepted : (openTime ⟨2, 1⟩ ((start {}).moments blockingFeed)).filterMap (accepted? ⟨1⟩) =
      [⟨1, 5, .stdout, [1, 2, 3]⟩, ⟨1, 0, ⟨0⟩, [4, 5, 6]⟩] := by decide +kernel
  have delivered : (openTime ⟨2, 1⟩ ((start {}).moments blockingFeed)).filterMap
      (delivered? ⟨2, 1⟩) = [⟨2, false, ⟨⟨2, Flags.stdout.union .overrun, 1, 5⟩, [1, 2]⟩⟩] := by
    decide +kernel
  obtain ⟨mailbox, found, blocks⟩ := Option.map_eq_some_iff.mp policy
  obtain ⟨subscription, there, carries, dropped, _⟩ :=
    blocking_fanout_lossless {} blockingFeed (by decide +kernel) held found blocks
      (by decide +kernel) (by decide +kernel) (by decide +kernel)
  rw [accepted, delivered] at carries
  exact ⟨mailbox, subscription, found, there, carries, dropped⟩

/-- A tap, or a reader of a dropping fan-out that does not send, misses just the messages that do
not fit when they come up, and each miss is counted, told and reported. -/
theorem losses_exact_and_reported (limits : Limits) (operations : List Operation)
    (few : ((start limits).run operations).registrations ≤ Registry.mostNumbers)
    {endpoint : Endpoint} {binding : Binding} {mailbox : Mailbox}
    (held : ((start limits).run operations).handles.binding? endpoint = some binding)
    (found : ((start limits).run operations).registry.get? binding.mailbox = some mailbox)
    (watches : binding.mode.isTap = true ∨
      mailbox.policy = .fanoutDrop ∧ binding.mode.canRead = true ∧
        ∀ moment ∈ openTime endpoint ((start limits).moments operations),
          moment.tries endpoint = false) :
    ∃ subscription, mailbox.subscribers[endpoint]? = some subscription ∧
      subscription.Accounts
        (journal endpoint (openTime endpoint ((start limits).moments operations))) ∧
      (journal endpoint (openTime endpoint ((start limits).moments operations))).offers =
        (if binding.mode.isTap then
          watched endpoint binding.mailbox false
            (openTime endpoint ((start limits).moments operations))
        else (openTime endpoint ((start limits).moments operations)).filterMap
          (accepted? binding.mailbox)) ∧
      overruns endpoint (openTime endpoint ((start limits).moments operations)) =
        (journal endpoint (openTime endpoint ((start limits).moments operations))).misses.length :=
    by
  have sound : ((start limits).run operations).scene.Sound :=
    run_sound operations (start_sound limits) few
  have seat : mailbox.seats binding.mode = true := by
    rcases watches with tapped | ⟨drops, readable, _⟩
    · simp [Mailbox.seats, tapped]
    · simp [Mailbox.seats, readable, drops]
  obtain ⟨subscription, seats⟩ := seats_of_mode sound held found seat
  have keeps := run_keeps limits operations few seats
    (watches.symm.imp_left fun reader => reader.2.2)
  exact ⟨subscription, seats.there, keeps.accounts, keeps.offers_eq, keeps.told_eq⟩

def lossyFeed : List Operation :=
  [.bindName 1 "shared:feed" 32 0x1a, .openName 2 "shared:feed" 1, .openName 3 "shared:feed" 4,
    .send ⟨1, 1⟩ [1, 2, 3] 0 0, .tap ⟨3, 1⟩ true, .send ⟨1, 1⟩ (List.replicate 16 0) 0 0,
    .send ⟨1, 1⟩ [4] 0 0, .receive ⟨2, 1⟩ 8, .receive ⟨3, 1⟩ 4, .tap ⟨3, 1⟩ false,
    .send ⟨1, 1⟩ [5] 0 0]

theorem lossyFeed_losses_reported :
    ∃ mailbox reader tap, ((start {}).run lossyFeed).registry.get? ⟨1⟩ = some mailbox ∧
      mailbox.subscribers[(⟨2, 1⟩ : Endpoint)]? = some reader ∧
      reader.Accounts [.copied ⟨1, 0, ⟨0⟩, [1, 2, 3]⟩,
        .missed ⟨1, 0, ⟨0⟩, List.replicate 16 0⟩, .copied ⟨1, 0, ⟨0⟩, [4]⟩,
        .delivered 8 ⟨⟨3, .overrun, 1, 0⟩, [1, 2, 3]⟩, .copied ⟨1, 0, ⟨0⟩, [5]⟩] ∧
      mailbox.subscribers[(⟨3, 1⟩ : Endpoint)]? = some tap ∧
      tap.Accounts [.copied ⟨1, 0, ⟨0⟩, List.replicate 16 0⟩, .missed ⟨1, 0, ⟨0⟩, [4]⟩,
        .delivered 4 ⟨⟨4, .overrun, 1, 0⟩, List.replicate 4 0⟩] := by
  have readerHeld : ((start {}).run lossyFeed).handles.binding? ⟨2, 1⟩ = some ⟨⟨1⟩, ⟨1⟩⟩ := by
    decide +kernel
  have tapHeld : ((start {}).run lossyFeed).handles.binding? ⟨3, 1⟩ = some ⟨⟨1⟩, ⟨4⟩⟩ := by
    decide +kernel
  have policy : (((start {}).run lossyFeed).registry.get? ⟨1⟩).map Mailbox.policy =
      some .fanoutDrop := by decide +kernel
  have readerJournal : journal ⟨2, 1⟩ (openTime ⟨2, 1⟩ ((start {}).moments lossyFeed)) =
      [.copied ⟨1, 0, ⟨0⟩, [1, 2, 3]⟩, .missed ⟨1, 0, ⟨0⟩, List.replicate 16 0⟩,
        .copied ⟨1, 0, ⟨0⟩, [4]⟩, .delivered 8 ⟨⟨3, .overrun, 1, 0⟩, [1, 2, 3]⟩,
        .copied ⟨1, 0, ⟨0⟩, [5]⟩] := by decide +kernel
  have tapJournal : journal ⟨3, 1⟩ (openTime ⟨3, 1⟩ ((start {}).moments lossyFeed)) =
      [.copied ⟨1, 0, ⟨0⟩, List.replicate 16 0⟩, .missed ⟨1, 0, ⟨0⟩, [4]⟩,
        .delivered 4 ⟨⟨4, .overrun, 1, 0⟩, List.replicate 4 0⟩] := by decide +kernel
  obtain ⟨mailbox, found, drops⟩ := Option.map_eq_some_iff.mp policy
  obtain ⟨reader, readerThere, readerAccounts, _⟩ :=
    losses_exact_and_reported {} lossyFeed (by decide +kernel) readerHeld found
      (Or.inr ⟨drops, by decide +kernel, by decide +kernel⟩)
  obtain ⟨tap, tapThere, tapAccounts, _⟩ :=
    losses_exact_and_reported {} lossyFeed (by decide +kernel) tapHeld found
      (Or.inl (by decide +kernel))
  rw [readerJournal] at readerAccounts
  rw [tapJournal] at tapAccounts
  exact ⟨mailbox, reader, tap, found, readerThere, readerAccounts, tapThere, tapAccounts⟩

end Engine

end Mailroom
