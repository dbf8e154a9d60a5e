import Mailroom.Proofs.History.Moments

/-!
Queues deliver exactly once and in order: whatever a mailbox with a queue has accepted since it was
made has been received through one of its handles, or is still in the queue.
-/

namespace Mailroom

namespace Moment

structure Queues (moment : Moment) (id : MailboxId) (earlier later : Mailbox) : Prop where
  policy_eq : earlier.policy = .queue
  carries : (∀ message ∈ earlier.queue.messages, message.IsUnmarked) →
    Carries earlier.queue.messages (moment.accepted? id).toList later.queue.messages
      (moment.dequeued? id).toList
  still : moment.accepted? id = none → moment.dequeued? id = none → later.queue = earlier.queue

variable {moment : Moment} {id : MailboxId}

theorem queues_still {earlier later : Mailbox} (queued : earlier.policy = .queue)
    (same : later.queue = earlier.queue)
    (idle : moment.accepted? id = none ∧ moment.dequeued? id = none) :
    moment.Queues id earlier later := by
  refine ⟨queued, fun _ => ?_, fun _ _ => same⟩
  rw [idle.1, idle.2, same]
  exact .refl _

theorem posted_queues {before mailbox : Mailbox} {frame : Frame}
    (done : moment.deed? = some (.accepted id frame.message)) (marked : before.Lasts mailbox)
    (same : mailbox.queue = before.queue) (queued : mailbox.policy = .queue) :
    moment.Queues id before (mailbox.posted frame) := by
  have accepted : moment.accepted? id = some frame.message := by
    simp only [accepted?, done, Option.bind_some, Deed.accepted?, if_true]
  have unread : moment.dequeued? id = none := by
    simp only [dequeued?, done, Option.bind_some, Deed.dequeued?]
  have queue : (mailbox.posted frame).queue = before.queue.appended frame := by
    simp only [Mailbox.posted, queued, if_true, same]
  refine ⟨marked.policy_eq ▸ queued, fun _ => ?_, ?_⟩
  · rw [accepted, unread, queue]
    exact before.queue.appended_carries frame
  · rw [accepted]
    exact (Option.some_ne_none _).elim

theorem withdrawn_queues {endpoint : Endpoint} {binding : Binding} {room : Nat}
    {mailbox : Mailbox} {ring : Ring} {frame : Frame} {rest : List Frame} {receipt : Receipt}
    (done : moment.deed? = some (.received endpoint binding room receipt))
    (here : binding.mailbox = id) (sound : mailbox.Sound) (queued : mailbox.policy = .queue)
    (seen : mailbox.ringOf? (mailbox.view endpoint binding.mode) = some ring)
    (front : ring.frames = frame :: rest)
    (delivered :
      receipt = frame.receipt room (mailbox.lossAt (mailbox.view endpoint binding.mode))) :
    moment.Queues id mailbox (mailbox.withdrawn (mailbox.view endpoint binding.mode)) := by
  have unsent : moment.accepted? id = none := by
    simp only [accepted?, done, Option.bind_some, Deed.accepted?]
  have dequeued : moment.dequeued? id =
      if binding.mailbox = id ∧ binding.mode.isTap = false then some ⟨room, false, receipt⟩
      else none := by
    simp only [dequeued?, done, Option.bind_some, Deed.dequeued?]
  by_cases tapped : binding.mode.isTap = true
  · have viewed : mailbox.view endpoint binding.mode = .tap endpoint := by
      simp only [Mailbox.view, tapped, if_true]
    rw [viewed]
    exact queues_still queued rfl ⟨unsent, by simp [dequeued, tapped]⟩
  · have viewed : mailbox.view endpoint binding.mode = .queue := by
      simp only [Mailbox.view, tapped, queued, Bool.false_eq_true, if_false, if_true]
    rw [viewed] at seen delivered ⊢
    cases seen
    have untapped : binding.mode.isTap = false := by simpa using tapped
    have got : moment.dequeued? id = some ⟨room, false, receipt⟩ := by
      rw [dequeued, if_pos ⟨here, untapped⟩]
    refine ⟨queued, fun unmarked => ?_, fun _ unread => ?_⟩
    · rw [unsent, got, delivered]
      exact Ring.dropped_carries sound.queue_sound unmarked front room false
    · rw [got] at unread
      cases unread

theorem Touches.queues {before changed : Mailbox} (touches : moment.Touches id before changed)
    (whole : before.Sound) (queued : changed.policy = .queue) :
    moment.Queues id before changed := by
  cases touches with
  | @marked endpoint _ _ _ _ _ idle =>
      have policy : before.policy = .queue := (before.marked_policy endpoint).symm.trans queued
      exact queues_still policy (before.marked_queue endpoint) (idle_none idle)
  | @posted endpoint _ _ _ binding _ frame done =>
      exact posted_queues done (whole.marked_steady endpoint).lasts (before.marked_queue endpoint)
        queued
  | @withdrawn endpoint _ binding _ _ _ _ _ done reader seen front delivered =>
      have policy := (whole.withdrawn_traffic (before.view endpoint binding.mode)).policy_eq
      exact withdrawn_queues done rfl whole (policy ▸ queued) seen front delivered
  | switched done =>
      refine queues_still queued rfl ?_
      simp only [accepted?, dequeued?, done, Option.bind_some, Deed.accepted?, Deed.dequeued?,
        and_self]

theorem Course.queue (course : moment.Course) (intact : moment.engine.Intact)
    {later : Mailbox} (found : moment.after.registry.get? id = some later)
    (queued : later.policy = .queue) :
    (moment.engine.registry.get? id = none ∧ later.queue.frames = []) ∨
    ∃ earlier, moment.engine.registry.get? id = some earlier ∧ moment.Queues id earlier later := by
  cases course with
  | calm idle calm =>
      rcases calm.queues id later found with made | ⟨earlier, present, rests⟩
      · exact Or.inl made
      · exact Or.inr ⟨earlier, present,
          queues_still (rests.lasts.policy_eq ▸ queued) rests.queue_eq (idle_none idle)⟩
  | @touched here before changed touches present registry_eq _ =>
      obtain ⟨sameId, whole⟩ := intact here before present
      have kept := (touches.lasts sameId whole).1
      rw [registry_eq] at found
      right
      rcases Registry.update_cases kept found with ⟨rfl, rfl⟩ | ⟨apart, there⟩
      · exact ⟨before, present, touches.queues whole queued⟩
      · exact ⟨later, there, queues_still queued rfl (touches.idle_elsewhere apart)⟩

/-- The operation fails, or moves no message, or switches a tap, or goes through a handle that does
not stand for this mailbox, or that taps it and does not send. -/
inductive Bypasses (moment : Moment) (id : MailboxId) : Prop
  | failed {fault : Fault} (failed : moment.outcome = .error fault)
  | still (other : moment.operation.moves = false)
  | switching {endpoint : Endpoint} {enabled : Bool}
      (taps : moment.operation = .tap endpoint enabled)
  | elsewhere {endpoint : Endpoint} {binding : Binding} {room : Nat} {payload : Bytes}
      {flags channel : UInt16}
      (through : moment.operation = .send endpoint payload flags channel ∨
        moment.operation = .receive endpoint room)
      (held : moment.engine.handles.binding? endpoint = some binding)
      (apart : binding.mailbox ≠ id)
  | watching {endpoint : Endpoint} {binding : Binding} {room : Nat}
      (receives : moment.operation = .receive endpoint room)
      (held : moment.engine.handles.binding? endpoint = some binding)
      (tapped : binding.mode.isTap = true)

theorem Bypasses.unsent (bypasses : moment.Bypasses id) : moment.accepted? id = none := by
  refine Option.eq_none_iff_forall_ne_some.mpr fun message accepted => ?_
  obtain ⟨_, _, _, _, _, binding, sends, succeeds, held, here, _⟩ := accepted_cases accepted
  cases bypasses with
  | failed failed => cases succeeds.symm.trans failed
  | still other =>
      rw [sends] at other
      cases other
  | switching taps => cases sends.symm.trans taps
  | elsewhere through stands apart =>
      rcases through with same | receives
      · cases sends.symm.trans same
        cases held.symm.trans stands
        exact apart here
      · cases sends.symm.trans receives
  | watching receives => cases sends.symm.trans receives

theorem Bypasses.unread (bypasses : moment.Bypasses id) : moment.dequeued? id = none := by
  refine Option.eq_none_iff_forall_ne_some.mpr fun delivery dequeued => ?_
  obtain ⟨_, _, _, binding, receives, succeeds, held, here, untapped⟩ := dequeued_cases dequeued
  cases bypasses with
  | failed failed => cases succeeds.symm.trans failed
  | still other =>
      rw [receives] at other
      cases other
  | switching taps => cases receives.symm.trans taps
  | elsewhere through stands apart =>
      rcases through with sends | same
      · cases receives.symm.trans sends
      · cases receives.symm.trans same
        cases held.symm.trans stands
        exact apart here
  | watching same stands tapped =>
      cases receives.symm.trans same
      cases held.symm.trans stands
      rw [tapped] at untapped
      cases untapped

end Moment

namespace Engine

open Moment

theorem queue_carries (limits : Limits) (operations : List Operation)
    (few : ((start limits).run operations).registrations ≤ Registry.mostNumbers)
    {id : MailboxId} {mailbox : Mailbox}
    (found : ((start limits).run operations).registry.get? id = some mailbox)
    (queued : mailbox.policy = .queue) :
    Carries [] ((lifetime id ((start limits).moments operations)).filterMap (accepted? id))
      mailbox.queue.messages
      ((lifetime id ((start limits).moments operations)).filterMap (dequeued? id)) := by
  induction operations using List.reverseRecOn generalizing mailbox with
  | nil => simp [run, start, Registry.withLimit, Registry.get?] at found
  | append_singleton past last ih =>
      let now : Moment := ⟨(start limits).run past, last⟩
      have sooner := run_sooner few
      rw [run_concat] at few found
      have sound : now.engine.scene.Sound := run_sound past (start_sound limits) sooner
      rw [moments_concat, lifetime, since_concat]
      rcases (now.course sound few).queue (intact_of_sound sound) found queued with
        ⟨missing, empty⟩ | ⟨earlier, present, queues⟩
      · have absent : ((start limits).run past).registry.get? id = none := missing
        simp only [absent, Option.isSome_none, Bool.false_eq_true, if_false, List.filterMap_nil,
          Ring.messages, empty, List.map_nil]
        exact .refl []
      · have there : ((start limits).run past).registry.get? id = some earlier := present
        have before := ih sooner there queues.policy_eq
        rw [there, Option.isSome_some, if_pos rfl, filterMap_concat, filterMap_concat]
        refine before.trans ?_
        have unmarked : ∀ message ∈ earlier.queue.messages, message.IsUnmarked := by
          intro message member
          obtain ⟨moment, _, accepted⟩ := List.mem_filterMap.mp (before.mem member)
          exact accepted_unmarked accepted
        exact queues.carries unmarked

theorem queue_bypassed {limits : Limits} {operations : List Operation} {operation : Operation}
    (few : ((start limits).run (operations ++ [operation])).registrations ≤ Registry.mostNumbers)
    {id : MailboxId} {mailbox later : Mailbox}
    (found : ((start limits).run operations).registry.get? id = some mailbox)
    (queued : mailbox.policy = .queue)
    (bypasses : Bypasses ⟨(start limits).run operations, operation⟩ id)
    (remains : ((start limits).run (operations ++ [operation])).registry.get? id = some later) :
    later.queue = mailbox.queue := by
  let now : Moment := ⟨(start limits).run operations, operation⟩
  have sound : now.engine.scene.Sound := run_sound operations (start_sound limits) (run_sooner few)
  rw [run_concat] at few remains
  have intact := intact_of_sound sound
  have course := now.course sound few
  have policy : later.policy = .queue := (course.lasts intact found remains).policy_eq ▸ queued
  rcases course.queue intact remains policy with ⟨missing, _⟩ | ⟨earlier, present, queues⟩
  · cases missing.symm.trans found
  · cases present.symm.trans found
    exact queues.still bypasses.unsent bypasses.unread

/-- Everything that a queue mailbox has accepted since it was made was received in order, each
message once and whole but for its cut tail, or waits in the queue; and what bypasses the queue
leaves it as it is. -/
theorem queue_exactly_once (limits : Limits) (operations : List Operation)
    (few : ((start limits).run operations).registrations ≤ Registry.mostNumbers)
    {id : MailboxId} {mailbox : Mailbox}
    (found : ((start limits).run operations).registry.get? id = some mailbox)
    (queued : mailbox.policy = .queue) :
    Carries [] ((lifetime id ((start limits).moments operations)).filterMap (accepted? id))
      mailbox.queue.messages
      ((lifetime id ((start limits).moments operations)).filterMap (dequeued? id)) ∧
    ∀ (operation : Operation) (later : Mailbox),
      ((start limits).run (operations ++ [operation])).registrations ≤ Registry.mostNumbers →
      Bypasses ⟨(start limits).run operations, operation⟩ id →
      ((start limits).run (operations ++ [operation])).registry.get? id = some later →
        later.queue = mailbox.queue :=
  ⟨queue_carries limits operations few found queued,
    fun _ _ fewer bypasses remains => queue_bypassed fewer found queued bypasses remains⟩

def renewedQueue : List Operation :=
  [.bindName 1 "app:work" 64 3, .send ⟨1, 1⟩ [1, 2, 3] 0 0, .close ⟨1, 1⟩,
    .bindName 1 "app:work" 64 3, .openName 2 "app:work" 1, .send ⟨1, 2⟩ [4, 5, 6] 1 7,
    .send ⟨1, 2⟩ [7] 0 0, .receive ⟨2, 1⟩ 2]

theorem renewedQueue_exactly_once :
    ∃ mailbox, ((start {}).run renewedQueue).registry.get? ⟨2⟩ = some mailbox ∧
      Carries [] [⟨1, 7, .stdout, [4, 5, 6]⟩, ⟨1, 0, ⟨0⟩, [7]⟩] mailbox.queue.messages
        [⟨2, false, ⟨⟨2, Flags.stdout.union .overrun, 1, 7⟩, [4, 5]⟩⟩] ∧
      ∃ later, ((start {}).run (renewedQueue ++ [.peek ⟨2, 1⟩])).registry.get? ⟨2⟩ = some later ∧
        later.queue = mailbox.queue := by
  have policy : (((start {}).run renewedQueue).registry.get? ⟨2⟩).map Mailbox.policy =
      some .queue := by decide +kernel
  have accepted : (lifetime ⟨2⟩ ((start {}).moments renewedQueue)).filterMap (accepted? ⟨2⟩) =
      [⟨1, 7, .stdout, [4, 5, 6]⟩, ⟨1, 0, ⟨0⟩, [7]⟩] := by decide +kernel
  have dequeued : (lifetime ⟨2⟩ ((start {}).moments renewedQueue)).filterMap (dequeued? ⟨2⟩) =
      [⟨2, false, ⟨⟨2, Flags.stdout.union .overrun, 1, 7⟩, [4, 5]⟩⟩] := by decide +kernel
  have stays : (((start {}).run (renewedQueue ++ [.peek ⟨2, 1⟩])).registry.get? ⟨2⟩).isSome :=
    by decide +kernel
  obtain ⟨mailbox, found, queued⟩ := Option.map_eq_some_iff.mp policy
  obtain ⟨later, remains⟩ := Option.isSome_iff_exists.mp stays
  obtain ⟨carries, bypassed⟩ :=
    queue_exactly_once {} renewedQueue (by decide +kernel) found queued
  rw [accepted, dequeued] at carries
  exact ⟨mailbox, found, carries, later, remains,
    bypassed (.peek ⟨2, 1⟩) later (by decide +kernel) (.still rfl) remains⟩

end Engine

end Mailroom
