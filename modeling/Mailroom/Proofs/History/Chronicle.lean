import Mailroom.Proofs.Engine.Biographies
import Mailroom.Proofs.Engine.Quotas
import Mailroom.Proofs.History.Moments

/-!
The events of a run are its journal. Whoever has heard all of them knows which mailboxes there are
and what they are called, how many messages wait in a queue that nobody taps, and how many went
with it; and what fails is not told of as traffic.
-/

namespace Mailroom

namespace Engine

def Untapped (engine : Engine) (id : MailboxId) : Prop :=
  ∀ endpoint binding, engine.handles.binding? endpoint = some binding → binding.mailbox = id →
    binding.mode.isTap = false

instance (engine : Engine) (id : MailboxId) : Decidable (engine.Untapped id) :=
  decidable_of_iff
    (∀ endpoint ∈ engine.handles.endpoints, ∀ binding ∈ engine.handles.binding? endpoint,
      binding.mailbox = id → binding.mode.isTap = false)
    ⟨fun all endpoint binding held => all endpoint (HandleTable.mem_endpoints held) binding held,
      fun untapped endpoint _ binding held => untapped endpoint binding held⟩

/-- Nobody has ever tapped this mailbox, at no moment of this run. -/
def NeverTapped (limits : Limits) (operations : List Operation) (id : MailboxId) : Prop :=
  ∀ past, past <+: operations → ((start limits).run past).Untapped id

instance (limits : Limits) (operations : List Operation) (id : MailboxId) :
    Decidable (NeverTapped limits operations id) :=
  decidable_of_iff (∀ past ∈ operations.inits, ((start limits).run past).Untapped id)
    (by simp only [NeverTapped, List.mem_inits])

theorem NeverTapped.sooner {limits : Limits} {past : List Operation} {last : Operation}
    {id : MailboxId} (never : NeverTapped limits (past ++ [last]) id) :
    NeverTapped limits past id :=
  fun earlier before => never earlier (before.trans (List.prefix_append past [last]))

theorem NeverTapped.untapped {limits : Limits} {past : List Operation} {last : Operation}
    {id : MailboxId} (never : NeverTapped limits (past ++ [last]) id) :
    ((start limits).run past).Untapped id :=
  never past (List.prefix_append past [last])

theorem unsubscribed_of_untapped {engine : Engine} (sound : engine.scene.Sound) {id : MailboxId}
    {mailbox : Mailbox} (found : engine.registry.get? id = some mailbox)
    (queued : mailbox.policy = .queue) (untapped : engine.Untapped id) (endpoint : Endpoint) :
    mailbox.subscribers[endpoint]? = none := by
  cases there : mailbox.subscribers[endpoint]? with
  | none => rfl
  | some subscription =>
      obtain ⟨binding, held, leads, seated, _⟩ := (subscribed_iff sound found endpoint _).mp
        ⟨subscription, there, rfl⟩
      have plain := untapped endpoint binding held leads
      simp [Mailbox.seats, plain, queued] at seated

end Engine

theorem Ring.depth_of_front {ring : Ring} {frame : Frame} {rest : List Frame}
    (front : ring.frames = frame :: rest) : ring.depth = ring.dropped.depth + 1 := by
  rw [depth, depth, dropped, front]
  rfl

namespace Mailbox

theorem posted_depth (mailbox : Mailbox) (queued : mailbox.policy = .queue) (frame : Frame) :
    (mailbox.posted frame).queue.depth = mailbox.queue.depth + 1 := by
  simp only [posted, queued, if_true, Ring.depth, Ring.appended, List.length_append,
    List.length_singleton]

theorem unwatched_of_unsubscribed {mailbox : Mailbox}
    (nobody : ∀ endpoint : Endpoint, mailbox.subscribers[endpoint]? = none) :
    mailbox.Unwatched := by
  intro endpoint subscription there
  cases (nobody endpoint).symm.trans there

theorem marked_unwatched {mailbox : Mailbox} (unwatched : mailbox.Unwatched) (source : Endpoint) :
    (mailbox.marked source).Unwatched := by
  intro endpoint subscription there
  rw [marked_at] at there
  split at there
  · obtain ⟨earlier, before, rfl⟩ := Option.map_eq_some_iff.mp there
    exact Subscription.becomeSender_frames (unwatched endpoint earlier before)
  · exact unwatched endpoint subscription there

end Mailbox

theorem Balances.sent {id : MailboxId} {past : List Event} {left : Nat} (pid : Pid) (bytes : Nat)
    (channel : UInt16) (balances : Balances id past left) :
    Balances id ([.sent pid id bytes channel] ++ past) (left + 1) := by
  simp only [Balances, List.singleton_append, List.countP_cons, Event.sentTo, Event.receivedFrom,
    decide_true, if_true, Bool.false_eq_true, if_false] at balances ⊢
  omega

theorem Balances.received {id : MailboxId} {past : List Event} {left : Nat} (pid : Pid)
    (bytes : Nat) (overrun : Bool) (balances : Balances id past (left + 1)) :
    Balances id ([.received pid id bytes overrun] ++ past) left := by
  simp only [Balances, List.singleton_append, List.countP_cons, Event.sentTo, Event.receivedFrom,
    decide_true, if_true, Bool.false_eq_true, if_false] at balances ⊢
  omega

theorem announcements_concern (endpoint : Endpoint) (here : MailboxId) (channel : UInt16)
    (bytes : Nat) (acceptance : Acceptance) :
    Engine.Concern (Engine.announcements endpoint here channel bytes acceptance) here
      [.sent endpoint.pid here bytes channel] := by
  intro id
  have lost : (((acceptance.fanout.overrun ++ acceptance.taps.overrun).map fun subscriber =>
      Event.overrun here subscriber.pid subscriber.handle).reverse).filter
        (Event.concerns id) = [] := by
    rw [List.filter_eq_nil_iff]
    intro event member
    obtain ⟨subscriber, _, rfl⟩ := List.mem_map.mp (List.mem_reverse.mp member)
    exact Bool.false_ne_true
  rw [Engine.announcements, List.filter_cons, lost]
  simp only [Event.concerns, decide_eq_true_eq]

namespace Moment

open Engine

variable {moment : Moment} {here : MailboxId} {before changed : Mailbox}
  {untapped : MailboxId → Prop}

theorem Touches.chronicled (touches : moment.Touches here before changed)
    (sound : moment.engine.scene.Sound)
    (found : moment.engine.registry.get? here = some before)
    (registry_eq : moment.after.registry = moment.engine.registry.update changed)
    (plain : ∀ id, untapped id → moment.engine.Untapped id)
    (chronicled : moment.engine.Chronicled untapped) : moment.after.Chronicled untapped := by
  have serves := sound.supports.serves here before found
  obtain ⟨same, lasts⟩ := touches.lasts serves.id_eq serves.sound
  have nobody : untapped here → before.policy = .queue →
      ∀ endpoint : Endpoint, before.subscribers[endpoint]? = none :=
    fun never queued => unsubscribed_of_untapped sound found queued (plain here never)
  have told := moment.events_eq
  cases touches with
  | @marked endpoint _ _ _ _ _ _ _ _ _ silent =>
      rw [silent] at told
      exact chronicled.rests sound.numbered found same registry_eq told
        ⟨lasts, before.marked_queue endpoint⟩
        fun unwatched => Mailbox.marked_unwatched unwatched endpoint
  | @posted endpoint payload _ channel binding _ frame _ _ _ _ _ _ news =>
      rw [news] at told
      refine chronicled.updates sound.numbered found same registry_eq told
        (announcements_concern _ _ _ _ _) lasts (by simp [Event.isTraffic]) ?_
      intro never queued _
      have unmarked : before.marked endpoint = before := if_pos queued
      rw [unmarked, before.posted_depth queued]
      refine ⟨?_, fun past balances => balances.sent _ _ _⟩
      apply Mailbox.unwatched_of_unsubscribed
      intro other
      rw [Mailbox.posted_at, nobody never queued other, Option.map_none]
  | @withdrawn endpoint _ binding _ ring frame rest receipt _ reader seen front _ news =>
      rw [news] at told
      refine chronicled.updates sound.numbered found same registry_eq told
        (concern_one fun _ => rfl) lasts (by simp [Event.isTraffic]) ?_
      intro never queued unwatched
      have through := plain binding.mailbox never endpoint binding reader.held rfl
      have viewed : before.view endpoint binding.mode = .queue := by
        simp only [Mailbox.view, through, queued, Bool.false_eq_true, if_false, if_true]
      rw [viewed] at seen ⊢
      cases seen
      refine ⟨unwatched, fun past balances => ?_⟩
      rw [Ring.depth_of_front front] at balances
      exact balances.received _ _ _
  | @switched endpoint enabled binding _ subscription _ _ there _ news =>
      rw [news] at told
      have silent : Concern [.tapped endpoint.pid binding.mailbox endpoint.handle enabled]
          binding.mailbox [] := fun _ => (ite_self []).symm
      refine chronicled.updates sound.numbered found same registry_eq told silent lasts
        (List.forall_mem_nil _) ?_
      intro never queued _
      cases (nobody never queued endpoint).symm.trans there

theorem Course.chronicled (course : moment.Course) (sound : moment.engine.scene.Sound)
    (few : moment.after.registrations ≤ Registry.mostNumbers)
    (plain : ∀ id, untapped id → moment.engine.Untapped id)
    (chronicled : moment.engine.Chronicled untapped) : moment.after.Chronicled untapped := by
  cases course with
  | calm _ _ reshaped =>
      exact reshaped.chronicled (intact_of_sound sound) sound.numbered few chronicled
  | touched touches found registry_eq _ =>
      exact touches.chronicled sound found registry_eq plain chronicled

theorem Course.untrafficked {fault : Fault} (course : moment.Course)
    (failed : moment.outcome = .error fault) : moment.engine.Untrafficked moment.after := by
  cases course with
  | calm _ _ reshaped => exact reshaped.untrafficked
  | touched touches =>
      have idle := deed_failed failed
      cases touches with
      | marked _ _ _ _ silent =>
          have told := moment.events_eq
          rw [silent] at told
          exact .of_same told
      | posted done | withdrawn done | switched done => cases idle.symm.trans done

end Moment

namespace Engine

theorem failed_untrafficked {engine : Engine} (sound : engine.scene.Sound)
    {operation : Operation} {fault : Fault} (failed : (operation.step engine).1 = .error fault) :
    engine.Untrafficked (operation.step engine).2 := by
  cases moves : operation.moves with
  | false => exact (operation_reshaped moves engine).untrafficked
  | true =>
      have course : Moment.Course ⟨engine, operation⟩ := Moment.moving_course sound moves
      exact course.untrafficked failed

theorem start_chronicled (limits : Limits) (untapped : MailboxId → Prop) :
    (start limits).Chronicled untapped := by
  refine ⟨fun id => ?_, fun _ _ => rfl⟩
  have nothing : (start limits).registry.get? id = none := by
    simp [start, Registry.withLimit, Registry.get?]
  rw [nothing]
  exact .unborn

theorem run_chronicled (limits : Limits) (operations : List Operation)
    (few : ((start limits).run operations).registrations ≤ Registry.mostNumbers) :
    ((start limits).run operations).Chronicled (NeverTapped limits operations) := by
  induction operations using List.reverseRecOn with
  | nil => exact start_chronicled limits _
  | append_singleton past last ih =>
      have sooner := run_sooner few
      have sound := run_sound past (start_sound limits) sooner
      have sofar : ((start limits).run past).Chronicled (NeverTapped limits (past ++ [last])) :=
        (ih sooner).mono fun _ => NeverTapped.sooner
      rw [run_concat] at few ⊢
      exact (Moment.course sound few).chronicled sound few (fun _ => NeverTapped.untapped) sofar

end Engine

/-- A mailbox was made under this name, and it was not told since that it went. -/
def Stands (events : List Event) (id : MailboxId) (name : String) : Prop :=
  ∃ later capacity policy creator earlier,
    events = later ++ .created id name capacity policy creator :: earlier ∧
      ∀ other discarded, .destroyed id other discarded ∉ later

namespace Life

variable {untapped : Prop} {id : MailboxId} {mailbox? : Option Mailbox} {mailbox : Mailbox}
  {events later earlier : List Event} {name : String} {discarded : Nat}

theorem last_of_other {traffic : List Event} {first event : Event}
    (moves : ∀ event ∈ traffic, event.isTraffic = true) (other : event.isTraffic = false)
    (member : event ∈ traffic ++ [first]) : event = first := by
  rcases List.mem_append.mp member with moving | last
  · cases other.symm.trans (moves event moving)
  · exact List.mem_singleton.mp last

theorem named_of_stands (life : Life untapped id mailbox? (events.filter (Event.concerns id)))
    (stands : Stands events id name) :
    ∃ mailbox, mailbox? = some mailbox ∧ mailbox.name.canonical = name := by
  obtain ⟨later, capacity, policy, creator, earlier, rfl, stays⟩ := stands
  rw [List.filter_append, List.filter_cons_of_pos (Event.concerns_created ..)] at life
  generalize told : later.filter (Event.concerns id) ++
    .created id name capacity policy creator :: earlier.filter (Event.concerns id) = heard at life
  have listed : .created id name capacity policy creator ∈ heard := by simp [← told]
  cases life with
  | unborn => cases listed
  | alive moves =>
      cases last_of_other moves rfl listed
      exact ⟨_, rfl, rfl⟩
  | gone =>
      cases since : later.filter (Event.concerns id) with
      | nil =>
          rw [since] at told
          cases told
      | cons event rest =>
          rw [since] at told
          obtain ⟨rfl, _⟩ := List.cons.inj told
          exact absurd (List.mem_of_mem_filter (since ▸ List.mem_cons_self)) (stays _ _)

theorem stands_of_named
    (life : Life untapped id (some mailbox) (events.filter (Event.concerns id))) :
    Stands events id mailbox.name.canonical := by
  generalize told : events.filter (Event.concerns id) = heard at life
  cases life with
  | @alive _ traffic capacity creator moves =>
      obtain ⟨after, before, rfl, moved, begun⟩ := List.filter_eq_append_iff.mp told
      obtain ⟨silent, earlier, rfl, others, _, _⟩ := List.filter_eq_cons_iff.mp begun
      refine ⟨after ++ silent, capacity, mailbox.policy, creator, earlier, ?_, ?_⟩
      · rw [List.append_assoc]
      · intro other discarded member
        have here := Event.concerns_destroyed id other discarded
        rcases List.mem_append.mp member with moving | quiet
        · have traffic := moved ▸ List.mem_filter.mpr ⟨moving, here⟩
          cases moves _ traffic
        · exact others _ quiet here

theorem waiting (life : Life untapped id (some mailbox) (events.filter (Event.concerns id)))
    (never : untapped) (queued : mailbox.policy = .queue) :
    Balances id events mailbox.queue.depth := by
  rw [← balances_filter]
  generalize events.filter (Event.concerns id) = heard at life
  cases life with
  | alive _ balanced => exact balances_created.mpr (balanced never queued).2

theorem ended (life : Life untapped id mailbox?
      ((later ++ .destroyed id name discarded :: earlier).filter (Event.concerns id))) :
    (∀ event ∈ later, event.concerns id = false) ∧
    (∃ capacity policy creator, .created id name capacity policy creator ∈ earlier) ∧
    ∀ capacity creator, .created id name capacity .queue creator ∈ earlier → untapped →
      Balances id earlier discarded := by
  rw [List.filter_append, List.filter_cons_of_pos (Event.concerns_destroyed ..)] at life
  generalize told : later.filter (Event.concerns id) ++
    .destroyed id name discarded :: earlier.filter (Event.concerns id) = heard at life
  have listed : .destroyed id name discarded ∈ heard := by simp [← told]
  cases life with
  | unborn => cases listed
  | alive moves => cases last_of_other moves rfl listed
  | @gone _ traffic capacity policy creator _ moves balanced =>
      cases since : later.filter (Event.concerns id) with
      | cons event rest =>
          rw [since, List.cons_append] at told
          obtain ⟨_, past⟩ := List.cons.inj told
          have again : .destroyed id name discarded ∈
              traffic ++ [.created id _ capacity policy creator] :=
            past ▸ List.mem_append_right rest List.mem_cons_self
          cases last_of_other moves rfl again
      | nil =>
          rw [since, List.nil_append] at told
          obtain ⟨same, past⟩ := List.cons.inj told
          cases same
          refine ⟨?_, ⟨capacity, policy, creator, ?_⟩, ?_⟩
          · simpa using List.filter_eq_nil_iff.mp since
          · exact List.mem_of_mem_filter (past ▸ List.mem_append_right _ List.mem_cons_self)
          · intro otherCapacity otherCreator made never
            have listed := past ▸ List.mem_filter.mpr ⟨made, Event.concerns_created ..⟩
            cases last_of_other moves rfl listed
            rw [← balances_filter, past]
            exact balances_created.mpr (balanced never rfl)

end Life

namespace Engine

/-- The events are a journal of the engine: what was made and has not gone is there under its name.
What was sent to a queue that nobody ever tapped and not received waits there, or went with it, and
what fails moves no message. -/
structure Faithful (untapped : MailboxId → Prop) (engine : Engine) : Prop where
  standing : ∀ id name, Stands engine.events id name ↔
    ∃ mailbox, engine.registry.get? id = some mailbox ∧ mailbox.name.canonical = name
  waiting : ∀ id mailbox, engine.registry.get? id = some mailbox → untapped id →
    mailbox.policy = .queue → Balances id engine.events mailbox.queue.depth
  ended : ∀ id name discarded later earlier,
    engine.events = later ++ .destroyed id name discarded :: earlier →
      (∀ event ∈ later, event.concerns id = false) ∧
      (∃ capacity policy creator, .created id name capacity policy creator ∈ earlier) ∧
      ∀ capacity creator, .created id name capacity .queue creator ∈ earlier → untapped id →
        Balances id earlier discarded
  failing : ∀ (operation : Operation) (fault : Fault),
    (operation.step engine).1 = .error fault → engine.Untrafficked (operation.step engine).2

/-- So it is after every run that makes no more mailboxes than there are numbers. -/
theorem events_faithful (limits : Limits) (operations : List Operation)
    (few : ((start limits).run operations).registrations ≤ Registry.mostNumbers) :
    ((start limits).run operations).Faithful (NeverTapped limits operations) := by
  have lives := (run_chronicled limits operations few).lives
  refine ⟨?_, ?_, ?_, ?_⟩
  · intro id name
    refine ⟨(lives id).named_of_stands, ?_⟩
    rintro ⟨mailbox, found, rfl⟩
    have life := lives id
    rw [found] at life
    exact life.stands_of_named
  · intro id mailbox found never queued
    have life := lives id
    rw [found] at life
    exact life.waiting never queued
  · intro id name discarded later earlier told
    have life := lives id
    rw [biography, told] at life
    exact life.ended
  · intro operation fault failed
    exact failed_untrafficked (run_sound operations (start_sound limits) few) failed

def closedBox : List Operation :=
  [.bindName 1 "app:box" 32 3, .bindName 2 "shared:kept" 32 3, .send ⟨1, 1⟩ [104] 0 0,
    .send ⟨1, 1⟩ [105] 0 0, .receive ⟨1, 1⟩ 8, .close ⟨1, 1⟩, .send ⟨2, 1⟩ [106] 0 0]

theorem closedBox_faithful :
    ((start {}).run closedBox).registrations ≤ Registry.mostNumbers ∧
    NeverTapped {} closedBox ⟨1⟩ ∧ NeverTapped {} closedBox ⟨2⟩ ∧
    ((start {}).run closedBox).events =
      [.sent 2 ⟨2⟩ 1 0, .destroyed ⟨1⟩ "app:box" 1, .received 1 ⟨1⟩ 1 false, .sent 1 ⟨1⟩ 1 0,
        .sent 1 ⟨1⟩ 1 0, .created ⟨2⟩ "shared:kept" 32 .queue 2,
        .created ⟨1⟩ "app:box" 32 .queue 1] ∧
    ((start {}).run closedBox).Faithful (NeverTapped {} closedBox) := by
  have few : ((start {}).run closedBox).registrations ≤ Registry.mostNumbers := by decide +kernel
  exact ⟨few, by decide +kernel, by decide +kernel, by decide +kernel,
    events_faithful {} closedBox few⟩

end Engine

end Mailroom
