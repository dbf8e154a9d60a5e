import Mathlib.Data.List.DropRight
import Mailroom.Proofs.Engine.Consistency
import Mailroom.Proofs.Engine.Reshaping
import Mailroom.Proofs.History.Messages

/-!
The moments of a run, oldest first, and what happens in one of them: a message moves, a tap is
switched, a sender is refused, or whatever stays is as it was.
-/

namespace Mailroom

structure Moment where
  engine : Engine
  operation : Operation

namespace Moment

def outcome (moment : Moment) : Except Fault Answer :=
  (moment.operation.step moment.engine).1

def after (moment : Moment) : Engine := (moment.operation.step moment.engine).2

def news (moment : Moment) : List Event :=
  moment.after.events.take (moment.after.events.length - moment.engine.events.length)

end Moment

/-- What an operation that succeeds brings about, as far as messages and taps go. -/
inductive Deed where
  | accepted (mailbox : MailboxId) (message : Message)
  | received (endpoint : Endpoint) (binding : Binding) (room : Nat) (receipt : Receipt)
  | switched (endpoint : Endpoint) (enabled : Bool)
  deriving DecidableEq, Repr, Inhabited

namespace Deed

def accepted? (id : MailboxId) : Deed → Option Message
  | .accepted mailbox message => if mailbox = id then some message else none
  | _ => none

def dequeued? (id : MailboxId) : Deed → Option Delivery
  | .received _ binding room receipt =>
    if binding.mailbox = id ∧ binding.mode.isTap = false then some ⟨room, false, receipt⟩ else none
  | _ => none

def received? (endpoint : Endpoint) : Deed → Option (Nat × Receipt)
  | .received reader _ room receipt => if reader = endpoint then some (room, receipt) else none
  | _ => none

def switched? (endpoint : Endpoint) : Deed → Option Bool
  | .switched tapper enabled => if tapper = endpoint then some enabled else none
  | _ => none

end Deed

namespace Moment

def deed? (moment : Moment) : Option Deed :=
  match moment.operation, moment.outcome with
  | .send endpoint payload flags channel, .ok _ =>
    (moment.engine.handles.binding? endpoint).map fun binding =>
      .accepted binding.mailbox ⟨endpoint.pid, channel, .ofSender flags, payload⟩
  | .receive endpoint room, .ok (.receipt receipt) =>
    (moment.engine.handles.binding? endpoint).map fun binding =>
      .received endpoint binding room receipt
  | .tap endpoint enabled, .ok _ => some (.switched endpoint enabled)
  | _, _ => none

def accepted? (id : MailboxId) (moment : Moment) : Option Message :=
  moment.deed?.bind (Deed.accepted? id)

def dequeued? (id : MailboxId) (moment : Moment) : Option Delivery :=
  moment.deed?.bind (Deed.dequeued? id)

end Moment

namespace Engine

def moments (engine : Engine) : List Operation → List Moment
  | [] => []
  | operation :: rest => ⟨engine, operation⟩ :: (operation.step engine).2.moments rest

theorem moments_concat (engine : Engine) (operations : List Operation) (last : Operation) :
    engine.moments (operations ++ [last]) =
      engine.moments operations ++ [⟨engine.run operations, last⟩] := by
  induction operations generalizing engine with
  | nil => rfl
  | cons operation rest ih => exact congrArg _ (ih _)

theorem run_append (engine : Engine) (past later : List Operation) :
    engine.run (past ++ later) = (engine.run past).run later := List.foldl_append

theorem run_concat (engine : Engine) (operations : List Operation) (last : Operation) :
    engine.run (operations ++ [last]) = Moment.after ⟨engine.run operations, last⟩ :=
  engine.run_append operations [last]

theorem run_sooner {engine : Engine} {past : List Operation} {last : Operation}
    (few : (engine.run (past ++ [last])).registrations ≤ Registry.mostNumbers) :
    (engine.run past).registrations ≤ Registry.mostNumbers := by
  rw [run_concat] at few
  exact Nat.le_trans (operation_grows last _) few

end Engine

def since (alive : Engine → Bool) (moments : List Moment) : List Moment :=
  moments.rtakeWhile fun moment => alive moment.engine

theorem since_concat (alive : Engine → Bool) (past : List Moment) (now : Moment) :
    since alive (past ++ [now]) =
      if alive now.engine = true then since alive past ++ [now] else [] :=
  List.rtakeWhile_concat _ past now

theorem filterMap_concat {α β : Type} (told : α → Option β) (past : List α) (now : α) :
    (past ++ [now]).filterMap told = past.filterMap told ++ (told now).toList := by
  simp [List.filterMap_eq_flatMap_toList]

def lifetime (id : MailboxId) : List Moment → List Moment :=
  since fun engine => (engine.registry.get? id).isSome

def openTime (endpoint : Endpoint) : List Moment → List Moment :=
  since fun engine => (engine.handles.binding? endpoint).isSome

namespace Moment

variable {moment : Moment}

theorem news_eq {news : List Event} (told : moment.after.events = news ++ moment.engine.events) :
    moment.news = news := by
  rw [Moment.news, told, List.length_append, Nat.add_sub_cancel, List.take_left]

theorem events_eq (moment : Moment) :
    moment.after.events = moment.news ++ moment.engine.events := by
  obtain ⟨news, told⟩ :=
    (Engine.operation_edited moment.operation moment.engine).events_suffix
  rw [news_eq told.symm]
  exact told.symm

theorem accepted_cases {id : MailboxId} {message : Message}
    (accepted : moment.accepted? id = some message) :
    ∃ endpoint payload flags channel answer binding,
      moment.operation = .send endpoint payload flags channel ∧ moment.outcome = .ok answer ∧
        moment.engine.handles.binding? endpoint = some binding ∧ binding.mailbox = id ∧
          message = ⟨endpoint.pid, channel, .ofSender flags, payload⟩ := by
  obtain ⟨deed, done, told⟩ := Option.bind_eq_some_iff.mp accepted
  simp only [deed?] at done
  split at done
  · rename_i sends succeeds
    obtain ⟨binding, held, rfl⟩ := Option.map_eq_some_iff.mp done
    simp only [Deed.accepted?] at told
    split at told
    · rename_i here
      cases told
      exact ⟨_, _, _, _, _, binding, sends, succeeds, held, here, rfl⟩
    · cases told
  · obtain ⟨binding, _, rfl⟩ := Option.map_eq_some_iff.mp done
    cases told
  · cases done
    cases told
  · cases done

theorem dequeued_cases {id : MailboxId} {delivery : Delivery}
    (dequeued : moment.dequeued? id = some delivery) :
    ∃ endpoint room answer binding,
      moment.operation = .receive endpoint room ∧ moment.outcome = .ok answer ∧
        moment.engine.handles.binding? endpoint = some binding ∧ binding.mailbox = id ∧
          binding.mode.isTap = false := by
  obtain ⟨deed, done, told⟩ := Option.bind_eq_some_iff.mp dequeued
  simp only [deed?] at done
  split at done
  · obtain ⟨binding, _, rfl⟩ := Option.map_eq_some_iff.mp done
    cases told
  · rename_i receives succeeds
    obtain ⟨binding, held, rfl⟩ := Option.map_eq_some_iff.mp done
    simp only [Deed.dequeued?] at told
    split at told
    · rename_i both
      exact ⟨_, _, _, binding, receives, succeeds, held, both.1, both.2⟩
    · cases told
  · cases done
    cases told
  · cases done

theorem accepted_unmarked {id : MailboxId} {message : Message}
    (accepted : moment.accepted? id = some message) : message.IsUnmarked := by
  obtain ⟨_, _, _, _, _, _, _, _, _, _, rfl⟩ := accepted_cases accepted
  exact Flags.has_ofSender_overrun _

theorem deed_failed {fault : Fault} (failed : moment.outcome = .error fault) :
    moment.deed? = none := by
  simp only [deed?, failed]
  split <;> first | rfl | (rename_i succeeds; cases succeeds)

theorem idle_none {id : MailboxId} (idle : moment.deed? = none) :
    moment.accepted? id = none ∧ moment.dequeued? id = none := by
  simp only [accepted?, dequeued?, idle, Option.bind_none, and_self]

theorem deed_other (other : moment.operation.moves = false) : moment.deed? = none := by
  simp only [deed?]
  split <;> first | rfl | (rename_i same _; rw [same] at other; cases other)

inductive Touches (moment : Moment) : MailboxId → Mailbox → Mailbox → Prop
  | marked {endpoint : Endpoint} {payload : Bytes} {flags channel : UInt16} {binding : Binding}
      {mailbox : Mailbox} (idle : moment.deed? = none)
      (sends : moment.operation = .send endpoint payload flags channel)
      (held : moment.engine.handles.binding? endpoint = some binding)
      (fits : framedSize payload.length ≤ mailbox.capacity.toNat)
      (told : moment.news = []) :
      Touches moment binding.mailbox mailbox (mailbox.marked endpoint)
  | posted {endpoint : Endpoint} {payload : Bytes} {flags channel : UInt16} {binding : Binding}
      {mailbox : Mailbox} {frame : Frame}
      (done : moment.deed? = some (.accepted binding.mailbox frame.message))
      (sends : moment.operation = .send endpoint payload flags channel)
      (held : moment.engine.handles.binding? endpoint = some binding)
      (fits : framedSize payload.length ≤ mailbox.capacity.toNat)
      (room : (mailbox.marked endpoint).hasRoom frame.cost = true)
      (letter : frame = mailbox.letter endpoint (.ofSender flags) channel payload)
      (told : moment.news = Engine.announcements endpoint binding.mailbox channel payload.length
        ((mailbox.marked endpoint).acceptance frame)) :
      Touches moment binding.mailbox mailbox ((mailbox.marked endpoint).posted frame)
  | withdrawn {endpoint : Endpoint} {room : Nat} {binding : Binding} {mailbox : Mailbox}
      {ring : Ring} {frame : Frame} {rest : List Frame} {receipt : Receipt}
      (done : moment.deed? = some (.received endpoint binding room receipt))
      (reader : moment.engine.Reads endpoint binding mailbox)
      (seen : mailbox.ringOf? (mailbox.view endpoint binding.mode) = some ring)
      (front : ring.frames = frame :: rest)
      (delivered :
        receipt = frame.receipt room (mailbox.lossAt (mailbox.view endpoint binding.mode)))
      (told : moment.news = [.received endpoint.pid binding.mailbox receipt.payload.length
        receipt.overrun]) :
      Touches moment binding.mailbox mailbox
        (mailbox.withdrawn (mailbox.view endpoint binding.mode))
  | switched {endpoint : Endpoint} {enabled : Bool} {binding : Binding} {mailbox : Mailbox}
      {subscription : Subscription} (done : moment.deed? = some (.switched endpoint enabled))
      (held : moment.engine.handles.binding? endpoint = some binding)
      (there : mailbox.subscribers[endpoint]? = some subscription)
      (tapped : subscription.isTap = true)
      (told : moment.news = [.tapped endpoint.pid binding.mailbox endpoint.handle enabled]) :
      Touches moment binding.mailbox mailbox (mailbox.switched endpoint enabled)

theorem Touches.lasts {here : MailboxId} {before changed : Mailbox}
    (touches : moment.Touches here before changed) (sameId : before.id = here)
    (whole : before.Sound) : changed.id = here ∧ before.Lasts changed := by
  cases touches with
  | marked => exact ⟨(before.marked_id _).trans sameId, (whole.marked_steady _).lasts⟩
  | @posted endpoint =>
      have marked := (whole.marked_steady endpoint).lasts
      exact ⟨(before.marked_id _).trans sameId,
        ⟨marked.name_eq, marked.capacity_eq, marked.policy_eq⟩⟩
  | @withdrawn endpoint _ binding =>
      have traffic := whole.withdrawn_traffic (before.view endpoint binding.mode)
      exact ⟨traffic.id_eq.trans sameId,
        ⟨traffic.name_eq, traffic.capacity_eq, traffic.policy_eq⟩⟩
  | switched => exact ⟨sameId, ⟨rfl, rfl, rfl⟩⟩

theorem Touches.idle_elsewhere {here id : MailboxId} {before changed : Mailbox}
    (touches : moment.Touches here before changed) (apart : here ≠ id) :
    moment.accepted? id = none ∧ moment.dequeued? id = none := by
  cases touches with
  | marked idle => exact idle_none idle
  | posted done | withdrawn done | switched done =>
      simp only [accepted?, dequeued?, done, Option.bind_some, Deed.accepted?, Deed.dequeued?,
        apart, false_and, if_false, and_self]

inductive Course (moment : Moment) : Prop
  | calm (idle : moment.deed? = none) (calm : moment.engine.Calm moment.after)
      (reshaped : moment.engine.Reshaped moment.after)
  | touched {here : MailboxId} {before changed : Mailbox}
      (touches : moment.Touches here before changed)
      (found : moment.engine.registry.get? here = some before)
      (registry_eq : moment.after.registry = moment.engine.registry.update changed)
      (handles_eq : moment.after.handles = moment.engine.handles)

theorem ran_ok {α : Type} {step : Step α} {form : α → Answer} {answer : α} {after : Engine}
    (same : moment.operation.step = step >>= fun answer => Pure.pure (form answer))
    (ran : step moment.engine = (.ok answer, after)) :
    moment.outcome = .ok (form answer) ∧ moment.after = after := by
  have stepped : moment.operation.step moment.engine = (.ok (form answer), after) := by
    rw [same, Step.bind_ok ran]
    rfl
  exact ⟨congrArg Prod.fst stepped, congrArg Prod.snd stepped⟩

theorem ran_error {α : Type} {step : Step α} {form : α → Answer} {fault : Fault} {after : Engine}
    (same : moment.operation.step = step >>= fun answer => Pure.pure (form answer))
    (ran : step moment.engine = (.error fault, after)) :
    moment.outcome = .error fault ∧ moment.after = after := by
  have stepped : moment.operation.step moment.engine = (.error fault, after) := by
    rw [same, Step.bind_error ran]
  exact ⟨congrArg Prod.fst stepped, congrArg Prod.snd stepped⟩

theorem course_failed {fault : Fault}
    (ended : moment.outcome = .error fault ∧ moment.after = moment.engine) : moment.Course := by
  refine .calm (deed_failed ended.1) ?_ ?_
  · rw [ended.2]
    exact .refl _
  · rw [ended.2]
    exact Engine.Opened.reshaped .refl

theorem send_course (sound : moment.engine.scene.Sound) (running : moment.engine.halted = none)
    {endpoint : Endpoint} {payload : Bytes} {flags channel : UInt16}
    (sends : moment.operation = .send endpoint payload flags channel) : moment.Course := by
  have same : moment.operation.step =
      Engine.trySend endpoint payload flags channel >>= fun count => Pure.pure (Answer.count count)
      := by
    rw [sends]
    rfl
  cases ran : Engine.trySend endpoint payload flags channel moment.engine with
  | mk outcome after =>
      cases Engine.trySend_ends sound running ran with
      | refused => exact course_failed (ran_error same ran)
      | full held found fits full =>
          obtain ⟨failed, left⟩ := ran_error same ran
          have quiet : moment.news = [] := news_eq (by rw [left]; rfl)
          exact .touched (.marked (deed_failed failed) sends held fits quiet) found (by rw [left])
            (by rw [left])
      | @sent binding mailbox frame held found fits room letter =>
          obtain ⟨succeeds, left⟩ := ran_ok same ran
          rw [Engine.announce_eq] at left
          have done : moment.deed? = some (.accepted binding.mailbox frame.message) := by
            simp only [deed?, sends, succeeds, held, Option.map_some, letter]
            rfl
          have fitting : (mailbox.marked endpoint).hasRoom frame.cost = true := by
            rw [letter]
            exact room
          exact .touched (.posted done sends held fits fitting letter (news_eq (by rw [left])))
            found (by rw [left]) (by rw [left])

theorem receive_course (sound : moment.engine.scene.Sound) (running : moment.engine.halted = none)
    {endpoint : Endpoint} {room : Nat} (receives : moment.operation = .receive endpoint room) :
    moment.Course := by
  have same : moment.operation.step =
      Engine.tryReceive endpoint room >>= fun receipt => Pure.pure (Answer.receipt receipt) := by
    rw [receives]
    rfl
  cases ran : Engine.tryReceive endpoint room moment.engine with
  | mk outcome after =>
      cases Engine.tryReceive_ends sound running ran with
      | refused | empty => exact course_failed (ran_error same ran)
      | @received binding _ _ _ _ receipt reader seen front delivered =>
          obtain ⟨succeeds, left⟩ := ran_ok same ran
          rw [Engine.acknowledge_eq] at left
          have done : moment.deed? = some (.received endpoint binding room receipt) := by
            simp only [deed?, receives, succeeds, reader.held, Option.map_some]
          exact .touched (.withdrawn done reader seen front delivered (news_eq (by rw [left])))
            reader.found (by rw [left]) (by rw [left])

theorem tap_course (sound : moment.engine.scene.Sound) (running : moment.engine.halted = none)
    {endpoint : Endpoint} {enabled : Bool} (taps : moment.operation = .tap endpoint enabled) :
    moment.Course := by
  have same : moment.operation.step =
      Engine.tap endpoint enabled >>= fun _ => Pure.pure Answer.nothing := by
    rw [taps]
    rfl
  cases ran : Engine.tap endpoint enabled moment.engine with
  | mk outcome after =>
      cases Engine.tap_ends sound running ran with
      | refused => exact course_failed (ran_error same ran)
      | switched held found there tapped =>
          obtain ⟨succeeds, left⟩ := ran_ok same ran
          have done : moment.deed? = some (.switched endpoint enabled) := by
            simp only [deed?, taps, succeeds]
          exact .touched (.switched done held there tapped (news_eq (by rw [left]))) found
            (by rw [left]) (by rw [left])

theorem halted_course {reason : String} (halted : moment.engine.halted = some reason)
    (moves : moment.operation.moves = true) : moment.Course := by
  obtain ⟨engine, operation⟩ := moment
  have still : ∀ {α : Type} (step : Step α) (form : α → Answer),
      operation.step = (Step.guarded step >>= fun answer => Pure.pure (form answer)) →
        Course ⟨engine, operation⟩ := fun step form same =>
    course_failed (ran_error same (Step.guarded_halted halted))
  cases operation with
  | send | receive | tap => exact still _ _ rfl
  | _ => cases moves

theorem moving_course (sound : moment.engine.scene.Sound)
    (moves : moment.operation.moves = true) : moment.Course := by
  cases halted : moment.engine.halted with
  | some reason => exact halted_course halted moves
  | none =>
      cases operation : moment.operation with
      | send => exact send_course sound halted operation
      | receive => exact receive_course sound halted operation
      | tap => exact tap_course sound halted operation
      | _ =>
          rw [operation] at moves
          cases moves

theorem course (sound : moment.engine.scene.Sound)
    (few : moment.after.registrations ≤ Registry.mostNumbers) : moment.Course := by
  cases moves : moment.operation.moves with
  | false =>
      have intact := Engine.intact_of_sound sound
      have reshaped := Engine.operation_reshaped moves moment.engine
      exact .calm (deed_other moves) (reshaped.calm intact sound.numbered few) reshaped
  | true => exact moving_course sound moves

theorem Course.lasts (course : moment.Course) (intact : moment.engine.Intact)
    {id : MailboxId} {earlier later : Mailbox}
    (present : moment.engine.registry.get? id = some earlier)
    (found : moment.after.registry.get? id = some later) : earlier.Lasts later := by
  cases course with
  | calm _ calm =>
      rcases calm.queues id later found with ⟨missing, _⟩ | ⟨before, there, rests⟩
      · cases missing.symm.trans present
      · cases there.symm.trans present
        exact rests.lasts
  | touched touches there registry_eq _ =>
      obtain ⟨sameId, whole⟩ := intact _ _ there
      obtain ⟨kept, lasts⟩ := touches.lasts sameId whole
      rw [registry_eq] at found
      rcases Registry.update_cases kept found with ⟨rfl, rfl⟩ | ⟨_, same⟩
      · cases there.symm.trans present
        exact lasts
      · cases present.symm.trans same
        exact .refl earlier

end Moment

end Mailroom
