import Mailroom.Proofs.Engine.Intact

/-!
Taps are passive. Without its taps a mailbox takes the same messages, turns away or holds back the
same senders and hands out the same messages; all that a sender can see of a tap is that its copy
was put or missed.
-/

namespace Mailroom

inductive Dealing where
  | accept (source : Endpoint) (flags : Flags) (channel : UInt16) (payload : Bytes)
  | take (view : View) (room : Nat)
  | stat (view : View)
  deriving DecidableEq, Repr, Inhabited

inductive Dealing.Outcome where
  | accepted (outcome : Except Fault Acceptance)
  | taken (outcome : Except Fault (Option Receipt))
  | seen (outcome : Except Fault RingState)

def Dealing.Outcome.untapped : Dealing.Outcome → Dealing.Outcome
  | .accepted outcome => .accepted (outcome.map fun acceptance => { acceptance with taps := {} })
  | other => other

def Subscribers.untapped (subscribers : Subscribers) : Subscribers :=
  subscribers.filter fun _ subscription => !subscription.isTap

namespace Mailbox

def untapped (mailbox : Mailbox) : Mailbox :=
  { mailbox with references := 0, subscribers := mailbox.subscribers.untapped }

def deal (mailbox : Mailbox) : Dealing → Dealing.Outcome × Mailbox
  | .accept source flags channel payload =>
    let (outcome, after) := mailbox.accept source flags channel payload
    (.accepted outcome, after)
  | .take view room =>
    let (outcome, after) := mailbox.take view room
    (.taken outcome, after)
  | .stat view => (.seen (mailbox.stat view), mailbox)

def deals (mailbox : Mailbox) : List Dealing → List Dealing.Outcome × Mailbox
  | [] => ([], mailbox)
  | dealing :: rest =>
    let (outcome, after) := mailbox.deal dealing
    let (outcomes, last) := after.deals rest
    (outcome :: outcomes, last)

def Spares (mailbox : Mailbox) : View → Prop
  | .queue => True
  | .subscriber endpoint => mailbox.tapped? endpoint ≠ some true
  | .tap _ => False

end Mailbox

/-- A dealing that takes or looks takes from the queue, or from a subscriber that is no tap. -/
def Dealing.Avoids (mailbox : Mailbox) : Dealing → Prop
  | .accept .. => True
  | .take view _ | .stat view => mailbox.Spares view

instance (mailbox : Mailbox) : DecidablePred mailbox.Spares
  | .queue => isTrue trivial
  | .subscriber endpoint => inferInstanceAs (Decidable (mailbox.tapped? endpoint ≠ some true))
  | .tap _ => isFalse id

instance (mailbox : Mailbox) : DecidablePred (Dealing.Avoids mailbox)
  | .accept .. => isTrue trivial
  | .take view _ | .stat view => inferInstanceAs (Decidable (mailbox.Spares view))

/-- The mailboxes that come about: one is made, handles come and go, messages move and taps are
switched. -/
inductive Mailbox.Reached : Mailbox → Prop
  | made (id : MailboxId) (name : Name) (capacity : UInt16) (policy : Policy) (creator : Pid)
      (persistent : Bool) : Reached (.empty id name capacity policy creator persistent)
  | attached {mailbox : Mailbox} (reached : mailbox.Reached) (endpoint : Endpoint) (mode : Mode) :
      Reached (mailbox.attach endpoint mode)
  | loosened {before after : Mailbox} (reached : before.Reached) (loosens : before.Loosens after) :
      Reached after
  | moved {before after : Mailbox} (reached : before.Reached) (moves : before.Moves after) :
      Reached after

theorem Subscription.take_isTap (subscription : Subscription) (room : Nat) :
    (subscription.take room).2.isTap = subscription.isTap := by
  unfold take
  split <;> rfl

namespace Subscribers

variable (subscribers : Subscribers)

theorem untapped_at (endpoint : Endpoint) :
    subscribers.untapped[endpoint]? =
      subscribers[endpoint]?.filter fun subscription => !subscription.isTap :=
  Table.filter_at _ _ _

theorem untapped_same {endpoint : Endpoint}
    (plain : subscribers[endpoint]?.map Subscription.isTap ≠ some true) :
    subscribers.untapped[endpoint]? = subscribers[endpoint]? := by
  rw [untapped_at]
  cases found : subscribers[endpoint]? with
  | none => rfl
  | some subscription =>
      have other : subscription.isTap = false := by simpa [found] using plain
      simp [other]

theorem untapped_map {change : Subscription → Subscription}
    (keeps : ∀ subscription, (change subscription).isTap = subscription.isTap) :
    Subscribers.untapped (subscribers.map fun _ => change) =
      subscribers.untapped.map fun _ => change := by
  apply Table.ext_at
  intro endpoint
  rw [untapped_at, Table.map_at, Table.map_at, untapped_at]
  cases subscribers[endpoint]? with
  | none => rfl
  | some subscription => cases tapped : subscription.isTap <;> simp [Option.filter, keeps, tapped]

theorem untapped_modify {change : Subscription → Subscription} (endpoint : Endpoint)
    (keeps : ∀ subscription, (change subscription).isTap = subscription.isTap) :
    Subscribers.untapped (subscribers.modify endpoint change) =
      subscribers.untapped.modify endpoint change := by
  apply Table.ext_at
  intro other
  rw [untapped_at, Table.modify_at, Table.modify_at, untapped_at]
  cases subscribers[other]? with
  | none => simp
  | some subscription =>
      split
      · cases tapped : subscription.isTap <;> simp [Option.filter, keeps, tapped]
      · rfl

theorem untapped_insert (endpoint : Endpoint) {subscription : Subscription}
    (other : subscription.isTap = false) :
    Subscribers.untapped (subscribers.insert endpoint subscription) =
      subscribers.untapped.insert endpoint subscription := by
  apply Table.ext_at
  intro key
  rw [untapped_at, Table.insert_at, Table.insert_at, untapped_at]
  split
  · simp [other]
  · rfl

theorem outcomeOf_untapped {wanted : Subscription → Bool}
    (others : ∀ subscription, wanted subscription = true → subscription.isTap = false)
    (frame : Frame) :
    subscribers.untapped.outcomeOf wanted frame = subscribers.outcomeOf wanted frame := by
  have same : (subscribers.untapped.toList.filter fun entry => wanted entry.2) =
      subscribers.toList.filter fun entry => wanted entry.2 := by
    rw [untapped, Std.ExtTreeMap.toList_filter, List.filter_filter]
    congr 1
    funext entry
    cases chosen : wanted entry.2 with
    | false => rfl
    | true => simp [others _ chosen]
  simp only [outcomeOf, same]

theorem outcomeOf_taps (frame : Frame) :
    subscribers.untapped.outcomeOf Subscription.isLiveTap frame = {} := by
  have nobody : (subscribers.untapped.toList.filter fun entry => entry.2.isLiveTap) = [] := by
    rw [List.filter_eq_nil_iff]
    rintro ⟨endpoint, subscription⟩ member live
    rw [Table.mem_toList, untapped_at, Option.filter_eq_some_iff] at member
    have kind : subscription.kind = .tap true := of_decide_eq_true live
    simp [Subscription.isTap, kind] at member
  simp [outcomeOf, nobody]

theorem allHaveRoom_untapped (cost : Nat) :
    subscribers.untapped.allHaveRoom cost = subscribers.allHaveRoom cost := by
  rw [Bool.eq_iff_iff, allHaveRoom_iff, allHaveRoom_iff]
  constructor
  · intro all endpoint subscription found reader
    refine all endpoint subscription ?_ reader
    rw [untapped_at, found]
    simp [Subscription.isTap_of_isReader reader]
  · intro all endpoint subscription found
    rw [untapped_at, Option.filter_eq_some_iff] at found
    exact all endpoint subscription found.1

end Subscribers

namespace Mailbox

variable {mailbox : Mailbox}

theorem untapped_marked (mailbox : Mailbox) (source : Endpoint) :
    (mailbox.marked source).untapped = mailbox.untapped.marked source := by
  by_cases queued : mailbox.policy = .queue
  · simp [marked, untapped, queued]
  · simp [marked, untapped, queued, Subscribers.markSender, Subscribers.untapped_modify]

theorem untapped_posted (mailbox : Mailbox) (frame : Frame) :
    (mailbox.posted frame).untapped = mailbox.untapped.posted frame := by
  have kept : ∀ subscription : Subscription, Subscription.isTap
      (if mailbox.feeds subscription then subscription.offered frame else subscription) =
        subscription.isTap := by
    intro subscription
    split <;> simp
  simp only [posted, untapped, Subscribers.offerTo, Subscribers.untapped_map _ kept]
  rfl

theorem hasRoom_untapped (mailbox : Mailbox) (cost : Nat) :
    mailbox.untapped.hasRoom cost = mailbox.hasRoom cost := by
  simp only [hasRoom, untapped, Subscribers.allHaveRoom_untapped]

theorem acceptance_untapped (mailbox : Mailbox) (frame : Frame) :
    mailbox.untapped.acceptance frame = { mailbox.acceptance frame with taps := {} } := by
  have readers :
      mailbox.subscribers.untapped.outcomeOf Subscription.isReader frame =
        mailbox.subscribers.outcomeOf Subscription.isReader frame :=
    mailbox.subscribers.outcomeOf_untapped (fun _ => Subscription.isTap_of_isReader) frame
  simp only [acceptance, untapped, Subscribers.outcomeOf_taps, readers]
  rfl

theorem Sound.untapped (sound : mailbox.Sound) : mailbox.untapped.Sound := by
  have rings : ∀ (endpoint : Endpoint) (subscription : Subscription),
      mailbox.untapped.subscribers[endpoint]? = some subscription →
        mailbox.subscribers[endpoint]? = some subscription := by
    intro endpoint subscription found
    have found : mailbox.subscribers.untapped[endpoint]? = some subscription := found
    rw [Subscribers.untapped_at, Option.filter_eq_some_iff] at found
    exact found.1
  exact ⟨sound.queue_capacity, sound.queue_sound,
    fun endpoint subscription found => sound.ring_capacity _ _ (rings endpoint subscription found),
    fun endpoint subscription found => sound.ring_sound _ _ (rings endpoint subscription found)⟩

theorem Reached.sound (reached : mailbox.Reached) : mailbox.Sound := by
  induction reached with
  | made id name capacity policy creator persistent => exact sound_empty ..
  | attached _ endpoint mode ih => exact ih.attach endpoint mode
  | loosened _ loosens ih => exact (loosens.sound ih).1
  | moved _ moves ih => exact (moves.traffic ih).sound

theorem untapped_accept (sound : mailbox.Sound) (source : Endpoint) (flags : Flags)
    (channel : UInt16) (payload : Bytes) :
    mailbox.untapped.accept source flags channel payload =
      ((mailbox.accept source flags channel payload).1.map fun acceptance =>
          { acceptance with taps := {} },
        (mailbox.accept source flags channel payload).2.untapped) := by
  have bare := sound.untapped
  by_cases fits : framedSize payload.length ≤ mailbox.capacity.toNat
  · rw [sound.accept_fitting source flags channel fits,
      bare.accept_fitting source flags channel fits, ← untapped_marked, hasRoom_untapped]
    split
    · rw [acceptance_untapped, untapped_posted]
      rfl
    · rfl
  · have large := Nat.lt_of_not_le fits
    rw [sound.accept_large source flags channel large, bare.accept_large source flags channel large]
    rfl

theorem untapped_take {view : View} (spares : mailbox.Spares view) (room : Nat) :
    mailbox.untapped.take view room =
      ((mailbox.take view room).1, (mailbox.take view room).2.untapped) := by
  cases view with
  | queue => rfl
  | tap endpoint => exact spares.elim
  | subscriber endpoint =>
      have same := mailbox.subscribers.untapped_same spares
      cases found : mailbox.subscribers[endpoint]? with
      | none => simp only [take, Subscribers.take, untapped, same, found]
      | some subscription =>
          have other : (subscription.take room).2.isTap = false := by
            rw [Subscription.take_isTap]
            simpa [Spares, tapped?, found] using spares
          simp only [take, Subscribers.take, untapped, same, found,
            Subscribers.untapped_insert _ _ other]

theorem untapped_stat {view : View} (spares : mailbox.Spares view) :
    mailbox.untapped.stat view = mailbox.stat view := by
  cases view with
  | queue => rfl
  | tap endpoint => exact spares.elim
  | subscriber endpoint => simp only [stat, untapped, mailbox.subscribers.untapped_same spares]

theorem untapped_deal (sound : mailbox.Sound) {dealing : Dealing}
    (avoids : dealing.Avoids mailbox) :
    mailbox.untapped.deal dealing =
      ((mailbox.deal dealing).1.untapped, (mailbox.deal dealing).2.untapped) := by
  cases dealing with
  | accept source flags channel payload =>
      simp only [deal, untapped_accept sound, Dealing.Outcome.untapped]
  | take view room => simp only [deal, untapped_take avoids, Dealing.Outcome.untapped]
  | stat view => simp only [deal, untapped_stat avoids, Dealing.Outcome.untapped]

theorem deal_traffic (sound : mailbox.Sound) (dealing : Dealing) :
    mailbox.Traffic (mailbox.deal dealing).2 := by
  cases dealing with
  | accept source flags channel payload =>
      exact (Moves.accepted source flags channel payload).traffic sound
  | take view room => exact (Moves.taken view room).traffic sound
  | stat view => exact .refl sound

theorem Traffic.avoids {after : Mailbox} (traffic : mailbox.Traffic after) {dealing : Dealing} :
    dealing.Avoids after ↔ dealing.Avoids mailbox := by
  cases dealing with
  | accept => exact Iff.rfl
  | take view | stat view =>
      cases view <;> simp only [Dealing.Avoids, Spares, traffic.tapped_eq]

theorem untapped_deals (dealings : List Dealing) (sound : mailbox.Sound)
    (avoid : ∀ dealing ∈ dealings, dealing.Avoids mailbox) :
    mailbox.untapped.deals dealings =
      ((mailbox.deals dealings).1.map Dealing.Outcome.untapped,
        (mailbox.deals dealings).2.untapped) := by
  induction dealings generalizing mailbox with
  | nil => rfl
  | cons dealing rest ih =>
      obtain ⟨first, others⟩ := List.forall_mem_cons.mp avoid
      have traffic := deal_traffic sound dealing
      have later := ih traffic.sound fun next member => traffic.avoids.mpr (others next member)
      simp only [deals, untapped_deal sound first, later, List.map_cons]

/-- Two states of a mailbox that differ in their taps only: whatever is sent, received and looked
at by others comes to the same in both, and leaves states that differ in their taps only. -/
theorem taps_are_passive {left right : Mailbox} (leftReached : left.Reached)
    (rightReached : right.Reached) (same : left.untapped = right.untapped)
    (dealings : List Dealing) (leftAvoid : ∀ dealing ∈ dealings, dealing.Avoids left)
    (rightAvoid : ∀ dealing ∈ dealings, dealing.Avoids right) :
    (left.deals dealings).1.map Dealing.Outcome.untapped =
        (right.deals dealings).1.map Dealing.Outcome.untapped ∧
      (left.deals dealings).2.untapped = (right.deals dealings).2.untapped := by
  have leftDeals := untapped_deals dealings leftReached.sound leftAvoid
  have rightDeals := untapped_deals dealings rightReached.sound rightAvoid
  rw [same, rightDeals] at leftDeals
  exact ⟨(Prod.mk.inj leftDeals).1.symm, (Prod.mk.inj leftDeals).2.symm⟩

/-- A blocking fan-out with one reader, and the same with a tap that is on and whose ring is full:
the sender waits for the reader only. -/
theorem full_tap_is_passive :
    let bare := (empty ⟨1⟩ ⟨.shared, "feed", none⟩ 12 .fanoutBlock 1 false).attach ⟨1, 1⟩ ⟨0x29⟩
    let watched := bare.attach ⟨2, 1⟩ .tap
    let crowded := { watched with
      subscribers := (watched.subscribers.setTap ⟨2, 1⟩ true).toOption.getD ∅ }
    let dealings : List Dealing :=
      [.accept ⟨3, 1⟩ ⟨0⟩ 0 [1], .take (.subscriber ⟨1, 1⟩) 8, .accept ⟨3, 1⟩ ⟨0⟩ 0 [2],
        .accept ⟨3, 1⟩ ⟨0⟩ 0 [3], .stat (.subscriber ⟨1, 1⟩)]
    (crowded.deals dealings).1.map Dealing.Outcome.untapped =
        (bare.deals dealings).1.map Dealing.Outcome.untapped ∧
      (crowded.deals dealings).2.untapped = (bare.deals dealings).2.untapped := by
  intro bare watched crowded dealings
  have reached : bare.Reached := (Reached.made ..).attached ..
  have set : watched.subscribers.setTap ⟨2, 1⟩ true = .ok crowded.subscribers := by rfl
  have same : crowded.untapped = bare.untapped := by
    have entries : crowded.subscribers.untapped = bare.subscribers.untapped :=
      Std.ExtTreeMap.toList_inj.mp (by decide +kernel)
    exact congrArg (fun subscribers => { bare with references := 0, subscribers }) entries
  exact taps_are_passive ((reached.attached ..).moved (.switched set)) reached same dealings
    (by decide +kernel) (by decide +kernel)

end Mailbox

end Mailroom
