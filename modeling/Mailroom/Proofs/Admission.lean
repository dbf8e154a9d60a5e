import Mailroom.Proofs.Taps
import Mailroom.Proofs.Waiting.Attempts

/-!
Who gets a message. A mailbox turns away what it could never hold, holds back what its policy has
no room for now, and puts anything else into every ring that it is meant for and that has room.
-/

namespace Mailroom

theorem Ring.Sound.free_of_empty {ring : Ring} (sound : ring.Sound) (empty : ring.frames = []) :
    ring.free = ring.capacity := by
  simp [Ring.free, sound.used_eq, empty]

namespace Subscription

theorem offered_eq {subscription : Subscription} {frame : Frame} (measured : frame.IsMeasured)
    (fits : frame.cost ≤ subscription.ring.capacity) :
    subscription.offered frame =
      if frame.cost ≤ subscription.ring.free then
        { subscription with ring := subscription.ring.appended frame }
      else { subscription with lossPending := true, dropped := subscription.dropped + 1 } := by
  by_cases room : frame.cost ≤ subscription.ring.free
  · rw [if_pos room, offered, offer_of_room measured room]
  · rw [if_neg room, offered, offer_of_full measured fits (Nat.lt_of_not_le room)]

theorem isTap_of_isLiveTap {subscription : Subscription}
    (live : subscription.isLiveTap = true) : subscription.isTap = true := by
  simp only [isLiveTap, decide_eq_true_eq] at live
  simp [isTap, live]

@[simp] theorem becomeSender_isLiveTap (subscription : Subscription) :
    subscription.becomeSender.isLiveTap = subscription.isLiveTap := by
  unfold becomeSender
  split <;> rfl

end Subscription

namespace Mailbox

/-- Whether a subscriber is to get, as a reader, what this endpoint sends. -/
def addresses (mailbox : Mailbox) (source endpoint : Endpoint) (subscription : Subscription) :
    Bool :=
  mailbox.policy ≠ .queue && subscription.isReader && endpoint ≠ source

def tally (mailbox : Mailbox) (wanted : Endpoint → Subscription → Bool) (cost : Nat) :
    Replication :=
  let entries := mailbox.subscribers.toList.filter fun entry => wanted entry.1 entry.2
  { delivered := entries.countP fun entry => entry.2.ring.hasRoom cost
    overrun := (entries.filter fun entry => !entry.2.ring.hasRoom cost).map Prod.fst }

def portion (mailbox : Mailbox) (source : Endpoint) (frame : Frame) (endpoint : Endpoint)
    (subscription : Subscription) : Subscription :=
  if subscription.isLiveTap || mailbox.addresses source endpoint subscription then
    if frame.cost ≤ subscription.ring.free then
      { subscription with ring := subscription.ring.appended frame }
    else { subscription with lossPending := true, dropped := subscription.dropped + 1 }
  else if mailbox.policy ≠ .queue ∧ endpoint = source then subscription.becomeSender
  else subscription

def admitting (mailbox : Mailbox) (source : Endpoint) (frame : Frame) : Mailbox :=
  { mailbox with
    nextSequence := mailbox.nextSequence + 1
    queue := if mailbox.policy = .queue then mailbox.queue.appended frame else mailbox.queue
    subscribers := mailbox.subscribers.map (mailbox.portion source frame) }

def admission (mailbox : Mailbox) (source : Endpoint) (frame : Frame) : Acceptance :=
  { sequence := mailbox.nextSequence
    queued := mailbox.policy = .queue
    fanout := mailbox.tally (mailbox.addresses source) frame.cost
    taps := mailbox.tally (fun _ => Subscription.isLiveTap) frame.cost }

def taking (mailbox : Mailbox) : List (View × Nat) → Mailbox
  | [] => mailbox
  | (view, room) :: rest => (mailbox.take view room).2.taking rest

def Hollow (mailbox : Mailbox) (view : View) : Prop :=
  ∀ ring, mailbox.ringOf? view = some ring → ring.frames = []

section Taking

variable {mailbox : Mailbox}

theorem taking_append (mailbox : Mailbox) (sooner later : List (View × Nat)) :
    mailbox.taking (sooner ++ later) = (mailbox.taking sooner).taking later := by
  induction sooner generalizing mailbox with
  | nil => rfl
  | cons first rest ih => exact ih _

theorem Sound.taking_traffic (sound : mailbox.Sound) (takes : List (View × Nat)) :
    mailbox.Traffic (mailbox.taking takes) := by
  induction takes generalizing mailbox with
  | nil => exact .refl sound
  | cons first rest ih =>
      have traffic : mailbox.Traffic (mailbox.take first.1 first.2).2 :=
        (Moves.taken first.1 first.2).traffic sound
      exact traffic.trans (ih traffic.sound)

theorem withdrawn_frames {view : View} {ring : Ring} (found : mailbox.ringOf? view = some ring) :
    ∃ after, (mailbox.withdrawn view).ringOf? view = some after ∧
      after.frames = ring.frames.tail := by
  cases view with
  | queue =>
      cases found
      exact ⟨_, rfl, rfl⟩
  | subscriber endpoint | tap endpoint =>
      obtain ⟨subscription, present, rfl⟩ := Option.map_eq_some_iff.mp found
      refine ⟨subscription.taken.ring, ?_, ?_⟩
      · simp [ringOf?, withdrawn_at, present]
      · unfold Subscription.taken
        split
        · rename_i empty
          simp [empty]
        · rfl

theorem Hollow.take {view : View} (hollow : mailbox.Hollow view) (sound : mailbox.Sound)
    (other : View) (room : Nat) : (mailbox.take other room).2.Hollow view := by
  cases there : mailbox.ringOf? other with
  | none => rwa [take_of_missing room there]
  | some ring =>
      by_cases empty : ring.frames = []
      · rwa [take_of_empty room there empty]
      · obtain ⟨frame, rest, front⟩ := List.exists_cons_of_ne_nil empty
        rw [sound.take_of_front room there front]
        intro after found
        cases view with
        | queue =>
            have nothing : mailbox.queue.frames = [] := hollow _ rfl
            cases found
            cases other with
            | queue => simp [withdrawn, Ring.dropped, nothing]
            | subscriber endpoint | tap endpoint => exact nothing
        | subscriber endpoint | tap endpoint =>
            obtain ⟨subscription, present, rfl⟩ := Option.map_eq_some_iff.mp found
            rw [withdrawn_at] at present
            split at present
            · obtain ⟨earlier, before, rfl⟩ := Option.map_eq_some_iff.mp present
              have nothing : earlier.ring.frames = [] := hollow _ (by simp [ringOf?, before])
              rwa [Subscription.taken_of_empty nothing]
            · exact hollow _ (by simp [ringOf?, present])

theorem Hollow.taking {view : View} (hollow : mailbox.Hollow view) (sound : mailbox.Sound)
    (takes : List (View × Nat)) : (mailbox.taking takes).Hollow view := by
  induction takes generalizing mailbox with
  | nil => exact hollow
  | cons first rest ih =>
      exact ih (hollow.take sound first.1 first.2)
        ((Moves.taken first.1 first.2).traffic sound).sound

theorem Sound.drains_view (sound : mailbox.Sound) (view : View) :
    ∃ takes, (mailbox.taking takes).Hollow view := by
  cases there : mailbox.ringOf? view with
  | none => exact ⟨[], fun ring found => by rw [taking, there] at found; cases found⟩
  | some ring =>
      induction frames : ring.frames generalizing mailbox ring with
      | nil =>
          refine ⟨[], fun other found => ?_⟩
          rw [taking, there] at found
          cases found
          exact frames
      | cons frame rest ih =>
          obtain ⟨after, found, shorter⟩ := withdrawn_frames there
          obtain ⟨takes, hollow⟩ :=
            ih (sound.withdrawn view) after found (by simp [shorter, frames])
          refine ⟨(view, 0) :: takes, ?_⟩
          rw [taking, sound.take_of_front 0 there frames]
          exact hollow

theorem Sound.drains_views (sound : mailbox.Sound) (views : List View) :
    ∃ takes, ∀ view ∈ views, (mailbox.taking takes).Hollow view := by
  induction views generalizing mailbox with
  | nil => exact ⟨[], by simp⟩
  | cons view rest ih =>
      obtain ⟨first, hollow⟩ := sound.drains_view view
      have drained := (sound.taking_traffic first).sound
      obtain ⟨later, others⟩ := ih drained
      refine ⟨first ++ later, ?_⟩
      rw [taking_append]
      intro other member
      rcases List.mem_cons.mp member with same | within
      · rw [same]
        exact hollow.taking drained later
      · exact others other within

theorem Sound.drains (sound : mailbox.Sound) :
    ∃ takes, ∀ view, (mailbox.taking takes).Hollow view := by
  let views := View.queue :: mailbox.subscribers.keys.map View.subscriber
  obtain ⟨takes, hollow⟩ := sound.drains_views views
  have traffic := sound.taking_traffic takes
  have seats : ∀ (endpoint : Endpoint) (subscription : Subscription),
      (mailbox.taking takes).subscribers[endpoint]? = some subscription →
        subscription.ring.frames = [] := by
    intro endpoint subscription found
    have tapped := traffic.tapped_eq endpoint
    rw [tapped?, found, tapped?] at tapped
    obtain ⟨earlier, before, _⟩ := Option.map_eq_some_iff.mp tapped.symm
    have listed : endpoint ∈ mailbox.subscribers.keys :=
      Std.ExtTreeMap.mem_keys.mpr (Table.mem_iff.mpr ⟨earlier, before⟩)
    exact hollow (.subscriber endpoint)
      (List.mem_cons_of_mem _ (List.mem_map_of_mem listed)) _ (by simp [ringOf?, found])
  refine ⟨takes, fun view => ?_⟩
  cases view with
  | queue => exact hollow .queue List.mem_cons_self
  | subscriber endpoint | tap endpoint =>
      intro ring found
      obtain ⟨subscription, present, rfl⟩ := Option.map_eq_some_iff.mp found
      exact seats endpoint subscription present

end Taking

section Admitting

variable {mailbox : Mailbox}

theorem marked_stalls_iff (mailbox : Mailbox) (source : Endpoint) (cost : Nat) :
    (mailbox.marked source).Stalls source cost ↔ mailbox.Stalls source cost := by
  have others : ∀ reader,
      (mailbox.marked source).HeldBackBy source cost reader ↔
        mailbox.HeldBackBy source cost reader := by
    intro reader
    refine and_congr_right fun apart => ?_
    rw [marked_at, if_neg fun same => apart same.2.symm]
  simp only [Stalls, marked_policy, marked_queue, others]

theorem hasRoom_iff_not_stalls (mailbox : Mailbox) (source : Endpoint) (cost : Nat) :
    (mailbox.marked source).hasRoom cost = true ↔ ¬ mailbox.Stalls source cost := by
  rw [← marked_stalls_iff]
  constructor
  · exact not_stalls_of_room
  · intro clear
    by_contra full
    exact clear (stalls_of_full (Bool.eq_false_iff.mpr full))

theorem not_stalls_of_hollow (sound : mailbox.Sound) (hollow : ∀ view, mailbox.Hollow view)
    {cost : Nat} (fits : cost ≤ mailbox.capacity.toNat) (source : Endpoint) :
    ¬ mailbox.Stalls source cost := by
  unfold Stalls
  cases mailbox.policy with
  | queue =>
      have free := sound.queue_sound.free_of_empty (hollow .queue _ rfl)
      rw [free, sound.queue_capacity]
      exact Nat.not_lt.mpr fits
  | fanoutDrop => exact not_false
  | fanoutBlock =>
      rintro ⟨reader, _, subscription, found, _, less⟩
      have empty := hollow (.subscriber reader) subscription.ring (by simp [ringOf?, found])
      rw [(sound.ring_sound _ _ found).free_of_empty empty, sound.ring_capacity _ _ found] at less
      exact Nat.not_lt.mpr fits less

theorem Sound.marked_posted (sound : mailbox.Sound) (source : Endpoint) {frame : Frame}
    (measured : frame.IsMeasured) (fits : frame.cost ≤ mailbox.capacity.toNat) :
    (mailbox.marked source).posted frame = mailbox.admitting source frame := by
  have subscribers :
      ((mailbox.marked source).posted frame).subscribers =
        (mailbox.admitting source frame).subscribers := by
    apply Table.ext_at
    intro endpoint
    rw [posted_at, marked_at, admitting, Table.map_at]
    cases found : mailbox.subscribers[endpoint]? with
    | none => simp
    | some subscription =>
        have offered := Subscription.offered_eq measured
          (show frame.cost ≤ subscription.ring.capacity by rwa [sound.ring_capacity _ _ found])
        by_cases own : mailbox.policy ≠ .queue ∧ source = endpoint
        · obtain ⟨fanned, rfl⟩ := own
          cases live : subscription.isLiveTap with
          | true =>
              have tapped := Subscription.isTap_of_isLiveTap live
              simp [fanned, feeds, portion, live, Subscription.becomeSender_of_tap tapped, offered]
          | false => simp [fanned, feeds, portion, addresses, live]
        · rw [if_neg own]
          by_cases queued : mailbox.policy = .queue
          · simp [feeds, portion, addresses, queued, offered]
          · have apart : endpoint ≠ source := fun same => own ⟨queued, same.symm⟩
            simp [feeds, portion, addresses, queued, apart, offered]
  have rest : (mailbox.marked source).posted frame =
      { mailbox.admitting source frame with
        subscribers := ((mailbox.marked source).posted frame).subscribers } := by
    unfold Mailbox.marked
    split <;> rfl
  rw [rest, subscribers]

theorem marked_readers (fanned : mailbox.policy ≠ .queue) (source : Endpoint) :
    ((mailbox.marked source).subscribers.toList.filter fun entry => entry.2.isReader) =
      mailbox.subscribers.toList.filter fun entry =>
        mailbox.addresses source entry.1 entry.2 := by
  have same : ((mailbox.marked source).subscribers.filter fun _ => Subscription.isReader) =
      mailbox.subscribers.filter (mailbox.addresses source) := by
    apply Table.ext_at
    intro endpoint
    rw [Std.ExtTreeMap.getElem?_filter', Std.ExtTreeMap.getElem?_filter', marked_at]
    cases mailbox.subscribers[endpoint]? with
    | none => simp
    | some subscription =>
        by_cases own : endpoint = source
        · simp [fanned, own, addresses, Option.filter]
        · simp [fanned, own, Ne.symm own, addresses, Option.filter]
  simpa only [Std.ExtTreeMap.toList_filter] using congrArg Std.ExtTreeMap.toList same

theorem marked_taps (mailbox : Mailbox) (source : Endpoint) :
    ((mailbox.marked source).subscribers.toList.filter fun entry => entry.2.isLiveTap) =
      mailbox.subscribers.toList.filter fun entry => entry.2.isLiveTap := by
  have same : ((mailbox.marked source).subscribers.filter fun _ => Subscription.isLiveTap) =
      mailbox.subscribers.filter fun _ => Subscription.isLiveTap := by
    apply Table.ext_at
    intro endpoint
    rw [Table.filter_at, Table.filter_at, marked_at]
    cases mailbox.subscribers[endpoint]? with
    | none => simp
    | some subscription =>
        split
        · cases live : subscription.isLiveTap with
          | true =>
              rw [Option.map_some, Subscription.becomeSender_of_tap
                (Subscription.isTap_of_isLiveTap live)]
          | false => simp [Option.filter, live]
        · rfl
  simpa only [Std.ExtTreeMap.toList_filter] using congrArg Std.ExtTreeMap.toList same

theorem marked_acceptance (mailbox : Mailbox) (source : Endpoint) {frame : Frame}
    (numbered : frame.sequence = mailbox.nextSequence) :
    (mailbox.marked source).acceptance frame = mailbox.admission source frame := by
  by_cases queued : mailbox.policy = .queue
  · simp [acceptance, admission, tally, addresses, queued, numbered, marked_taps,
      Subscribers.outcomeOf]
  · simp [acceptance, admission, tally, queued, numbered, marked_taps, marked_readers,
      Subscribers.outcomeOf]

theorem Sound.accept_eq (sound : mailbox.Sound) (source : Endpoint) (flags : Flags)
    (channel : UInt16) (payload : Bytes)
    (fits : framedSize payload.length ≤ mailbox.capacity.toNat) :
    (mailbox.Stalls source (framedSize payload.length) ∧
      mailbox.accept source flags channel payload = (.error .wouldBlock, mailbox.marked source)) ∨
    (¬ mailbox.Stalls source (framedSize payload.length) ∧
      mailbox.accept source flags channel payload =
        (.ok (mailbox.admission source (mailbox.letter source flags channel payload)),
          mailbox.admitting source (mailbox.letter source flags channel payload))) := by
  have measured := letter_measured source flags channel fits
  have accepted := sound.accept_fitting source flags channel fits
  by_cases stalls : mailbox.Stalls source (framedSize payload.length)
  · refine Or.inl ⟨stalls, ?_⟩
    rw [accepted, if_neg fun room => (hasRoom_iff_not_stalls ..).mp room stalls]
  · refine Or.inr ⟨stalls, ?_⟩
    rw [accepted, if_pos ((hasRoom_iff_not_stalls ..).mpr stalls),
      marked_acceptance mailbox source rfl, sound.marked_posted source measured fits]

theorem Sound.fits_iff_admissible (sound : mailbox.Sound) (source : Endpoint) (flags : Flags)
    (channel : UInt16) (payload : Bytes) :
    framedSize payload.length ≤ mailbox.capacity.toNat ↔
      ∃ takes acceptance,
        ((mailbox.taking takes).accept source flags channel payload).1 = .ok acceptance := by
  constructor
  · intro fits
    obtain ⟨takes, hollow⟩ := sound.drains
    have traffic := sound.taking_traffic takes
    have fits : framedSize payload.length ≤ (mailbox.taking takes).capacity.toNat := by
      rwa [traffic.capacity_eq]
    rcases traffic.sound.accept_eq source flags channel payload fits with
      ⟨stalls, _⟩ | ⟨_, accepted⟩
    · exact absurd stalls (not_stalls_of_hollow traffic.sound hollow fits source)
    · exact ⟨takes, _, by rw [accepted]⟩
  · rintro ⟨takes, acceptance, accepted⟩
    have traffic := sound.taking_traffic takes
    by_contra large
    have large : (mailbox.taking takes).capacity.toNat < framedSize payload.length := by
      rw [traffic.capacity_eq]
      exact Nat.lt_of_not_le large
    rw [traffic.sound.accept_large source flags channel large] at accepted
    cases accepted

/-- A message is too large exactly if no sequence of takes ever lets it in. Another one has to wait
exactly if the queue, or on a blocking fan-out a reader that has sent nothing, has no room for it.
Any other one goes into every ring that it is meant for and that has room for it. -/
theorem admission_follows_policy (reached : mailbox.Reached) (source : Endpoint) (flags : Flags)
    (channel : UInt16) (payload : Bytes) :
    let cost := framedSize payload.length
    let frame := mailbox.letter source flags channel payload
    let outcome := (mailbox.accept source flags channel payload).1
    let after := (mailbox.accept source flags channel payload).2
    ((∃ size most, outcome = .error (.messageTooLarge size most)) ↔
      mailbox.capacity.toNat < cost) ∧
    (mailbox.capacity.toNat < cost ↔ ∀ takes acceptance,
      ((mailbox.taking takes).accept source flags channel payload).1 ≠ .ok acceptance) ∧
    (outcome = .error .wouldBlock ↔
      cost ≤ mailbox.capacity.toNat ∧ mailbox.Stalls source cost) ∧
    (outcome = .ok (mailbox.admission source frame) ↔
      cost ≤ mailbox.capacity.toNat ∧ ¬ mailbox.Stalls source cost) ∧
    after =
      if mailbox.capacity.toNat < cost then mailbox
      else if outcome = .error .wouldBlock then mailbox.marked source
      else mailbox.admitting source frame := by
  have sound := reached.sound
  have admissible := sound.fits_iff_admissible source flags channel payload
  have never : mailbox.capacity.toNat < framedSize payload.length ↔ ∀ takes acceptance,
      ((mailbox.taking takes).accept source flags channel payload).1 ≠ .ok acceptance := by
    rw [← Nat.not_le, admissible]
    push Not
    exact Iff.rfl
  by_cases fits : framedSize payload.length ≤ mailbox.capacity.toNat
  · have small := Nat.not_lt.mpr fits
    rcases sound.accept_eq source flags channel payload fits with
      ⟨stalls, accepted⟩ | ⟨clear, accepted⟩
    · simp [accepted, small, fits, stalls, ← never]
    · simp [accepted, small, fits, clear, ← never]
  · have large := Nat.lt_of_not_le fits
    simp [sound.accept_large source flags channel large, large, fits, ← never]

/-- On a blocking fan-out the only full ring of a reader is the sender's own, and a tap is full too.
The sender goes through, the other reader gets its copy and the tap misses one. -/
theorem own_full_ring_admits :
    let feed := (((empty ⟨1⟩ ⟨.shared, "feed", none⟩ 12 .fanoutBlock 1 false).attach ⟨1, 1⟩
      .readOnly).attach ⟨2, 1⟩ .readWrite).attach ⟨3, 1⟩ .tap
    let watched := { feed with
      subscribers := (feed.subscribers.setTap ⟨3, 1⟩ true).toOption.getD ∅ }
    let filled := (watched.accept ⟨4, 1⟩ ⟨0⟩ 0 [1, 2, 3, 4]).2
    let crowded := (filled.take (.subscriber ⟨1, 1⟩) 4).2
    let letter := crowded.letter ⟨2, 1⟩ ⟨0⟩ 0 [5, 6, 7, 8]
    (crowded.accept ⟨2, 1⟩ ⟨0⟩ 0 [5, 6, 7, 8]).1 = .ok (crowded.admission ⟨2, 1⟩ letter) ∧
      crowded.admission ⟨2, 1⟩ letter = ⟨1, false, ⟨1, []⟩, ⟨0, [⟨3, 1⟩]⟩⟩ := by
  intro feed watched filled crowded letter
  have set : feed.subscribers.setTap ⟨3, 1⟩ true = .ok watched.subscribers := by rfl
  have made : feed.Reached := (((Reached.made ..).attached ..).attached ..).attached ..
  have reached : crowded.Reached :=
    ((made.moved (.switched set)).moved (.accepted ..)).moved (.taken ..)
  obtain ⟨_, _, _, admits, _⟩ :=
    admission_follows_policy reached ⟨2, 1⟩ ⟨0⟩ 0 [5, 6, 7, 8]
  have clear : ¬ crowded.Stalls ⟨2, 1⟩ 12 :=
    (hasRoom_iff_not_stalls ..).mp (by decide +kernel)
  exact ⟨admits.mpr ⟨by decide +kernel, clear⟩, by decide +kernel⟩

end Admitting

end Mailbox

end Mailroom
