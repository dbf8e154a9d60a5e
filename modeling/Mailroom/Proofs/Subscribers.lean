import Mathlib.Data.List.Nodup
import Mailroom.Mailbox.Subscribers
import Mailroom.Proofs.Ring
import Mailroom.Proofs.Table

/-!
What handing out copies does: every wanted subscriber whose ring has room gets the frame, the
others note a loss, and nobody else changes. Handing out never fails while each ring could hold
the frame at all.
-/

namespace Mailroom

namespace Subscription

def offered (subscription : Subscription) (frame : Frame) : Subscription :=
  (subscription.offer frame).2

theorem offer_of_room {subscription : Subscription} {frame : Frame} (measured : frame.IsMeasured)
    (room : frame.cost ≤ subscription.ring.free) :
    subscription.offer frame =
      (.ok true, { subscription with ring := subscription.ring.appended frame }) := by
  simp only [offer, Ring.push_of_room measured room]

theorem offer_of_full {subscription : Subscription} {frame : Frame} (measured : frame.IsMeasured)
    (fits : frame.cost ≤ subscription.ring.capacity)
    (full : subscription.ring.free < frame.cost) :
    subscription.offer frame =
      (.ok false,
        { subscription with lossPending := true, dropped := subscription.dropped + 1 }) := by
  simp only [offer, Ring.push_of_full measured fits full]

theorem offer_eq {subscription : Subscription} {frame : Frame} (measured : frame.IsMeasured)
    (fits : frame.cost ≤ subscription.ring.capacity) :
    subscription.offer frame =
      (.ok (subscription.ring.hasRoom frame.cost), subscription.offered frame) := by
  by_cases room : frame.cost ≤ subscription.ring.free
  · simp [offered, offer_of_room measured room, Ring.hasRoom_iff.mpr room]
  · have full : subscription.ring.free < frame.cost := Nat.lt_of_not_le room
    simp [offered, offer_of_full measured fits full, Ring.hasRoom_false_iff.mpr full]

@[simp] theorem offered_kind (subscription : Subscription) (frame : Frame) :
    (subscription.offered frame).kind = subscription.kind := by
  simp only [offered, offer]
  split <;> rfl

@[simp] theorem offered_sender (subscription : Subscription) (frame : Frame) :
    (subscription.offered frame).sender = subscription.sender := by
  simp only [offered, offer]
  split <;> rfl

@[simp] theorem offered_capacity (subscription : Subscription) (frame : Frame) :
    (subscription.offered frame).ring.capacity = subscription.ring.capacity := by
  simp only [offered, offer]
  split
  · rename_i ring pushed
    rw [Ring.eq_appended_of_push pushed]
    rfl
  · rfl
  · rfl

@[simp] theorem offered_isTap (subscription : Subscription) (frame : Frame) :
    (subscription.offered frame).isTap = subscription.isTap := by
  simp [isTap]

@[simp] theorem offered_isReader (subscription : Subscription) (frame : Frame) :
    (subscription.offered frame).isReader = subscription.isReader := by
  simp [isReader]

theorem offered_sound {subscription : Subscription} {frame : Frame}
    (sound : subscription.ring.Sound) (measured : frame.IsMeasured)
    (fits : frame.cost ≤ subscription.ring.capacity) :
    (subscription.offered frame).ring.Sound := by
  by_cases room : frame.cost ≤ subscription.ring.free
  · simpa [offered, offer_of_room measured room] using sound.appended measured room
  · simpa [offered, offer_of_full measured fits (Nat.lt_of_not_le room)] using sound

theorem offered_free_le {subscription : Subscription} {frame : Frame}
    (measured : frame.IsMeasured) (fits : frame.cost ≤ subscription.ring.capacity) :
    (subscription.offered frame).ring.free ≤ subscription.ring.free := by
  by_cases room : frame.cost ≤ subscription.ring.free
  · simp only [offered, offer_of_room measured room, Ring.free, Ring.appended]
    omega
  · simp [offered, offer_of_full measured fits (Nat.lt_of_not_le room)]

theorem offered_ring_of_full {subscription : Subscription} {frame : Frame}
    (measured : frame.IsMeasured) (fits : frame.cost ≤ subscription.ring.capacity)
    (full : subscription.ring.free < frame.cost) :
    (subscription.offered frame).ring = subscription.ring := by
  simp [offered, offer_of_full measured fits full]

theorem isReader_of_isLiveTap {subscription : Subscription}
    (live : subscription.isLiveTap = true) : subscription.isReader = false := by
  simp only [isLiveTap, decide_eq_true_eq] at live
  simp [isReader, live]

theorem kind_eq_tap {subscription : Subscription} (tapped : subscription.isTap = true) :
    ∃ enabled, subscription.kind = .tap enabled := by
  cases kind : subscription.kind with
  | tap enabled => exact ⟨enabled, rfl⟩
  | fanout => simp [isTap, kind] at tapped

theorem kind_eq_fanout {subscription : Subscription} (untapped : subscription.isTap = false) :
    subscription.kind = .fanout := by
  cases kind : subscription.kind with
  | tap enabled => simp [isTap, kind] at untapped
  | fanout => rfl

theorem isReader_false_of_isTap {subscription : Subscription}
    (tapped : subscription.isTap = true) : subscription.isReader = false := by
  obtain ⟨enabled, kind⟩ := kind_eq_tap tapped
  simp [isReader, kind]

theorem isTap_of_isReader {subscription : Subscription} (reader : subscription.isReader = true) :
    subscription.isTap = false := by
  simp only [isReader, Bool.and_eq_true, decide_eq_true_eq] at reader
  simp [isTap, reader.1]

end Subscription

def Replication.noting (replication : Replication) (endpoint : Endpoint) (put : Bool) :
    Replication :=
  if put then { replication with delivered := replication.delivered + 1 }
  else { replication with overrun := replication.overrun ++ [endpoint] }

namespace Subscribers

theorem feed_cons {frame : Frame} (measured : frame.IsMeasured) (endpoint : Endpoint)
    (subscription : Subscription) (rest : List (Endpoint × Subscription))
    (replication : Replication) (subscribers : Subscribers)
    (fits : frame.cost ≤ subscription.ring.capacity) :
    feed frame ((endpoint, subscription) :: rest) replication subscribers =
      feed frame rest (replication.noting endpoint (subscription.ring.hasRoom frame.cost))
        (subscribers.insert endpoint (subscription.offered frame)) := by
  cases room : subscription.ring.hasRoom frame.cost <;>
    simp [feed, Subscription.offer_eq measured fits, room, Replication.noting]

/-- Copies for listed subscribers with keys of their own: how many were put, who missed one, and
every entry afterwards. -/
theorem feed_eq (frame : Frame) (measured : frame.IsMeasured)
    (entries : List (Endpoint × Subscription)) (replication : Replication)
    (subscribers : Subscribers)
    (distinct : entries.Pairwise fun left right => left.1 ≠ right.1)
    (fits : ∀ entry ∈ entries, frame.cost ≤ entry.2.ring.capacity) :
    ∃ after, feed frame entries replication subscribers =
        (.ok
          { delivered := replication.delivered +
              entries.countP fun entry => entry.2.ring.hasRoom frame.cost
            overrun := replication.overrun ++
              (entries.filter fun entry => !entry.2.ring.hasRoom frame.cost).map Prod.fst },
          after) ∧
      (∀ entry ∈ entries, after[entry.1]? = some (entry.2.offered frame)) ∧
      ∀ endpoint : Endpoint, (∀ entry ∈ entries, entry.1 ≠ endpoint) →
        after[endpoint]? = subscribers[endpoint]? := by
  induction entries generalizing replication subscribers with
  | nil => exact ⟨subscribers, by simp [feed], by simp, by simp⟩
  | cons entry rest ih =>
      obtain ⟨endpoint, subscription⟩ := entry
      have apart := List.pairwise_cons.mp distinct
      obtain ⟨after, fed, listed, unlisted⟩ := ih
        (replication.noting endpoint (subscription.ring.hasRoom frame.cost))
        (subscribers.insert endpoint (subscription.offered frame)) apart.2
        (fun entry member => fits entry (List.mem_cons_of_mem _ member))
      refine ⟨after, ?_, ?_, ?_⟩
      · rw [feed_cons measured _ _ _ _ _ (fits _ List.mem_cons_self), fed]
        cases room : subscription.ring.hasRoom frame.cost with
        | false => simp [Replication.noting, room]
        | true =>
            simp only [Replication.noting, room, if_true, List.countP_cons, List.filter_cons,
              Bool.not_true, Bool.false_eq_true, if_false]
            rw [Nat.add_assoc, Nat.add_comm 1]
      · intro entry member
        rcases List.mem_cons.mp member with first | later
        · subst first
          rw [unlisted endpoint (fun other within => (apart.1 other within).symm),
            Table.insert_at, if_pos rfl]
        · exact listed entry later
      · intro other unequal
        have first : endpoint ≠ other := unequal _ List.mem_cons_self
        rw [unlisted other (fun entry member => unequal entry (List.mem_cons_of_mem _ member)),
          Table.insert_at, if_neg first]

def outcomeOf (subscribers : Subscribers) (wanted : Subscription → Bool) (frame : Frame) :
    Replication :=
  let entries := subscribers.toList.filter fun entry => wanted entry.2
  { delivered := entries.countP fun entry => entry.2.ring.hasRoom frame.cost
    overrun := (entries.filter fun entry => !entry.2.ring.hasRoom frame.cost).map Prod.fst }

def offerTo (subscribers : Subscribers) (wanted : Subscription → Bool) (frame : Frame) :
    Subscribers :=
  subscribers.map fun _ subscription =>
    if wanted subscription then subscription.offered frame else subscription

theorem offerTo_at (subscribers : Subscribers) (wanted : Subscription → Bool) (frame : Frame)
    (endpoint : Endpoint) :
    (subscribers.offerTo wanted frame)[endpoint]? = subscribers[endpoint]?.map fun subscription =>
      if wanted subscription then subscription.offered frame else subscription :=
  Table.map_at _ _ _

theorem replicate_eq {subscribers : Subscribers} {wanted : Subscription → Bool} {frame : Frame}
    (measured : frame.IsMeasured)
    (fits : ∀ (endpoint : Endpoint) (subscription : Subscription),
      subscribers[endpoint]? = some subscription → frame.cost ≤ subscription.ring.capacity) :
    subscribers.replicate wanted frame =
      (.ok (subscribers.outcomeOf wanted frame), subscribers.offerTo wanted frame) := by
  let entries := subscribers.toList.filter fun entry => wanted entry.2
  have found : ∀ entry ∈ entries,
      subscribers[entry.1]? = some entry.2 ∧ wanted entry.2 = true := by
    intro entry member
    have parts := List.mem_filter.mp member
    exact ⟨Table.mem_toList.mp parts.1, parts.2⟩
  obtain ⟨after, fed, listed, unlisted⟩ := feed_eq frame measured entries {} subscribers
    ((Table.distinct_toList subscribers).filter _)
    (fun entry member => fits _ _ (found entry member).1)
  have same : after = subscribers.offerTo wanted frame := by
    apply Table.ext_at
    intro endpoint
    rw [offerTo_at]
    cases present : subscribers[endpoint]? with
    | none =>
        rw [unlisted endpoint, present, Option.map_none]
        intro entry member equal
        rw [← equal, (found entry member).1] at present
        cases present
    | some subscription =>
        rw [Option.map_some]
        by_cases chosen : wanted subscription = true
        · rw [if_pos chosen]
          exact listed (endpoint, subscription)
            (List.mem_filter.mpr ⟨Table.mem_toList.mpr present, chosen⟩)
        · rw [if_neg chosen, unlisted endpoint, present]
          intro entry member equal
          have facts := found entry member
          rw [equal, present] at facts
          exact chosen (Option.some.inj facts.1 ▸ facts.2)
  rw [replicate, fed, same]
  simp [outcomeOf, entries]

theorem outcomeOf_readers (subscribers : Subscribers) (frame : Frame) :
    (subscribers.offerTo Subscription.isLiveTap frame).outcomeOf Subscription.isReader frame =
      subscribers.outcomeOf Subscription.isReader frame := by
  let shown : Endpoint × Subscription → Endpoint × Subscription := fun entry =>
    (entry.1, if entry.2.isLiveTap then entry.2.offered frame else entry.2)
  have same : ((fun entry : Endpoint × Subscription => entry.2.isReader) ∘ shown) =
      fun entry => entry.2.isReader := by
    funext entry
    simp only [Function.comp_apply, shown]
    split <;> simp
  have kept : ∀ entry ∈ subscribers.toList.filter fun entry => entry.2.isReader,
      shown entry = entry := by
    intro entry member
    have reader : entry.2.isReader = true := (List.mem_filter.mp member).2
    by_cases live : entry.2.isLiveTap = true
    · rw [Subscription.isReader_of_isLiveTap live] at reader
      cases reader
    · simp [shown, live]
  have readers :
      ((subscribers.offerTo Subscription.isLiveTap frame).toList.filter
          fun entry => entry.2.isReader) =
        subscribers.toList.filter fun entry => entry.2.isReader := by
    rw [Subscribers.offerTo, Std.ExtTreeMap.toList_map, List.filter_map]
    change ((subscribers.toList.filter
      ((fun entry : Endpoint × Subscription => entry.2.isReader) ∘ shown)).map shown) = _
    rw [same, List.map_congr_left kept, List.map_id']
  simp only [Subscribers.outcomeOf, readers]

theorem allHaveRoom_iff (subscribers : Subscribers) (cost : Nat) :
    subscribers.allHaveRoom cost = true ↔
      ∀ (endpoint : Endpoint) (subscription : Subscription),
        subscribers[endpoint]? = some subscription → subscription.isReader = true →
          cost ≤ subscription.ring.free := by
  simp only [Subscribers.allHaveRoom, List.all_eq_true, Bool.or_eq_true, Bool.not_eq_true']
  constructor
  · intro all endpoint subscription found reader
    rcases all (endpoint, subscription) (Table.mem_toList.mpr found) with other | room
    · rw [reader] at other
      cases other
    · exact Ring.hasRoom_iff.mp room
  · rintro all ⟨endpoint, subscription⟩ member
    cases reader : subscription.isReader with
    | false => exact Or.inl rfl
    | true =>
        exact Or.inr (Ring.hasRoom_iff.mpr
          (all endpoint subscription (Table.mem_toList.mp member) reader))

theorem overrun_nil {subscribers : Subscribers} {frame : Frame}
    (room : subscribers.allHaveRoom frame.cost = true) :
    (subscribers.outcomeOf Subscription.isReader frame).overrun = [] := by
  simp only [Subscribers.outcomeOf, List.map_eq_nil_iff, List.filter_eq_nil_iff]
  rintro ⟨endpoint, subscription⟩ member
  obtain ⟨listed, reader⟩ := List.mem_filter.mp member
  have enough := (allHaveRoom_iff subscribers frame.cost).mp room endpoint subscription
    (Table.mem_toList.mp listed) reader
  simp [Ring.hasRoom_iff.mpr enough]

theorem outcomeOf_count (subscribers : Subscribers) (wanted : Subscription → Bool) (frame : Frame)
    (endpoint : Endpoint) :
    (subscribers.outcomeOf wanted frame).overrun.count endpoint =
      subscribers[endpoint]?.elim 0 fun subscription =>
        if wanted subscription = true ∧ subscription.ring.free < frame.cost then 1 else 0 := by
  have once : (subscribers.outcomeOf wanted frame).overrun.Nodup :=
    List.pairwise_map.mpr (((Table.distinct_toList subscribers).filter _).filter _)
  have missed : endpoint ∈ (subscribers.outcomeOf wanted frame).overrun ↔
      ∃ subscription, subscribers[endpoint]? = some subscription ∧
        wanted subscription = true ∧ subscription.ring.free < frame.cost := by
    simp only [outcomeOf, List.mem_map, List.mem_filter, Prod.exists, Table.mem_toList,
      Bool.not_eq_true', Ring.hasRoom_false_iff, and_assoc]
    constructor
    · rintro ⟨_, subscription, there, chosen, full, rfl⟩
      exact ⟨subscription, there, chosen, full⟩
    · rintro ⟨subscription, there, chosen, full⟩
      exact ⟨endpoint, subscription, there, chosen, full, rfl⟩
  rw [once.count]
  cases there : subscribers[endpoint]? with
  | none =>
      rw [if_neg (by simp [missed, there])]
      rfl
  | some subscription => simp [missed, there]

theorem full_of_unfed {subscribers : Subscribers} {wanted : Subscription → Bool} {frame : Frame}
    (unfed : (subscribers.outcomeOf wanted frame).fedAnyone = false) {endpoint : Endpoint}
    {subscription : Subscription} (found : subscribers[endpoint]? = some subscription)
    (chosen : wanted subscription = true) : subscription.ring.free < frame.cost := by
  have none : (subscribers.outcomeOf wanted frame).delivered = 0 := by
    simpa [Replication.fedAnyone] using unfed
  have member : (endpoint, subscription) ∈
      subscribers.toList.filter fun entry => wanted entry.2 :=
    List.mem_filter.mpr ⟨Table.mem_toList.mpr found, chosen⟩
  have full := List.countP_eq_zero.mp none _ member
  exact Ring.hasRoom_false_iff.mp (by simpa using full)

end Subscribers

end Mailroom
