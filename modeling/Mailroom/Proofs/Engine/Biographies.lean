import Mailroom.Proofs.Engine.Reshaping

/-!
What events tell of one mailbox, and that whoever follows them knows whether it is there, by which
name, and how many messages wait in it: each edit of an engine is told of as it happens.
-/

namespace Mailroom

namespace Event

def sentTo (id : MailboxId) : Event → Bool
  | .sent _ mailbox .. => mailbox = id
  | _ => false

def receivedFrom (id : MailboxId) : Event → Bool
  | .received _ mailbox .. => mailbox = id
  | _ => false

def isTraffic : Event → Bool
  | .sent .. | .received .. => true
  | _ => false

def concerns (id : MailboxId) : Event → Bool
  | .created mailbox .. | .destroyed mailbox .. | .sent _ mailbox .. | .received _ mailbox .. =>
    mailbox = id
  | _ => false

theorem concerns_created (id : MailboxId) (name : String) (capacity : UInt16) (policy : Policy)
    (creator : Pid) : concerns id (.created id name capacity policy creator) = true :=
  decide_eq_true rfl

theorem concerns_destroyed (id : MailboxId) (name : String) (discarded : Nat) :
    concerns id (.destroyed id name discarded) = true := decide_eq_true rfl

theorem concerns_of_sentTo {id : MailboxId} {event : Event} (sent : event.sentTo id = true) :
    event.concerns id = true := by
  cases event <;> first | exact sent | cases sent

theorem concerns_of_receivedFrom {id : MailboxId} {event : Event}
    (received : event.receivedFrom id = true) : event.concerns id = true := by
  cases event <;> first | exact received | cases received

theorem isPlain_concerns {event : Event} (plain : event.isPlain = true) (id : MailboxId) :
    event.concerns id = false := by
  cases event <;> first | rfl | cases plain

end Event

/-- As many messages went into this mailbox as came out of it, and so many more. -/
def Balances (id : MailboxId) (events : List Event) (left : Nat) : Prop :=
  events.countP (Event.sentTo id) = events.countP (Event.receivedFrom id) + left

theorem balances_filter (id : MailboxId) (events : List Event) (left : Nat) :
    Balances id (events.filter (Event.concerns id)) left ↔ Balances id events left := by
  have counted : ∀ wanted : Event → Bool,
      (∀ event, wanted event = true → event.concerns id = true) →
        (events.filter (Event.concerns id)).countP wanted = events.countP wanted := by
    intro wanted among
    rw [List.countP_filter]
    refine List.countP_congr fun event _ => ?_
    rw [Bool.and_eq_true]
    exact ⟨And.left, fun chosen => ⟨chosen, among event chosen⟩⟩
  rw [Balances, counted _ fun _ => Event.concerns_of_sentTo,
    counted _ fun _ => Event.concerns_of_receivedFrom, Balances]

theorem balances_created {id mailbox : MailboxId} {name : String} {capacity : UInt16}
    {policy : Policy} {creator : Pid} {traffic : List Event} {left : Nat} :
    Balances id (traffic ++ [.created mailbox name capacity policy creator]) left ↔
      Balances id traffic left := by
  simp [Balances, List.countP_append, Event.sentTo, Event.receivedFrom]

namespace Mailbox

def Unwatched (mailbox : Mailbox) : Prop :=
  ∀ (endpoint : Endpoint) (subscription : Subscription),
    mailbox.subscribers[endpoint]? = some subscription → subscription.ring.frames = []

theorem Unwatched.pending_eq {mailbox : Mailbox} (unwatched : mailbox.Unwatched) :
    mailbox.pending = mailbox.queue.depth := by
  have nothing : ∀ entries : List (Endpoint × Subscription),
      (∀ entry ∈ entries, entry.2.ring.frames = []) →
        entries.foldr (fun entry total => entry.2.ring.depth + total) 0 = 0 := by
    intro entries
    induction entries with
    | nil => exact fun _ => rfl
    | cons entry rest ih =>
        intro empty
        have first : entry.2.ring.depth = 0 := by
          rw [Ring.depth, empty entry List.mem_cons_self]
          rfl
        rw [List.foldr_cons, first, ih fun later member => empty later
          (List.mem_cons_of_mem _ member)]
  rw [pending, Subscribers.pending, nothing, Nat.add_zero]
  rintro ⟨endpoint, subscription⟩ member
  exact unwatched endpoint subscription (Table.mem_toList.mp member)

end Mailbox

/-- What events can tell of one mailbox, latest first, and whether it is there then: nothing yet,
or that it was made and what has moved through it, or also that it went. If no tap was ever opened
on a queue, what has moved tells what waits. -/
inductive Life (untapped : Prop) (id : MailboxId) : Option Mailbox → List Event → Prop
  | unborn : Life untapped id none []
  | alive {mailbox : Mailbox} {traffic : List Event} {capacity : UInt16} {creator : Pid}
      (moves : ∀ event ∈ traffic, event.isTraffic = true)
      (balanced : untapped → mailbox.policy = .queue →
        mailbox.Unwatched ∧ Balances id traffic mailbox.queue.depth) :
      Life untapped id (some mailbox)
        (traffic ++ [.created id mailbox.name.canonical capacity mailbox.policy creator])
  | gone {name : String} {traffic : List Event} {capacity : UInt16} {policy : Policy}
      {creator : Pid} {discarded : Nat} (moves : ∀ event ∈ traffic, event.isTraffic = true)
      (balanced : untapped → policy = .queue → Balances id traffic discarded) :
      Life untapped id none
        (.destroyed id name discarded :: (traffic ++ [.created id name capacity policy creator]))

namespace Life

variable {untapped : Prop} {id : MailboxId} {mailbox changed : Mailbox} {events news : List Event}

theorem mono {still : Prop} {mailbox? : Option Mailbox} (life : Life untapped id mailbox? events)
    (less : still → untapped) : Life still id mailbox? events := by
  cases life with
  | unborn => exact .unborn
  | alive moves balanced => exact .alive moves fun plain => balanced (less plain)
  | gone moves balanced => exact .gone moves fun plain => balanced (less plain)

theorem goesOn (life : Life untapped id (some mailbox) events) (lasts : mailbox.Lasts changed)
    (moves : ∀ event ∈ news, event.isTraffic = true)
    (balanced : untapped → mailbox.policy = .queue → mailbox.Unwatched →
      changed.Unwatched ∧ ∀ past, Balances id past mailbox.queue.depth →
        Balances id (news ++ past) changed.queue.depth) :
    Life untapped id (some changed) (news ++ events) := by
  cases life with
  | @alive _ traffic capacity creator moved before =>
      rw [← List.append_assoc, ← lasts.name_eq, ← lasts.policy_eq]
      refine .alive (List.forall_mem_append.mpr ⟨moves, moved⟩) ?_
      intro plain queued
      rw [lasts.policy_eq] at queued
      obtain ⟨unwatched, balance⟩ := before plain queued
      obtain ⟨still, after⟩ := balanced plain queued unwatched
      exact ⟨still, after traffic balance⟩

theorem ends (life : Life untapped id (some mailbox) events) :
    Life untapped id none
      (.destroyed id mailbox.name.canonical mailbox.pending :: events) := by
  cases life with
  | alive moves balanced =>
      refine .gone moves ?_
      intro plain queued
      obtain ⟨unwatched, balance⟩ := balanced plain queued
      rw [unwatched.pending_eq]
      exact balance

end Life

namespace Mailbox

variable {mailbox changed : Mailbox}

theorem attach_unwatched (unwatched : mailbox.Unwatched) (endpoint : Endpoint) (mode : Mode) :
    (mailbox.attach endpoint mode).Unwatched := by
  intro other subscription there
  rw [attach_at] at there
  split at there
  · cases there
    exact (mailbox.freshSeat_isNew mode).empty
  · exact unwatched other subscription there

theorem Loosens.unwatched (loosens : mailbox.Loosens changed) (unwatched : mailbox.Unwatched) :
    changed.Unwatched :=
  fun endpoint subscription there => unwatched endpoint subscription (loosens.seats there)

end Mailbox

namespace Engine

def biography (engine : Engine) (id : MailboxId) : List Event :=
  engine.events.filter (Event.concerns id)

def Concern (news : List Event) (here : MailboxId) (heard : List Event) : Prop :=
  ∀ id, news.filter (Event.concerns id) = if here = id then heard else []

theorem concern_nil (here : MailboxId) : Concern [] here [] := fun _ => (ite_self []).symm

theorem concern_one {event : Event} {here : MailboxId}
    (about : ∀ id, event.concerns id = decide (here = id)) : Concern [event] here [event] := by
  intro id
  rw [List.filter_cons, about]
  simp only [decide_eq_true_eq, List.filter_nil]

/-- The events tell the life of every mailbox, and nothing of numbers not yet used. -/
structure Chronicled (untapped : MailboxId → Prop) (engine : Engine) : Prop where
  lives : ∀ id, Life (untapped id) id (engine.registry.get? id) (engine.biography id)
  unborn : ∀ id : MailboxId, engine.registrations < id.number.toNat → engine.biography id = []

variable {untapped : MailboxId → Prop} {before after : Engine} {news : List Event}

theorem Chronicled.mono {still : MailboxId → Prop} (chronicled : before.Chronicled untapped)
    (less : ∀ id, still id → untapped id) : before.Chronicled still :=
  ⟨fun id => (chronicled.lives id).mono (less id), chronicled.unborn⟩

theorem biography_news (told : after.events = news ++ before.events) (id : MailboxId) :
    after.biography id = news.filter (Event.concerns id) ++ before.biography id := by
  rw [biography, told, List.filter_append, biography]

theorem registrations_news (told : after.events = news ++ before.events) :
    before.registrations ≤ after.registrations := by
  rw [registrations, registrations, told, List.countP_append]
  exact Nat.le_add_left _ _

theorem Chronicled.changes (chronicled : before.Chronicled untapped) {here : MailboxId}
    {heard : List Event} (told : after.events = news ++ before.events)
    (numbered : here.number.toNat ≤ after.registrations) (concern : Concern news here heard)
    (elsewhere : ∀ id, here ≠ id → after.registry.get? id = before.registry.get? id)
    (life : Life (untapped here) here (after.registry.get? here)
      (heard ++ before.biography here)) :
    after.Chronicled untapped := by
  refine ⟨?_, ?_⟩
  · intro id
    rw [biography_news told, concern]
    split
    · rename_i same
      subst same
      exact life
    · rename_i apart
      rw [elsewhere id apart, List.nil_append]
      exact chronicled.lives id
  · intro id beyond
    have apart : here ≠ id := by
      rintro rfl
      omega
    rw [biography_news told, concern, if_neg apart, List.nil_append]
    exact chronicled.unborn id (Nat.lt_of_le_of_lt (registrations_news told) beyond)

theorem Chronicled.quiet (chronicled : before.Chronicled untapped)
    (registry_eq : after.registry = before.registry)
    (told : after.events = news ++ before.events)
    (others : ∀ event ∈ news, ∀ id, event.concerns id = false) : after.Chronicled untapped := by
  have same : ∀ id, after.biography id = before.biography id := by
    intro id
    rw [biography_news told, List.filter_eq_nil_iff.mpr, List.nil_append]
    exact fun event member => by simp [others event member]
  refine ⟨?_, ?_⟩
  · intro id
    rw [same, registry_eq]
    exact chronicled.lives id
  · intro id beyond
    rw [same]
    exact chronicled.unborn id (Nat.lt_of_le_of_lt (registrations_news told) beyond)

theorem Chronicled.updates (chronicled : before.Chronicled untapped)
    (numbered : before.registry.Numbered before.registrations) {here : MailboxId}
    {mailbox changed : Mailbox} {heard : List Event}
    (found : before.registry.get? here = some mailbox) (same : changed.id = here)
    (registry_eq : after.registry = before.registry.update changed)
    (told : after.events = news ++ before.events) (concern : Concern news here heard)
    (lasts : mailbox.Lasts changed) (moves : ∀ event ∈ heard, event.isTraffic = true)
    (balanced : untapped here → mailbox.policy = .queue → mailbox.Unwatched →
      changed.Unwatched ∧ ∀ past, Balances here past mailbox.queue.depth →
        Balances here (heard ++ past) changed.queue.depth) :
    after.Chronicled untapped := by
  have known : here.number.toNat ≤ after.registrations :=
    Nat.le_trans (numbered.within here mailbox found).2 (registrations_news told)
  refine chronicled.changes told known concern ?_ ?_
  · intro id apart
    rw [registry_eq]
    exact before.registry.update_elsewhere same (Ne.symm apart)
  · have life := chronicled.lives here
    rw [found] at life
    rw [registry_eq, before.registry.update_here same]
    exact life.goesOn lasts moves balanced

theorem Chronicled.rests (chronicled : before.Chronicled untapped)
    (numbered : before.registry.Numbered before.registrations) {here : MailboxId}
    {mailbox changed : Mailbox} (found : before.registry.get? here = some mailbox)
    (same : changed.id = here) (registry_eq : after.registry = before.registry.update changed)
    (events_eq : after.events = before.events) (rests : mailbox.Rests changed)
    (unwatched : mailbox.Unwatched → changed.Unwatched) : after.Chronicled untapped := by
  have told : after.events = [] ++ before.events := events_eq
  refine chronicled.updates numbered found same registry_eq told (concern_nil here) rests.lasts
    nofun ?_
  intro _ _ silent
  refine ⟨unwatched silent, fun past balance => ?_⟩
  rw [rests.queue_eq]
  exact balance

theorem Opens.chronicled (opens : before.Opens after) (intact : before.Intact)
    (numbered : before.registry.Numbered before.registrations)
    (few : after.registrations ≤ Registry.mostNumbers)
    (chronicled : before.Chronicled untapped) : after.Chronicled untapped := by
  cases opens with
  | stopped | searched | missed => exact chronicled.quiet rfl (List.nil_append _).symm nofun
  | @told event plain =>
      have told : (before.emit event).events = [event] ++ before.events := rfl
      refine chronicled.quiet rfl told ?_
      intro other member id
      cases List.mem_singleton.mp member
      exact Event.isPlain_concerns plain id
  | made name capacity policy creator persistent =>
      let here : MailboxId := ⟨before.registry.nextId⟩
      let event : Event := .created here name.canonical capacity policy creator
      let mailbox : Mailbox := .empty here name capacity policy creator persistent
      rw [emit_created] at few
      have next : here.number.toNat = before.registrations + 1 := numbered.next_eq few
      have blank := chronicled.unborn here (by omega)
      have concern : Concern [event] here [event] := concern_one fun _ => rfl
      refine chronicled.changes rfl ?_ concern ?_ ?_
      · rw [emit_created]
        exact Nat.le_of_eq next
      · intro id apart
        exact (Registry.added_get _ _ id).trans (if_neg apart)
      · have found := (Registry.added_get before.registry mailbox here).trans (if_pos rfl)
        rw [blank]
        refine found ▸ @Life.alive _ here mailbox [] capacity creator nofun ?_
        intro _ _
        refine ⟨?_, rfl⟩
        intro endpoint subscription there
        simp [mailbox, Mailbox.empty] at there
  | @attached handles endpoint binding mailbox free given found =>
      have same : (mailbox.attach endpoint binding.mode).id = binding.mailbox := by
        rw [Mailbox.attach_eq]
        exact (intact _ _ found).1
      exact chronicled.rests numbered found same rfl rfl (mailbox.attach_rests _ _)
        fun unwatched => Mailbox.attach_unwatched unwatched _ _

theorem destroy_chronicled {mailbox : Mailbox}
    (numbered : before.registry.Numbered before.registrations)
    (found : before.registry.get? mailbox.id = some mailbox)
    (chronicled : before.Chronicled untapped) :
    (before.destroy mailbox.id).Chronicled untapped := by
  have left := destroy_of_found mailbox.id (Registry.remove_eq found)
  have told : (before.destroy mailbox.id).events =
      [.destroyed mailbox.id mailbox.name.canonical mailbox.pending] ++ before.events := by
    rw [left]
    rfl
  have known : mailbox.id.number.toNat ≤ (before.destroy mailbox.id).registrations :=
    Nat.le_trans (numbered.within _ mailbox found).2 (registrations_news told)
  refine chronicled.changes told known (concern_one fun _ => rfl) ?_ ?_
  · intro id apart
    rw [left, Registry.removed_get, if_neg apart]
  · have life := chronicled.lives mailbox.id
    rw [found] at life
    rw [left, Registry.removed_get, if_pos rfl]
    exact life.ends

theorem Closes.chronicled (closes : before.Closes after) (intact : before.Intact)
    (numbered : before.registry.Numbered before.registrations)
    (chronicled : before.Chronicled untapped) : after.Chronicled untapped := by
  cases closes with
  | stopped | woken | unbound => exact chronicled.quiet rfl (List.nil_append _).symm nofun
  | @loosened id earlier later found loosens =>
      obtain ⟨here, sound⟩ := intact id earlier found
      have same : later.id = id := (loosens.sound sound).2.trans here
      exact chronicled.rests numbered found same rfl rfl loosens.rests loosens.unwatched
  | destroyed id =>
      cases found : before.registry.get? id with
      | none =>
          have absent : before.registry.remove id = (none, before.registry) := by
            simp only [Registry.remove, found]
          rw [destroy_of_absent id absent]
          exact chronicled
      | some mailbox =>
          have same : mailbox.id = id := (intact id mailbox found).1
          subst same
          exact destroy_chronicled numbered found chronicled

def Untrafficked (before after : Engine) : Prop :=
  ∃ news, after.events = news ++ before.events ∧ ∀ event ∈ news, event.isTraffic = false

theorem Untrafficked.of_same (same : after.events = before.events) : before.Untrafficked after :=
  ⟨[], same, nofun⟩

theorem Untrafficked.of_one {event : Event} (told : after.events = event :: before.events)
    (other : event.isTraffic = false) : before.Untrafficked after := by
  refine ⟨[event], told, ?_⟩
  intro only member
  cases List.mem_singleton.mp member
  exact other

theorem Untrafficked.trans {first second third : Engine} (left : first.Untrafficked second)
    (right : second.Untrafficked third) : first.Untrafficked third := by
  obtain ⟨older, olderEq, olderOthers⟩ := left
  obtain ⟨newer, newerEq, newerOthers⟩ := right
  exact ⟨newer ++ older, by rw [newerEq, olderEq, List.append_assoc],
    List.forall_mem_append.mpr ⟨newerOthers, olderOthers⟩⟩

def Shapes (before after : Engine) : Prop := before.Opens after ∨ before.Closes after

theorem Shapes.edit (shapes : before.Shapes after) : before.Edit after :=
  shapes.elim .opens .closes

theorem Reshaped.shapes (reshaped : before.Reshaped after) :
    Relation.ReflTransGen Shapes before after := by
  obtain ⟨middle, opened, closed⟩ := reshaped
  exact (Relation.ReflTransGen.mono (fun _ _ => Or.inl) _ _ opened).trans
    (Relation.ReflTransGen.mono (fun _ _ => Or.inr) _ _ closed)

theorem Shapes.untrafficked (shapes : before.Shapes after) : before.Untrafficked after := by
  rcases shapes with opens | closes
  · cases opens with
    | @told event plain =>
        refine .of_one rfl ?_
        cases event <;> first | rfl | cases plain
    | made => exact .of_one rfl rfl
    | stopped | searched | missed | attached => exact .of_same rfl
  · cases closes with
    | stopped | woken | unbound | loosened => exact .of_same rfl
    | destroyed id =>
        cases removed : before.registry.remove id with
        | mk mailbox? registry =>
            cases mailbox? with
            | none => exact .of_same (by rw [destroy_of_absent id removed])
            | some mailbox => exact .of_one (by rw [destroy_of_found id removed]) rfl

theorem Reshaped.untrafficked (reshaped : before.Reshaped after) : before.Untrafficked after := by
  have shaped := reshaped.shapes
  clear reshaped
  induction shaped with
  | refl => exact .of_same rfl
  | tail _ shapes ih => exact ih.trans shapes.untrafficked

theorem Reshaped.chronicled (reshaped : before.Reshaped after) (intact : before.Intact)
    (numbered : before.registry.Numbered before.registrations)
    (few : after.registrations ≤ Registry.mostNumbers)
    (chronicled : before.Chronicled untapped) : after.Chronicled untapped := by
  suffices both : after.Chronicled untapped ∧ after.registry.Numbered after.registrations from
    both.1
  have shaped := reshaped.shapes
  clear reshaped
  induction shaped with
  | refl => exact ⟨chronicled, numbered⟩
  | @tail middle last walked shapes ih =>
      have edited : before.Edited middle :=
        Relation.ReflTransGen.mono (fun _ _ => Shapes.edit) _ _ walked
      have sooner := Nat.le_trans shapes.edit.registrations_le few
      obtain ⟨sofar, still⟩ := ih sooner
      have whole := edited.intact intact
      refine ⟨?_, shapes.edit.numbered whole still few⟩
      rcases shapes with opens | closes
      · exact opens.chronicled whole still few sofar
      · exact closes.chronicled whole still sofar

end Engine

end Mailroom
