import Mathlib.Data.Set.Card
import Mailroom.Registry
import Mailroom.Proofs.HandleTable
import Mailroom.Proofs.Mailbox

/-!
The registry and the handles hold each other up: every binding has its mailbox, every mailbox
counts its bindings and has a ring for exactly those of them that call for one, and names and
identifiers lead to each other. Every change of the engine is one of five changes here.
-/

namespace Mailroom

instance : Finite Endpoint := by
  apply Finite.of_injective fun endpoint : Endpoint => (endpoint.pid.toFin, endpoint.handle.toFin)
  rintro ⟨leftPid, leftHandle⟩ ⟨rightPid, rightHandle⟩ same
  have parts := Prod.mk.inj same
  have pids : leftPid = rightPid := UInt16.toFin_inj.mp parts.1
  have handles : leftHandle = rightHandle := UInt16.toFin_inj.mp parts.2
  rw [pids, handles]

def holders (bound : Bindings) (id : MailboxId) : Set Endpoint :=
  {endpoint | ∃ binding, bound endpoint = some binding ∧ binding.mailbox = id}

theorem holders_bind {bound : Bindings} {endpoint : Endpoint} (free : bound endpoint = none)
    (binding : Binding) :
    (holders (Function.update bound endpoint (some binding)) binding.mailbox).ncard =
      (holders bound binding.mailbox).ncard + 1 := by
  have absent : endpoint ∉ holders bound binding.mailbox := by
    rintro ⟨other, found, _⟩
    rw [free] at found
    cases found
  rw [← Set.ncard_insert_of_notMem absent]
  congr 1
  ext other
  by_cases same : other = endpoint
  · subst same
    simp [holders]
  · simp [holders, same]

theorem holders_free {bound : Bindings} {endpoint : Endpoint} {binding : Binding}
    (found : bound endpoint = some binding) :
    (holders (Function.update bound endpoint none) binding.mailbox).ncard + 1 =
      (holders bound binding.mailbox).ncard := by
  have member : endpoint ∈ holders bound binding.mailbox := ⟨binding, found, rfl⟩
  rw [← Set.ncard_sdiff_singleton_add_one member]
  congr 2
  ext other
  by_cases same : other = endpoint
  · subst same
    simp [holders]
  · simp [holders, same]

theorem holders_elsewhere {bound : Bindings} {endpoint : Endpoint} {change : Option Binding}
    {id : MailboxId} (before : ∀ binding, bound endpoint = some binding → binding.mailbox ≠ id)
    (after : ∀ binding, change = some binding → binding.mailbox ≠ id) :
    holders (Function.update bound endpoint change) id = holders bound id := by
  ext other
  by_cases same : other = endpoint
  · subst same
    simp only [holders, Function.update_self, Set.mem_ofPred_eq]
    constructor
    · rintro ⟨binding, found, equal⟩
      exact absurd equal (after binding found)
    · rintro ⟨binding, found, equal⟩
      exact absurd equal (before binding found)
  · simp [holders, same]

namespace Mailbox

def tapped? (mailbox : Mailbox) (endpoint : Endpoint) : Option Bool :=
  mailbox.subscribers[endpoint]?.map Subscription.isTap

def wanted? (mailbox : Mailbox) (binding? : Option Binding) : Option Bool :=
  binding?.bind fun binding =>
    if binding.mailbox = mailbox.id ∧ mailbox.seats binding.mode = true then
      some binding.mode.isTap
    else none

theorem wanted_congr {left right : Mailbox} (ids : left.id = right.id)
    (policies : left.policy = right.policy) (binding? : Option Binding) :
    left.wanted? binding? = right.wanted? binding? := by
  cases binding? with
  | none => rfl
  | some binding =>
      have same : left.seats binding.mode = right.seats binding.mode := by
        unfold seats
        rw [policies]
      simp only [wanted?, ids, same, Option.bind_some]

theorem wanted_elsewhere {mailbox : Mailbox} {binding? : Option Binding}
    (apart : ∀ binding, binding? = some binding → binding.mailbox ≠ mailbox.id) :
    mailbox.wanted? binding? = none := by
  cases binding? with
  | none => rfl
  | some binding => simp [wanted?, apart binding rfl]

/-- What a mailbox registered under `id` owes to the handles that stand for it. -/
structure Serves (mailbox : Mailbox) (bound : Bindings) (id : MailboxId) : Prop where
  id_eq : mailbox.id = id
  references_eq : mailbox.references = (holders bound id).ncard
  seated : ∀ endpoint : Endpoint, mailbox.tapped? endpoint = mailbox.wanted? (bound endpoint)
  sound : mailbox.Sound

theorem Serves.elsewhere {mailbox : Mailbox} {bound : Bindings} {id : MailboxId}
    (serves : mailbox.Serves bound id) {endpoint : Endpoint} {change : Option Binding}
    (before : ∀ binding, bound endpoint = some binding → binding.mailbox ≠ id)
    (after : ∀ binding, change = some binding → binding.mailbox ≠ id) :
    mailbox.Serves (Function.update bound endpoint change) id := by
  refine ⟨serves.id_eq, ?_, ?_, serves.sound⟩
  · rw [holders_elsewhere before after, serves.references_eq]
  · intro other
    rw [serves.seated other]
    by_cases same : other = endpoint
    · subst same
      rw [← serves.id_eq] at before after
      rw [Function.update_self, wanted_elsewhere before, wanted_elsewhere after]
    · rw [Function.update_of_ne same]

theorem Serves.attach {mailbox : Mailbox} {bound : Bindings} {endpoint : Endpoint} {mode : Mode}
    {id : MailboxId} (serves : mailbox.Serves bound id) (free : bound endpoint = none) :
    (mailbox.attach endpoint mode).Serves
      (Function.update bound endpoint (some ⟨id, mode⟩)) id := by
  refine ⟨?_, ?_, ?_, serves.sound.attach endpoint mode⟩
  · simp [attach_eq, serves.id_eq]
  · rw [holders_bind free ⟨id, mode⟩, ← serves.references_eq, attach_eq]
  · intro other
    have same : ∀ binding?,
        (mailbox.attach endpoint mode).wanted? binding? = mailbox.wanted? binding? := by
      rw [attach_eq]
      exact wanted_congr rfl rfl
    rw [same, tapped?, attach_at]
    by_cases equal : other = endpoint
    · subst equal
      rw [Function.update_self]
      by_cases seat : mailbox.seats mode = true
      · simp [wanted?, seat, serves.id_eq, freshSeat_isTap]
      · have none := serves.seated other
        rw [free, tapped?] at none
        simp [wanted?, seat, none]
    · have apart : ¬ (mailbox.seats mode = true ∧ endpoint = other) :=
        fun both => equal both.2.symm
      rw [if_neg apart, Function.update_of_ne equal, ← serves.seated other, tapped?]

theorem Serves.references_ne_zero {mailbox : Mailbox} {bound : Bindings} {id : MailboxId}
    (serves : mailbox.Serves bound id) {endpoint : Endpoint} {binding : Binding}
    (found : bound endpoint = some binding) (leads : binding.mailbox = id) :
    mailbox.references ≠ 0 := by
  subst leads
  rw [serves.references_eq, ← holders_free found]
  omega

theorem Serves.detached {mailbox : Mailbox} {bound : Bindings} {endpoint : Endpoint}
    {binding : Binding} (serves : mailbox.Serves bound binding.mailbox)
    (found : bound endpoint = some binding) :
    (mailbox.detached endpoint).Serves (Function.update bound endpoint none) binding.mailbox := by
  refine ⟨serves.id_eq, ?_, ?_, serves.sound.detached endpoint⟩
  · have count := serves.references_eq
    rw [← holders_free found] at count
    simp only [Mailbox.detached]
    omega
  · intro other
    have same : ∀ binding?,
        (mailbox.detached endpoint).wanted? binding? = mailbox.wanted? binding? := fun _ => rfl
    rw [same, tapped?, Mailbox.detached, Table.erase_at]
    by_cases equal : other = endpoint
    · subst equal
      simp [wanted?]
    · rw [if_neg (Ne.symm equal), Function.update_of_ne equal, ← serves.seated other, tapped?]

structure Traffic (before after : Mailbox) : Prop where
  id_eq : after.id = before.id
  name_eq : after.name = before.name
  capacity_eq : after.capacity = before.capacity
  policy_eq : after.policy = before.policy
  persistent_eq : after.persistent = before.persistent
  references_eq : after.references = before.references
  tapped_eq : ∀ endpoint : Endpoint, after.tapped? endpoint = before.tapped? endpoint
  sound : after.Sound

theorem Serves.traffic {before after : Mailbox} {bound : Bindings} {id : MailboxId}
    (serves : before.Serves bound id) (traffic : before.Traffic after) : after.Serves bound id := by
  refine ⟨traffic.id_eq.trans serves.id_eq, traffic.references_eq.trans serves.references_eq, ?_,
    traffic.sound⟩
  intro endpoint
  rw [traffic.tapped_eq, serves.seated, wanted_congr traffic.id_eq traffic.policy_eq]

end Mailbox

namespace Registry

theorem update_get (registry : Registry) (mailbox : Mailbox) (id : MailboxId) :
    (registry.update mailbox).get? id =
      if mailbox.id = id then some mailbox else registry.get? id :=
  Table.insert_at _ _ _ _

theorem update_here (registry : Registry) {mailbox : Mailbox} {id : MailboxId}
    (same : mailbox.id = id) : (registry.update mailbox).get? id = some mailbox := by
  rw [update_get, if_pos same]

theorem update_elsewhere (registry : Registry) {mailbox : Mailbox} {id other : MailboxId}
    (same : mailbox.id = id) (apart : other ≠ id) :
    (registry.update mailbox).get? other = registry.get? other := by
  rw [update_get, same, if_neg (Ne.symm apart)]

theorem update_cases {registry : Registry} {mailbox later : Mailbox} {id here : MailboxId}
    (same : mailbox.id = here) (found : (registry.update mailbox).get? id = some later) :
    (here = id ∧ later = mailbox) ∨ (here ≠ id ∧ registry.get? id = some later) := by
  rw [update_get, same] at found
  split at found
  · rename_i equal
    exact Or.inl ⟨equal, (Option.some.inj found).symm⟩
  · rename_i apart
    exact Or.inr ⟨apart, found⟩

@[simp] theorem update_resolve (registry : Registry) (mailbox : Mailbox) (name : Name) :
    (registry.update mailbox).resolve? name = registry.resolve? name := rfl

def added (registry : Registry) (mailbox : Mailbox) : Registry :=
  { registry with
    nextId := max (registry.nextId + 1) 1
    names := registry.names.insert mailbox.name ⟨registry.nextId⟩
    mailboxes := registry.mailboxes.insert ⟨registry.nextId⟩ mailbox }

theorem added_get (registry : Registry) (mailbox : Mailbox) (id : MailboxId) :
    (registry.added mailbox).get? id =
      if ⟨registry.nextId⟩ = id then some mailbox else registry.get? id :=
  Table.insert_at _ _ _ _

theorem added_resolve (registry : Registry) (mailbox : Mailbox) (name : Name) :
    (registry.added mailbox).resolve? name =
      if mailbox.name = name then some ⟨registry.nextId⟩ else registry.resolve? name :=
  Table.insert_at _ _ _ _

theorem insert_full {registry : Registry} (full : registry.limit ≤ registry.size)
    (make : MailboxId → Mailbox) :
    registry.insert make = (.error .descriptorsExhausted, registry) := by
  have reached : registry.size ≥ registry.limit := full
  simp only [insert, reached, if_true]

theorem insert_ok {registry : Registry} (room : registry.size < registry.limit)
    (make : MailboxId → Mailbox)
    (unnamed : registry.resolve? (make ⟨registry.nextId⟩).name = none) :
    registry.insert make = (.ok ⟨registry.nextId⟩, registry.added (make ⟨registry.nextId⟩)) := by
  have below : ¬ registry.size ≥ registry.limit := Nat.not_le.mpr room
  have absent : (make ⟨registry.nextId⟩).name ∉ registry.names := by
    rw [Table.mem_iff]
    rintro ⟨id, found⟩
    rw [resolve?, found] at unnamed
    cases unnamed
  simp only [insert, below, if_false, absent]
  rfl

def removed (registry : Registry) (mailbox : Mailbox) : Registry :=
  { registry with
    names := registry.names.erase mailbox.name
    mailboxes := registry.mailboxes.erase mailbox.id }

theorem removed_get (registry : Registry) (mailbox : Mailbox) (id : MailboxId) :
    (registry.removed mailbox).get? id = if mailbox.id = id then none else registry.get? id :=
  Table.erase_at _ _ _

theorem removed_resolve (registry : Registry) (mailbox : Mailbox) (name : Name) :
    (registry.removed mailbox).resolve? name =
      if mailbox.name = name then none else registry.resolve? name :=
  Table.erase_at _ _ _

theorem remove_eq {registry : Registry} {mailbox : Mailbox}
    (found : registry.get? mailbox.id = some mailbox) :
    registry.remove mailbox.id = (some mailbox, registry.removed mailbox) := by
  simp only [remove, found, removed]

theorem remove_fewer {registry after : Registry} {id other : MailboxId} {mailbox? : Option Mailbox}
    (removed : registry.remove id = (mailbox?, after)) {mailbox : Mailbox}
    (still : after.get? other = some mailbox) : registry.get? other = some mailbox := by
  simp only [remove] at removed
  split at removed
  · cases removed
    exact still
  · cases removed
    rw [get?, Table.erase_at] at still
    split at still
    · cases still
    · exact still

/-- The registry and what the handles stand for hold each other up. -/
structure Supports (registry : Registry) (bound : Bindings) : Prop where
  present : ∀ endpoint binding, bound endpoint = some binding →
    ∃ mailbox, registry.get? binding.mailbox = some mailbox
  serves : ∀ id mailbox, registry.get? id = some mailbox → mailbox.Serves bound id
  named : ∀ id mailbox, registry.get? id = some mailbox →
    registry.resolve? mailbox.name = some id
  resolved : ∀ name id, registry.resolve? name = some id →
    ∃ mailbox, registry.get? id = some mailbox ∧ mailbox.name = name

variable {registry : Registry} {bound : Bindings}

theorem supports_nothing (limit : Nat) : (withLimit limit).Supports fun _ => none := by
  refine ⟨?_, ?_, ?_, ?_⟩
  · intro endpoint binding found
    cases found
  · intro id mailbox found
    simp [withLimit, get?] at found
  · intro id mailbox found
    simp [withLimit, get?] at found
  · intro name id found
    simp [withLimit, resolve?] at found

theorem Supports.id_eq (supports : registry.Supports bound) {id : MailboxId} {mailbox : Mailbox}
    (found : registry.get? id = some mailbox) : mailbox.id = id :=
  (supports.serves id mailbox found).id_eq

theorem Supports.name_inj (supports : registry.Supports bound) {left right : MailboxId}
    {leftMailbox rightMailbox : Mailbox} (leftFound : registry.get? left = some leftMailbox)
    (rightFound : registry.get? right = some rightMailbox)
    (same : leftMailbox.name = rightMailbox.name) : left = right := by
  have first := supports.named left leftMailbox leftFound
  rw [same, supports.named right rightMailbox rightFound] at first
  exact (Option.some.inj first).symm

theorem Supports.resolve_iff (supports : registry.Supports bound) {name : Name} {id : MailboxId} :
    registry.resolve? name = some id ↔
      ∃ mailbox, registry.get? id = some mailbox ∧ mailbox.name = name := by
  constructor
  · exact supports.resolved name id
  · rintro ⟨mailbox, found, rfl⟩
    exact supports.named id mailbox found

theorem Supports.unique {left right : Registry} {other : Bindings}
    (first : left.Supports bound) (second : right.Supports other)
    (limit_eq : left.limit = right.limit) (nextId_eq : left.nextId = right.nextId)
    (get_eq : left.get? = right.get?) : left = right := by
  have names : left.names = right.names := by
    apply Table.ext_at
    intro name
    apply Option.ext
    intro id
    change left.resolve? name = some id ↔ right.resolve? name = some id
    rw [first.resolve_iff, second.resolve_iff, get_eq]
  have mailboxes : left.mailboxes = right.mailboxes := Table.ext_at fun id => congrFun get_eq id
  cases left
  cases right
  simp_all

theorem mem_toList {mailbox : Mailbox} :
    mailbox ∈ registry.toList ↔ ∃ id, registry.get? id = some mailbox := by
  rw [toList, Table.values_eq, List.mem_map]
  constructor
  · rintro ⟨⟨id, other⟩, member, rfl⟩
    exact ⟨id, Table.mem_toList.mp member⟩
  · rintro ⟨id, found⟩
    exact ⟨(id, mailbox), Table.mem_toList.mpr found, rfl⟩

theorem Supports.nodup_ids (supports : registry.Supports bound) :
    (registry.toList.map Mailbox.id).Nodup := by
  have keys : registry.toList.map Mailbox.id = registry.mailboxes.toList.map Prod.fst := by
    rw [toList, Table.values_eq, List.map_map]
    apply List.map_congr_left
    rintro ⟨id, mailbox⟩ member
    exact supports.id_eq (Table.mem_toList.mp member)
  rw [keys, List.Nodup, List.pairwise_map]
  exact Table.distinct_toList _

theorem Supports.replace (supports : registry.Supports bound) {id : MailboxId}
    {before after : Mailbox} {bound' : Bindings} (found : registry.get? id = some before)
    (name_eq : after.name = before.name) (serves : after.Serves bound' id)
    (others : ∀ (other : MailboxId) (mailbox : Mailbox), other ≠ id → mailbox.Serves bound other →
      mailbox.Serves bound' other)
    (within : ∀ endpoint binding, bound' endpoint = some binding → binding.mailbox ≠ id →
      ∃ earlier, bound earlier = some binding) :
    (registry.update after).Supports bound' := by
  have idEq : ∀ other, after.id = other ↔ id = other := by
    intro other
    rw [serves.id_eq]
  refine ⟨?_, ?_, ?_, ?_⟩
  · intro endpoint binding bind
    simp only [update_get, idEq]
    by_cases same : id = binding.mailbox
    · exact ⟨after, if_pos same⟩
    · obtain ⟨earlier, held⟩ := within endpoint binding bind (Ne.symm same)
      rw [if_neg same]
      exact supports.present earlier binding held
  · intro other mailbox atOther
    rw [update_get] at atOther
    simp only [idEq] at atOther
    by_cases same : id = other
    · rw [if_pos same] at atOther
      cases atOther
      exact same ▸ serves
    · rw [if_neg same] at atOther
      exact others other mailbox (Ne.symm same) (supports.serves other mailbox atOther)
  · intro other mailbox atOther
    rw [update_get] at atOther
    simp only [idEq] at atOther
    rw [update_resolve]
    by_cases same : id = other
    · rw [if_pos same] at atOther
      cases atOther
      rw [name_eq, ← same]
      exact supports.named id before found
    · rw [if_neg same] at atOther
      exact supports.named other mailbox atOther
  · intro name other resolves
    obtain ⟨mailbox, atOther, called⟩ := supports.resolved name other resolves
    simp only [update_get, idEq]
    by_cases same : id = other
    · subst same
      rw [found] at atOther
      cases atOther
      exact ⟨after, if_pos rfl, name_eq.trans called⟩
    · exact ⟨mailbox, by rw [if_neg same]; exact atOther, called⟩

theorem Supports.traffic (supports : registry.Supports bound) {id : MailboxId}
    {before after : Mailbox} (found : registry.get? id = some before)
    (traffic : before.Traffic after) : (registry.update after).Supports bound :=
  supports.replace found traffic.name_eq ((supports.serves id before found).traffic traffic)
    (fun _ _ _ serves => serves) (fun endpoint _ held _ => ⟨endpoint, held⟩)

theorem Supports.attach (supports : registry.Supports bound) {id : MailboxId} {mailbox : Mailbox}
    {endpoint : Endpoint} (found : registry.get? id = some mailbox)
    (free : bound endpoint = none) (mode : Mode) :
    (registry.update (mailbox.attach endpoint mode)).Supports
      (Function.update bound endpoint (some ⟨id, mode⟩)) := by
  refine supports.replace found (by simp [Mailbox.attach_eq])
    ((supports.serves id mailbox found).attach free) ?_ ?_
  · intro other elsewhere apart serves
    apply serves.elsewhere
    · intro binding held
      rw [free] at held
      cases held
    · intro binding given
      cases given
      exact Ne.symm apart
  · intro other binding held apart
    by_cases same : other = endpoint
    · rw [same, Function.update_self] at held
      cases held
      exact absurd rfl apart
    · rw [Function.update_of_ne same] at held
      exact ⟨other, held⟩

theorem Supports.detached (supports : registry.Supports bound) {mailbox : Mailbox}
    {endpoint : Endpoint} {binding : Binding} (held : bound endpoint = some binding)
    (found : registry.get? binding.mailbox = some mailbox) :
    (registry.update (mailbox.detached endpoint)).Supports
      (Function.update bound endpoint none) := by
  refine supports.replace found rfl
    ((supports.serves binding.mailbox mailbox found).detached held) ?_ ?_
  · intro other elsewhere apart serves
    apply serves.elsewhere
    · intro earlier same
      rw [held] at same
      cases same
      exact Ne.symm apart
    · intro later given
      cases given
  · intro other later still _
    by_cases same : other = endpoint
    · rw [same, Function.update_self] at still
      cases still
    · rw [Function.update_of_ne same] at still
      exact ⟨other, still⟩

theorem Supports.added (supports : registry.Supports bound) {name : Name} {capacity : UInt16}
    {policy : Policy} {creator : Pid} {persistent : Bool}
    (unused : registry.get? ⟨registry.nextId⟩ = none) (unnamed : registry.resolve? name = none) :
    (registry.added (Mailbox.empty ⟨registry.nextId⟩ name capacity policy creator
      persistent)).Supports bound := by
  let id : MailboxId := ⟨registry.nextId⟩
  have elsewhere : ∀ endpoint binding, bound endpoint = some binding → binding.mailbox ≠ id := by
    intro endpoint binding held same
    obtain ⟨mailbox, found⟩ := supports.present endpoint binding held
    rw [same, unused] at found
    cases found
  refine ⟨?_, ?_, ?_, ?_⟩
  · intro endpoint binding held
    obtain ⟨mailbox, found⟩ := supports.present endpoint binding held
    exact ⟨mailbox, by rw [added_get, if_neg (Ne.symm (elsewhere _ _ held)), found]⟩
  · intro other mailbox found
    rw [added_get] at found
    split at found
    · rename_i same
      subst same
      cases found
      refine ⟨rfl, ?_, ?_, Mailbox.sound_empty _ _ _ _ _ _⟩
      · have nobody : holders bound ⟨registry.nextId⟩ = ∅ := by
          ext endpoint
          simp only [holders, Set.mem_ofPred_eq, Set.mem_empty_iff_false, iff_false]
          rintro ⟨binding, held, leads⟩
          exact elsewhere endpoint binding held leads
        rw [nobody, Set.ncard_empty]
        rfl
      · intro endpoint
        rw [Mailbox.wanted_elsewhere (elsewhere endpoint)]
        simp [Mailbox.tapped?, Mailbox.empty]
    · exact supports.serves other mailbox found
  · intro other mailbox found
    rw [added_get] at found
    rw [added_resolve]
    split at found
    · rename_i same
      cases found
      rw [if_pos rfl, ← same]
    · have called := supports.named other mailbox found
      rw [if_neg, called]
      intro same
      rw [← same] at called
      exact absurd (unnamed.symm.trans called) (by simp)
  · intro called other resolves
    rw [added_resolve] at resolves
    rw [added_get]
    split at resolves
    · rename_i same
      cases resolves
      exact ⟨_, if_pos rfl, same⟩
    · obtain ⟨mailbox, found, named⟩ := supports.resolved called other resolves
      refine ⟨mailbox, ?_, named⟩
      rw [if_neg, found]
      intro same
      rw [← same, unused] at found
      cases found

theorem Supports.removed (supports : registry.Supports bound) {id : MailboxId} {mailbox : Mailbox}
    (found : registry.get? id = some mailbox) (unreferenced : mailbox.references = 0) :
    (registry.removed mailbox).Supports bound := by
  have idEq : mailbox.id = id := supports.id_eq found
  have nobody : ∀ endpoint binding, bound endpoint = some binding → binding.mailbox ≠ id := by
    intro endpoint binding held leads
    exact (supports.serves id mailbox found).references_ne_zero held leads unreferenced
  refine ⟨?_, ?_, ?_, ?_⟩
  · intro endpoint binding held
    obtain ⟨other, present⟩ := supports.present endpoint binding held
    refine ⟨other, ?_⟩
    rw [removed_get, idEq, if_neg (Ne.symm (nobody _ _ held)), present]
  · intro other kept present
    rw [removed_get] at present
    split at present
    · cases present
    · exact supports.serves other kept present
  · intro other kept present
    rw [removed_get, idEq] at present
    split at present
    · cases present
    · rename_i apart
      rw [removed_resolve, if_neg, supports.named other kept present]
      intro same
      exact apart (supports.name_inj found present same)
  · intro called other resolves
    rw [removed_resolve] at resolves
    split at resolves
    · cases resolves
    · rename_i apart
      obtain ⟨kept, present, named⟩ := supports.resolved called other resolves
      refine ⟨kept, ?_, named⟩
      rw [removed_get, idEq, if_neg, present]
      intro same
      rw [← same, found] at present
      cases present
      exact apart named

/-- Nothing unheld is kept, but for a mailbox that has just been made for a handle to come. -/
def Tidy (registry : Registry) (fresh : Option MailboxId) : Prop :=
  ∀ id mailbox, registry.get? id = some mailbox → fresh ≠ some id → mailbox.isUnreferenced = false

def mostNumbers : Nat := 0xffffffff

structure Numbered (registry : Registry) (count : Nat) : Prop where
  next_eq : count < mostNumbers → registry.nextId.toNat = count + 1
  within : ∀ id mailbox, registry.get? id = some mailbox →
    1 ≤ id.number.toNat ∧ id.number.toNat ≤ count

theorem numbered_nothing (limit : Nat) : (withLimit limit).Numbered 0 := by
  refine ⟨fun _ => rfl, ?_⟩
  intro id mailbox found
  simp [withLimit, get?] at found

theorem Numbered.unused {count : Nat} (numbered : registry.Numbered count)
    (few : count < mostNumbers) : registry.get? ⟨registry.nextId⟩ = none := by
  cases found : registry.get? ⟨registry.nextId⟩ with
  | none => rfl
  | some mailbox =>
      have bound := (numbered.within _ mailbox found).2
      have next := numbered.next_eq few
      simp only at bound
      omega

theorem toNat_following (number : UInt32) :
    (max (number + 1) 1).toNat = number.toNat % mostNumbers + 1 := by
  have bound := number.toNat_lt
  have sum : (number + 1).toNat = (number.toNat + 1) % 4294967296 := UInt32.toNat_add _ _
  have one : (1 : UInt32).toNat = 1 := rfl
  unfold mostNumbers
  rw [UInt32.max_def]
  split
  · rename_i small
    rw [UInt32.le_iff_toNat_le] at small
    omega
  · rename_i large
    rw [UInt32.le_iff_toNat_le] at large
    have inside : number.toNat + 1 < 4294967296 := by omega
    rw [sum, Nat.mod_eq_of_lt inside, Nat.mod_eq_of_lt (by omega)]

theorem Numbered.added {count : Nat} (numbered : registry.Numbered count)
    (few : count < mostNumbers) (mailbox : Mailbox) :
    (registry.added mailbox).Numbered (count + 1) := by
  have next := numbered.next_eq few
  refine ⟨?_, ?_⟩
  · intro more
    simp only [Registry.added]
    rw [toNat_following, next, Nat.mod_eq_of_lt more]
  · intro id other found
    rw [added_get] at found
    split at found
    · rename_i same
      subst same
      simp only
      omega
    · have bound := numbered.within id other found
      omega

theorem Numbered.update {count : Nat} (numbered : registry.Numbered count)
    {mailbox before : Mailbox} (found : registry.get? mailbox.id = some before) :
    (registry.update mailbox).Numbered count := by
  refine ⟨numbered.next_eq, ?_⟩
  intro id other present
  rw [update_get] at present
  split at present
  · rename_i same
    exact same ▸ numbered.within _ before found
  · exact numbered.within id other present

theorem Numbered.removed {count : Nat} (numbered : registry.Numbered count) (mailbox : Mailbox) :
    (registry.removed mailbox).Numbered count := by
  refine ⟨numbered.next_eq, ?_⟩
  intro id other present
  rw [removed_get] at present
  split at present
  · cases present
  · exact numbered.within id other present

end Registry

end Mailroom
