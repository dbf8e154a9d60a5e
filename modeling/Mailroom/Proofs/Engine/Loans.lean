import Mailroom.Proofs.Engine.Decisions

/-!
Handles that a task is given for a while. Between the first of them and the last one's return only
the mailboxes they stand for differ from what they were, in their counts and in the lent seats.
-/

namespace Mailroom

section Related

variable {α β : Type} {relation finer : α → β → Prop} {left : Option α} {right : Option β}

theorem related_some {value : β} (related : Option.Rel relation left (some value)) :
    ∃ first, left = some first ∧ relation first value := by
  cases related with
  | some relates => exact ⟨_, rfl, relates⟩

theorem related_none (related : Option.Rel relation left none) : left = none := by
  cases related
  rfl

theorem related_isSome (related : Option.Rel relation left right) : right.isSome = left.isSome := by
  cases related <;> rfl

theorem related_refine (related : Option.Rel relation left right)
    (step : ∀ first second, right = some second → relation first second → finer first second) :
    Option.Rel finer left right := by
  cases related with
  | some relates => exact .some (step _ _ rfl relates)
  | none => exact .none

end Related

def Lent (pid : Pid) (opened : List Handle) (endpoint : Endpoint) : Prop :=
  endpoint.pid = pid ∧ endpoint.handle ∈ opened

namespace Mailbox

structure Lends (lent : Endpoint → Prop) (before after : Mailbox) : Prop where
  rest_eq : after =
    { before with references := after.references, subscribers := after.subscribers }
  vacant : ∀ endpoint : Endpoint, lent endpoint → before.subscribers[endpoint]? = none
  seats_eq : ∀ endpoint : Endpoint, ¬ lent endpoint →
    after.subscribers[endpoint]? = before.subscribers[endpoint]?

variable {before after : Mailbox} {pid : Pid} {handle : Handle} {opened : List Handle}

theorem Lends.refl {lent : Endpoint → Prop} {mailbox : Mailbox}
    (vacant : ∀ endpoint : Endpoint, lent endpoint → mailbox.subscribers[endpoint]? = none) :
    mailbox.Lends lent mailbox :=
  ⟨rfl, vacant, fun _ _ => rfl⟩

theorem Lends.lent (lends : before.Lends (Lent pid opened) after) (unopened : handle ∉ opened)
    (vacant : after.subscribers[(⟨pid, handle⟩ : Endpoint)]? = none) {last : Mailbox}
    (rest_eq : last = { after with references := last.references, subscribers := last.subscribers })
    (seats_eq : ∀ endpoint : Endpoint, endpoint ≠ ⟨pid, handle⟩ →
      last.subscribers[endpoint]? = after.subscribers[endpoint]?) :
    before.Lends (Lent pid (opened ++ [handle])) last := by
  have still : ¬ Lent pid opened ⟨pid, handle⟩ := fun lent => unopened lent.2
  refine ⟨?_, ?_, ?_⟩
  · rw [rest_eq, lends.rest_eq]
  · rintro endpoint ⟨same, member⟩
    rcases List.mem_append.mp member with sooner | now
    · exact lends.vacant endpoint ⟨same, sooner⟩
    · obtain rfl : endpoint = ⟨pid, handle⟩ := by
        rw [← same, ← List.mem_singleton.mp now]
      rw [← lends.seats_eq _ still, vacant]
  · intro endpoint unlent
    have apart : endpoint ≠ ⟨pid, handle⟩ := by
      rintro rfl
      exact unlent ⟨rfl, by simp⟩
    rw [seats_eq endpoint apart, lends.seats_eq]
    exact fun lent => unlent ⟨lent.1, List.mem_append_left _ lent.2⟩

theorem Lends.returned (lends : before.Lends (Lent pid (handle :: opened)) after) {last : Mailbox}
    (vacant : last.subscribers[(⟨pid, handle⟩ : Endpoint)]? = none)
    (rest_eq : last = { after with references := last.references, subscribers := last.subscribers })
    (seats_eq : ∀ endpoint : Endpoint, endpoint ≠ ⟨pid, handle⟩ →
      last.subscribers[endpoint]? = after.subscribers[endpoint]?) :
    before.Lends (Lent pid opened) last := by
  refine ⟨?_, ?_, ?_⟩
  · rw [rest_eq, lends.rest_eq]
  · exact fun endpoint lent => lends.vacant endpoint ⟨lent.1, List.mem_cons_of_mem _ lent.2⟩
  · intro endpoint unlent
    by_cases same : endpoint = ⟨pid, handle⟩
    · subst same
      rw [vacant, lends.vacant _ ⟨rfl, List.mem_cons_self⟩]
    · rw [seats_eq endpoint same, lends.seats_eq]
      rintro ⟨mine, member⟩
      rcases List.mem_cons.mp member with here | later
      · exact same (by rw [← mine, ← here])
      · exact unlent ⟨mine, later⟩

end Mailbox

namespace Engine

open Step

def Prepares (before : Engine) (pid : Pid) (id : MailboxId) (mailbox : Mailbox) : Prop :=
  before.registry.get? id = none ∧ before.registry.resolve? mailbox.name = none ∧
    mailbox.name ∈ Name.standing pid ∧
    mailbox = .empty id mailbox.name before.limits.defaultCapacity .queue pid true

structure Adds (before : Engine) (pid : Pid) (seen : List Name)
    (base : MailboxId → Option Mailbox) : Prop where
  kept : ∀ id mailbox, before.registry.get? id = some mailbox → base id = some mailbox
  origin : ∀ id mailbox, base id = some mailbox →
    before.registry.get? id = some mailbox ∨ before.Prepares pid id mailbox
  same_iff : base = before.registry.get? ↔
    ∀ name ∈ seen, ∃ id, before.registry.resolve? name = some id
  room : base ≠ before.registry.get? → before.registry.size < before.registry.limit

/-- Apart from the handles that are lent out, every task holds what it held, and every mailbox is as
it was or as it was made. -/
structure Lending (before now : Engine) (pid : Pid) (opened : List Handle)
    (base : MailboxId → Option Mailbox) : Prop where
  sound : now.scene.Sound
  running : now.halted = none
  distinct : opened.Nodup
  free : ∀ handle ∈ opened, before.handles.binding? ⟨pid, handle⟩ = none
  held : ∀ handle ∈ opened, now.handles.binding? ⟨pid, handle⟩ ≠ none
  bindings_eq : ∀ endpoint, ¬ Lent pid opened endpoint →
    now.handles.binding? endpoint = before.handles.binding? endpoint
  lends : ∀ id, Option.Rel (Mailbox.Lends (Lent pid opened)) (base id) (now.registry.get? id)

variable {before now after : Engine} {pid : Pid} {seen : List Name} {opened : List Handle}
  {base : MailboxId → Option Mailbox} {name : Name} {handle : Handle}

section Seats

variable (sound : now.scene.Sound) {id : MailboxId} {mailbox : Mailbox}
  (found : now.registry.get? id = some mailbox) {endpoint : Endpoint}

include sound found

theorem seatless (elsewhere : ∀ binding, now.handles.binding? endpoint = some binding →
    binding.mailbox ≠ id) : mailbox.subscribers[endpoint]? = none := by
  have serves := sound.supports.serves id mailbox found
  have seated := serves.seated endpoint
  rw [Mailbox.wanted_elsewhere (serves.id_eq ▸ elsewhere)] at seated
  exact Option.map_eq_none_iff.mp seated

end Seats

theorem Adds.start (before : Engine) (pid : Pid) : before.Adds pid [] before.registry.get? :=
  ⟨fun _ _ found => found, fun _ _ found => Or.inl found, by simp,
    fun changed => absurd rfl changed⟩

theorem Adds.present (adds : before.Adds pid seen base) {id : MailboxId}
    (resolves : before.registry.resolve? name = some id) : before.Adds pid (seen ++ [name]) base :=
  ⟨adds.kept, adds.origin, by simp [adds.same_iff, or_imp, forall_and, resolves], adds.room⟩

theorem Adds.made (adds : before.Adds pid seen base) {id : MailboxId} {mailbox : Mailbox}
    (prepares : before.Prepares pid id mailbox)
    (room : before.registry.size < before.registry.limit) :
    before.Adds pid (seen ++ [mailbox.name]) (Function.update base id (some mailbox)) := by
  have changed : Function.update base id (some mailbox) ≠ before.registry.get? := by
    intro same
    have here := congrFun same id
    rw [Function.update_self, prepares.1] at here
    cases here
  refine ⟨?_, ?_, ?_, fun _ => room⟩
  · intro other kept found
    rw [Function.update_of_ne, adds.kept other kept found]
    rintro rfl
    cases prepares.1.symm.trans found
  · intro other kept found
    rw [Function.update_apply] at found
    split at found
    · rename_i same
      cases found
      exact Or.inr (same ▸ prepares)
    · exact adds.origin other kept found
  · refine iff_of_false changed fun all => ?_
    obtain ⟨other, resolves⟩ := all mailbox.name (by simp)
    cases prepares.2.1.symm.trans resolves

theorem Lending.size_eq (lending : before.Lending now pid opened base)
    (same : base = before.registry.get?) : now.registry.size = before.registry.size := by
  refine Table.size_congr fun id => ?_
  have present := related_isSome (lending.lends id)
  rwa [same] at present

section Closing

variable {endpoint : Endpoint} {binding : Binding} {mailbox : Mailbox}

theorem close_staying (sound : now.scene.Sound) (running : now.halted = none)
    (few : now.registrations ≤ Registry.mostNumbers)
    (held : now.handles.binding? endpoint = some binding)
    (found : now.registry.get? binding.mailbox = some mailbox)
    (stays : (mailbox.detached endpoint).isUnreferenced = false) :
    (close endpoint now).2.scene.Sound ∧
      ∃ handles, handles.binding? = Function.update now.handles.binding? endpoint none ∧
        close endpoint now = (.ok (),
          ({ now with
            handles
            registry := now.registry.update (mailbox.detached endpoint) } : Engine).wakeEveryone
              binding.mailbox) := by
  have table : now.handles.Sound := sound.handles
  obtain ⟨handles, removed, binding_eq, _⟩ := table.remove_ok held
  have ran := close_held sound running held found
  simp only [dropping, removed, stays, Bool.false_eq_true, if_false] at ran
  obtain ⟨_, _, passes⟩ := close_succeeds sound running endpoint _ _ ran
  refine ⟨?_, handles, binding_eq, ran⟩
  rw [ran]
  exact (passes few).sound

end Closing

/-- A handle that is given back leaves its mailbox where it is: the mailbox is pinned, or was held
before the registration began. -/
theorem Lending.stays (lending : before.Lending now pid (handle :: opened) base)
    (adds : before.Adds pid seen base) (sound : before.scene.Sound) {binding : Binding}
    {mailbox : Mailbox} (held : now.handles.binding? ⟨pid, handle⟩ = some binding)
    (found : now.registry.get? binding.mailbox = some mailbox) :
    (mailbox.detached ⟨pid, handle⟩).isUnreferenced = false := by
  have serves := lending.sound.supports.serves binding.mailbox mailbox found
  obtain ⟨first, atBase, lends⟩ := related_some (found ▸ lending.lends binding.mailbox)
  have pinned : first.persistent = true →
      (mailbox.detached ⟨pid, handle⟩).isUnreferenced = false := by
    intro persistent
    have kept : mailbox.persistent = true := by rw [lends.rest_eq]; exact persistent
    simp [Mailbox.isUnreferenced, Mailbox.detached, kept]
  rcases adds.origin _ first atBase with earlier | ⟨_, _, _, made⟩
  · rcases referenced_or_persistent sound earlier with counted | persistent
    · rw [(sound.supports.serves _ first earlier).references_eq] at counted
      obtain ⟨holder, kept, bound, leads⟩ := (Set.ncard_pos (Set.toFinite _)).mp counted
      have unlent : ¬ Lent pid (handle :: opened) holder := by
        rintro ⟨rfl, member⟩
        cases (lending.free _ member).symm.trans bound
      have still : now.handles.binding? holder = some kept :=
        (lending.bindings_eq holder unlent).trans bound
      have apart : holder ≠ ⟨pid, handle⟩ := by
        rintro rfl
        exact unlent ⟨rfl, List.mem_cons_self⟩
      have referenced := (serves.detached held).references_ne_zero
        ((Function.update_of_ne apart _ _).trans still) leads
      simp [Mailbox.isUnreferenced, referenced]
    · exact pinned persistent
  · exact pinned (by rw [made]; rfl)

theorem Lending.closed (lending : before.Lending now pid (handle :: opened) base)
    (adds : before.Adds pid seen base) (sound : before.scene.Sound)
    (few : now.registrations ≤ Registry.mostNumbers) :
    before.Lending (close ⟨pid, handle⟩ now).2 pid opened base := by
  obtain ⟨fresh, distinct⟩ := List.nodup_cons.mp lending.distinct
  have lent : ∀ other ∈ opened, other ∈ handle :: opened := fun _ => List.mem_cons_of_mem _
  obtain ⟨binding, held⟩ := Option.ne_none_iff_exists'.mp (lending.held handle List.mem_cons_self)
  obtain ⟨mailbox, found⟩ := lending.sound.supports.present _ _ held
  have found : now.registry.get? binding.mailbox = some mailbox := found
  have serves := lending.sound.supports.serves binding.mailbox mailbox found
  obtain ⟨first, atBase, lends⟩ := related_some (found ▸ lending.lends binding.mailbox)
  obtain ⟨sounds, handles, binding_eq, ran⟩ :=
    close_staying lending.sound lending.running few held found
      (lending.stays adds sound held found)
  have detachedId : (mailbox.detached ⟨pid, handle⟩).id = binding.mailbox := serves.id_eq
  refine ⟨sounds, ?_, distinct, fun other member => lending.free other (lent other member), ?_, ?_,
    ?_⟩
  · rw [ran]
    exact lending.running
  · intro other member
    rw [ran]
    have apart : (⟨pid, other⟩ : Endpoint) ≠ ⟨pid, handle⟩ := by
      intro same
      exact fresh ((Endpoint.mk.inj same).2 ▸ member)
    refine ((congrFun binding_eq _).trans (Function.update_of_ne apart _ _)).trans_ne ?_
    exact lending.held other (lent other member)
  · intro endpoint unlent
    rw [ran]
    refine (congrFun binding_eq endpoint).trans ?_
    by_cases same : endpoint = ⟨pid, handle⟩
    · rw [same, Function.update_self, lending.free handle List.mem_cons_self]
    · rw [Function.update_of_ne same, lending.bindings_eq]
      rintro ⟨mine, member⟩
      rcases List.mem_cons.mp member with here | later
      · exact same (by rw [← mine, ← here])
      · exact unlent ⟨mine, later⟩
  · intro id
    rw [ran]
    change Option.Rel _ (base id) ((now.registry.update _).get? id)
    by_cases here : id = binding.mailbox
    · subst here
      rw [Registry.update_here _ detachedId, atBase]
      refine .some (lends.returned ?_ rfl fun endpoint apart => ?_)
      · exact (Table.erase_at _ _ _).trans (if_pos rfl)
      · exact (Table.erase_at _ _ _).trans (if_neg apart.symm)
    · rw [Registry.update_elsewhere _ detachedId here]
      refine related_refine (lending.lends id) fun first other foundHere lends => ?_
      refine lends.returned ?_ rfl fun _ _ => rfl
      refine seatless lending.sound foundHere fun other bound leads => here ?_
      cases held.symm.trans bound
      exact leads.symm

theorem Lending.restored (lending : before.Lending now pid [] base)
    (adds : before.Adds pid seen base) (sound : before.scene.Sound) :
    now.handles.binding? = before.handles.binding? ∧ now.registry.get? = base := by
  have nobody : ∀ endpoint, ¬ Lent pid [] endpoint := by simp [Lent]
  have bindings : now.handles.binding? = before.handles.binding? :=
    funext fun endpoint => lending.bindings_eq endpoint (nobody endpoint)
  refine ⟨bindings, funext fun id => ?_⟩
  cases found : now.registry.get? id with
  | none => exact (related_none (found ▸ lending.lends id)).symm
  | some mailbox =>
      obtain ⟨first, atBase, rest_eq, _, seats_eq⟩ := related_some (found ▸ lending.lends id)
      have subscribers : mailbox.subscribers = first.subscribers :=
        Table.ext_at fun endpoint => seats_eq endpoint (nobody endpoint)
      have counted := (lending.sound.supports.serves id mailbox found).references_eq
      have references : mailbox.references = first.references := by
        rw [counted]
        have same : now.scene.bound = before.scene.bound := bindings
        rw [same]
        rcases adds.origin id first atBase with earlier | ⟨unused, _, _, new⟩
        · exact (sound.supports.serves id first earlier).references_eq.symm
        · have nobody : holders before.scene.bound id = ∅ := by
            rw [Set.eq_empty_iff_forall_notMem]
            rintro endpoint ⟨binding, bound, leads⟩
            obtain ⟨other, present⟩ := sound.supports.present endpoint binding bound
            rw [leads] at present
            cases unused.symm.trans present
          rw [nobody, Set.ncard_empty, new]
          rfl
      rw [rest_eq, references, subscribers, atBase]

theorem Lending.closedEach (lending : before.Lending now pid opened base)
    (adds : before.Adds pid seen base) (sound : before.scene.Sound)
    (few : (closeEach pid now opened).registrations ≤ Registry.mostNumbers) :
    before.Lending (closeEach pid now opened) pid [] base := by
  induction opened generalizing now with
  | nil => exact lending
  | cons handle rest ih =>
      have later : (close ⟨pid, handle⟩ now).2.registrations ≤ Registry.mostNumbers :=
        Nat.le_trans (closeEach_grows pid rest _) few
      have sooner := Nat.le_trans (closeEach_grows pid [handle] now) later
      exact ih (lending.closed adds sound sooner) few

theorem Lending.gains (lending : before.Lending now pid opened base) {mode : Mode}
    {mailbox : Mailbox} (gains : now.Gains after pid handle mode name mailbox)
    (sound : after.scene.Sound)
    {later : MailboxId → Option Mailbox}
    (covers : ∀ id, Option.Rel (Mailbox.Lends (Lent pid opened)) (later id)
      (if mailbox.id = id then some mailbox else now.registry.get? id)) :
    before.Lending after pid (opened ++ [handle]) later := by
  have unopened : handle ∉ opened := fun member => lending.held handle member gains.free
  have still : ¬ Lent pid opened ⟨pid, handle⟩ := fun lent => unopened lent.2
  have free : before.handles.binding? ⟨pid, handle⟩ = none :=
    (lending.bindings_eq _ still).symm.trans gains.free
  refine ⟨sound, ?_, ?_, ?_, ?_, ?_, ?_⟩
  · obtain ⟨news, rest⟩ := gains.rest_eq
    rw [rest]
    exact lending.running
  · simpa [List.nodup_append, lending.distinct] using fun other member => by
      rintro rfl
      exact unopened member
  · intro other member
    rcases List.mem_append.mp member with sooner | last
    · exact lending.free other sooner
    · rw [List.mem_singleton.mp last, free]
  · intro other member
    rw [gains.bindings_eq, Function.update_apply]
    split
    · simp
    · rename_i apart
      rcases List.mem_append.mp member with sooner | last
      · exact lending.held other sooner
      · exact absurd (by rw [List.mem_singleton.mp last]) apart
  · intro endpoint unlent
    have apart : endpoint ≠ ⟨pid, handle⟩ := by
      rintro rfl
      exact unlent ⟨rfl, by simp⟩
    rw [gains.bindings_eq, Function.update_of_ne apart, lending.bindings_eq]
    exact fun lent => unlent ⟨lent.1, List.mem_append_left _ lent.2⟩
  · intro id
    have covered := covers id
    by_cases here : mailbox.id = id
    · subst here
      rw [if_pos rfl] at covered
      rw [gains.attached]
      obtain ⟨first, atBase, lends⟩ := related_some covered
      rw [atBase]
      refine .some (lends.lent unopened gains.vacant rfl fun endpoint apart => ?_)
      change (if _ then _ else _ : Subscribers)[endpoint]? = _
      split
      · exact (Table.insert_at _ _ _ _).trans (if_neg apart.symm)
      · rfl
    · rw [if_neg here] at covered
      rw [gains.elsewhere id (Ne.symm here)]
      refine related_refine covered fun first other found lends => ?_
      refine lends.lent unopened ?_ rfl fun _ _ => rfl
      refine seatless lending.sound found fun binding bound => ?_
      cases gains.free.symm.trans bound

theorem Lending.start (sound : before.scene.Sound) (running : before.halted = none) (pid : Pid) :
    before.Lending before pid [] before.registry.get? := by
  refine ⟨sound, running, List.nodup_nil, by simp, by simp, fun _ _ => rfl, fun id => ?_⟩
  cases before.registry.get? id with
  | none => exact .none
  | some mailbox => exact .some (.refl (by simp [Lent]))

theorem Lending.covers (lending : before.Lending now pid opened base) {mailbox : Mailbox}
    (bare : mailbox.subscribers = ∅) (id : MailboxId) :
    Option.Rel (Mailbox.Lends (Lent pid opened))
      (Function.update base mailbox.id (some mailbox) id)
      (if mailbox.id = id then some mailbox else now.registry.get? id) := by
  rw [Function.update_apply]
  simp only [eq_comm (a := id)]
  split
  · exact .some (.refl fun endpoint _ => by rw [bare, Table.empty_at])
  · exact lending.lends id

end Engine

end Mailroom
