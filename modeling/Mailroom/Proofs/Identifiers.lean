import Mailroom.Proofs.Registry

/-!
Identifiers are drawn one after another and come round after the largest. A registry does not look
whether the next one is still in use, so a mailbox that has lived through a whole round loses its
place to a new one.
-/

namespace Mailroom.Registry

inductive Change where
  | insert (make : MailboxId → Mailbox)
  | remove (id : MailboxId)

def apply (registry : Registry) : Change → Registry
  | .insert make => (registry.insert make).2
  | .remove id => (registry.remove id).2

def applyAll (registry : Registry) (changes : List Change) : Registry :=
  changes.foldl apply registry

def drawn (registry : Registry) : List Change → Nat
  | [] => 0
  | .insert make :: rest =>
    (if registry.size < registry.limit then 1 else 0) + (registry.apply (.insert make)).drawn rest
  | .remove id :: rest => (registry.apply (.remove id)).drawn rest

/-- Some insertion returned this identifier, and nobody has removed it since. -/
def Lingers (registry : Registry) (past : List Change) (id : MailboxId) : Prop :=
  ∃ sooner make later, past = sooner ++ .insert make :: later ∧
    ((registry.applyAll sooner).insert make).1 = .ok id ∧ .remove id ∉ later

/-- A new mailbox takes no other's place, and whatever a name led to it leads to still. -/
structure Joins (before after : Registry) (id : MailboxId) : Prop where
  unused : before.get? id = none
  kept : ∀ name other mailbox, before.resolve? name = some other →
    before.get? other = some mailbox →
      after.resolve? name = some other ∧ after.get? other = some mailbox

variable {registry after : Registry} {past : List Change} {id : MailboxId} {change : Change}
  {make : MailboxId → Mailbox}

theorem applyAll_concat (registry : Registry) (past : List Change) (change : Change) :
    registry.applyAll (past ++ [change]) = (registry.applyAll past).apply change := by
  simp only [applyAll, List.foldl_append, List.foldl_cons, List.foldl_nil]

theorem applyAll_cons (registry : Registry) (change : Change) (rest : List Change) :
    registry.applyAll (change :: rest) = (registry.apply change).applyAll rest := rfl

theorem drawn_append (registry : Registry) (past later : List Change) :
    registry.drawn (past ++ later) =
      registry.drawn past + (registry.applyAll past).drawn later := by
  induction past generalizing registry with
  | nil => simp [drawn, applyAll]
  | cons change rest ih =>
      cases change with
      | insert make =>
          simp only [List.cons_append, drawn, ih, applyAll, List.foldl_cons, Nat.add_assoc]
      | remove id => simp only [List.cons_append, drawn, ih, applyAll, List.foldl_cons]

theorem insert_cases (registry : Registry) (make : MailboxId → Mailbox) :
    (registry.limit ≤ registry.size ∧
      registry.insert make = (.error .descriptorsExhausted, registry)) ∨
    (registry.size < registry.limit ∧ ∃ fault, registry.insert make =
      (.error fault, { registry with nextId := max (registry.nextId + 1) 1 })) ∨
    (registry.size < registry.limit ∧ registry.resolve? (make ⟨registry.nextId⟩).name = none ∧
      registry.insert make = (.ok ⟨registry.nextId⟩, registry.added (make ⟨registry.nextId⟩))) := by
  rcases Nat.lt_or_ge registry.size registry.limit with room | full
  · right
    cases resolves : registry.resolve? (make ⟨registry.nextId⟩).name with
    | none => exact Or.inr ⟨room, rfl, insert_ok room make resolves⟩
    | some other =>
        have taken : (make ⟨registry.nextId⟩).name ∈ registry.names :=
          Table.mem_iff.mpr ⟨other, resolves⟩
        refine Or.inl ⟨room, ?_⟩
        simp only [insert, Nat.not_le.mpr room, if_false, taken, if_true]
        exact ⟨_, rfl⟩
  · exact Or.inl ⟨full, insert_full full make⟩

theorem insert_answers (inserted : registry.insert make = (.ok id, after)) :
    registry.size < registry.limit ∧ registry.resolve? (make id).name = none ∧
      id = ⟨registry.nextId⟩ ∧ after = registry.added (make id) := by
  rcases registry.insert_cases make with ⟨_, ran⟩ | ⟨_, fault, ran⟩ | ⟨room, unnamed, ran⟩
  · cases inserted.symm.trans ran
  · cases inserted.symm.trans ran
  · cases inserted.symm.trans ran
    exact ⟨room, unnamed, rfl, rfl⟩

theorem insert_get (registry : Registry) (make : MailboxId → Mailbox) (id : MailboxId) :
    ((registry.insert make).2.get? id).isSome = true ↔
      (registry.get? id).isSome = true ∨ (registry.insert make).1 = .ok id := by
  rcases registry.insert_cases make with ⟨_, ran⟩ | ⟨_, fault, ran⟩ | ⟨room, unnamed, ran⟩
  · simp [ran]
  · simp [ran, get?]
  · rw [ran, added_get]
    split
    · rename_i same
      simp [same]
    · rename_i apart
      simp [apart]

theorem remove_get (registry : Registry) (gone id : MailboxId) :
    (registry.remove gone).2.get? id = if gone = id then none else registry.get? id := by
  cases found : registry.get? gone with
  | none =>
      simp only [remove, found]
      split
      · rename_i same
        rw [← same, found]
      · rfl
  | some mailbox =>
      simp only [remove, found]
      exact Table.erase_at _ _ _

theorem lingers_concat :
    registry.Lingers (past ++ [change]) id ↔
      (registry.Lingers past id ∧ change ≠ .remove id) ∨
      ∃ make, change = .insert make ∧ ((registry.applyAll past).insert make).1 = .ok id := by
  constructor
  · rintro ⟨sooner, make, later, split, gave, stays⟩
    rcases concat_eq_append_cons.mp split with ⟨rfl, rfl, _⟩ | ⟨between, rfl, rfl⟩
    · exact Or.inr ⟨make, rfl, gave⟩
    · rw [List.mem_append, not_or, List.mem_singleton] at stays
      exact Or.inl ⟨⟨sooner, make, between, rfl, gave, stays.1⟩, Ne.symm stays.2⟩
  · rintro (⟨⟨sooner, make, later, rfl, gave, stays⟩, other⟩ | ⟨make, rfl, gave⟩)
    · refine ⟨sooner, make, later ++ [change], by simp, gave, ?_⟩
      rw [List.mem_append, not_or, List.mem_singleton]
      exact ⟨stays, Ne.symm other⟩
    · exact ⟨past, make, [], rfl, gave, List.not_mem_nil⟩

theorem present_iff_lingers (limit : Nat) (past : List Change) (id : MailboxId) :
    (((withLimit limit).applyAll past).get? id).isSome = true ↔
      (withLimit limit).Lingers past id := by
  induction past using List.reverseRecOn with
  | nil =>
      refine iff_of_false (by simp [applyAll, withLimit, get?]) ?_
      rintro ⟨sooner, make, later, split, _⟩
      simp at split
  | append_singleton past change ih =>
      rw [applyAll_concat, lingers_concat, ← ih]
      cases change with
      | insert make => simp [apply, insert_get]
      | remove gone =>
          rw [apply, remove_get]
          by_cases same : gone = id
          · simp [same]
          · simp [same]

theorem nextId_eq (limit : Nat) (past : List Change) :
    ((withLimit limit).applyAll past).nextId.toNat =
      (withLimit limit).drawn past % mostNumbers + 1 := by
  induction past using List.reverseRecOn with
  | nil => rfl
  | append_singleton past change ih =>
      rw [applyAll_concat, drawn_append]
      cases change with
      | insert make =>
          have one : ∀ room : ((withLimit limit).applyAll past).size <
              ((withLimit limit).applyAll past).limit,
              ((withLimit limit).applyAll past).drawn [.insert make] = 1 :=
            fun room => by simp [drawn, room]
          rcases ((withLimit limit).applyAll past).insert_cases make with
            ⟨full, ran⟩ | ⟨room, fault, ran⟩ | ⟨room, _, ran⟩
          · simp only [apply, ran, ih, drawn, Nat.not_lt.mpr full, if_false, Nat.add_zero]
          · rw [apply, ran, one room, toNat_following, ih, Nat.mod_add_mod]
          · rw [apply, ran, one room, added, toNat_following, ih, Nat.mod_add_mod]
      | remove gone =>
          have same : (((withLimit limit).applyAll past).remove gone).2.nextId =
              ((withLimit limit).applyAll past).nextId := by
            simp only [remove]
            split <;> rfl
          rw [apply, same, ih]
          rfl

/-- An insertion takes no other's place if and only if its identifier was never returned or has been
removed since. Until all identifiers have been used up once, that is always so. -/
theorem insert_joins_iff (limit : Nat)
    (inserted : ((withLimit limit).applyAll past).insert make = (.ok id, after)) :
    (Joins ((withLimit limit).applyAll past) after id ↔ ¬ (withLimit limit).Lingers past id) ∧
    ((withLimit limit).Lingers past id → mostNumbers ≤ (withLimit limit).drawn past) := by
  obtain ⟨_, unnamed, number, rfl⟩ := insert_answers inserted
  constructor
  · rw [← present_iff_lingers, Bool.not_eq_true, Option.isSome_eq_false_iff,
      Option.isNone_iff_eq_none]
    refine ⟨Joins.unused, fun unused => ⟨unused, ?_⟩⟩
    intro name other mailbox leads found
    rw [added_resolve, added_get, ← number]
    constructor
    · rw [if_neg, leads]
      rintro rfl
      cases leads.symm.trans unnamed
    · rw [if_neg, found]
      rintro rfl
      cases found.symm.trans unused
  · rintro ⟨sooner, other, later, rfl, gave, _⟩
    cases earlier : ((withLimit limit).applyAll sooner).insert other with
    | mk outcome middle =>
        rw [earlier] at gave
        subst gave
        obtain ⟨room, _, same, _⟩ := insert_answers earlier
        have before := nextId_eq limit sooner
        have now := nextId_eq limit (sooner ++ .insert other :: later)
        have numbers : ((withLimit limit).applyAll sooner).nextId =
            ((withLimit limit).applyAll (sooner ++ .insert other :: later)).nextId :=
          MailboxId.mk.inj (same.symm.trans number)
        -- The number was drawn twice, so a multiple of all numbers lies between the two draws.
        rw [numbers, now, drawn_append, drawn, if_pos room] at before
        rw [drawn_append, drawn, if_pos room]
        by_contra short
        rw [Nat.mod_eq_of_lt (by omega), Nat.mod_eq_of_lt (by omega)] at before
        omega

def keeper : Mailbox := .empty ⟨1⟩ ⟨.app, "keeper", none⟩ 64 .queue 0 false

def passer (id : MailboxId) : Mailbox := .empty id ⟨.app, "passer", none⟩ 64 .queue 0 false

theorem passer_joins :
    Joins ((withLimit 2).applyAll [.insert fun _ => keeper, .remove ⟨1⟩])
      (((withLimit 2).applyAll [.insert fun _ => keeper, .remove ⟨1⟩]).insert passer).2 ⟨2⟩ := by
  have inserted : ((withLimit 2).applyAll [.insert fun _ => keeper, .remove ⟨1⟩]).insert passer =
      (.ok ⟨2⟩,
        (((withLimit 2).applyAll [.insert fun _ => keeper, .remove ⟨1⟩]).insert passer).2) :=
    Prod.ext (by decide +kernel) rfl
  obtain ⟨joins, wrapped⟩ := insert_joins_iff 2 inserted
  refine joins.mpr fun lingers => ?_
  have few : (withLimit 2).drawn [.insert fun _ => keeper, .remove ⟨1⟩] = 1 := by decide +kernel
  have many := wrapped lingers
  rw [few] at many
  exact absurd many (by decide)

def kept (next : UInt32) : Registry :=
  { limit := 2
    nextId := next
    names := (∅ : Table Name MailboxId).insert keeper.name ⟨1⟩
    mailboxes := (∅ : Table MailboxId Mailbox).insert ⟨1⟩ keeper }

def rounds : Nat → UInt32 → List Change
  | 0, _ => []
  | count + 1, next => .insert passer :: .remove ⟨next⟩ :: rounds count (max (next + 1) 1)

theorem kept_insert (next : UInt32) :
    (kept next).insert passer = (.ok ⟨next⟩, (kept next).added (passer ⟨next⟩)) := by
  have room : (kept next).size < (kept next).limit := by
    change ((∅ : Table MailboxId Mailbox).insert ⟨1⟩ keeper).size < 2
    decide +kernel
  have unnamed : (kept next).resolve? (passer ⟨next⟩).name = none := by
    change ((∅ : Table Name MailboxId).insert keeper.name ⟨1⟩)[(passer ⟨1⟩).name]? = none
    decide +kernel
  exact insert_ok room passer unnamed

theorem kept_round {next : UInt32} (apart : next ≠ 1) :
    ((kept next).apply (.insert passer)).apply (.remove ⟨next⟩) = kept (max (next + 1) 1) := by
  have there : ((kept next).added (passer ⟨next⟩)).get? ⟨next⟩ = some (passer ⟨next⟩) :=
    (added_get _ _ _).trans (if_pos rfl)
  have unnamed : ((∅ : Table Name MailboxId).insert keeper.name ⟨1⟩)[(passer ⟨next⟩).name]? =
      none := by
    rw [Table.insert_at, if_neg (by simp [keeper, passer, Mailbox.empty]), Table.empty_at]
  have unused : ((∅ : Table MailboxId Mailbox).insert ⟨1⟩ keeper)[(⟨next⟩ : MailboxId)]? =
      none := by
    rw [Table.insert_at, if_neg, Table.empty_at]
    exact fun same => apart (MailboxId.mk.inj same).symm
  simp only [apply, kept_insert, remove, there]
  simp only [added, kept, Table.erase_insert unnamed, Table.erase_insert unused]

theorem kept_rounds (count : Nat) {next : UInt32} (above : 2 ≤ next.toNat)
    (whole : next.toNat + count = 4294967296) :
    (kept next).applyAll (rounds count next) = kept 1 := by
  induction count generalizing next with
  | zero =>
      have bound := next.toNat_lt
      omega
  | succ count ih =>
      have apart : next ≠ 1 := by
        rintro rfl
        exact absurd above (by decide)
      rw [rounds, applyAll_cons, applyAll_cons, kept_round apart]
      -- The round ends with the largest number: only after that one does the keeper's come again.
      cases count with
      | zero =>
          have last : next.toNat = 4294967295 := by omega
          have number : max (next + 1) 1 = 1 := by
            apply UInt32.toNat_inj.mp
            rw [toNat_following, last]
            rfl
          rw [number]
          rfl
      | succ count =>
          have number : (max (next + 1) 1).toNat = next.toNat + 1 := by
            rw [toNat_following, Nat.mod_eq_of_lt (by unfold mostNumbers; omega)]
          exact ih (by omega) (by omega)

def wholeRound : List Change := .insert (fun _ => keeper) :: rounds 4294967294 2

theorem wholeRound_kept : (withLimit 2).applyAll wholeRound = kept 1 := by
  have first : (withLimit 2).apply (.insert fun _ => keeper) = kept 2 := by
    have inserted := insert_ok (by decide +kernel : (withLimit 2).size < (withLimit 2).limit)
      (fun _ => keeper) rfl
    rw [apply, inserted]
    rfl
  rw [wholeRound, applyAll_cons, first]
  exact kept_rounds 4294967294 (by decide) (by decide)

/-- After a whole round the keeper's identifier is returned again, and its name leads to another
mailbox. -/
theorem insert_replaces :
    ¬ ∀ (limit : Nat) (past : List Change) (make : MailboxId → Mailbox) (id : MailboxId)
      (after : Registry), ((withLimit limit).applyAll past).insert make = (.ok id, after) →
        Joins ((withLimit limit).applyAll past) after id := by
  intro always
  have joins := always 2 wholeRound passer ⟨1⟩ ((kept 1).added (passer ⟨1⟩))
    (by rw [wholeRound_kept]; exact kept_insert 1)
  have unused := joins.unused
  rw [wholeRound_kept] at unused
  have there : (kept 1).get? ⟨1⟩ = some keeper := (Table.insert_at _ _ _ _).trans (if_pos rfl)
  cases there.symm.trans unused

end Mailroom.Registry
