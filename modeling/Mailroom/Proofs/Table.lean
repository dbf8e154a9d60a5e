import Mailroom.Ident

/-!
Laws of tables, read through look-up only: what an entry is after a change, and when two tables
are one. Below them stands a law of lists that runs and registries share.
-/

namespace Mailroom.Table

variable {κ α : Type} [Ord κ]

theorem compare_ne_eq [Std.LawfulEqOrd κ] {key other : κ} (different : key ≠ other) :
    compare key other ≠ .eq :=
  fun same => different (Std.LawfulEqOrd.eq_of_compare same)

variable [Std.TransOrd κ]

theorem empty_at (key : κ) : (∅ : Table κ α)[key]? = none := by simp

theorem filter_at (table : Table κ α) (wanted : α → Bool) (key : κ) :
    (table.filter fun _ value => wanted value)[key]? = table[key]?.filter wanted := by
  rw [Std.ExtTreeMap.getElem?_filter, Option.pfilter_eq_filter]

theorem mem_iff {table : Table κ α} {key : κ} :
    key ∈ table ↔ ∃ value, table[key]? = some value := by
  rw [Std.ExtTreeMap.mem_iff_isSome_getElem?, Option.isSome_iff_exists]

theorem distinct_toList (table : Table κ α) :
    table.toList.Pairwise fun left right => left.1 ≠ right.1 := by
  refine table.distinct_keys_toList.imp ?_
  intro left right distinct same
  apply distinct
  rw [same]
  exact Std.ReflOrd.compare_self

/-- The library has no law of `values`, so this one goes down to the tree below the table. -/
theorem values_eq (table : Table κ α) : table.values = table.toList.map Prod.snd := by
  obtain ⟨inner⟩ := table
  induction inner with
  | mk tree =>
      change tree.inner.values = (Std.DTreeMap.Internal.Impl.Const.toList tree.inner).map Prod.snd
      rw [Std.DTreeMap.Internal.Impl.values_eq_map_snd,
        Std.DTreeMap.Internal.Impl.Const.toList_eq_toListModel_map]
      simp

variable [Std.LawfulEqOrd κ]

theorem ext_at {left right : Table κ α} (same : ∀ key : κ, left[key]? = right[key]?) :
    left = right :=
  Std.ExtTreeMap.ext_getElem? fun {key} => same key

theorem mem_toList {table : Table κ α} {key : κ} {value : α} :
    (key, value) ∈ table.toList ↔ table[key]? = some value :=
  Std.ExtTreeMap.mem_toList_iff_getElem?_eq_some

theorem map_at {β : Type} (table : Table κ α) (change : κ → α → β) (key : κ) :
    (table.map change)[key]? = table[key]?.map (change key) :=
  Std.ExtTreeMap.getElem?_map

theorem size_congr {β : Type} {left : Table κ α} {right : Table κ β}
    (same : ∀ key : κ, left[key]?.isSome = right[key]?.isSome) : left.size = right.size := by
  have keys : (left.map fun _ _ => ()) = right.map fun _ _ => () := by
    apply ext_at
    intro key
    have here := same key
    rw [map_at, map_at]
    revert here
    cases left[key]? <;> cases right[key]? <;> simp
  simpa only [Std.ExtTreeMap.size_map] using congrArg Std.ExtTreeMap.size keys

theorem filter_keys_at (table : Table κ α) (wanted : κ → Bool) (key : κ) :
    (table.filter fun key _ => wanted key)[key]? = if wanted key then table[key]? else none := by
  rw [Std.ExtTreeMap.getElem?_filter']
  cases table[key]? <;> cases wanted key <;> rfl

theorem filter_keys_filter (table : Table κ α) (first second : κ → Bool) :
    ((table.filter fun key _ => first key).filter fun key _ => second key) =
      table.filter fun key _ => first key && second key := by
  apply ext_at
  intro key
  rw [filter_keys_at, filter_keys_at, filter_keys_at table fun key => first key && second key]
  cases first key <;> simp

theorem filter_keys_all (table : Table κ α) {wanted : κ → Bool} (all : ∀ key, wanted key = true) :
    (table.filter fun key _ => wanted key) = table := by
  apply ext_at
  intro key
  rw [filter_keys_at, if_pos (all key)]

variable [DecidableEq κ]

theorem insert_at (table : Table κ α) (key other : κ) (value : α) :
    (table.insert key value)[other]? = if key = other then some value else table[other]? := by
  rw [Std.ExtTreeMap.getElem?_insert]
  by_cases same : key = other
  · subst other
    simp
  · rw [if_neg (compare_ne_eq same), if_neg same]

theorem erase_at (table : Table κ α) (key other : κ) :
    (table.erase key)[other]? = if key = other then none else table[other]? := by
  rw [Std.ExtTreeMap.getElem?_erase]
  by_cases same : key = other
  · subst other
    simp
  · rw [if_neg (compare_ne_eq same), if_neg same]

theorem modify_at (table : Table κ α) (key other : κ) (change : α → α) :
    (table.modify key change)[other]? =
      if key = other then table[other]?.map change else table[other]? := by
  rw [Std.ExtTreeMap.getElem?_modify]
  by_cases same : key = other
  · subst other
    simp
  · rw [if_neg (compare_ne_eq same), if_neg same]

theorem insert_same {table : Table κ α} {key : κ} {value : α}
    (found : table[key]? = some value) : table.insert key value = table := by
  apply ext_at
  intro other
  rw [insert_at]
  by_cases same : key = other
  · subst other
    simp [found]
  · simp [same]

theorem erase_insert {table : Table κ α} {key : κ} (free : table[key]? = none) (value : α) :
    (table.insert key value).erase key = table := by
  apply ext_at
  intro other
  rw [erase_at, insert_at]
  by_cases same : key = other
  · subst other
    simp [free]
  · simp [same]

theorem modify_of_some {table : Table κ α} {key : κ} {value : α} (found : table[key]? = some value)
    (change : α → α) : table.modify key change = table.insert key (change value) := by
  apply ext_at
  intro other
  rw [modify_at, insert_at]
  by_cases same : key = other
  · subst other
    simp [found]
  · simp [same]

theorem map_insert {β : Type} (table : Table κ α) (key : κ) (value : α) (change : α → β) :
    (table.insert key value).map (fun _ => change) =
      (table.map fun _ => change).insert key (change value) := by
  apply ext_at
  intro other
  rw [map_at, insert_at, insert_at, map_at]
  split <;> rfl

theorem map_erase {β : Type} (table : Table κ α) (key : κ) (change : α → β) :
    (table.erase key).map (fun _ => change) = (table.map fun _ => change).erase key := by
  apply ext_at
  intro other
  rw [map_at, erase_at, erase_at, map_at]
  split <;> rfl

end Mailroom.Table

namespace Mailroom

theorem concat_eq_append_cons {α : Type} {past sooner later : List α} {one last : α} :
    past ++ [last] = sooner ++ one :: later ↔
      (past = sooner ∧ last = one ∧ later = []) ∨
      ∃ between, later = between ++ [last] ∧ past = sooner ++ one :: between := by
  constructor
  · intro cut
    rcases List.eq_nil_or_concat later with rfl | ⟨between, final, rfl⟩
    · obtain ⟨same, ends⟩ := List.append_inj' cut rfl
      exact Or.inl ⟨same, (List.cons.inj ends).1, rfl⟩
    · rw [List.concat_eq_append, ← List.cons_append, ← List.append_assoc] at cut
      obtain ⟨same, ends⟩ := List.append_inj' cut rfl
      cases ends
      exact Or.inr ⟨between, List.concat_eq_append, same⟩
  · rintro (⟨rfl, rfl, rfl⟩ | ⟨between, rfl, rfl⟩)
    · rfl
    · simp

end Mailroom
