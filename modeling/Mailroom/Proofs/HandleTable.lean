import Mathlib.Data.List.Nodup
import Mathlib.Data.List.Perm.Subperm
import Mathlib.Logic.Function.Basic
import Mailroom.HandleTable
import Mailroom.Proofs.Table

/-!
Handle tables through their bindings. The search for a free number passes over all 65535 of them
before it gives up, so it finds one for every task that may still have a handle; what the changes
do to the bindings is said in full.
-/

namespace Mailroom

namespace TaskHandles

theorem toNat_following {handle : Handle} (valid : handle ≠ 0) :
    (following handle).toNat = handle.toNat % most + 1 := by
  have positive : handle.toNat ≠ 0 := by
    intro zero
    exact valid (UInt16.toNat_inj.mp zero)
  have bound := handle.toNat_lt
  have sum : (handle + 1).toNat = (handle.toNat + 1) % 65536 := UInt16.toNat_add _ _
  have one : (1 : Handle).toNat = 1 := rfl
  unfold following most
  rw [UInt16.max_def]
  split
  · rename_i small
    rw [UInt16.le_iff_toNat_le] at small
    omega
  · rename_i large
    rw [UInt16.le_iff_toNat_le] at large
    have inside : handle.toNat + 1 < 65536 := by omega
    rw [sum, Nat.mod_eq_of_lt inside, Nat.mod_eq_of_lt (by omega)]

theorem following_ne_zero (handle : Handle) : following handle ≠ 0 := by
  intro zero
  have number : (following handle).toNat = 0 := by rw [zero]; rfl
  unfold following at number
  rw [UInt16.max_def] at number
  split at number
  · cases number
  · rename_i large
    rw [UInt16.le_iff_toNat_le] at large
    have one : (1 : Handle).toNat = 1 := rfl
    omega

def tried (next : Handle) : Nat → Handle
  | 0 => next
  | steps + 1 => tried (following next) steps

theorem toNat_tried {next : Handle} (valid : next ≠ 0) (steps : Nat) :
    (tried next steps).toNat = (next.toNat - 1 + steps) % most + 1 := by
  have positive : next.toNat ≠ 0 := by
    intro zero
    exact valid (UInt16.toNat_inj.mp zero)
  have bound := next.toNat_lt
  induction steps generalizing next with
  | zero =>
      simp only [tried, most]
      omega
  | succ steps ih =>
      have onward := following_ne_zero next
      have number := toNat_following valid
      have later := ih onward (by rw [number]; omega) (following next).toNat_lt
      simp only [tried, later, number, most]
      omega

theorem tried_inj {next : Handle} (valid : next ≠ 0) {left right : Nat} (leftBound : left < most)
    (rightBound : right < most) (same : tried next left = tried next right) : left = right := by
  have numbers := congrArg UInt16.toNat same
  rw [toNat_tried valid, toNat_tried valid] at numbers
  simp only [most] at numbers leftBound rightBound
  omega

theorem search_cases (entries : Table Handle Binding) (tries : Nat) {next : Handle}
    (valid : next ≠ 0) :
    (∃ handle onward, search entries tries next = (some handle, onward) ∧
      onward ≠ 0 ∧ handle ∉ entries) ∨
    (∀ steps < tries, tried next steps ∈ entries) := by
  induction tries generalizing next with
  | zero => exact Or.inr (by simp)
  | succ tries ih =>
      by_cases free : next ∉ entries
      · exact Or.inl ⟨next, following next, by simp [search, valid, free],
          following_ne_zero next, free⟩
      · have skip : search entries (tries + 1) next = search entries tries (following next) := by
          simp only [search]
          rw [if_neg (fun found => free found.2)]
        rw [skip]
        rcases ih (following_ne_zero next) with found | used
        · exact Or.inl found
        · right
          rintro (_ | steps) bound
          · exact Decidable.not_not.mp free
          · exact used steps (by omega)

theorem search_free {entries : Table Handle Binding} {tries : Nat} {next handle onward : Handle}
    (found : search entries tries next = (some handle, onward)) : handle ∉ entries := by
  induction tries generalizing next with
  | zero => cases found
  | succ tries ih =>
      simp only [search] at found
      split at found
      · rename_i free
        cases found
        exact free.2
      · exact ih found

theorem search_valid {entries : Table Handle Binding} {tries : Nat} {next handle onward : Handle}
    (found : search entries tries next = (some handle, onward)) : handle ≠ 0 := by
  induction tries generalizing next with
  | zero => cases found
  | succ tries ih =>
      simp only [search] at found
      split at found
      · rename_i free
        cases found
        exact free.1
      · exact ih found

theorem search_finds {entries : Table Handle Binding} (room : entries.size < most) {next : Handle}
    (valid : next ≠ 0) :
    ∃ handle onward, search entries most next = (some handle, onward) ∧
      onward ≠ 0 ∧ handle ∉ entries := by
  rcases search_cases entries most valid with found | used
  · exact found
  -- All numbers tried would be different keys of the table, more than it has.
  · have distinct : ((List.range most).map (tried next)).Nodup := by
      apply List.nodup_range.map_on
      intro left leftMember right rightMember same
      exact tried_inj valid (List.mem_range.mp leftMember) (List.mem_range.mp rightMember) same
    have inside : (List.range most).map (tried next) ⊆ entries.keys := by
      intro handle member
      obtain ⟨steps, bound, rfl⟩ := List.mem_map.mp member
      exact Std.ExtTreeMap.mem_keys.mpr (used steps (List.mem_range.mp bound))
    have longer := (List.subperm_of_subset distinct inside).length_le
    rw [List.length_map, List.length_range, Std.ExtTreeMap.length_keys] at longer
    omega

end TaskHandles

abbrev Bindings := Endpoint → Option Binding

namespace HandleTable

/-- Limits leave a number free, and no counter stands at zero. -/
structure Sound (table : HandleTable) : Prop where
  limit_le : table.limit ≤ TaskHandles.most
  next_ne_zero : ∀ pid : Pid, (table.handlesOf pid).next ≠ 0

theorem setTask_handlesOf (table : HandleTable) (pid other : Pid) (task : TaskHandles) :
    (table.setTask pid task).handlesOf other = if pid = other then task else table.handlesOf other
    := by
  simp only [handlesOf, setTask, Table.insert_at]
  split <;> rfl

theorem setTask_binding (table : HandleTable) (pid : Pid) (task : TaskHandles)
    (endpoint : Endpoint) :
    (table.setTask pid task).binding? endpoint =
      if pid = endpoint.pid then task.entries[endpoint.handle]? else table.binding? endpoint := by
  simp only [binding?, setTask_handlesOf]
  split <;> rfl

theorem Sound.setTask {table : HandleTable} (sound : table.Sound) (pid : Pid) {task : TaskHandles}
    (valid : task.next ≠ 0) : (table.setTask pid task).Sound := by
  refine ⟨sound.limit_le, ?_⟩
  intro other
  rw [setTask_handlesOf]
  split
  · exact valid
  · exact sound.next_ne_zero other

theorem sound_withLimit (limit : Nat) : (withLimit limit).Sound := by
  refine ⟨Nat.min_le_right _ _, ?_⟩
  intro pid
  simp [withLimit, handlesOf]

theorem withLimit_binding (limit : Nat) : (withLimit limit).binding? = fun _ => none := by
  funext endpoint
  simp [withLimit, binding?, handlesOf]

theorem setTask_insert (table : HandleTable) (pid : Pid) (handle next : Handle)
    (binding : Binding) :
    (table.setTask pid
      { next, entries := (table.handlesOf pid).entries.insert handle binding }).binding? =
      Function.update table.binding? ⟨pid, handle⟩ (some binding) := by
  funext endpoint
  obtain ⟨other, number⟩ := endpoint
  rw [setTask_binding, Function.update_apply]
  by_cases same : pid = other
  · subst other
    simp only [if_true, Table.insert_at, Endpoint.mk.injEq, true_and]
    by_cases equal : handle = number
    · simp [equal]
    · rw [if_neg equal, if_neg (Ne.symm equal)]
      rfl
  · have apart : ¬ (⟨other, number⟩ : Endpoint) = ⟨pid, handle⟩ := by
      intro equal
      exact same (Endpoint.mk.inj equal).1.symm
    rw [if_neg same, if_neg apart]

theorem insert_ends (table : HandleTable) (pid : Pid) (binding : Binding) :
    (∃ fault after, table.insert pid binding = (.error fault, after) ∧
      after.binding? = table.binding?) ∨
    ∃ handle after, table.insert pid binding = (.ok handle, after) ∧
      table.binding? ⟨pid, handle⟩ = none ∧
      after.binding? = Function.update table.binding? ⟨pid, handle⟩ (some binding) := by
  simp only [insert]
  split
  · split
    · rename_i handle next found
      refine Or.inr ⟨handle, _, rfl, ?_, setTask_insert table pid handle next binding⟩
      simpa [binding?] using TaskHandles.search_free found
    · refine Or.inl ⟨_, _, rfl, ?_⟩
      funext endpoint
      rw [setTask_binding]
      split
      · rename_i same
        rw [binding?, same]
      · rfl
  · exact Or.inl ⟨_, _, rfl, rfl⟩

theorem insert_valid {table after : HandleTable} {pid : Pid} {binding : Binding} {handle : Handle}
    (inserted : table.insert pid binding = (.ok handle, after)) :
    handle ≠ 0 ∧ after.limit = table.limit ∧
      ∀ other, other ≠ pid → after.handlesOf other = table.handlesOf other := by
  simp only [insert] at inserted
  split at inserted
  · split at inserted
    · rename_i found
      cases inserted
      refine ⟨TaskHandles.search_valid found, rfl, fun other apart => ?_⟩
      rw [setTask_handlesOf, if_neg apart.symm]
    · cases inserted
  · cases inserted

structure Rations (before after : HandleTable) : Prop where
  limit_eq : after.limit = before.limit
  count_le : ∀ pid, after.count pid ≤ max (before.count pid) before.limit

theorem setTask_rations {table : HandleTable} {pid : Pid} {task : TaskHandles}
    (few : task.entries.size ≤ max (table.count pid) table.limit) :
    table.Rations (table.setTask pid task) := by
  refine ⟨rfl, fun other => ?_⟩
  rw [count, setTask_handlesOf]
  split
  · rename_i same
    exact same ▸ few
  · exact Nat.le_max_left _ _

theorem insert_rations (table : HandleTable) (pid : Pid) (binding : Binding) :
    table.Rations (table.insert pid binding).2 := by
  simp only [insert]
  split
  · rename_i room
    have below : table.count pid < table.limit := of_decide_eq_true room
    split
    · exact setTask_rations (Nat.le_trans Std.ExtTreeMap.size_insert_le
        (Nat.le_trans below (Nat.le_max_right _ _)))
    · exact setTask_rations (Nat.le_max_left _ _)
  · exact ⟨rfl, fun _ => Nat.le_max_left _ _⟩

theorem Sound.insert_ok {table : HandleTable} (sound : table.Sound) {pid : Pid}
    (room : table.hasRoom pid = true) (binding : Binding) :
    ∃ handle after, table.insert pid binding = (.ok handle, after) ∧
      table.binding? ⟨pid, handle⟩ = none ∧
      after.binding? = Function.update table.binding? ⟨pid, handle⟩ (some binding) ∧
      after.Sound := by
  have few : (table.handlesOf pid).entries.size < TaskHandles.most :=
    Nat.lt_of_lt_of_le (of_decide_eq_true room) sound.limit_le
  obtain ⟨handle, onward, found, valid, free⟩ :=
    TaskHandles.search_finds few (sound.next_ne_zero pid)
  let task : TaskHandles :=
    { next := onward, entries := (table.handlesOf pid).entries.insert handle binding }
  refine ⟨handle, table.setTask pid task, by simp only [insert, room, if_true, found, task],
    ?_, setTask_insert table pid handle onward binding, sound.setTask pid valid⟩
  simpa [binding?] using free

theorem count_bound {before after : HandleTable} {pid : Pid} {handle : Handle} {binding : Binding}
    (free : before.binding? ⟨pid, handle⟩ = none)
    (bindings_eq : after.binding? =
      Function.update before.binding? ⟨pid, handle⟩ (some binding)) :
    after.count pid = before.count pid + 1 := by
  have entries : (after.handlesOf pid).entries =
      (before.handlesOf pid).entries.insert handle binding := by
    apply Table.ext_at
    intro other
    have here := congrFun bindings_eq ⟨pid, other⟩
    rw [Function.update_apply] at here
    rw [Table.insert_at]
    by_cases same : handle = other
    · subst same
      rw [if_pos rfl] at here ⊢
      exact here
    · rw [if_neg (by simp [Ne.symm same])] at here
      rw [if_neg same]
      exact here
  have absent : handle ∉ (before.handlesOf pid).entries := by
    rw [Table.mem_iff]
    rintro ⟨other, there⟩
    cases free.symm.trans there
  rw [HandleTable.count, entries, Std.ExtTreeMap.size_insert]
  exact if_neg (by simpa using absent)

theorem insert_full {table : HandleTable} {pid : Pid} (full : table.hasRoom pid = false)
    (binding : Binding) : table.insert pid binding = (.error (.handleQuota pid), table) := by
  simp [insert, full]

theorem remove_binding (table : HandleTable) (endpoint : Endpoint) :
    (table.remove endpoint).2.binding? = Function.update table.binding? endpoint none := by
  funext other
  rw [Function.update_apply]
  cases bound : table.binding? endpoint with
  | none =>
      simp only [remove, bound]
      split
      · rename_i same
        rw [same, bound]
      · rfl
  | some binding =>
      simp only [remove, bound]
      rw [setTask_binding]
      by_cases same : endpoint.pid = other.pid
      · by_cases handle : endpoint.handle = other.handle
        · have equal : other = endpoint := by
            obtain ⟨pid, number⟩ := endpoint
            obtain ⟨otherPid, otherNumber⟩ := other
            simp_all
          subst equal
          simp
        · have apart : ¬ other = endpoint := fun equal => handle (by rw [equal])
          rw [if_pos same, if_neg apart]
          simp only [Table.erase_at, handle, if_false]
          rw [binding?, same]
      · have apart : ¬ other = endpoint := fun equal => same (by rw [equal])
        rw [if_neg same, if_neg apart]

theorem Sound.remove_ok {table : HandleTable} (sound : table.Sound) {endpoint : Endpoint}
    {binding : Binding} (bound : table.binding? endpoint = some binding) :
    ∃ after, table.remove endpoint = (.ok binding, after) ∧
      after.binding? = Function.update table.binding? endpoint none ∧ after.Sound := by
  have left := table.remove_binding endpoint
  simp only [remove, bound] at left ⊢
  exact ⟨_, rfl, left, sound.setTask _ (sound.next_ne_zero endpoint.pid)⟩

theorem remove_fewer (table : HandleTable) (endpoint other : Endpoint) {binding : Binding}
    (still : (table.remove endpoint).2.binding? other = some binding) :
    table.binding? other = some binding := by
  rw [remove_binding, Function.update_apply] at still
  split at still
  · cases still
  · exact still

theorem remove_rations (table : HandleTable) (endpoint : Endpoint) :
    table.Rations (table.remove endpoint).2 := by
  simp only [remove]
  split
  · exact setTask_rations (Nat.le_trans Std.ExtTreeMap.size_erase_le (Nat.le_max_left _ _))
  · exact ⟨rfl, fun _ => Nat.le_max_left _ _⟩

theorem remove_free {table : HandleTable} {endpoint : Endpoint}
    (free : table.binding? endpoint = none) :
    table.remove endpoint = (.error (.invalidHandle endpoint.pid endpoint.handle), table) := by
  simp only [remove, free]

theorem dropTask_handlesOf (table : HandleTable) (pid other : Pid) :
    (table.dropTask pid).handlesOf other = if pid = other then {} else table.handlesOf other := by
  simp only [handlesOf, dropTask, Table.erase_at]
  split <;> rfl

theorem dropTask_binding (table : HandleTable) (pid : Pid) (endpoint : Endpoint) :
    (table.dropTask pid).binding? endpoint =
      if pid = endpoint.pid then none else table.binding? endpoint := by
  simp only [binding?, dropTask_handlesOf]
  split
  · simp
  · rfl

theorem dropTask_rations (table : HandleTable) (pid : Pid) :
    table.Rations (table.dropTask pid) := by
  refine ⟨rfl, fun other => ?_⟩
  rw [count, dropTask_handlesOf]
  split
  · exact Nat.zero_le _
  · exact Nat.le_max_left _ _

theorem Sound.dropTask {table : HandleTable} (sound : table.Sound) (pid : Pid) :
    (table.dropTask pid).Sound := by
  refine ⟨sound.limit_le, ?_⟩
  intro other
  rw [dropTask_handlesOf]
  split
  · decide
  · exact sound.next_ne_zero other

theorem mem_held {table : HandleTable} {pid : Pid} {handle : Handle} {binding : Binding} :
    (handle, binding) ∈ table.held pid ↔ table.binding? ⟨pid, handle⟩ = some binding :=
  Table.mem_toList

theorem length_held (table : HandleTable) (pid : Pid) : (table.held pid).length = table.count pid :=
  Std.ExtTreeMap.length_toList

theorem distinct_held (table : HandleTable) (pid : Pid) :
    (table.held pid).Pairwise fun left right => left.1 ≠ right.1 :=
  Table.distinct_toList _

theorem clear_binding (table : HandleTable) : table.clear.binding? = fun _ => none := by
  funext endpoint
  simp [clear, binding?, handlesOf]

theorem Sound.clear {table : HandleTable} (sound : table.Sound) : table.clear.Sound := by
  refine ⟨sound.limit_le, ?_⟩
  intro pid
  simp [HandleTable.clear, handlesOf]

end HandleTable

end Mailroom
