import Mailroom.Proofs.HandleTable

/-!
Turns of a counter. The numbers of a task come round, and before one of them is given out again
every other has been given out or passed over, which happens to numbers that are still in use.
Main statement: a task below its limit gets a number that it does not hold, and gets one that it
has held before only after so many others.
-/

namespace Mailroom

namespace TaskHandles

def distance (next handle : Handle) : Nat := (handle.toNat + most - next.toNat) % most

def path (next handle : Handle) : List Handle :=
  (List.range (distance next handle)).map (tried next)

def ahead (entries : Table Handle Binding) (next handle : Handle) : Nat :=
  (path next handle).countP fun number => number ∉ entries

variable {entries : Table Handle Binding} {next handle given onward : Handle}

theorem distance_lt (next handle : Handle) : distance next handle < most :=
  Nat.mod_lt _ (by decide)

theorem toNat_pos (valid : handle ≠ 0) : 0 < handle.toNat :=
  Nat.pos_of_ne_zero fun zero => valid (UInt16.toNat_inj.mp zero)

theorem distance_self (handle : Handle) : distance handle handle = 0 := by
  simp [distance]

theorem distance_following (valid : next ≠ 0) (other : handle ≠ 0) (apart : next ≠ handle) :
    distance next handle = distance (following next) handle + 1 := by
  have number := toNat_following valid
  have different : next.toNat ≠ handle.toNat := fun same => apart (UInt16.toNat_inj.mp same)
  have positive := toNat_pos valid
  have bound := next.toNat_lt
  have handlePositive := toNat_pos other
  have handleBound := handle.toNat_lt
  simp only [distance, number, most]
  omega

theorem distance_turn (valid : handle ≠ 0) : distance (following handle) handle = most - 1 := by
  have number := toNat_following valid
  have positive := toNat_pos valid
  have bound := handle.toNat_lt
  simp only [distance, number, most]
  omega

theorem path_self (handle : Handle) : path handle handle = [] := by
  rw [path, distance_self]
  rfl

theorem path_following (valid : next ≠ 0) (other : handle ≠ 0) (apart : next ≠ handle) :
    path next handle = next :: path (following next) handle := by
  rw [path, distance_following valid other apart, List.range_succ_eq_map, List.map_cons,
    List.map_map]
  rfl

theorem path_nodup (valid : next ≠ 0) (handle : Handle) : (path next handle).Nodup := by
  apply List.nodup_range.map_on
  intro left leftMember right rightMember same
  have bound := distance_lt next handle
  rw [List.mem_range] at leftMember rightMember
  exact tried_inj valid (by omega) (by omega) same

theorem not_mem_path (valid : next ≠ 0) (other : handle ≠ 0) : handle ∉ path next handle := by
  intro member
  obtain ⟨steps, within, same⟩ := List.mem_map.mp member
  rw [List.mem_range] at within
  have numbers := congrArg UInt16.toNat same
  rw [toNat_tried valid] at numbers
  have positive := toNat_pos valid
  have bound := next.toNat_lt
  have handlePositive := toNat_pos other
  have handleBound := handle.toNat_lt
  simp only [distance, most] at within numbers
  omega

theorem passed_not_mem_path (valid : next ≠ 0) (other : handle ≠ 0) (apart : next ≠ handle) :
    next ∉ path (following next) handle := by
  have distinct := path_nodup valid handle
  rw [path_following valid other apart] at distinct
  exact (List.nodup_cons.mp distinct).1

theorem ahead_following (valid : next ≠ 0) (other : handle ≠ 0) (apart : next ≠ handle) :
    ahead entries next handle =
      ahead entries (following next) handle + if next ∉ entries then 1 else 0 := by
  rw [ahead, path_following valid other apart, List.countP_cons, ahead]
  simp

theorem ahead_self (entries : Table Handle Binding) (handle : Handle) :
    ahead entries handle handle = 0 := by
  rw [ahead, path_self, List.countP_nil]

theorem search_ahead {tries : Nat} (valid : next ≠ 0) (other : handle ≠ 0)
    (found : search entries tries next = (some given, onward)) :
    onward = following given ∧ (given = handle → ahead entries next handle = 0) ∧
      ahead entries next handle ≤ ahead entries onward handle + 1 := by
  induction tries generalizing next with
  | zero => cases found
  | succ tries ih =>
      by_cases free : next ∉ entries
      · rw [search, if_pos ⟨valid, free⟩] at found
        obtain ⟨same, rfl⟩ := Prod.mk.inj found
        obtain rfl : given = next := (Option.some.inj same).symm
        by_cases here : given = handle
        · rw [here, ahead_self]
          exact ⟨rfl, fun _ => rfl, Nat.zero_le _⟩
        · rw [ahead_following valid other here, if_pos free]
          exact ⟨rfl, fun same => absurd same here, Nat.le_refl _⟩
      · rw [search, if_neg (fun both => free both.2)] at found
        obtain ⟨last, none, fewer⟩ := ih (following_ne_zero next) found
        by_cases here : next = handle
        · rw [here, ahead_self]
          exact ⟨last, fun _ => rfl, Nat.zero_le _⟩
        · rw [ahead_following valid other here, if_neg free, Nat.add_zero]
          exact ⟨last, none, fewer⟩

theorem ahead_insert (valid : given ≠ 0) (other : handle ≠ 0) (apart : given ≠ handle)
    (binding : Binding) :
    ahead (entries.insert given binding) (following given) handle =
      ahead entries (following given) handle := by
  apply List.countP_congr
  intro number member
  have different : given ≠ number := by
    rintro rfl
    exact passed_not_mem_path valid other apart member
  simp [Std.ExtTreeMap.mem_insert, different]

theorem ahead_erase (entries : Table Handle Binding) (next handle closed : Handle) :
    ahead entries next handle ≤ ahead (entries.erase closed) next handle := by
  apply List.countP_mono_left
  intro number _ free
  simp only [decide_eq_true_eq] at free ⊢
  exact fun still => free (Std.ExtTreeMap.mem_of_mem_erase still)

theorem turn_ahead (valid : handle ≠ 0) (held : handle ∈ entries) :
    most - entries.size ≤ ahead entries (following handle) handle := by
  let turn := path (following handle) handle
  let used := turn.filter fun number => number ∈ entries
  have distinct : (handle :: used).Nodup := by
    refine List.nodup_cons.mpr ⟨fun member => ?_, (path_nodup (following_ne_zero _) _).filter _⟩
    exact not_mem_path (following_ne_zero _) valid (List.mem_of_mem_filter member)
  have inside : handle :: used ⊆ entries.keys := by
    intro number member
    rw [Std.ExtTreeMap.mem_keys]
    rcases List.mem_cons.mp member with rfl | member
    · exact held
    · exact of_decide_eq_true (List.mem_filter.mp member).2
  have few := (List.subperm_of_subset distinct inside).length_le
  rw [List.length_cons, Std.ExtTreeMap.length_keys] at few
  have all : turn.length = most - 1 := by
    simp only [turn, path, List.length_map, List.length_range, distance_turn valid]
  have parts : turn.length = used.length + ahead entries (following handle) handle := by
    rw [List.length_eq_countP_add_countP fun number => decide (number ∈ entries),
      List.countP_eq_length_filter]
    simp [ahead, used, turn]
  simp only [most] at all ⊢
  omega

end TaskHandles

namespace HandleTable

inductive Use where
  | insert (pid : Pid) (binding : Binding)
  | get (endpoint : Endpoint)
  | remove (endpoint : Endpoint)
  | dropTask (pid : Pid)
  | clear

def perform (table : HandleTable) : Use → HandleTable
  | .insert pid binding => (table.insert pid binding).2
  | .get _ => table
  | .remove endpoint => (table.remove endpoint).2
  | .dropTask pid => table.dropTask pid
  | .clear => table.clear

def run (table : HandleTable) (uses : List Use) : HandleTable := uses.foldl perform table

def given? (table : HandleTable) : Use → Option Endpoint
  | .insert pid binding =>
    match (table.insert pid binding).1 with
    | .ok handle => some ⟨pid, handle⟩
    | .error _ => none
  | _ => none

def given (table : HandleTable) : List Use → List Endpoint
  | [] => []
  | use :: uses => (table.given? use).toList ++ (table.perform use).given uses

def Use.Renews (pid : Pid) : Use → Prop
  | .dropTask other => other = pid
  | .clear => True
  | _ => False

/-- How many numbers a task is given before `handle`, unless it gives some back. -/
def ahead (table : HandleTable) (pid : Pid) (handle : Handle) : Nat :=
  TaskHandles.ahead (table.handlesOf pid).entries (table.handlesOf pid).next handle

structure Fair (table : HandleTable) : Prop where
  sound : table.Sound
  count_le : ∀ pid, table.count pid ≤ table.limit

variable {table : HandleTable} {pid : Pid} {handle : Handle} {use : Use}

theorem given_insert {binding : Binding} {endpoint : Endpoint} :
    table.given? (.insert pid binding) = some endpoint ↔
      endpoint.pid = pid ∧ (table.insert pid binding).1 = .ok endpoint.handle := by
  obtain ⟨other, number⟩ := endpoint
  cases result : (table.insert pid binding).1 with
  | ok handle => simp [given?, result, eq_comm]
  | error fault => simp [given?, result]

theorem perform_rations (table : HandleTable) (use : Use) : table.Rations (table.perform use) := by
  cases use with
  | insert pid binding => exact table.insert_rations pid binding
  | get => exact ⟨rfl, fun _ => Nat.le_max_left _ _⟩
  | remove endpoint => exact table.remove_rations endpoint
  | dropTask pid => exact table.dropTask_rations pid
  | clear => exact ⟨rfl, fun pid => by simp [perform, clear, count, handlesOf]⟩

theorem Sound.performed (sound : table.Sound) (use : Use) : (table.perform use).Sound := by
  cases use with
  | insert pid binding =>
      cases room : table.hasRoom pid with
      | true =>
          obtain ⟨handle, later, inserted, _, _, still⟩ := sound.insert_ok room binding
          simpa only [perform, inserted] using still
      | false => simpa only [perform, insert_full room] using sound
  | get => exact sound
  | remove endpoint =>
      cases bound : table.binding? endpoint with
      | none => simpa only [perform, remove_free bound] using sound
      | some binding =>
          obtain ⟨later, removed, _, still⟩ := sound.remove_ok bound
          simpa only [perform, removed] using still
  | dropTask pid => exact sound.dropTask pid
  | clear => exact sound.clear

theorem Fair.performed (fair : table.Fair) (use : Use) : (table.perform use).Fair := by
  obtain ⟨limit_eq, count_le⟩ := table.perform_rations use
  refine ⟨fair.sound.performed use, fun pid => ?_⟩
  rw [limit_eq]
  exact Nat.le_trans (count_le pid) (Nat.max_le.mpr ⟨fair.count_le pid, Nat.le_refl _⟩)

theorem Fair.run (fair : table.Fair) (uses : List Use) :
    (table.run uses).Fair ∧ (table.run uses).limit = table.limit := by
  induction uses generalizing table with
  | nil => exact ⟨fair, rfl⟩
  | cons use uses ih =>
      obtain ⟨later, limit_eq⟩ := ih (fair.performed use)
      exact ⟨later, limit_eq.trans (table.perform_rations use).limit_eq⟩

theorem fair_withLimit (limit : Nat) : (withLimit limit).Fair :=
  ⟨sound_withLimit limit, fun pid => by simp [withLimit, count, handlesOf]⟩

theorem perform_elsewhere (table : HandleTable) {use : Use}
    (about : ∀ binding, use ≠ .insert pid binding) (apart : ∀ handle, use ≠ .remove ⟨pid, handle⟩)
    (keeps : ¬ use.Renews pid) :
    (table.perform use).handlesOf pid = table.handlesOf pid := by
  cases use with
  | insert other binding =>
      have different : other ≠ pid := fun same => about binding (same ▸ rfl)
      simp only [perform, insert]
      split
      · split <;> exact (setTask_handlesOf _ _ _ _).trans (if_neg different)
      · rfl
  | get => rfl
  | remove endpoint =>
      have different : endpoint.pid ≠ pid := by
        rintro rfl
        exact apart endpoint.handle rfl
      simp only [perform, remove]
      split
      · exact (setTask_handlesOf _ _ _ _).trans (if_neg different)
      · rfl
  | dropTask other => exact (dropTask_handlesOf _ _ _).trans (if_neg keeps)
  | clear => exact absurd trivial keeps

theorem Sound.insert_search (sound : table.Sound) (room : table.hasRoom pid = true)
    (binding : Binding) :
    let task := table.handlesOf pid
    ∃ number onward,
      TaskHandles.search task.entries TaskHandles.most task.next = (some number, onward) ∧
      table.insert pid binding = (.ok number,
        table.setTask pid { next := onward, entries := task.entries.insert number binding }) := by
  have few : (table.handlesOf pid).entries.size < TaskHandles.most :=
    Nat.lt_of_lt_of_le (of_decide_eq_true room) sound.limit_le
  obtain ⟨number, onward, found, _⟩ := TaskHandles.search_finds few (sound.next_ne_zero pid)
  exact ⟨number, onward, found, by simp only [insert, room, if_true, found]⟩

theorem Sound.insert_ahead (sound : table.Sound) (valid : handle ≠ 0) (binding : Binding) :
    (table.given? (.insert pid binding) = some ⟨pid, handle⟩ → table.ahead pid handle = 0) ∧
    table.ahead pid handle ≤ (table.perform (.insert pid binding)).ahead pid handle +
      (table.given? (.insert pid binding)).toList.countP (·.pid = pid) := by
  cases room : table.hasRoom pid with
  | false =>
      have none : table.given? (.insert pid binding) = none := by
        simp only [given?, insert_full room]
      have same : table.perform (.insert pid binding) = table := by
        simp only [perform, insert_full room]
      rw [none, same]
      exact ⟨nofun, Nat.le_add_right _ _⟩
  | true =>
      obtain ⟨number, onward, found, inserted⟩ := sound.insert_search room binding
      obtain ⟨rfl, last, fewer⟩ :=
        TaskHandles.search_ahead (sound.next_ne_zero pid) valid found
      have numbered : number ≠ 0 := TaskHandles.search_valid found
      have gives : table.given? (.insert pid binding) = some ⟨pid, number⟩ := by
        simp only [given?, inserted]
      rw [gives]
      refine ⟨fun same => last (Endpoint.mk.inj (Option.some.inj same)).2, ?_⟩
      by_cases here : number = handle
      · rw [ahead, last here]
        exact Nat.zero_le _
      · have later : (table.perform (.insert pid binding)).ahead pid handle =
            TaskHandles.ahead (table.handlesOf pid).entries (TaskHandles.following number)
              handle := by
          rw [ahead, perform, inserted, setTask_handlesOf, if_pos rfl]
          exact TaskHandles.ahead_insert numbered valid here binding
        rw [later]
        simpa [ahead] using fewer

theorem Sound.perform_ahead (sound : table.Sound) (valid : handle ≠ 0) (keeps : ¬ use.Renews pid) :
    table.ahead pid handle ≤
      (table.perform use).ahead pid handle + (table.given? use).toList.countP (·.pid = pid) := by
  have elsewhere : (∀ binding, use ≠ .insert pid binding) →
      (∀ handle, use ≠ .remove ⟨pid, handle⟩) →
      table.ahead pid handle ≤ (table.perform use).ahead pid handle +
        (table.given? use).toList.countP (·.pid = pid) := by
    intro about apart
    rw [ahead, ahead, table.perform_elsewhere about apart keeps]
    exact Nat.le_add_right _ _
  by_cases inserts : ∃ binding, use = .insert pid binding
  · obtain ⟨binding, rfl⟩ := inserts
    exact (sound.insert_ahead valid binding).2
  · by_cases removes : ∃ number, use = .remove ⟨pid, number⟩
    · obtain ⟨number, rfl⟩ := removes
      cases bound : table.binding? ⟨pid, number⟩ with
      | none =>
          rw [perform, remove_free bound]
          exact Nat.le_add_right _ _
      | some binding =>
          have less := TaskHandles.ahead_erase (table.handlesOf pid).entries
            (table.handlesOf pid).next handle number
          simp only [perform, remove, bound, ahead, setTask_handlesOf, if_true]
          omega
    · exact elsewhere (not_exists.mp inserts) (not_exists.mp removes)

theorem Sound.run_ahead (sound : table.Sound) (valid : handle ≠ 0) {uses : List Use}
    (keep : ∀ use ∈ uses, ¬ use.Renews pid) :
    table.ahead pid handle ≤
      (table.run uses).ahead pid handle + (table.given uses).countP (·.pid = pid) := by
  induction uses generalizing table with
  | nil => exact Nat.le_add_right _ _
  | cons use uses ih =>
      have first := sound.perform_ahead valid (keep use List.mem_cons_self)
      have later := ih (sound.performed use) fun other member =>
        keep other (List.mem_cons_of_mem _ member)
      rw [given, List.countP_append]
      change _ ≤ ((table.perform use).run uses).ahead pid handle + _
      omega

theorem Fair.insert_turn (fair : table.Fair) {binding : Binding} (valid : handle ≠ 0)
    (gives : table.given? (.insert pid binding) = some ⟨pid, handle⟩) :
    TaskHandles.most - table.limit ≤ (table.perform (.insert pid binding)).ahead pid handle := by
  cases room : table.hasRoom pid with
  | false => simp [given?, insert_full room] at gives
  | true =>
      obtain ⟨number, onward, found, inserted⟩ := fair.sound.insert_search room binding
      obtain ⟨rfl, _⟩ := TaskHandles.search_ahead (fair.sound.next_ne_zero pid) valid found
      have same : number = handle := by
        simp only [given?, inserted, Option.some.injEq, Endpoint.mk.injEq, true_and] at gives
        exact gives
      subst same
      have later := fair.performed (.insert pid binding)
      have few := later.count_le pid
      rw [(table.perform_rations _).limit_eq] at few
      simp only [count, perform, inserted, setTask_handlesOf, if_true] at few
      have held : number ∈ (table.handlesOf pid).entries.insert number binding := by
        simp [Std.ExtTreeMap.mem_insert]
      have turn := TaskHandles.turn_ahead valid held
      simp only [ahead, perform, inserted, setTask_handlesOf, if_true]
      omega

/-- A task gets another handle exactly if it holds fewer than the limit allows. It gets a number
that it does not hold, and every other handle stays as it is. Between two times that it gets the
same number, unless it starts over, it gets as many others as there are numbers above the limit. -/
theorem numbers_fresh_and_slow (limit : Nat) (uses : List Use) :
    let table := (withLimit limit).run uses
    let allowed := min (max limit 1) 0xffff
    (∀ pid binding,
      ((∃ handle after, table.insert pid binding = (.ok handle, after)) ↔
        table.count pid < allowed) ∧
      ∀ handle after, table.insert pid binding = (.ok handle, after) →
        1 ≤ handle.toNat ∧ handle.toNat ≤ 0xffff ∧ table.binding? ⟨pid, handle⟩ = none ∧
          after.binding? = Function.update table.binding? ⟨pid, handle⟩ (some binding)) ∧
    ∀ pid binding handle, table.given? (.insert pid binding) = some ⟨pid, handle⟩ →
      let inserted := table.perform (.insert pid binding)
      ∀ between, (∀ use ∈ between, ¬ use.Renews pid) →
        ∀ later, (inserted.run between).given? (.insert pid later) = some ⟨pid, handle⟩ →
          0xffff - allowed ≤ (inserted.given between).countP (·.pid = pid) := by
  intro table allowed
  obtain ⟨fair, limit_eq⟩ := (fair_withLimit limit).run uses
  have limit_eq : table.limit = allowed := limit_eq
  refine ⟨fun pid binding => ⟨⟨?_, fun fewer => ?_⟩, fun handle after inserted => ?_⟩, ?_⟩
  · rintro ⟨handle, after, inserted⟩
    by_contra full
    have none : table.hasRoom pid = false := by simpa [hasRoom, limit_eq] using full
    rw [insert_full none] at inserted
    cases inserted
  · have room : table.hasRoom pid = true := by simpa [hasRoom, limit_eq] using fewer
    obtain ⟨handle, after, inserted, _⟩ := fair.sound.insert_ok room binding
    exact ⟨handle, after, inserted⟩
  · have valid := (insert_valid inserted).1
    rcases table.insert_ends pid binding with ⟨_, _, failed, _⟩ | ⟨_, _, same, free, bindings⟩
    · cases failed.symm.trans inserted
    · cases same.symm.trans inserted
      exact ⟨TaskHandles.toNat_pos valid, Nat.le_of_lt_succ handle.toNat_lt, free, bindings⟩
  · intro pid binding handle gives inserted between keep later again
    have valid := (insert_valid (Prod.ext (given_insert.mp gives).2 rfl)).1
    have stands := fair.performed (.insert pid binding)
    have turn := fair.insert_turn valid gives
    have passed := stands.sound.run_ahead valid keep
    have last := ((stands.run between).1.sound.insert_ahead valid later).1 again
    rw [last, Nat.zero_add] at passed
    rw [limit_eq] at turn
    exact Nat.le_trans turn passed

def desk : Binding := ⟨⟨1⟩, .readWrite⟩

structure Idle (table : HandleTable) (number : Handle) : Prop where
  limit_eq : table.limit = 1
  handles_eq : table.handlesOf 1 = { next := number }
  valid : number ≠ 0

def visits : Nat → Handle → List Use
  | 0, _ => []
  | times + 1, number =>
    .insert 1 desk :: .remove ⟨1, number⟩ :: visits times (TaskHandles.following number)

theorem visits_keep {times : Nat} {number : Handle} :
    ∀ use ∈ visits times number, ¬ use.Renews 1 := by
  induction times generalizing number with
  | zero => simp [visits]
  | succ times ih =>
      intro use member
      simp only [visits, List.mem_cons] at member
      rcases member with rfl | rfl | member
      · exact not_false
      · exact not_false
      · exact ih use member

theorem Idle.insert (idle : table.Idle handle) :
    table.insert 1 desk = (.ok handle,
      table.setTask 1
        { next := TaskHandles.following handle
          entries := (∅ : Table Handle Binding).insert handle desk }) := by
  have free : TaskHandles.search ∅ TaskHandles.most handle =
      (some handle, TaskHandles.following handle) := by
    rw [show TaskHandles.most = 65534 + 1 from rfl, TaskHandles.search,
      if_pos ⟨idle.valid, by simp⟩]
  have room : table.hasRoom 1 = true := by
    simp [hasRoom, count, idle.handles_eq, idle.limit_eq]
  simp only [HandleTable.insert, room, if_true, idle.handles_eq, free]

theorem Idle.visited (idle : table.Idle handle) :
    table.given? (.insert 1 desk) = some ⟨1, handle⟩ ∧
    ((table.perform (.insert 1 desk)).perform (.remove ⟨1, handle⟩)).Idle
      (TaskHandles.following handle) := by
  have inserted := idle.insert
  refine ⟨by simp only [given?, inserted], ?_⟩
  have bound : (table.perform (.insert 1 desk)).binding? ⟨1, handle⟩ = some desk := by
    simp only [perform, inserted, setTask_binding, if_true, Table.insert_at]
  simp only [perform, remove, inserted] at bound ⊢
  rw [bound]
  refine ⟨idle.limit_eq, ?_, TaskHandles.following_ne_zero handle⟩
  simp only [setTask_handlesOf, if_true]
  rw [Table.erase_insert (Table.empty_at handle)]

theorem Idle.run_visits (idle : table.Idle handle) (times : Nat) :
    (table.run (visits times handle)).Idle (TaskHandles.tried handle times) ∧
      (table.given (visits times handle)).countP (·.pid = 1) = times := by
  induction times generalizing table handle with
  | zero => exact ⟨idle, rfl⟩
  | succ times ih =>
      obtain ⟨gives, again⟩ := idle.visited
      obtain ⟨last, all⟩ := ih again
      refine ⟨last, ?_⟩
      simp only [visits, given, gives, List.countP_append, all]
      simp [given?, Nat.add_comm]

theorem Idle.comes_round (idle : table.Idle handle) {times : Nat}
    (round : TaskHandles.tried handle (times + 1) = handle) :
    let inserted := table.perform (.insert 1 desk)
    let between := Use.remove ⟨1, handle⟩ :: visits times (TaskHandles.following handle)
    table.given? (.insert 1 desk) = some ⟨1, handle⟩ ∧
      (inserted.run between).given? (.insert 1 desk) = some ⟨1, handle⟩ ∧
      (inserted.given between).countP (·.pid = 1) = times ∧
      ∀ use ∈ between, ¬ use.Renews 1 := by
  intro inserted between
  obtain ⟨gives, again⟩ := idle.visited
  obtain ⟨last, all⟩ := again.run_visits times
  have back := last.visited.1
  rw [show TaskHandles.tried (TaskHandles.following handle) times = handle from round] at back
  refine ⟨gives, back, ?_, fun use member => ?_⟩
  · simpa [between, given, given?] using all
  · rcases List.mem_cons.mp member with rfl | member
    · exact not_false
    · exact visits_keep use member

theorem idle_withLimit : (withLimit 1).Idle 1 := ⟨rfl, by simp [withLimit, handlesOf], by decide⟩

/-- A task that may hold one handle opens and closes it over and over. Its first number is given
out again after as few others as there can be, and these are all 65534. -/
theorem full_turn_of_numbers :
    let inserted := (withLimit 1).perform (.insert 1 desk)
    let between := Use.remove ⟨1, 1⟩ :: visits 65534 (TaskHandles.following 1)
    (withLimit 1).given? (.insert 1 desk) = some ⟨1, 1⟩ ∧
    (inserted.run between).given? (.insert 1 desk) = some ⟨1, 1⟩ ∧
    (inserted.given between).countP (·.pid = 1) = 65534 := by
  intro inserted between
  have round : TaskHandles.tried 1 (65534 + 1) = 1 := by
    rw [← UInt16.toNat_inj, TaskHandles.toNat_tried (by decide)]
    rfl
  obtain ⟨gives, back, all, keep⟩ := idle_withLimit.comes_round round
  have late : 65534 ≤ (inserted.given between).countP (·.pid = 1) :=
    (numbers_fresh_and_slow 1 []).2 1 desk 1 gives between keep desk back
  exact ⟨gives, back, Nat.le_antisymm (Nat.le_of_eq all) late⟩

end HandleTable

end Mailroom
