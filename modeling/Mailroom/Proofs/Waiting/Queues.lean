import Mailroom.Proofs.Table
import Mailroom.Waiting.Queues

/-!
Laws of the wait queues. Whatever waiters that are gone a queue still holds, parking, waking and
leaving act on the list of those who still wait for a condition, in the order they parked.
-/

namespace Mailroom

namespace WakeScope

def first : WakeScope → List Nat → List Nat
  | .one, waiting => waiting.take 1
  | .all, waiting => waiting

def rest : WakeScope → List Nat → List Nat
  | .one, waiting => waiting.drop 1
  | .all, _ => []

theorem first_append_rest (scope : WakeScope) (waiting : List Nat) :
    scope.first waiting ++ scope.rest waiting = waiting := by
  cases scope with
  | one => exact List.take_append_drop 1 waiting
  | all => exact List.append_nil waiting

theorem mem_of_mem_first {scope : WakeScope} {waiting : List Nat} {waiter : Nat}
    (member : waiter ∈ scope.first waiting) : waiter ∈ waiting := by
  rw [← scope.first_append_rest waiting]
  exact List.mem_append_left _ member

theorem filter_not_first {scope : WakeScope} {waiting : List Nat} (distinct : waiting.Nodup) :
    (waiting.filter fun waiter => waiter ∉ scope.first waiting) = scope.rest waiting := by
  have parts := scope.first_append_rest waiting
  generalize scope.first waiting = first at parts
  generalize scope.rest waiting = rest at parts
  subst parts
  obtain ⟨_, _, apart⟩ := List.nodup_append.mp distinct
  rw [List.filter_append, List.filter_eq_nil_iff.mpr, List.nil_append, List.filter_eq_self.mpr]
  · exact fun waiter later => decide_eq_true fun member => apart _ member _ later rfl
  · exact fun waiter member => by simpa using member

end WakeScope

namespace WaitQueues

def waitingIn (states : Table Nat WaiterState) (waiter : Nat) : Bool :=
  states[waiter]? = some .waiting

theorem waitingIn_iff {states : Table Nat WaiterState} {waiter : Nat} :
    waitingIn states waiter = true ↔ states[waiter]? = some .waiting := decide_eq_true_iff

theorem isWaiting_iff {waits : WaitQueues} {waiter : Nat} :
    waits.isWaiting waiter = true ↔ waits.waiters[waiter]? = some .waiting := decide_eq_true_iff

theorem waitingIn_insert {states : Table Nat WaiterState} {waiter other : Nat}
    (different : waiter ≠ other) :
    waitingIn (states.insert waiter .woken) other = waitingIn states other := by
  simp only [waitingIn, Table.insert_at, if_neg different]

/-- What a wake does to one queue and to the states of all waiters. -/
structure Wakes (scope : WakeScope) (queue : List Nat) (states : Table Nat WaiterState)
    (woken left : List Nat) (after : Table Nat WaiterState) : Prop where
  woken_eq : woken = scope.first (queue.filter (waitingIn states))
  left_eq : left.filter (waitingIn after) = scope.rest (queue.filter (waitingIn states))
  left_suffix : left <:+ queue
  after_at : ∀ waiter, after[waiter]? = if waiter ∈ woken then some .woken else states[waiter]?

theorem wakeFront_wakes (scope : WakeScope) (queue : List Nat) (states : Table Nat WaiterState)
    (distinct : queue.Nodup) :
    Wakes scope queue states (wakeFront scope queue states).1 (wakeFront scope queue states).2.1
      (wakeFront scope queue states).2.2 := by
  induction queue generalizing states with
  | nil =>
      refine ⟨?_, ?_, List.suffix_refl [], fun waiter => by simp [wakeFront]⟩
      · cases scope <;> rfl
      · cases scope <;> rfl
  | cons waiter rest ih =>
      obtain ⟨absent, distinct⟩ := List.nodup_cons.mp distinct
      -- Waiters who gave up are still in the queue; they are passed over and drop out of it.
      by_cases waiting : states[waiter]? = some .waiting
      · have first : waitingIn states waiter = true := waitingIn_iff.mpr waiting
        have others : rest.filter (waitingIn (states.insert waiter .woken)) =
            rest.filter (waitingIn states) := by
          apply List.filter_congr
          intro other member
          exact waitingIn_insert fun same => absent (same ▸ member)
        cases scope with
        | one =>
            simp only [wakeFront, if_pos waiting]
            refine ⟨?_, ?_, List.suffix_cons waiter rest, ?_⟩
            · simp [WakeScope.first, first]
            · rw [others]
              simp [WakeScope.rest, first]
            · intro other
              rw [Table.insert_at]
              simp only [List.mem_singleton, eq_comm]
        | all =>
            simp only [wakeFront, if_pos waiting]
            obtain ⟨woken, left, suffix, after⟩ := ih (states.insert waiter .woken) distinct
            refine ⟨?_, left, suffix.trans (List.suffix_cons waiter rest), ?_⟩
            · rw [woken, others]
              simp [WakeScope.first, first]
            · intro other
              rw [after, Table.insert_at]
              by_cases same : waiter = other
              · subst same
                simp
              · simp [same, Ne.symm same]
      · have skipped : waitingIn states waiter = false := by
          rw [Bool.eq_false_iff]
          exact fun first => waiting (waitingIn_iff.mp first)
        simp only [wakeFront, if_neg waiting]
        obtain ⟨woken, left, suffix, after⟩ := ih states distinct
        refine ⟨?_, ?_, suffix.trans (List.suffix_cons waiter rest), after⟩
        · rw [woken, List.filter_cons_of_neg (by simp [skipped])]
        · rw [left, List.filter_cons_of_neg (by simp [skipped])]

theorem wakeFront_all_left (queue : List Nat) (states : Table Nat WaiterState) :
    (wakeFront .all queue states).2.1 = [] := by
  induction queue generalizing states with
  | nil => rfl
  | cons waiter rest ih =>
      by_cases waiting : states[waiter]? = some .waiting
      · simp only [wakeFront, if_pos waiting]
        exact ih _
      · simp only [wakeFront, if_neg waiting]
        exact ih _

/-- Every queued waiter is in one place of one queue, and numbers are used once. -/
structure Sound (waits : WaitQueues) : Prop where
  apart : ∀ waiter condition other, waiter ∈ waits.queueOf condition →
    waiter ∈ waits.queueOf other → condition = other
  distinct : ∀ condition, (waits.queueOf condition).Nodup
  older : ∀ waiter condition, waiter ∈ waits.queueOf condition → waiter < waits.next
  numbered : ∀ waiter state, waits.waiters[waiter]? = some state → waiter < waits.next

theorem sound_nothing : Sound {} := by
  have none : ∀ condition, queueOf {} condition = [] := by
    intro condition
    simp [queueOf]
  refine ⟨?_, ?_, ?_, ?_⟩
  · intro waiter condition other member
    rw [none] at member
    cases member
  · intro condition
    rw [none]
    exact List.nodup_nil
  · intro waiter condition member
    rw [none] at member
    cases member
  · intro waiter state found
    rw [Table.empty_at] at found
    cases found

theorem mem_waitingFor {waits : WaitQueues} {waiter : Nat} {condition : Condition} :
    waiter ∈ waits.waitingFor condition ↔
      waiter ∈ waits.queueOf condition ∧ waits.waiters[waiter]? = some .waiting := by
  rw [waitingFor, List.mem_filter, isWaiting_iff]

variable {waits : WaitQueues}

theorem Sound.distinct_waiting (sound : waits.Sound) (condition : Condition) :
    (waits.waitingFor condition).Nodup :=
  (sound.distinct condition).filter _

theorem Sound.waiting_apart (sound : waits.Sound) {waiter : Nat} {condition other : Condition}
    (here : waiter ∈ waits.waitingFor condition) (there : waiter ∈ waits.waitingFor other) :
    condition = other :=
  sound.apart waiter condition other (mem_waitingFor.mp here).1 (mem_waitingFor.mp there).1

theorem park_queueOf (waits : WaitQueues) (condition other : Condition) :
    (waits.park condition).2.queueOf other =
      if condition = other then waits.waitingFor condition ++ [waits.next]
      else waits.queueOf other := by
  simp only [park, queueOf, Table.insert_at]
  split <;> rfl

theorem park_waiters (waits : WaitQueues) (condition : Condition) (waiter : Nat) :
    (waits.park condition).2.waiters[waiter]? =
      if waits.next = waiter then some .waiting else waits.waiters[waiter]? :=
  Table.insert_at _ _ _ _

theorem Sound.next_unqueued (sound : waits.Sound) (condition : Condition) :
    waits.next ∉ waits.queueOf condition :=
  fun member => Nat.lt_irrefl _ (sound.older _ _ member)

theorem Sound.park (sound : waits.Sound) (condition : Condition) :
    (waits.park condition).2.Sound := by
  have queued : ∀ waiter other, waiter ∈ (waits.park condition).2.queueOf other →
      waiter ∈ waits.queueOf other ∨ waiter = waits.next ∧ other = condition := by
    intro waiter other member
    rw [park_queueOf] at member
    split at member
    · rename_i same
      subst same
      rcases List.mem_append.mp member with before | new
      · exact Or.inl (mem_waitingFor.mp before).1
      · exact Or.inr ⟨List.mem_singleton.mp new, rfl⟩
    · exact Or.inl member
  refine ⟨?_, ?_, ?_, ?_⟩
  · intro waiter first second here there
    rcases queued _ _ here with old | ⟨rfl, rfl⟩
    · rcases queued _ _ there with old' | ⟨rfl, rfl⟩
      · exact sound.apart _ _ _ old old'
      · exact absurd old (sound.next_unqueued _)
    · rcases queued _ _ there with old | ⟨_, rfl⟩
      · exact absurd old (sound.next_unqueued _)
      · rfl
  · intro other
    rw [park_queueOf]
    split
    · rw [List.nodup_append]
      refine ⟨sound.distinct_waiting condition, by simp, ?_⟩
      intro waiter member other new same
      rw [List.mem_singleton.mp new] at same
      exact sound.next_unqueued condition (same ▸ (mem_waitingFor.mp member).1)
    · exact sound.distinct other
  · intro waiter other member
    rcases queued _ _ member with old | ⟨rfl, _⟩
    · exact Nat.lt_succ_of_lt (sound.older _ _ old)
    · exact Nat.lt_succ_self _
  · intro waiter state found
    rw [park_waiters] at found
    split at found
    · rename_i same
      subst same
      exact Nat.lt_succ_self _
    · exact Nat.lt_succ_of_lt (sound.numbered _ _ found)

theorem Sound.park_waitingFor (sound : waits.Sound) (condition other : Condition) :
    (waits.park condition).2.waitingFor other =
      if condition = other then waits.waitingFor condition ++ [waits.next]
      else waits.waitingFor other := by
  have live : ∀ waiter other, waiter ∈ waits.queueOf other →
      (waits.park condition).2.isWaiting waiter = waits.isWaiting waiter := by
    intro waiter other member
    simp only [isWaiting, park_waiters]
    rw [if_neg]
    intro same
    exact sound.next_unqueued other (same ▸ member)
  rw [waitingFor, park_queueOf]
  split
  · rename_i same
    subst same
    rw [List.filter_append]
    congr 1
    · rw [List.filter_eq_self]
      intro waiter member
      obtain ⟨queued, waiting⟩ := mem_waitingFor.mp member
      rw [live waiter _ queued]
      exact isWaiting_iff.mpr waiting
    · simp [isWaiting, park_waiters]
  · exact List.filter_congr fun waiter member => live waiter other member

theorem wake_queueOf (waits : WaitQueues) (condition : Condition) (scope : WakeScope)
    (other : Condition) :
    (waits.wake condition scope).2.queueOf other =
      if condition = other then (wakeFront scope (waits.queueOf condition) waits.waiters).2.1
      else waits.queueOf other := by
  let left := (wakeFront scope (waits.queueOf condition) waits.waiters).2.1
  let queues : Table Condition (List Nat) :=
    if left = [] then waits.queues.erase condition else waits.queues.insert condition left
  change queues[other]?.getD [] = if condition = other then left else waits.queueOf other
  dsimp only [queues]
  by_cases nothing : left = []
  · rw [if_pos nothing, Table.erase_at, nothing]
    split <;> rfl
  · rw [if_neg nothing, Table.insert_at]
    split <;> rfl

theorem Sound.wakes (sound : waits.Sound) (condition : Condition) (scope : WakeScope) :
    Wakes scope (waits.queueOf condition) waits.waiters (waits.wake condition scope).1
      (wakeFront scope (waits.queueOf condition) waits.waiters).2.1
      (waits.wake condition scope).2.waiters :=
  wakeFront_wakes scope _ _ (sound.distinct condition)

theorem Sound.wake_woken (sound : waits.Sound) (condition : Condition) (scope : WakeScope) :
    (waits.wake condition scope).1 = scope.first (waits.waitingFor condition) :=
  (sound.wakes condition scope).woken_eq

theorem Sound.wake_waiters (sound : waits.Sound) (condition : Condition) (scope : WakeScope)
    (waiter : Nat) :
    (waits.wake condition scope).2.waiters[waiter]? =
      if waiter ∈ scope.first (waits.waitingFor condition) then some .woken
      else waits.waiters[waiter]? := by
  rw [(sound.wakes condition scope).after_at, sound.wake_woken]

theorem Sound.mem_of_mem_wake (sound : waits.Sound) {condition other : Condition}
    {scope : WakeScope} {waiter : Nat}
    (member : waiter ∈ (waits.wake condition scope).2.queueOf other) :
    waiter ∈ waits.queueOf other := by
  rw [wake_queueOf] at member
  split at member
  · rename_i same
    subst same
    exact (sound.wakes condition scope).left_suffix.subset member
  · exact member

theorem Sound.wake (sound : waits.Sound) (condition : Condition) (scope : WakeScope) :
    (waits.wake condition scope).2.Sound := by
  refine ⟨?_, ?_, ?_, ?_⟩
  · intro waiter first second here there
    exact sound.apart _ _ _ (sound.mem_of_mem_wake here) (sound.mem_of_mem_wake there)
  · intro other
    rw [wake_queueOf]
    split
    · exact (sound.distinct condition).sublist (sound.wakes condition scope).left_suffix.sublist
    · exact sound.distinct other
  · intro waiter other member
    exact sound.older _ _ (sound.mem_of_mem_wake member)
  · intro waiter state found
    rw [sound.wake_waiters] at found
    split at found
    · rename_i woken
      exact sound.older _ _ (mem_waitingFor.mp (WakeScope.mem_of_mem_first woken)).1
    · exact sound.numbered _ _ found

theorem Sound.wake_waitingFor (sound : waits.Sound) (condition other : Condition)
    (scope : WakeScope) :
    (waits.wake condition scope).2.waitingFor other =
      if condition = other then scope.rest (waits.waitingFor condition)
      else waits.waitingFor other := by
  rw [waitingFor, wake_queueOf]
  split
  · exact (sound.wakes condition scope).left_eq
  · rename_i different
    apply List.filter_congr
    intro waiter member
    simp only [isWaiting, sound.wake_waiters]
    rw [if_neg]
    intro woken
    have waiting := mem_waitingFor.mp (WakeScope.mem_of_mem_first woken)
    exact different (sound.apart _ _ _ waiting.1 member)

theorem mem_park_queues {condition other : Condition} :
    other ∈ (waits.park condition).2.queues ↔ condition = other ∨ other ∈ waits.queues := by
  rw [Table.mem_iff, Table.mem_iff]
  simp only [park, Table.insert_at]
  split
  · rename_i same
    simp [same]
  · rename_i different
    simp [different]

theorem mem_of_mem_wake_queues {condition other : Condition} {scope : WakeScope}
    (member : other ∈ (waits.wake condition scope).2.queues) :
    other ∈ waits.queues ∧ (scope = .all → condition ≠ other) := by
  by_cases same : condition = other
  · subst same
    cases scope with
    | one =>
        refine ⟨Decidable.byContradiction fun absent => ?_, nofun⟩
        have nobody : waits.queueOf condition = [] := by
          rw [queueOf, Std.ExtTreeMap.getElem?_eq_none absent]
          rfl
        simp [wake, nobody, wakeFront] at member
    | all => simp [wake, wakeFront_all_left] at member
  · obtain ⟨queue, found⟩ := Table.mem_iff.mp member
    refine ⟨Table.mem_iff.mpr ⟨queue, ?_⟩, fun _ => same⟩
    simp only [wake] at found
    split at found
    · rwa [Table.erase_at, if_neg same] at found
    · rwa [Table.insert_at, if_neg same] at found

theorem abandon_waiters (waits : WaitQueues) (waiter other : Nat) :
    (waits.abandon waiter).waiters[other]? =
      if waiter = other then none else waits.waiters[other]? :=
  Table.erase_at _ _ _

theorem Sound.abandon (sound : waits.Sound) (waiter : Nat) : (waits.abandon waiter).Sound := by
  refine ⟨sound.apart, sound.distinct, sound.older, ?_⟩
  intro other state found
  rw [abandon_waiters] at found
  split at found
  · cases found
  · exact sound.numbered _ _ found

theorem abandon_waiting_eq (waits : WaitQueues) (waiter : Nat) (condition : Condition) :
    (waits.abandon waiter).waitingFor condition =
      (waits.waitingFor condition).filter fun other => waiter ≠ other := by
  rw [waitingFor, waitingFor, List.filter_filter]
  apply List.filter_congr
  intro other _
  rw [Bool.eq_iff_iff, Bool.and_eq_true, isWaiting_iff, isWaiting_iff, abandon_waiters,
    decide_eq_true_iff]
  split
  · rename_i same
    simp [same]
  · rename_i different
    simp [different]

theorem abandon_waitingFor {waiter : Nat} (passed : waits.waiters[waiter]? ≠ some .waiting)
    (condition : Condition) :
    (waits.abandon waiter).waitingFor condition = waits.waitingFor condition := by
  rw [abandon_waiting_eq, List.filter_eq_self]
  intro other member
  refine decide_eq_true fun same => passed ?_
  rw [same]
  exact (mem_waitingFor.mp member).2

def wakeAll (waits : WaitQueues) (wakeups : List Wakeup) : WaitQueues :=
  wakeups.foldl (fun waits wakeup => (waits.wake wakeup.condition wakeup.scope).2) waits

theorem Sound.wakeAll (sound : waits.Sound) (wakeups : List Wakeup) :
    (waits.wakeAll wakeups).Sound := by
  induction wakeups generalizing waits with
  | nil => exact sound
  | cons wakeup rest ih => exact ih (sound.wake wakeup.condition wakeup.scope)

theorem mem_of_mem_wakeAll_queues {wakeups : List Wakeup} {condition : Condition}
    (member : condition ∈ (waits.wakeAll wakeups).queues) :
    condition ∈ waits.queues ∧ ⟨condition, .all⟩ ∉ wakeups := by
  induction wakeups generalizing waits with
  | nil => exact ⟨member, List.not_mem_nil⟩
  | cons wakeup rest ih =>
      obtain ⟨left, untold⟩ := ih member
      obtain ⟨before, apart⟩ := mem_of_mem_wake_queues left
      refine ⟨before, List.not_mem_cons_of_ne_of_not_mem ?_ untold⟩
      rintro rfl
      exact apart rfl rfl

theorem Sound.wakeAll_waitingFor (sound : waits.Sound) (wakeups : List Wakeup)
    (condition : Condition) :
    (waits.wakeAll wakeups).waitingFor condition =
      if ⟨condition, .all⟩ ∈ wakeups then []
      else (waits.waitingFor condition).drop (wakeups.count ⟨condition, .one⟩) := by
  induction wakeups generalizing waits with
  | nil => simp [WaitQueues.wakeAll]
  | cons wakeup rest ih =>
      change ((waits.wake wakeup.condition wakeup.scope).2.wakeAll rest).waitingFor condition = _
      rw [ih (sound.wake _ _), sound.wake_waitingFor]
      obtain ⟨about, scope⟩ := wakeup
      by_cases same : about = condition
      · subst same
        cases scope with
        | one => simp [WakeScope.rest, Nat.add_comm]
        | all => simp [WakeScope.rest]
      · simp [same, Ne.symm same]

theorem Sound.wakeAll_waiters (sound : waits.Sound) (wakeups : List Wakeup) (waiter : Nat) :
    (waits.wakeAll wakeups).waiters[waiter]? = waits.waiters[waiter]? ∨
      (waits.waiters[waiter]? = some .waiting ∧
        (waits.wakeAll wakeups).waiters[waiter]? = some .woken) := by
  induction wakeups generalizing waits with
  | nil => exact Or.inl rfl
  | cons wakeup rest ih =>
      have later := ih (sound.wake wakeup.condition wakeup.scope)
      have now := sound.wake_waiters wakeup.condition wakeup.scope waiter
      change ((waits.wake wakeup.condition wakeup.scope).2.wakeAll rest).waiters[waiter]? = _ ∨
        _ ∧ ((waits.wake wakeup.condition wakeup.scope).2.wakeAll rest).waiters[waiter]? = _
      split at now
      · rename_i woken
        right
        refine ⟨(mem_waitingFor.mp (WakeScope.mem_of_mem_first woken)).2, ?_⟩
        rcases later with same | ⟨still, _⟩
        · rw [same, now]
        · rw [now] at still
          cases still
      · rw [now] at later
        exact later

theorem Sound.waiting_before (sound : waits.Sound) {wakeups : List Wakeup} {waiter : Nat}
    (waiting : (waits.wakeAll wakeups).waiters[waiter]? = some .waiting) :
    waits.waiters[waiter]? = some .waiting := by
  rcases sound.wakeAll_waiters wakeups waiter with same | ⟨_, woken⟩
  · rw [← same, waiting]
  · rw [woken] at waiting
    cases waiting

theorem wakeAll_next (waits : WaitQueues) (wakeups : List Wakeup) :
    (waits.wakeAll wakeups).next = waits.next := by
  induction wakeups generalizing waits with
  | nil => rfl
  | cons wakeup rest ih => exact ih (waits.wake wakeup.condition wakeup.scope).2

theorem Sound.wakeAll_splits (sound : waits.Sound) (wakeups : List Wakeup)
    (condition : Condition) :
    ∃ woken, waits.waitingFor condition =
        woken ++ (waits.wakeAll wakeups).waitingFor condition ∧
      ∀ waiter ∈ woken, (waits.wakeAll wakeups).waiters[waiter]? = some .woken := by
  induction wakeups generalizing waits with
  | nil => exact ⟨[], rfl, by simp⟩
  | cons wakeup rest ih =>
      have next := sound.wake wakeup.condition wakeup.scope
      obtain ⟨woken, left, states⟩ := ih next
      change ∃ woken, _ = woken ++
          ((waits.wake wakeup.condition wakeup.scope).2.wakeAll rest).waitingFor condition ∧
        ∀ waiter ∈ woken,
          ((waits.wake wakeup.condition wakeup.scope).2.wakeAll rest).waiters[waiter]? = _
      rw [sound.wake_waitingFor] at left
      by_cases same : wakeup.condition = condition
      · rw [if_pos same] at left
        subst same
        refine ⟨wakeup.scope.first (waits.waitingFor wakeup.condition) ++ woken, ?_, ?_⟩
        · rw [List.append_assoc, ← left, WakeScope.first_append_rest]
        · intro waiter member
          rcases List.mem_append.mp member with first | later
          · have now := sound.wake_waiters wakeup.condition wakeup.scope waiter
            rw [if_pos first] at now
            rcases next.wakeAll_waiters rest waiter with still | ⟨waiting, _⟩
            · rw [still, now]
            · rw [now] at waiting
              cases waiting
          · exact states waiter later
      · rw [if_neg same] at left
        exact ⟨woken, left, states⟩

theorem Sound.wakeAll_one (sound : waits.Sound) {wakeups : List Wakeup} {condition : Condition}
    {waiter : Nat} (untold : ⟨condition, .all⟩ ∉ wakeups)
    (member : waiter ∈ (waits.wakeAll wakeups).waitingFor condition) :
    ∃ woken : List Nat, woken.Nodup ∧ woken.length = wakeups.count ⟨condition, .one⟩ ∧
      ∀ other ∈ woken, other ∈ waits.waitingFor condition ∧
        (waits.wakeAll wakeups).waiters[other]? = some .woken := by
  obtain ⟨woken, split, states⟩ := sound.wakeAll_splits wakeups condition
  have left := sound.wakeAll_waitingFor wakeups condition
  rw [if_neg untold] at left
  refine ⟨woken, ?_, ?_, ?_⟩
  · have distinct := sound.distinct_waiting condition
    rw [split] at distinct
    exact (List.nodup_append.mp distinct).1
  · have total := congrArg List.length split
    have rest := congrArg List.length left
    have someone := List.length_pos_of_mem member
    rw [List.length_append] at total
    rw [List.length_drop] at rest
    omega
  · intro other first
    refine ⟨?_, states other first⟩
    rw [split]
    exact List.mem_append_left _ first

theorem Sound.wakeAll_keeps (sound : waits.Sound) (wakeups : List Wakeup) {condition : Condition}
    {waiter : Nat} (member : waiter ∈ waits.waitingFor condition)
    (waiting : (waits.wakeAll wakeups).waiters[waiter]? = some .waiting) :
    waiter ∈ (waits.wakeAll wakeups).waitingFor condition := by
  obtain ⟨woken, split, states⟩ := sound.wakeAll_splits wakeups condition
  rw [split] at member
  rcases List.mem_append.mp member with first | later
  · rw [states waiter first] at waiting
    cases waiting
  · exact later

end WaitQueues

end Mailroom
