import Mailroom.Proofs.Waiting.Queues

/-!
A room of waiters. They park, suspend with or without a deadline, are woken, time out and give
up, in any order, and each move leaves a note behind. Main statement: by the notes each condition
has one line, of those who parked for it and are neither woken nor gone, and wakes take from its
front, whatever waiters that are gone the queues still hold.
-/

namespace Mailroom

structure WaitingRoom where
  waits : WaitQueues := {}
  suspended : Table Nat (Option Nat) := ∅
  clock : Nat := 0

namespace WaitingRoom

inductive Move where
  | park (condition : Condition)
  | wake (condition : Condition) (scope : WakeScope)
  | suspend (waiter : Nat) (deadline : Option Nat)
  | look (waiter : Nat)
  | abandon (waiter : Nat)
  | pass (time : Nat)

inductive Note where
  | parked (waiter : Nat) (condition : Condition)
  | woke (condition : Condition) (scope : WakeScope) (waiters : List Nat)
  | suspended (waiter : Nat) (deadline : Option Nat)
  | ended (waiter : Nat) (reason : WakeReason)
  | left (waiter : Nat)
  | nothing
  deriving DecidableEq

namespace Note

def parked? (condition : Condition) : Note → Option Nat
  | .parked waiter about => if about = condition then some waiter else none
  | _ => none

def woken : Note → List Nat
  | .woke _ _ waiters => waiters
  | _ => []

def gone? : Note → Option Nat
  | .ended waiter _ | .left waiter => some waiter
  | _ => none

end Note

def parked (notes : List Note) (condition : Condition) : List Nat :=
  notes.filterMap (Note.parked? condition)

def woken (notes : List Note) : List Nat := notes.flatMap Note.woken

def gone (notes : List Note) : List Nat := notes.filterMap Note.gone?

/-- Those who parked for a condition and are neither woken nor gone, in the order they parked. -/
def line (notes : List Note) (condition : Condition) : List Nat :=
  (parked notes condition).filter fun waiter => waiter ∉ woken notes ∧ waiter ∉ gone notes

def due (room : WaitingRoom) (deadline : Option Nat) : Bool := deadline.any (· ≤ room.clock)

/-- A wait ends when there was a wake, which is looked for first, or when its deadline has come. -/
def look (room : WaitingRoom) (waiter : Nat) : Note × WaitingRoom :=
  match room.suspended[waiter]? with
  | none => (.nothing, room)
  | some deadline =>
    if room.waits.waiters[waiter]? = some .woken ∨ room.due deadline then
      let (reason, waits) := room.waits.suspend waiter
      (.ended waiter reason, { room with waits, suspended := room.suspended.erase waiter })
    else (.nothing, room)

def step (room : WaitingRoom) : Move → Note × WaitingRoom
  | .park condition =>
    let (waiter, waits) := room.waits.park condition
    (.parked waiter condition, { room with waits })
  | .wake condition scope =>
    let (woken, waits) := room.waits.wake condition scope
    (.woke condition scope woken, { room with waits })
  | .suspend waiter deadline =>
    if waiter ∈ room.waits.waiters ∧ waiter ∉ room.suspended then
      (.suspended waiter deadline,
        { room with suspended := room.suspended.insert waiter deadline })
    else (.nothing, room)
  | .look waiter => room.look waiter
  | .abandon waiter =>
    if waiter ∈ room.waits.waiters then
      (.left waiter,
        { room with
          waits := room.waits.abandon waiter
          suspended := room.suspended.erase waiter })
    else (.nothing, room)
  | .pass time => (.nothing, { room with clock := room.clock + time })

def run (room : WaitingRoom) : List Move → List Note × WaitingRoom
  | [] => ([], room)
  | move :: moves =>
    let (note, next) := room.step move
    let (notes, last) := next.run moves
    (note :: notes, last)

variable {room : WaitingRoom} {notes : List Note} {waiter : Nat} {condition other : Condition}

theorem parked_append (notes : List Note) (note : Note) (condition : Condition) :
    parked (notes ++ [note]) condition =
      parked notes condition ++ (note.parked? condition).toList := by
  rw [parked, List.filterMap_append]
  rfl

theorem woken_append (notes : List Note) (note : Note) :
    woken (notes ++ [note]) = woken notes ++ note.woken := by
  simp [woken]

theorem gone_append (notes : List Note) (note : Note) :
    gone (notes ++ [note]) = gone notes ++ note.gone?.toList := by
  rw [gone, List.filterMap_append]
  rfl

theorem parked_keeps {note : Note} (parks : note.parked? condition = none) :
    parked (notes ++ [note]) condition = parked notes condition := by
  rw [parked_append, parks, Option.toList_none, List.append_nil]

theorem woken_keeps {note : Note} (wakes : note.woken = []) :
    woken (notes ++ [note]) = woken notes := by
  rw [woken_append, wakes, List.append_nil]

theorem gone_keeps {note : Note} (stays : note.gone? = none) :
    gone (notes ++ [note]) = gone notes := by
  rw [gone_append, stays, Option.toList_none, List.append_nil]

theorem mem_parked :
    waiter ∈ parked notes condition ↔ Note.parked waiter condition ∈ notes := by
  rw [parked, List.mem_filterMap]
  constructor
  · rintro ⟨note, member, found⟩
    cases note <;> simp only [Note.parked?, reduceCtorEq] at found
    split at found
    · rename_i same
      rw [← same, ← Option.some.inj found]
      exact member
    · cases found
  · intro member
    exact ⟨_, member, by simp [Note.parked?]⟩

theorem mem_line : waiter ∈ line notes condition ↔
    waiter ∈ parked notes condition ∧ waiter ∉ woken notes ∧ waiter ∉ gone notes := by
  rw [line, List.mem_filter, decide_eq_true_iff]

theorem line_append {note : Note} (parks : note.parked? condition = none) :
    line (notes ++ [note]) condition = (line notes condition).filter fun waiter =>
      waiter ∉ note.woken ∧ note.gone? ≠ some waiter := by
  rw [line, line, parked_keeps parks, List.filter_filter, woken_append, gone_append]
  apply List.filter_congr
  intro waiter _
  rw [Bool.eq_iff_iff, Bool.and_eq_true]
  simp only [decide_eq_true_iff, List.mem_append, Option.mem_toList, not_or]
  constructor
  · exact fun ⟨⟨unwoken, quiet⟩, present, stays⟩ => ⟨⟨quiet, stays⟩, unwoken, present⟩
  · exact fun ⟨⟨quiet, stays⟩, unwoken, present⟩ => ⟨⟨unwoken, quiet⟩, present, stays⟩

structure Tells (notes : List Note) (room : WaitingRoom) : Prop where
  sound : room.waits.Sound
  waiting_eq : ∀ condition, room.waits.waitingFor condition = line notes condition
  woken_iff : ∀ waiter, room.waits.waiters[waiter]? = some .woken ↔
    waiter ∈ woken notes ∧ waiter ∉ gone notes
  left : ∀ waiter ∈ gone notes, room.waits.waiters[waiter]? = none
  older : ∀ waiter, waiter ∈ woken notes ∨ waiter ∈ gone notes ∨
    (∃ condition, waiter ∈ parked notes condition) → waiter < room.waits.next
  single : ∀ waiter condition other, waiter ∈ parked notes condition →
    waiter ∈ parked notes other → condition = other
  once : (woken notes).Nodup
  own : ∀ condition scope waiters, Note.woke condition scope waiters ∈ notes →
    ∀ waiter ∈ waiters, waiter ∈ parked notes condition
  seated : ∀ waiter ∈ room.suspended, waiter ∈ room.waits.waiters

theorem tells_nothing : Tells [] {} where
  sound := WaitQueues.sound_nothing
  waiting_eq _ := by simp [WaitQueues.waitingFor, WaitQueues.queueOf, line, parked]
  woken_iff _ := by simp [woken]
  left _ member := by cases member
  older _ := by simp [woken, gone, parked]
  single _ _ _ member := by cases member
  once := List.nodup_nil
  own _ _ _ member := by cases member
  seated _ member := by simp at member

theorem Tells.next_fresh (tells : Tells notes room) :
    room.waits.next ∉ woken notes ∧ room.waits.next ∉ gone notes ∧
      ∀ condition, room.waits.next ∉ parked notes condition :=
  ⟨fun member => Nat.lt_irrefl _ (tells.older _ (Or.inl member)),
    fun member => Nat.lt_irrefl _ (tells.older _ (Or.inr (Or.inl member))),
    fun condition member => Nat.lt_irrefl _ (tells.older _ (Or.inr (Or.inr ⟨condition, member⟩)))⟩

theorem mem_parked_append {new : Nat} :
    waiter ∈ parked (notes ++ [.parked new condition]) other ↔
      waiter ∈ parked notes other ∨ (waiter = new ∧ condition = other) := by
  by_cases same : condition = other
  · simp [parked_append, Note.parked?, same]
  · simp [parked_append, Note.parked?, same]

theorem Tells.park (tells : Tells notes room) (condition : Condition) :
    Tells (notes ++ [(room.step (.park condition)).1]) (room.step (.park condition)).2 := by
  simp only [step]
  obtain ⟨unwoken, present, unparked⟩ := tells.next_fresh
  generalize fresh : room.waits.next = new at unwoken present unparked
  rw [show (room.waits.park condition).1 = new from fresh]
  have woken_eq : woken (notes ++ [.parked new condition]) = woken notes := woken_keeps rfl
  have gone_eq : gone (notes ++ [.parked new condition]) = gone notes := gone_keeps rfl
  refine ⟨tells.sound.park condition, ?_, ?_, ?_, ?_, ?_, ?_, ?_, ?_⟩
  · intro other
    simp only [tells.sound.park_waitingFor, tells.waiting_eq, line, woken_eq, gone_eq]
    split
    · rename_i same
      subst same
      simp [parked_append, Note.parked?, unwoken, present, fresh]
    · rename_i different
      simp [parked_append, Note.parked?, different]
  · intro waiter
    rw [woken_eq, gone_eq, ← tells.woken_iff, WaitQueues.park_waiters, fresh]
    split
    · rename_i same
      subst same
      simp [tells.woken_iff, unwoken]
    · rfl
  · intro waiter member
    rw [gone_eq] at member
    rw [WaitQueues.park_waiters, fresh, if_neg, tells.left waiter member]
    rintro rfl
    exact present member
  · intro waiter named
    rw [woken_eq, gone_eq] at named
    have before : waiter < room.waits.next ∨ waiter = new := by
      rcases named with woken | gone | ⟨other, member⟩
      · exact Or.inl (tells.older _ (Or.inl woken))
      · exact Or.inl (tells.older _ (Or.inr (Or.inl gone)))
      · rcases mem_parked_append.mp member with old | ⟨last, _⟩
        · exact Or.inl (tells.older _ (Or.inr (Or.inr ⟨other, old⟩)))
        · exact Or.inr last
    change waiter < room.waits.next + 1
    omega
  · intro waiter first second here there
    rcases mem_parked_append.mp here with old | ⟨rfl, rfl⟩
    · rcases mem_parked_append.mp there with old' | ⟨rfl, _⟩
      · exact tells.single _ _ _ old old'
      · exact absurd old (unparked _)
    · rcases mem_parked_append.mp there with old | ⟨_, rfl⟩
      · exact absurd old (unparked _)
      · rfl
  · rw [woken_eq]
    exact tells.once
  · intro about scope waiters member waiter told
    refine mem_parked_append.mpr (Or.inl (tells.own about scope waiters ?_ waiter told))
    simpa using member
  · intro waiter suspended
    obtain ⟨state, found⟩ := Table.mem_iff.mp (tells.seated waiter suspended)
    refine Table.mem_iff.mpr ?_
    rw [WaitQueues.park_waiters]
    split
    · exact ⟨_, rfl⟩
    · exact ⟨state, found⟩

theorem Tells.wake_eq (tells : Tells notes room) (condition : Condition) (scope : WakeScope) :
    (room.waits.wake condition scope).1 = scope.first (line notes condition) := by
  rw [tells.sound.wake_woken, tells.waiting_eq]

theorem Tells.line_nodup (tells : Tells notes room) (condition : Condition) :
    (line notes condition).Nodup :=
  tells.waiting_eq condition ▸ tells.sound.distinct_waiting condition

theorem Tells.wake (tells : Tells notes room) (condition : Condition) (scope : WakeScope) :
    Tells (notes ++ [(room.step (.wake condition scope)).1])
      (room.step (.wake condition scope)).2 := by
  simp only [step, tells.wake_eq]
  generalize telling : Note.woke condition scope (scope.first (line notes condition)) = note
  have woken_note : note.woken = scope.first (line notes condition) := telling ▸ rfl
  have stays : note.gone? = none := telling ▸ rfl
  have parks : ∀ other, note.parked? other = none := fun _ => telling ▸ rfl
  have first_mem : ∀ waiter ∈ scope.first (line notes condition), waiter ∈ line notes condition :=
    fun _ => WakeScope.mem_of_mem_first
  have parked_eq : ∀ other, parked (notes ++ [note]) other = parked notes other :=
    fun other => parked_keeps (parks other)
  have woken_eq : woken (notes ++ [note]) = woken notes ++ scope.first (line notes condition) := by
    rw [woken_append, woken_note]
  have gone_eq : gone (notes ++ [note]) = gone notes := gone_keeps stays
  refine ⟨tells.sound.wake condition scope, ?_, ?_, ?_, ?_, ?_, ?_, ?_, ?_⟩
  · intro other
    rw [line_append (parks other), woken_note, stays, tells.sound.wake_waitingFor,
      tells.waiting_eq, tells.waiting_eq]
    split
    · rename_i same
      subst same
      rw [← WakeScope.filter_not_first (tells.line_nodup condition)]
      simp
    · rename_i different
      refine (List.filter_eq_self.mpr fun waiter member => ?_).symm
      refine decide_eq_true ⟨fun first => different ?_, by simp⟩
      exact tells.single waiter condition other (mem_line.mp (first_mem waiter first)).1
        (mem_line.mp member).1
  · intro waiter
    rw [woken_eq, gone_eq, tells.sound.wake_waiters, tells.waiting_eq, List.mem_append]
    split
    · rename_i first
      simp [first, (mem_line.mp (first_mem waiter first)).2.2]
    · rename_i later
      simp [tells.woken_iff, later]
  · intro waiter member
    rw [gone_eq] at member
    rw [tells.sound.wake_waiters, tells.waiting_eq, if_neg, tells.left waiter member]
    exact fun first => (mem_line.mp (first_mem waiter first)).2.2 member
  · intro waiter named
    refine tells.older waiter ?_
    simp only [woken_eq, gone_eq, parked_eq, List.mem_append] at named
    rcases named with (woken | first) | others
    · exact Or.inl woken
    · exact Or.inr (Or.inr ⟨condition, (mem_line.mp (first_mem waiter first)).1⟩)
    · exact Or.inr others
  · intro waiter here there
    rw [parked_eq, parked_eq]
    exact tells.single waiter here there
  · rw [woken_eq, List.nodup_append]
    refine ⟨tells.once, ?_, ?_⟩
    · have distinct := tells.line_nodup condition
      rw [← scope.first_append_rest (line notes condition)] at distinct
      exact (List.nodup_append.mp distinct).1
    · rintro waiter woken other first rfl
      exact (mem_line.mp (first_mem waiter first)).2.1 woken
  · intro about way waiters member waiter told
    rw [parked_eq]
    rcases List.mem_append.mp member with before | last
    · exact tells.own about way waiters before waiter told
    · cases telling.trans (List.mem_singleton.mp last).symm
      exact (mem_line.mp (first_mem waiter told)).1
  · intro waiter suspended
    obtain ⟨state, found⟩ := Table.mem_iff.mp (tells.seated waiter suspended)
    refine Table.mem_iff.mpr ?_
    rw [tells.sound.wake_waiters]
    split
    · exact ⟨_, rfl⟩
    · exact ⟨state, found⟩

theorem Tells.own_append (tells : Tells notes room) {note : Note}
    (parks : ∀ condition, note.parked? condition = none) (wakes : note.woken = [])
    {scope : WakeScope} {waiters : List Nat}
    (member : Note.woke condition scope waiters ∈ notes ++ [note]) (told : waiter ∈ waiters) :
    waiter ∈ parked (notes ++ [note]) condition := by
  rw [parked_keeps (parks condition)]
  rcases List.mem_append.mp member with before | last
  · exact tells.own condition scope waiters before waiter told
  · rw [← List.mem_singleton.mp last] at wakes
    rw [show waiters = [] from wakes] at told
    cases told

theorem Tells.leave (tells : Tells notes room) {note : Note}
    (present : waiter ∈ room.waits.waiters)
    (parks : ∀ condition, note.parked? condition = none) (wakes : note.woken = [])
    (leaves : note.gone? = some waiter) :
    Tells (notes ++ [note])
      { room with
        waits := room.waits.abandon waiter
        suspended := room.suspended.erase waiter } := by
  have parked_eq : ∀ other, parked (notes ++ [note]) other = parked notes other :=
    fun other => parked_keeps (parks other)
  have woken_eq : woken (notes ++ [note]) = woken notes := woken_keeps wakes
  have gone_eq : gone (notes ++ [note]) = gone notes ++ [waiter] := by
    rw [gone_append, leaves, Option.toList_some]
  refine ⟨tells.sound.abandon waiter, ?_, ?_, ?_, ?_, ?_, ?_, ?_, ?_⟩
  · intro other
    rw [line_append (parks other), wakes, leaves, ← tells.waiting_eq,
      WaitQueues.abandon_waiting_eq]
    simp
  · intro other
    rw [WaitQueues.abandon_waiters, woken_eq, gone_eq]
    split
    · rename_i same
      simp [same]
    · rename_i different
      simp [tells.woken_iff, Ne.symm different]
  · intro other member
    rw [WaitQueues.abandon_waiters]
    split
    · rfl
    · rename_i different
      rw [gone_eq, List.mem_append, List.mem_singleton] at member
      exact tells.left other (member.resolve_right (Ne.symm different))
  · intro other named
    simp only [woken_eq, gone_eq, parked_eq, List.mem_append, List.mem_singleton] at named
    rcases named with woken | (gone | rfl) | before
    · exact tells.older other (Or.inl woken)
    · exact tells.older other (Or.inr (Or.inl gone))
    · obtain ⟨state, found⟩ := Table.mem_iff.mp present
      exact tells.sound.numbered other state found
    · exact tells.older other (Or.inr (Or.inr before))
  · intro other here there
    rw [parked_eq, parked_eq]
    exact tells.single other here there
  · rw [woken_eq]
    exact tells.once
  · exact fun _ _ _ member _ told => tells.own_append parks wakes member told
  · intro other member
    obtain ⟨different, before⟩ := Std.ExtTreeMap.mem_erase.mp member
    refine Std.ExtTreeMap.mem_erase.mpr ⟨different, tells.seated other before⟩

theorem Tells.quiet (tells : Tells notes room) {note : Note} {after : WaitingRoom}
    (parks : ∀ condition, note.parked? condition = none) (wakes : note.woken = [])
    (stays : note.gone? = none) (same : after.waits = room.waits)
    (seated : ∀ waiter ∈ after.suspended, waiter ∈ room.waits.waiters) :
    Tells (notes ++ [note]) after := by
  have parked_eq : ∀ other, parked (notes ++ [note]) other = parked notes other :=
    fun other => parked_keeps (parks other)
  have woken_eq : woken (notes ++ [note]) = woken notes := woken_keeps wakes
  have gone_eq : gone (notes ++ [note]) = gone notes := gone_keeps stays
  refine ⟨same ▸ tells.sound, ?_, ?_, ?_, ?_, ?_, ?_, ?_, ?_⟩
  · intro other
    rw [same, tells.waiting_eq, line, line, parked_eq, woken_eq, gone_eq]
  · intro waiter
    rw [same, woken_eq, gone_eq]
    exact tells.woken_iff waiter
  · intro waiter member
    rw [gone_eq] at member
    rw [same, tells.left waiter member]
  · intro waiter named
    simp only [woken_eq, gone_eq, parked_eq] at named
    exact same ▸ tells.older waiter named
  · intro waiter here there
    rw [parked_eq, parked_eq]
    exact tells.single waiter here there
  · rw [woken_eq]
    exact tells.once
  · exact fun _ _ _ member _ told => tells.own_append parks wakes member told
  · exact same ▸ seated

theorem look_cases (room : WaitingRoom) (waiter : Nat) :
    room.look waiter = (.nothing, room) ∨
      ∃ reason, room.look waiter = (.ended waiter reason,
        { room with
          waits := room.waits.abandon waiter
          suspended := room.suspended.erase waiter }) ∧
        (reason = .woke ↔ room.waits.waiters[waiter]? = some .woken) ∧
        waiter ∈ room.suspended := by
  simp only [look, WaitQueues.suspend]
  split
  · exact Or.inl rfl
  · rename_i deadline found
    split
    · refine Or.inr ⟨_, rfl, ?_, Table.mem_iff.mpr ⟨deadline, found⟩⟩
      split
      · rename_i woken
        simp [woken]
      · rename_i unwoken
        simp [unwoken]
    · exact Or.inl rfl

theorem Tells.step (tells : Tells notes room) (move : Move) :
    Tells (notes ++ [(room.step move).1]) (room.step move).2 := by
  cases move with
  | park condition => exact tells.park condition
  | wake condition scope => exact tells.wake condition scope
  | suspend waiter deadline =>
      simp only [WaitingRoom.step]
      split
      · rename_i present
        refine tells.quiet (fun _ => rfl) rfl rfl rfl fun other member => ?_
        rcases Std.ExtTreeMap.mem_insert.mp member with same | before
        · rw [← Std.LawfulEqOrd.eq_of_compare same]
          exact present.1
        · exact tells.seated other before
      · exact tells.quiet (fun _ => rfl) rfl rfl rfl tells.seated
  | look waiter =>
      rw [WaitingRoom.step]
      rcases room.look_cases waiter with nothing | ⟨reason, ends, _, suspended⟩
      · rw [nothing]
        exact tells.quiet (fun _ => rfl) rfl rfl rfl tells.seated
      · rw [ends]
        exact tells.leave (tells.seated waiter suspended) (fun _ => rfl) rfl rfl
  | abandon waiter =>
      simp only [WaitingRoom.step]
      split
      · rename_i present
        exact tells.leave present (fun _ => rfl) rfl rfl
      · exact tells.quiet (fun _ => rfl) rfl rfl rfl tells.seated
  | pass time => exact tells.quiet (fun _ => rfl) rfl rfl rfl tells.seated

theorem Tells.run (tells : Tells notes room) (moves : List Move) :
    Tells (notes ++ (room.run moves).1) (room.run moves).2 := by
  induction moves generalizing notes room with
  | nil =>
      rw [WaitingRoom.run, List.append_nil]
      exact tells
  | cons move moves ih =>
      have later := ih (tells.step move)
      rw [List.append_assoc, List.singleton_append] at later
      exact later

theorem tells_run (moves : List Move) : Tells (run {} moves).1 (run {} moves).2 :=
  tells_nothing.run moves

theorem Tells.wakes_in_turn (tells : Tells notes room) (condition : Condition) (times : Nat) :
    woken (room.run (List.replicate times (.wake condition .one))).1 =
      (line notes condition).take times := by
  induction times generalizing notes room with
  | zero => rfl
  | succ times ih =>
      have first := tells.wake_eq condition .one
      have rest := tells.sound.wake_waitingFor condition condition .one
      have later := ih (tells.wake condition .one)
      rw [if_pos rfl, tells.waiting_eq] at rest
      rw [← (tells.wake condition .one).waiting_eq] at later
      change woken (.woke condition .one (room.waits.wake condition .one).1 ::
        ((room.step (.wake condition .one)).2.run (List.replicate times _)).1) = _
      rw [woken, List.flatMap_cons, ← woken, later, Note.woken, first]
      change (line notes condition).take 1 ++
        List.take times ((room.waits.wake condition .one).2.waitingFor condition) = _
      rw [rest, Nat.add_comm, List.take_add]
      rfl

theorem Tells.look_woken (tells : Tells notes room) (told : waiter ∈ woken notes)
    (present : waiter ∉ gone notes) (suspended : waiter ∈ room.suspended) :
    (room.look waiter).1 = .ended waiter .woke := by
  have state := (tells.woken_iff waiter).mpr ⟨told, present⟩
  obtain ⟨deadline, found⟩ := Table.mem_iff.mp suspended
  simp only [look, found, state, true_or, if_true, WaitQueues.suspend]

theorem Tells.suspend_woken (tells : Tells notes room) (told : waiter ∈ woken notes)
    (present : waiter ∉ gone notes) (standing : waiter ∉ room.suspended) (deadline : Option Nat)
    (time : Nat) :
    (room.run [.suspend waiter deadline, .pass time, .look waiter]).1 =
      [.suspended waiter deadline, .nothing, .ended waiter .woke] := by
  have state := (tells.woken_iff waiter).mpr ⟨told, present⟩
  have here : waiter ∈ room.waits.waiters := Table.mem_iff.mpr ⟨_, state⟩
  let after : WaitingRoom :=
    { room with
      suspended := room.suspended.insert waiter deadline
      clock := room.clock + time }
  have seated : (after.look waiter).1 = .ended waiter .woke := by
    have found : after.suspended[waiter]? = some deadline := by
      rw [Table.insert_at, if_pos rfl]
    simp only [look, found]
    rw [if_pos (Or.inl state)]
    simp only [WaitQueues.suspend]
    rw [if_pos state]
  have suspends : room.step (.suspend waiter deadline) = (.suspended waiter deadline,
      { room with suspended := room.suspended.insert waiter deadline }) :=
    if_pos ⟨here, standing⟩
  rw [WaitingRoom.run, suspends]
  exact congrArg (fun last => [_, .nothing, last]) seated

/-- Whatever moves there have been, those who wait for a condition are its line. A wake for one
wakes the first in line, if there is any, and a wake for all the whole line, and nobody else's
state changes. Nobody is woken twice, or for a condition other than the one it parked for. A wait
ends as woken exactly if the waiter was woken, and at the first look if it was, even if it
suspends only then and its deadline passes. Wakes for one, made one after another, wake those
longest in line. -/
theorem waiters_served_in_order (moves : List Move) :
    let notes := (run {} moves).1
    let room := (run {} moves).2
    (∀ condition, room.waits.waitingFor condition = line notes condition) ∧
    (∀ condition, (room.waits.wake condition .one).1 = (line notes condition).take 1 ∧
      (room.waits.wake condition .all).1 = line notes condition) ∧
    (∀ condition scope waiter, (room.waits.wake condition scope).2.waiters[waiter]? =
      if waiter ∈ (room.waits.wake condition scope).1 then some .woken
      else room.waits.waiters[waiter]?) ∧
    (woken notes).Nodup ∧
    (∀ condition scope waiters, .woke condition scope waiters ∈ notes → ∀ waiter ∈ waiters,
      ∀ about, .parked waiter about ∈ notes ↔ about = condition) ∧
    (∀ waiter reason, (room.look waiter).1 = .ended waiter reason →
      (reason = .woke ↔ waiter ∈ woken notes)) ∧
    (∀ waiter ∈ woken notes, waiter ∉ gone notes →
      (waiter ∈ room.suspended → (room.look waiter).1 = .ended waiter .woke) ∧
      (waiter ∉ room.suspended → ∀ deadline time,
        (room.run [.suspend waiter deadline, .pass time, .look waiter]).1 =
          [.suspended waiter deadline, .nothing, .ended waiter .woke])) ∧
    (∀ condition times, woken (room.run (List.replicate times (.wake condition .one))).1 =
      (line notes condition).take times) := by
  intro notes room
  have tells : Tells notes room := tells_run moves
  refine ⟨tells.waiting_eq, ?_, ?_, tells.once, ?_, ?_, ?_, tells.wakes_in_turn⟩
  · exact fun condition => ⟨tells.wake_eq condition .one, tells.wake_eq condition .all⟩
  · intro condition scope waiter
    rw [tells.sound.wake_waiters, tells.sound.wake_woken]
  · intro condition scope waiters note waiter told about
    have here := tells.own condition scope waiters note waiter told
    rw [← mem_parked]
    exact ⟨fun there => tells.single waiter about condition there here, fun same => same ▸ here⟩
  · intro waiter reason ends
    rcases room.look_cases waiter with nothing | ⟨found, ended, woke_iff, suspended⟩
    · rw [nothing] at ends
      cases ends
    · rw [ended] at ends
      cases ends
      obtain ⟨state, here⟩ := Table.mem_iff.mp (tells.seated waiter suspended)
      have present : waiter ∉ gone notes := fun member => by
        rw [tells.left waiter member] at here
        cases here
      rw [woke_iff, tells.woken_iff]
      exact ⟨And.left, fun told => ⟨told, present⟩⟩
  · exact fun waiter told present =>
      ⟨tells.look_woken told present, tells.suspend_woken told present⟩

def data : Condition := ⟨.readable, ⟨1⟩⟩

def space : Condition := ⟨.writable, ⟨1⟩⟩

def crowd : List Move :=
  [.park data, .park data, .park space, .abandon 0, .park data, .wake data .one,
    .suspend 2 (some 5), .pass 10, .look 2, .park data, .park data, .abandon 4]

def crowdNotes : List Note :=
  [.parked 0 data, .parked 1 data, .parked 2 space, .left 0, .parked 3 data, .woke data .one [1],
    .suspended 2 (some 5), .nothing, .ended 2 .timedOut, .parked 4 data, .parked 5 data, .left 4]

/-- Waiter 1 was woken before it suspends with a deadline that is long past; behind it waiters 3
and 5 are in line, and the queue still holds waiter 4. -/
theorem crowd_served :
    (run {} crowd).1 = crowdNotes ∧
    (run {} crowd).2.waits.queueOf data = [3, 4, 5] ∧
    (run {} crowd).2.waits.waitingFor data = [3, 5] ∧
    (∀ about, .parked 1 about ∈ (run {} crowd).1 ↔ about = data) ∧
    ((run {} crowd).2.run [.suspend 1 (some 0), .pass 7, .look 1]).1 =
      [.suspended 1 (some 0), .nothing, .ended 1 .woke] ∧
    woken ((run {} crowd).2.run [.wake data .one, .wake data .one]).1 = [3, 5] := by
  have notes : (run {} crowd).1 = crowdNotes := by decide +kernel
  have inLine : line (run {} crowd).1 data = [3, 5] := by
    rw [notes]
    decide
  obtain ⟨waiting, _, _, _, own, _, late, turns⟩ := waiters_served_in_order crowd
  refine ⟨notes, by decide +kernel, (waiting data).trans inLine, ?_, ?_, ?_⟩
  · exact own data .one [1] (by rw [notes]; decide) 1 (List.mem_singleton_self 1)
  · exact (late 1 (by rw [notes]; decide) (by rw [notes]; decide)).2 (by decide +kernel) (some 0) 7
  · rw [show [3, 5] = (line (run {} crowd).1 data).take 2 by rw [inLine]; rfl]
    exact turns data 2

end WaitingRoom

end Mailroom
