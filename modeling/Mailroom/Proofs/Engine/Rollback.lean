import Mailroom.Proofs.Engine.Loans

/-!
What a registration that fails leaves behind. Every task holds what it held, and every mailbox that
was there is as it was; but what was made on the way stays, and nobody holds it.
-/

namespace Mailroom

theorem Name.standing_nodup (pid : Pid) : (Name.standing pid).Nodup := by
  simp [Name.standing, Name.streams, Name.control, Name.stream]

namespace Engine

open Step

structure Midway (before now : Engine) (pid : Pid) (streams : List Name) (opened : List Handle)
    (base : MailboxId → Option Mailbox) : Prop where
  adds : before.Adds pid (.control pid :: streams) base
  lending : before.Lending now pid opened base
  paced : opened.length = streams.length
  limits_eq : now.limits = before.limits
  pool_eq : now.registry.limit = before.registry.limit
  quota_eq : now.handles.limit = before.handles.limit
  count_eq : now.handles.count pid = before.handles.count pid + opened.length
  fits : opened = [] ∨ before.handles.count pid + opened.length ≤ before.handles.limit
  names_kept : ∀ name ∉ .control pid :: streams,
    now.registry.resolve? name = before.registry.resolve? name

/-- Why a registration cannot go on: it has opened all the streams that the task may still have
handles for, or the registry is full. -/
def Stalls (before now : Engine) (pid : Pid) (streams : List Name) (fault : Fault) : Prop :=
  (fault = .handleQuota pid ∧
    streams.length = before.handles.limit - before.handles.count pid) ∨
  (fault = .descriptorsExhausted ∧
    streams.length ≤ before.handles.limit - before.handles.count pid ∧
    now.registry.limit ≤ now.registry.size)

structure Abandons (before after : Engine) (pid : Pid) (fault : Fault) : Prop where
  blamed : before.halted = none → fault = .handleQuota pid ∨ fault = .descriptorsExhausted
  bindings_eq : after.handles.binding? = before.handles.binding?
  kept : ∀ id mailbox, before.registry.get? id = some mailbox →
    after.registry.get? id = some mailbox
  origin : ∀ id mailbox, after.registry.get? id = some mailbox →
    before.registry.get? id = some mailbox ∨ before.Prepares pid id mailbox
  same_iff : after.registry.get? = before.registry.get? ↔
    before.halted ≠ none ∨ before.registry.limit ≤ before.registry.size ∨
      ∀ name ∈ (Name.standing pid).take (1 + (before.handles.limit - before.handles.count pid)),
        ∃ id, before.registry.resolve? name = some id

variable {before now after : Engine} {pid : Pid} {streams : List Name} {opened : List Handle}
  {base : MailboxId → Option Mailbox} {name : Name} {handle : Handle}

theorem stream_refusal {raw : String} (reads : Name.parse raw pid = .ok name)
    (known : name.isWellKnown = true) (engine : Engine) :
    ({ raw, word := Mode.readWrite.bits } : Demand).refusal? engine pid =
      if engine.handles.limit ≤ engine.handles.count pid then some (.handleQuota pid)
      else if engine.registry.resolve? name = none ∧
        engine.registry.limit ≤ engine.registry.size then some .descriptorsExhausted
      else none := by
  have mode : Mode.ofWord Mode.readWrite.bits = .ok Mode.readWrite := by decide
  have asked : Demand.mode? { raw, word := Mode.readWrite.bits } = some Mode.readWrite :=
    mode_of_ok mode
  have named : Demand.name? { raw, word := Mode.readWrite.bits } pid = some name :=
    name_of_ok reads
  simp only [Demand.refusal?, Demand.objections, asked, named, reads]
  by_cases quota : engine.handles.limit ≤ engine.handles.count pid
  · simp [quota]
  · by_cases pool : engine.registry.resolve? name = none ∧
      engine.registry.limit ≤ engine.registry.size
    · simp [known, quota, pool]
    · simp [known, quota, if_neg pool]

theorem Midway.same_iff (midway : before.Midway now pid streams opened base)
    (onward : .control pid :: streams <+: Name.standing pid) {fault : Fault}
    (stalls : before.Stalls now pid streams fault) :
    base = before.registry.get? ↔ before.registry.limit ≤ before.registry.size ∨
      ∀ name ∈ (Name.standing pid).take (1 + (before.handles.limit - before.handles.count pid)),
        ∃ id, before.registry.resolve? name = some id := by
  have taken : (Name.standing pid).take (1 + streams.length) = .control pid :: streams := by
    rw [Nat.add_comm]
    exact (List.prefix_iff_eq_take.mp onward).symm
  constructor
  · intro same
    rcases stalls with ⟨_, paced⟩ | ⟨_, _, full⟩
    · right
      rw [← paced, taken]
      exact midway.adds.same_iff.mp same
    · left
      rwa [midway.pool_eq, midway.lending.size_eq same] at full
  · rintro (full | resolved)
    · by_contra changed
      exact absurd full (Nat.not_le.mpr (midway.adds.room changed))
    · refine midway.adds.same_iff.mpr fun name member => resolved name ?_
      have within : 1 + streams.length ≤
          1 + (before.handles.limit - before.handles.count pid) := by
        rcases stalls with ⟨_, paced⟩ | ⟨_, paced, _⟩ <;> omega
      rw [← taken] at member
      exact (List.take_subset_take_left _ within) member

theorem Midway.abandoned (midway : before.Midway now pid streams opened base)
    (sound : before.scene.Sound) (running : before.halted = none)
    (onward : .control pid :: streams <+: Name.standing pid) {fault : Fault}
    (stalls : before.Stalls now pid streams fault)
    (few : (closeEach pid now opened).registrations ≤ Registry.mostNumbers) :
    before.Abandons (closeEach pid now opened) pid fault := by
  obtain ⟨bindings_eq, get_eq⟩ :=
    (midway.lending.closedEach midway.adds sound few).restored midway.adds sound
  have same_iff := midway.same_iff onward stalls
  rw [← get_eq] at same_iff
  refine ⟨fun _ => stalls.imp And.left And.left, bindings_eq, ?_, ?_, by simp [same_iff, running]⟩
  · rw [get_eq]
    exact midway.adds.kept
  · rw [get_eq]
    exact midway.adds.origin

theorem Midway.begun {answer : Unit} (sound : before.scene.Sound) (running : before.halted = none)
    (few : after.registrations ≤ Registry.mostNumbers)
    (ran : ensureControl pid before = (.ok answer, after)) :
    ∃ base, before.Midway after pid [] [] base := by
  have start := Lending.start sound running pid
  obtain ⟨_, halted, passes⟩ := ensureControl_succeeds sound running pid _ _ ran
  have ran := guarded_answers ran
  cases resolves : before.registry.resolve? (Name.control pid) with
  | some id =>
      simp only [resolves] at ran
      cases ran
      exact ⟨before.registry.get?, (Adds.start before pid).present resolves, start, rfl, rfl, rfl,
        rfl, rfl, Or.inl rfl, fun _ _ => rfl⟩
  | none =>
      by_cases room : before.registry.size < before.registry.limit
      · simp only [resolves, create_room room resolves] at ran
        cases ran
        let mailbox : Mailbox := .empty ⟨before.registry.nextId⟩ (Name.control pid)
          before.limits.defaultCapacity .queue pid true
        have unused : before.registry.get? mailbox.id = none :=
          sound.numbered.unused (by rwa [emit_created] at few)
        have prepares : before.Prepares pid mailbox.id mailbox :=
          ⟨unused, resolves, List.mem_cons_self, rfl⟩
        refine ⟨Function.update before.registry.get? mailbox.id (some mailbox),
          (Adds.start before pid).made prepares room, ?_, rfl, rfl, rfl, rfl, rfl, Or.inl rfl, ?_⟩
        · refine ⟨(passes few).sound, running, List.nodup_nil, by simp, by simp, fun _ _ => rfl, ?_⟩
          intro id
          exact (Registry.added_get _ mailbox id).symm ▸ start.covers rfl id
        · intro name unseen
          refine (Registry.added_resolve _ mailbox _).trans (if_neg ?_)
          rintro rfl
          exact unseen List.mem_cons_self
      · have full := Nat.le_of_not_lt room
        simp only [resolves, create_full full] at ran
        cases ran

theorem Midway.notes (midway : before.Midway now pid streams opened base) (notes : now.Notes after)
    (sound : after.scene.Sound) : before.Midway after pid streams opened base := by
  obtain ⟨news, rfl⟩ := notes
  have lending := midway.lending
  exact ⟨midway.adds, ⟨sound, lending.running, lending.distinct, lending.free, lending.held,
    lending.bindings_eq, lending.lends⟩, midway.paced, midway.limits_eq, midway.pool_eq,
    midway.quota_eq, midway.count_eq, midway.fits, midway.names_kept⟩

theorem Midway.granted (midway : before.Midway now pid streams opened base)
    (sound : after.scene.Sound) {raw : String} (reads : Name.parse raw pid = .ok name)
    (member : name ∈ Name.standing pid) (unseen : name ∉ .control pid :: streams)
    (met : Demand.refusal? { raw, word := Mode.readWrite.bits } now pid = none)
    (grants : now.Grants { raw, word := Mode.readWrite.bits } pid handle after) :
    ∃ base, before.Midway after pid (streams ++ [name]) (opened ++ [handle]) base := by
  have known := (Name.standing_owned member).2
  obtain ⟨mode, other, mailbox, asked, named, offers, gains⟩ := grants
  have asks : Mode.ofWord Mode.readWrite.bits = .ok Mode.readWrite := by decide
  cases (mode_of_ok asks).symm.trans asked
  cases (name_of_ok reads).symm.trans named
  rw [stream_refusal reads known] at met
  have room : now.handles.count pid < now.handles.limit := by
    by_contra full
    simp [Nat.le_of_not_lt full] at met
  obtain ⟨news, rest⟩ := gains.rest_eq
  have limits_eq : after.limits = now.limits := by rw [rest]
  have agree := midway.names_kept name unseen
  have ready : ∀ later, before.Adds pid (.control pid :: streams ++ [name]) later →
      (∀ id, Option.Rel (Mailbox.Lends (Lent pid opened)) (later id)
        (if mailbox.id = id then some mailbox else now.registry.get? id)) →
      before.Midway after pid (streams ++ [name]) (opened ++ [handle]) later := by
    intro later adds covers
    have total := midway.count_eq
    have limit := midway.quota_eq
    refine ⟨adds, midway.lending.gains gains sound covers, by simp [midway.paced],
      limits_eq.trans midway.limits_eq, gains.limits_eq.1.trans midway.pool_eq,
      gains.limits_eq.2.trans midway.quota_eq, ?_, ?_, ?_⟩
    · rw [HandleTable.count_bound gains.free gains.bindings_eq, total, List.length_append,
        List.length_singleton, Nat.add_assoc]
    · right
      rw [List.length_append, List.length_singleton]
      omega
    · intro other absent
      simp only [List.mem_cons, List.mem_append, List.not_mem_nil, or_false, not_or] at absent
      rw [gains.names_kept other absent.2.2, midway.names_kept other]
      simp [absent]
  rcases offers with ⟨resolves, found⟩ | ⟨unnamed, unused, made⟩
  · refine ⟨base, ready base (midway.adds.present (agree ▸ resolves)) fun id => ?_⟩
    have lends := midway.lending.lends id
    split
    · rename_i here
      subst here
      rwa [found] at lends
    · exact lends
  · have below : now.registry.size < now.registry.limit := by
      by_contra full
      simp [Nat.not_le.mpr room, unnamed, Nat.le_of_not_lt full] at met
    have unborn : before.registry.get? mailbox.id = none := by
      have absent := related_none (unused ▸ midway.lending.lends mailbox.id)
      cases found : before.registry.get? mailbox.id with
      | none => rfl
      | some first => cases absent.symm.trans (midway.adds.kept _ _ found)
    have named : mailbox.name = name := by rw [made]; rfl
    have prepares : before.Prepares pid mailbox.id mailbox := by
      refine ⟨unborn, named.symm ▸ agree ▸ unnamed, named.symm ▸ member, ?_⟩
      rw [made, ← midway.limits_eq, ← known]
      rfl
    have space : before.registry.size < before.registry.limit := by
      by_cases same : base = before.registry.get?
      · rwa [midway.pool_eq, midway.lending.size_eq same] at below
      · exact midway.adds.room same
    have bare : mailbox.subscribers = ∅ := by rw [made]; rfl
    exact ⟨_, ready _ (named ▸ midway.adds.made prepares space) (midway.lending.covers bare)⟩

theorem Midway.opens (midway : before.Midway now pid streams opened base) {raw : String}
    (reads : Name.parse raw pid = .ok name) (member : name ∈ Name.standing pid)
    (unseen : name ∉ .control pid :: streams) (few : after.registrations ≤ Registry.mostNumbers)
    {outcome : Except Fault Handle}
    (ran : openName pid raw Mode.readWrite.bits now = (outcome, after)) :
    (∃ handle later, outcome = .ok handle ∧
      before.Midway after pid (streams ++ [name]) (opened ++ [handle]) later) ∨
    ∃ fault, outcome = .error fault ∧ before.Midway after pid streams opened base ∧
      before.Stalls after pid streams fault := by
  have running := midway.lending.running
  obtain ⟨_, passes⟩ :=
    (openName_succeeds midway.lending.sound running pid raw _).within _ _ ran few
  have guards : openName pid raw Mode.readWrite.bits =
      Step.guarded (Demand.ask { raw, word := Mode.readWrite.bits } pid) := rfl
  rw [guards] at ran
  rcases guarded_decides midway.lending.sound running ran few with
    ⟨fault, rfl, said, notes⟩ | ⟨met, handle, rfl, grants⟩
  · refine Or.inr ⟨fault, rfl, midway.notes notes passes.sound, ?_⟩
    rw [stream_refusal reads (Name.standing_owned member).2] at said
    have total := midway.count_eq
    have limit := midway.quota_eq
    have paced := midway.paced
    split at said
    · rename_i quota
      cases said
      refine Or.inl ⟨rfl, ?_⟩
      rcases midway.fits with rfl | fits
      · rw [List.length_nil] at paced total
        omega
      · omega
    · split at said
      · rename_i room full
        cases said
        obtain ⟨news, rfl⟩ := notes
        refine Or.inr ⟨rfl, ?_, full.2⟩
        omega
      · cases said
  · obtain ⟨later, onward⟩ := midway.granted passes.sound reads member unseen met grants
    exact Or.inl ⟨handle, later, rfl, onward⟩

theorem Midway.stream (midway : before.Midway now pid streams opened base)
    (sound : before.scene.Sound) (running : before.halted = none) {raw : String}
    (reads : Name.parse raw pid = .ok name)
    (onward : .control pid :: streams ++ [name] <+: Name.standing pid)
    (few : after.registrations ≤ Registry.mostNumbers) {rest : Handle → Step StandardHandles}
    (grows : ∀ handle, (rest handle).Grows) {fault : Fault}
    (ran : (openStream pid raw opened >>= rest) now = (.error fault, after)) :
    before.Abandons after pid fault ∨ ∃ handle middle later,
      before.Midway middle pid (streams ++ [name]) (opened ++ [handle]) later ∧
        rest handle middle = (.error fault, after) := by
  have member : name ∈ Name.standing pid := onward.subset (by simp)
  have unseen : name ∉ .control pid :: streams := by
    have distinct := (Name.standing_nodup pid).sublist onward.sublist
    exact fun seen => List.disjoint_of_nodup_append distinct seen List.mem_cons_self
  have shorter := (List.prefix_append (.control pid :: streams) [name]).trans onward
  rcases opens : openName pid raw Mode.readWrite.bits now with ⟨fault | handle, middle⟩
  · have gives : openStream pid raw opened now = (.error fault, closeEach pid middle opened) := by
      simp only [openStream, opens]
    rw [bind_error gives] at ran
    cases ran
    have sooner := Nat.le_trans (closeEach_grows pid opened middle) few
    rcases midway.opens reads member unseen sooner opens with
      ⟨_, _, granted, _⟩ | ⟨_, same, still, stalls⟩
    · cases granted
    · cases same
      exact Or.inl (still.abandoned sound running shorter stalls few)
  · have gives : openStream pid raw opened now = (.ok handle, middle) := by
      simp only [openStream, opens]
    rw [bind_ok gives] at ran
    have grown := grows handle middle
    rw [ran] at grown
    rcases midway.opens reads member unseen (Nat.le_trans grown few) opens with
      ⟨_, later, same, onward⟩ | ⟨_, failed, _⟩
    · cases same
      exact Or.inr ⟨handle, middle, later, onward, ran⟩
    · cases failed

theorem ensureControl_abandons (running : before.halted = none) {fault : Fault}
    (ran : ensureControl pid before = (.error fault, after)) :
    before.Abandons after pid fault := by
  simp only [ensureControl, Step.guarded, running] at ran
  cases resolves : before.registry.resolve? (Name.control pid) with
  | some id =>
      simp only [resolves] at ran
      cases ran
  | none =>
      by_cases room : before.registry.size < before.registry.limit
      · simp only [resolves, create_room room resolves] at ran
        cases ran
      · have full := Nat.le_of_not_lt room
        simp only [resolves, create_full full] at ran
        cases ran
        exact ⟨fun _ => Or.inr rfl, rfl, fun _ _ found => found, fun _ _ found => Or.inl found,
          iff_of_true rfl (Or.inr (Or.inl full))⟩

theorem registerTask_abandons (sound : before.scene.Sound) (running : before.halted = none)
    (few : after.registrations ≤ Registry.mostNumbers) {fault : Fault}
    (ran : registerTask pid before = (.error fault, after)) :
    before.Abandons after pid fault := by
  have input : Name.parse "svc:stdio.in" pid = .ok (.stream "stdio.in" pid) := rfl
  have output : Name.parse "svc:stdio.out" pid = .ok (.stream "stdio.out" pid) := rfl
  have errors : Name.parse "svc:stdio.err" pid = .ok (.stream "stdio.err" pid) := rfl
  have onward : ∀ count, (Name.standing pid).take count <+: Name.standing pid :=
    fun count => List.take_prefix count _
  have last : ∀ stdin stdout, (openStream pid "svc:stdio.err" [stdin, stdout] >>= fun stderr =>
      Pure.pure ({ stdin, stdout, stderr } : StandardHandles)).Grows :=
    fun stdin stdout => (openStream_grows pid _ _).bind fun _ => Step.grows_pure _
  have lastTwo := fun stdin => (openStream_grows pid "svc:stdio.out" [stdin]).bind (last stdin)
  have streams := (openStream_grows pid "svc:stdio.in" []).bind lastTwo
  rcases bind_cases ran with ⟨_, first, begins, ran⟩ | ⟨_, begins, same⟩
  · have grown := streams first
    rw [ran] at grown
    obtain ⟨base, midway⟩ := Midway.begun sound running (Nat.le_trans grown few) begins
    rcases midway.stream sound running input (onward 2) few lastTwo ran with
      done | ⟨stdin, second, base, midway, ran⟩
    · exact done
    rcases midway.stream sound running output (onward 3) few (last stdin) ran with
      done | ⟨stdout, third, base, midway, ran⟩
    · exact done
    rcases midway.stream sound running errors (onward 4) few (fun _ => Step.grows_pure _) ran with
      done | ⟨stderr, fourth, base, midway, ran⟩
    · exact done
    cases ran
  · cases same
    exact ensureControl_abandons running begins

/-- A registration that fails leaves every handle and every mailbox that was there, and takes back
none that it made. -/
theorem registration_abandoned (limits : Limits) (operations : List Operation) {fault : Fault}
    (ran : registerTask pid ((start limits).run operations) = (.error fault, after))
    (few : after.registrations ≤ Registry.mostNumbers) :
    ((start limits).run operations).Abandons after pid fault := by
  have grown := ((registerTask_reshapes pid).reshaped ((start limits).run operations)).edited
  have sooner := grown.registrations_le
  rw [ran] at sooner
  have sound := run_sound operations (start_sound limits) (Nat.le_trans sooner few)
  generalize (start limits).run operations = engine at ran sound
  cases halted : engine.halted with
  | none => exact registerTask_abandons sound halted few ran
  | some reason =>
      have first : ensureControl pid engine = (.error _, engine) := guarded_halted halted
      have all : registerTask pid engine = (.error _, engine) := bind_error first
      cases all.symm.trans ran
      refine ⟨fun running => ?_, rfl, fun _ _ found => found, fun _ _ found => Or.inl found,
        iff_of_true rfl (Or.inl ?_)⟩
      · cases halted.symm.trans running
      · simp [halted]

/-- A task that may hold one handle only: its second stream is refused, and the two mailboxes that
were made before stay. -/
theorem onlyHandle_abandoned :
    let engine := start { handlesPerTask := 1 }
    engine.Abandons (registerTask 4 engine).2 4 (.handleQuota 4) := by
  intro engine
  have refused : (registerTask 4 engine).1 = .error (.handleQuota 4) := by decide +kernel
  exact registration_abandoned { handlesPerTask := 1 } [] (Prod.ext refused rfl)
    (by decide +kernel)

/-- A registry with room for two mailboxes: the second stream cannot be made, and the control
mailbox and the first stream stay, held by nobody. -/
theorem failed_registration_remains :
    let engine := start { maxDescriptors := 2 }
    let after := (registerTask 4 engine).2
    (registerTask 4 engine).1 = .error .descriptorsExhausted ∧
      engine.registry.toList.map Mailbox.name = [] ∧
      after.registry.toList.map (fun mailbox => (mailbox.name, mailbox.references)) =
        [(Name.control 4, 0), (Name.stream "stdio.in" 4, 0)] ∧
      after.registry.get? ⟨1⟩ ≠ engine.registry.get? ⟨1⟩ := by
  intro engine after
  have names : after.registry.toList.map (fun mailbox => (mailbox.name, mailbox.references)) =
      [(Name.control 4, 0), (Name.stream "stdio.in" 4, 0)] := by decide +kernel
  have there : (after.registry.get? ⟨1⟩).isSome = true := by decide +kernel
  have absent : (engine.registry.get? ⟨1⟩).isSome = false := by decide +kernel
  refine ⟨by decide +kernel, by decide +kernel, names, fun same => ?_⟩
  rw [same, absent] at there
  cases there

end Engine

end Mailroom
