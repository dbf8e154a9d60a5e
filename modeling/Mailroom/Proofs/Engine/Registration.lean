import Mailroom.Proofs.Engine.Edits

/-!
What a registered task is given. Opening a well-known name leads somewhere, what is opened takes no
name away, and so a task whose registration succeeds has its mailboxes under their names.
-/

namespace Mailroom

/-- The names of the mailboxes that a task is given when it is registered. -/
def Name.standing (pid : Pid) : List Name :=
  .control pid :: Name.streams.map fun base => .stream base pid

theorem Name.standing_owned {pid : Pid} {name : Name} (member : name ∈ Name.standing pid) :
    name.owner = some pid ∧ name.isWellKnown = true := by
  rcases List.mem_cons.mp member with rfl | stream
  · exact ⟨rfl, rfl⟩
  · obtain ⟨base, streams, rfl⟩ := List.mem_map.mp stream
    exact ⟨rfl, decide_eq_true streams⟩

namespace Engine

open Step

def KeepsNames (before after : Engine) : Prop :=
  ∀ name id, before.registry.resolve? name = some id → after.registry.resolve? name = some id

variable {engine middle after : Engine} {pid : Pid} {name : Name} {handle : Handle}

theorem keepsNames_course : Course KeepsNames :=
  ⟨fun _ _ _ leads => leads, fun first second name id leads => second name id (first name id leads),
    fun _ _ _ _ leads => leads⟩

theorem keepsNames_opens (pid : Pid) : Admits KeepsNames (OpensFor pid) := by
  refine ⟨keepsNames_course, fun opens => ?_⟩
  intro other id leads
  cases opens with
  | told | searched | missed | attached => exact leads
  | made unnamed capacity policy =>
      refine (Registry.added_resolve _ _ other).trans ?_
      rw [if_neg, leads]
      rintro rfl
      cases leads.symm.trans unnamed

theorem create_resolves {creator : Pid} {capacity : UInt16} {policy : Policy} {persistent : Bool}
    {id : MailboxId} (unnamed : engine.registry.resolve? name = none)
    (created : create creator name capacity policy persistent engine = (.ok id, after)) :
    after.registry.resolve? name = some id := by
  obtain ⟨rfl, made⟩ := create_answers unnamed created
  rw [made]
  exact (Registry.added_resolve _ _ name).trans (if_pos rfl)

theorem findToOpen_resolves {mode : Mode} {id : MailboxId}
    (ran : findToOpen pid name mode engine = (.ok id, after)) :
    after.registry.resolve? name = some id := by
  cases resolves : engine.registry.resolve? name with
  | some other =>
      simp only [findToOpen, resolves, Prod.mk.injEq, Except.ok.injEq] at ran
      obtain ⟨rfl, rfl⟩ := ran
      exact resolves
  | none =>
      simp only [findToOpen, resolves] at ran
      split at ran
      · exact create_resolves resolves ran
      · cases ran

theorem openName_resolves {raw : String} {word : UInt16} (reads : Name.parse raw pid = .ok name)
    (ran : openName pid raw word engine = (.ok handle, after)) :
    ∃ id, after.registry.resolve? name = some id := by
  obtain ⟨mode, _, _, ran⟩ := bind_answers (guarded_answers ran)
  obtain ⟨read, _, looked, ran⟩ := bind_answers ran
  have same : read = name := by
    simp only [readName, Step.inspect, reads, Except.mapError, Prod.mk.injEq,
      Except.ok.injEq] at looked
    exact looked.1.symm
  subst same
  obtain ⟨_, _, _, ran⟩ := bind_answers ran
  obtain ⟨id, found, finds, ran⟩ := bind_answers ran
  have kept := attach_obeys pid (keepsNames_opens pid) id mode found
  rw [ran] at kept
  exact ⟨id, kept read id (findToOpen_resolves finds)⟩

theorem openStream_opens {raw : String} {opened : List Handle}
    (ran : openStream pid raw opened engine = (.ok handle, after)) :
    openName pid raw Mode.readWrite.bits engine = (.ok handle, after) := by
  simp only [openStream] at ran
  split at ran
  · rename_i inner
    rw [inner, ran]
  · cases ran

theorem openStream_resolves {raw : String} {opened : List Handle}
    (reads : Name.parse raw pid = .ok name)
    (ran : openStream pid raw opened engine = (.ok handle, after)) :
    (∃ id, after.registry.resolve? name = some id) ∧ KeepsNames engine after := by
  have opens := openStream_opens ran
  have kept := openName_obeys pid (keepsNames_opens pid) raw Mode.readWrite.bits engine
  rw [opens] at kept
  exact ⟨openName_resolves reads opens, kept⟩

theorem ensureControl_resolves {answer : Unit}
    (ran : ensureControl pid engine = (.ok answer, after)) :
    ∃ id, after.registry.resolve? (Name.control pid) = some id := by
  have ran := guarded_answers ran
  cases resolves : engine.registry.resolve? (Name.control pid) with
  | some id =>
      simp only [resolves, Prod.mk.injEq] at ran
      rw [← ran.2]
      exact ⟨id, resolves⟩
  | none =>
      cases made : create pid (Name.control pid) engine.limits.defaultCapacity .queue true engine
        with
      | mk outcome last =>
          simp only [resolves, made, Prod.mk.injEq] at ran
          cases outcome with
          | error fault => cases ran.1
          | ok id =>
              rw [← ran.2]
              exact ⟨id, create_resolves resolves made⟩

theorem registerTask_resolves {handles : StandardHandles}
    (ran : registerTask pid engine = (.ok handles, after)) :
    ∀ name ∈ Name.standing pid, ∃ id, after.registry.resolve? name = some id := by
  obtain ⟨_, first, controls, ran⟩ := bind_answers ran
  obtain ⟨stdin, second, reads, ran⟩ := bind_answers ran
  obtain ⟨stdout, third, writes, ran⟩ := bind_answers ran
  obtain ⟨stderr, fourth, warns, ran⟩ := bind_answers ran
  cases ran
  obtain ⟨control, atControl⟩ := ensureControl_resolves controls
  have input : Name.parse "svc:stdio.in" pid = .ok (.stream "stdio.in" pid) := rfl
  have output : Name.parse "svc:stdio.out" pid = .ok (.stream "stdio.out" pid) := rfl
  have errors : Name.parse "svc:stdio.err" pid = .ok (.stream "stdio.err" pid) := rfl
  obtain ⟨⟨inId, atIn⟩, secondKept⟩ := openStream_resolves input reads
  obtain ⟨⟨outId, atOut⟩, thirdKept⟩ := openStream_resolves output writes
  obtain ⟨⟨errId, atErr⟩, fourthKept⟩ := openStream_resolves errors warns
  intro name member
  simp only [Name.standing, Name.streams, List.map_cons, List.map_nil, List.mem_cons,
    List.not_mem_nil, or_false] at member
  rcases member with rfl | rfl | rfl | rfl
  · exact ⟨control, fourthKept _ _ (thirdKept _ _ (secondKept _ _ atControl))⟩
  · exact ⟨inId, fourthKept _ _ (thirdKept _ _ atIn)⟩
  · exact ⟨outId, fourthKept _ _ atOut⟩
  · exact ⟨errId, atErr⟩

end Engine

end Mailroom
