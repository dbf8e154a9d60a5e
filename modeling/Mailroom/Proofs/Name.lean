import Mailroom.Name
import Std.Data.String.ToNat

/-!
What reading a raw name gives, and that no two such names have one canonical text: the scheme can be
read off its lead, the base ends at the only at-sign, and a numeral tells its number.
-/

namespace Mailroom

theorem pid_of_text {left right : Pid} (same : toString left = toString right) : left = right :=
  UInt16.toNat_inj.mp (Nat.repr_inj.mp same)

theorem Scheme.split?_lead (scheme : Scheme) (rest : List Char) :
    Scheme.split? (scheme.lead.toList ++ rest) = some (scheme, rest) := by
  cases scheme <;> rfl

namespace Name

/-- The names that raw names stand for. A base has no at-sign, and a service has an owner. -/
inductive Resolved : Name → Prop
  | control (owner : Pid) : Resolved (control owner)
  | service {base : String} (plain : '@' ∉ base.toList) (owner : Pid) :
      Resolved (stream base owner)
  | app {base : String} (plain : '@' ∉ base.toList) (owner : Option Pid) :
      Resolved ⟨.app, base, owner⟩
  | shared {base : String} (plain : '@' ∉ base.toList) : Resolved ⟨.shared, base, none⟩

theorem splitOwner_plain {raw : String} {body : List Char} {base : String} {owner : Option Pid}
    (split : splitOwner raw body = .ok (base, owner)) : '@' ∉ base.toList := by
  have base_eq : base = String.ofList (body.takeWhile (· ≠ '@')) := by
    simp only [splitOwner] at split
    split at split
    · cases split
    · split at split
      · cases split
      · exact (Prod.mk.inj (Except.ok.inj split)).1.symm
  have all := List.all_takeWhile (p := (· ≠ '@')) (l := body)
  rw [base_eq, String.toList_ofList]
  intro member
  simpa using List.all_eq_true.mp all '@' member

theorem parse_resolved {raw : String} {caller : Pid} {name : Name}
    (reads : parse raw caller = .ok name) : name.Resolved := by
  have owned : ∀ {body : List Char} {form : String × Option Pid → Name},
      (splitOwner raw body).map form = .ok name →
        ∃ base owner, '@' ∉ base.toList ∧ name = form (base, owner) := by
    intro body form reads
    cases split : splitOwner raw body with
    | error fault =>
        rw [split] at reads
        cases reads
    | ok parts =>
        obtain ⟨base, owner⟩ := parts
        rw [split] at reads
        exact ⟨base, owner, splitOwner_plain split, (Except.ok.inj reads).symm⟩
  simp only [parse] at reads
  split at reads
  · cases reads
  · split at reads
    · cases reads
    · split at reads
      · cases reads
      · cases reads
        exact .control caller
      · split at reads
        · cases reads
          exact .control _
        · cases reads
      · obtain ⟨base, owner, plain, rfl⟩ := owned reads
        exact .service plain _
      · obtain ⟨base, owner, plain, rfl⟩ := owned reads
        exact .app plain owner
      · obtain ⟨base, owner, plain, rfl⟩ := owned reads
        exact .shared plain

def suffix : Option Pid → List Char
  | none => []
  | some owner => '@' :: (toString owner).toList

theorem suffix_inj {left right : Option Pid} (same : suffix left = suffix right) :
    left = right := by
  cases left <;> cases right
  · rfl
  · cases same
  · cases same
  · rename_i left right
    have digits : toString left = toString right := String.toList_inj.mp (List.cons.inj same).2
    rw [pid_of_text digits]

theorem base_suffix_inj {left right : String} {leftOwner rightOwner : Option Pid}
    (leftPlain : '@' ∉ left.toList) (rightPlain : '@' ∉ right.toList)
    (same : left.toList ++ suffix leftOwner = right.toList ++ suffix rightOwner) :
    left = right ∧ leftOwner = rightOwner := by
  have base : ∀ {chars : List Char} (owner : Option Pid), '@' ∉ chars →
      (chars ++ suffix owner).takeWhile (· ≠ '@') = chars := by
    intro chars owner plain
    rw [List.takeWhile_append_of_pos]
    · cases owner <;> simp [suffix]
    · intro char member
      exact decide_eq_true fun sign => plain (sign ▸ member)
  have bases := congrArg (List.takeWhile (· ≠ '@')) same
  rw [base _ leftPlain, base _ rightPlain] at bases
  rw [bases] at same
  exact ⟨String.toList_inj.mp bases, suffix_inj (List.append_cancel_left same)⟩

def rest (name : Name) : List Char :=
  match name.scheme with
  | .pid => name.base.toList
  | .svc | .app | .shared => name.base.toList ++ suffix name.owner

theorem canonical_chars (name : Name) :
    name.canonical.toList = name.scheme.lead.toList ++ name.rest := by
  obtain ⟨scheme, base, owner⟩ := name
  cases scheme <;> cases owner <;> simp [canonical, rest, suffix]

/-- Names that raw names stand for are one if their canonical texts are. -/
theorem Resolved.canonical_inj {left right : Name} (leftResolved : left.Resolved)
    (rightResolved : right.Resolved) (same : left.canonical = right.canonical) : left = right := by
  have parts := congrArg (fun text => Scheme.split? text.toList) same
  simp only [canonical_chars, Scheme.split?_lead, Option.some.injEq, Prod.mk.injEq] at parts
  obtain ⟨schemes, rests⟩ := parts
  cases leftResolved with
  | control owner =>
      cases rightResolved with
      | control other => rw [pid_of_text (String.toList_inj.mp rests)]
      | service | app | shared => cases schemes
  | service leftPlain owner =>
      cases rightResolved with
      | service rightPlain other =>
          obtain ⟨rfl, owners⟩ := base_suffix_inj leftPlain rightPlain rests
          rw [Option.some.inj owners]
      | control | app | shared => cases schemes
  | app leftPlain owner =>
      cases rightResolved with
      | app rightPlain other =>
          obtain ⟨rfl, rfl⟩ := base_suffix_inj leftPlain rightPlain rests
          rfl
      | control | service | shared => cases schemes
  | shared leftPlain =>
      cases rightResolved with
      | shared rightPlain =>
          obtain ⟨rfl, _⟩ := base_suffix_inj leftPlain rightPlain rests
          rfl
      | control | service | app => cases schemes

end Name

end Mailroom
