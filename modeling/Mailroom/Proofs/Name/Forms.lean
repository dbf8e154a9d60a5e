import Mailroom.Engine.Opening
import Mailroom.Proofs.Name
import Mailroom.Proofs.Text.Numeral
import Mathlib.Data.List.Basic
import Mathlib.Data.String.Basic

/-!
The written forms of names. A raw name is read exactly if it has one of them and is neither empty
nor too long. The canonical text has a form that means the same to every task; only with an owner
that the raw name leaves out can it be too long.
-/

namespace Mailroom

theorem Scheme.after_iff {lead chars rest : List Char} :
    Scheme.after? lead chars = some rest ↔ chars = lead ++ rest := by
  induction lead generalizing chars with
  | nil => simp [after?, eq_comm]
  | cons char lead ih =>
      cases chars with
      | nil => simp [after?]
      | cons first chars =>
          by_cases same : char = first
          · simp [after?, same, ih]
          · simp [after?, same, Ne.symm same]

theorem Scheme.split_iff {chars rest : List Char} {scheme : Scheme} :
    Scheme.split? chars = some (scheme, rest) ↔ chars = scheme.lead.toList ++ rest := by
  constructor
  · intro split
    obtain ⟨tried, _, found⟩ := List.exists_of_findSome?_eq_some split
    obtain ⟨left, after, same⟩ := Option.map_eq_some_iff.mp found
    cases same
    exact after_iff.mp after
  · rintro rfl
    exact split?_lead scheme rest

namespace Name

structure IsBase (base : String) : Prop where
  filled : base ≠ ""
  plain : '@' ∉ base.toList

inductive Ending : Option Pid → String → Prop
  | bare : Ending none ""
  | marked : Ending none "@"
  | owned {owner : Pid} {digits : String} (numeral : Text.IsNumeral owner digits.toList) :
      Ending (some owner) ("@" ++ digits)

/-- How a task writes a name. -/
inductive Form (caller : Pid) : String → Name → Prop
  | own : Form caller "pid:" (control caller)
  | control {owner : Pid} {digits : String} (numeral : Text.IsNumeral owner digits.toList) :
      Form caller ("pid:" ++ digits) (control owner)
  | service {base ending : String} {owner : Option Pid} (whole : IsBase base)
      (ends : Ending owner ending) :
      Form caller ("svc:" ++ base ++ ending) (stream base (owner.getD caller))
  | app {base ending : String} {owner : Option Pid} (whole : IsBase base)
      (ends : Ending owner ending) : Form caller ("app:" ++ base ++ ending) ⟨.app, base, owner⟩
  | shared {base ending : String} {owner : Option Pid} (whole : IsBase base)
      (ends : Ending owner ending) : Form caller ("shared:" ++ base ++ ending) ⟨.shared, base, none⟩

variable {raw : String} {caller other : Pid} {name : Name}

theorem parted {base ending : List Char} (plain : '@' ∉ base)
    (starts : ending = [] ∨ ending.head? = some '@') :
    (base ++ ending).takeWhile (· ≠ '@') = base ∧
      (base ++ ending).dropWhile (· ≠ '@') = ending := by
  have each : ∀ char ∈ base, decide (char ≠ '@') = true := by
    intro char member
    exact decide_eq_true fun sign => plain (sign ▸ member)
  have stops : ending.takeWhile (· ≠ '@') = [] ∧ ending.dropWhile (· ≠ '@') = ending := by
    cases ending with
    | nil => simp
    | cons first rest =>
        have sign : first = '@' := by simpa using starts
        simp [sign]
  rw [List.takeWhile_append_of_pos each, List.dropWhile_append_of_pos each, stops.1, stops.2]
  simp

theorem exists_parted (body : List Char) :
    ∃ base ending, body = base ++ ending ∧ '@' ∉ base ∧
      (ending = [] ∨ ending.head? = some '@') := by
  by_cases sign : '@' ∈ body
  · obtain ⟨base, rest, rfl, plain⟩ := List.eq_append_cons_of_mem sign
    exact ⟨base, '@' :: rest, rfl, plain, Or.inr rfl⟩
  · exact ⟨body, [], by simp, sign, Or.inl rfl⟩

def ownerAfter (raw : String) (ending : List Char) : Except NameFault (Option Pid) :=
  match ending with
  | [] | ['@'] => .ok none
  | _ :: digits =>
    match Text.wordNumeral? digits with
    | some pid => .ok (some pid)
    | none => .error (.badOwner raw)

theorem splitOwner_parted {base ending : List Char} (plain : '@' ∉ base)
    (starts : ending = [] ∨ ending.head? = some '@') :
    splitOwner raw (base ++ ending) =
      match ownerAfter raw ending with
      | .error fault => .error fault
      | .ok owner =>
        if base = [] then .error (.emptyBase raw) else .ok (String.ofList base, owner) := by
  have both := parted plain starts
  simp only [splitOwner, both.1, both.2]
  rfl

theorem Ending.starts {owner : Option Pid} {ending : String} (ends : Ending owner ending) :
    ending.toList = [] ∨ ending.toList.head? = some '@' := by
  cases ends with
  | bare => exact Or.inl rfl
  | marked => exact Or.inr rfl
  | owned => exact Or.inr (by simp)

theorem Ending.ownerAfter_eq {owner : Option Pid} {ending : String} (ends : Ending owner ending) :
    ownerAfter raw ending.toList = .ok owner := by
  cases ends with
  | bare | marked => rfl
  | @owned owner digits numeral =>
      have reads := (Text.wordNumeral_iff _ _).mpr numeral
      obtain ⟨first, rest, whole⟩ := List.exists_cons_of_ne_nil numeral.filled
      have chars : ("@" ++ digits).toList = '@' :: first :: rest := by simp [whole]
      rw [whole] at reads
      simp only [chars, ownerAfter, reads]

theorem ending_of_ownerAfter {ending : List Char} {owner : Option Pid}
    (starts : ending = [] ∨ ending.head? = some '@')
    (reads : ownerAfter raw ending = .ok owner) : Ending owner (String.ofList ending) := by
  unfold ownerAfter at reads
  split at reads
  · cases reads
    exact .bare
  · cases reads
    exact .marked
  · rename_i first digits other
    have sign : first = '@' := by simpa using starts
    split at reads
    · rename_i pid numeral
      cases reads
      have whole : String.ofList (first :: digits) = "@" ++ String.ofList digits := by
        apply String.toList_inj.mp
        simp [sign]
      rw [whole]
      exact .owned (by simpa using (Text.wordNumeral_iff _ _).mp numeral)
    · cases reads

theorem splitOwner_iff {body : List Char} {base : String} {owner : Option Pid} :
    splitOwner raw body = .ok (base, owner) ↔
      IsBase base ∧ ∃ ending, Ending owner ending ∧ body = base.toList ++ ending.toList := by
  constructor
  · intro split
    obtain ⟨first, rest, rfl, plain, starts⟩ := exists_parted body
    rw [splitOwner_parted plain starts] at split
    cases reads : ownerAfter raw rest with
    | error fault => simp [reads] at split
    | ok found =>
        by_cases empty : first = []
        · simp [reads, empty] at split
        · simp only [reads, empty, if_false, Except.ok.injEq, Prod.mk.injEq] at split
          obtain ⟨rfl, rfl⟩ := split
          refine ⟨⟨?_, by simpa using plain⟩, String.ofList rest,
            ending_of_ownerAfter starts reads, by simp⟩
          intro none
          exact empty (by simpa using congrArg String.toList none)
  · rintro ⟨whole, ending, ends, rfl⟩
    have filled : base.toList ≠ [] := fun none => whole.filled (String.toList_inj.mp none)
    rw [splitOwner_parted whole.plain ends.starts, ends.ownerAfter_eq]
    simp [filled]

theorem eq_of_split {scheme : Scheme} {rest : List Char}
    (split : Scheme.split? raw.toList = some (scheme, rest)) :
    raw = scheme.lead ++ String.ofList rest := by
  apply String.toList_inj.mp
  rw [Scheme.split_iff.mp split, String.toList_append, String.toList_ofList]

theorem parts_of_split {scheme : Scheme} {body : List Char} {form : String × Option Pid → Name}
    (split : Scheme.split? raw.toList = some (scheme, body))
    (reads : (splitOwner raw body).map form = .ok name) :
    ∃ base owner ending, IsBase base ∧ Ending owner ending ∧
      raw = scheme.lead ++ base ++ ending ∧ name = form (base, owner) := by
  cases parts : splitOwner raw body with
  | error fault =>
      rw [parts] at reads
      cases reads
  | ok found =>
      obtain ⟨base, owner⟩ := found
      obtain ⟨whole, ending, ends, rfl⟩ := splitOwner_iff.mp parts
      rw [parts] at reads
      refine ⟨base, owner, ending, whole, ends, ?_, (Except.ok.inj reads).symm⟩
      rw [eq_of_split split, String.ofList_append, String.ofList_toList, String.ofList_toList,
        String.append_assoc]

theorem split_parts (scheme : Scheme) {base ending : String} {owner : Option Pid}
    (whole : IsBase base) (ends : Ending owner ending) :
    Scheme.split? (scheme.lead ++ base ++ ending).toList =
        some (scheme, base.toList ++ ending.toList) ∧
      splitOwner (scheme.lead ++ base ++ ending) (base.toList ++ ending.toList) =
        .ok (base, owner) := by
  refine ⟨?_, splitOwner_iff.mpr ⟨whole, ending, ends, rfl⟩⟩
  rw [Scheme.split_iff, String.append_assoc, String.toList_append, String.toList_append]

theorem form_of_parse (reads : parse raw caller = .ok name) : Form caller raw name := by
  simp only [parse] at reads
  split at reads
  · cases reads
  · split at reads
    · cases reads
    · split at reads
      · cases reads
      · rename_i split
        cases reads
        rw [eq_of_split split]
        exact .own
      · rename_i split
        split at reads
        · rename_i numeral
          cases reads
          rw [eq_of_split split]
          exact .control (by simpa using (Text.wordNumeral_iff _ _).mp numeral)
        · cases reads
      · rename_i split
        obtain ⟨base, owner, ending, whole, ends, rfl, rfl⟩ := parts_of_split split reads
        exact .service whole ends
      · rename_i split
        obtain ⟨base, owner, ending, whole, ends, rfl, rfl⟩ := parts_of_split split reads
        exact .app whole ends
      · rename_i split
        obtain ⟨base, owner, ending, whole, ends, rfl, rfl⟩ := parts_of_split split reads
        exact .shared whole ends

theorem parse_of_form (filled : 1 ≤ raw.utf8ByteSize) (short : raw.utf8ByteSize ≤ maxBytes)
    (form : Form caller raw name) : parse raw caller = .ok name := by
  rw [parse, if_neg (by omega), if_neg (by omega)]
  cases form with
  | own => rfl
  | @control owner digits numeral =>
      have split : Scheme.split? ("pid:" ++ digits).toList = some (.pid, digits.toList) := by
        rw [Scheme.split_iff, String.toList_append]
        rfl
      have reads := (Text.wordNumeral_iff _ _).mpr numeral
      obtain ⟨first, rest, whole⟩ := List.exists_cons_of_ne_nil numeral.filled
      rw [whole] at split reads
      simp only [split, reads]
  | service whole ends =>
      obtain ⟨split, parts⟩ := split_parts .svc whole ends
      have split : Scheme.split? ("svc:" ++ _ ++ _).toList = some (.svc, _) := split
      simp only [split]
      exact congrArg (Except.map _) parts
  | app whole ends =>
      obtain ⟨split, parts⟩ := split_parts .app whole ends
      have split : Scheme.split? ("app:" ++ _ ++ _).toList = some (.app, _) := split
      simp only [split]
      exact congrArg (Except.map _) parts
  | shared whole ends =>
      obtain ⟨split, parts⟩ := split_parts .shared whole ends
      have split : Scheme.split? ("shared:" ++ _ ++ _).toList = some (.shared, _) := split
      simp only [split]
      exact congrArg (Except.map _) parts

theorem parse_iff : parse raw caller = .ok name ↔
    1 ≤ raw.utf8ByteSize ∧ raw.utf8ByteSize ≤ 32 ∧ Form caller raw name := by
  refine ⟨fun reads => ?_, fun ⟨filled, short, form⟩ => parse_of_form filled short form⟩
  have form := form_of_parse reads
  unfold parse at reads
  split at reads
  · cases reads
  · split at reads
    · cases reads
    · rename_i filled short
      exact ⟨Nat.pos_of_ne_zero filled, Nat.le_of_not_lt short, form⟩

/-- The raw names that can be read are the written forms of one to thirty-two bytes, and each of
them is read as the name that it is a form of. All others are refused. -/
theorem parse_accepts_forms (raw : String) (caller : Pid) :
    (∀ name, parse raw caller = .ok name ↔
      1 ≤ raw.utf8ByteSize ∧ raw.utf8ByteSize ≤ 32 ∧ Form caller raw name) ∧
    ((∃ name, parse raw caller = .ok name) ∨ ∃ refusal : NameFault,
      parse raw caller = .error refusal ∧ ∀ engine : Engine,
        Engine.readName raw caller engine = (.error (.invalidName refusal.message), engine)) := by
  refine ⟨fun name => parse_iff, ?_⟩
  cases reads : parse raw caller with
  | ok name => exact Or.inl ⟨name, rfl⟩
  | error refusal =>
      refine Or.inr ⟨refusal, rfl, fun engine => ?_⟩
      simp only [Engine.readName, Step.inspect, reads]
      rfl

theorem canonical_filled (name : Name) : 1 ≤ name.canonical.utf8ByteSize := by
  refine Nat.pos_of_ne_zero fun none => ?_
  have chars := name.canonical_chars
  rw [String.utf8ByteSize_eq_zero_iff.mp none] at chars
  cases scheme : name.scheme <;> simp [scheme, Scheme.lead, Scheme.label] at chars

theorem Form.canonical_form (form : Form caller raw name) (other : Pid) :
    Form other name.canonical name := by
  have written := fun owner : Pid => (Or.inl (Text.written_isDecimal owner) : Text.IsNumeral _ _)
  cases form with
  | own => exact .control (written caller)
  | control => exact .control (written _)
  | @service base ending owner whole ends =>
      have text : (stream base (owner.getD caller)).canonical =
          "svc:" ++ base ++ ("@" ++ toString (owner.getD caller)) := by
        rw [← String.append_assoc]
        rfl
      rw [text]
      exact .service whole (.owned (written _))
  | @app base ending owner whole ends =>
      cases owner with
      | none =>
          have text : (⟨.app, base, none⟩ : Name).canonical = "app:" ++ base ++ "" := by
            rw [String.append_empty]
            rfl
          rw [text]
          exact .app whole .bare
      | some owner =>
          have text : (⟨.app, base, some owner⟩ : Name).canonical =
              "app:" ++ base ++ ("@" ++ toString owner) := by
            rw [← String.append_assoc]
            rfl
          rw [text]
          exact .app whole (.owned (written _))
  | @shared base ending owner whole ends =>
      have text : (⟨.shared, base, none⟩ : Name).canonical = "shared:" ++ base ++ "" := by
        rw [String.append_empty]
        rfl
      rw [text]
      exact .shared whole .bare

/-- A service's raw name leaves its owner out, and the canonical text has no room for it. -/
def Crowded (raw : String) (caller : Pid) : Prop :=
  ∃ base, IsBase base ∧ (raw = "svc:" ++ base ∨ raw = "svc:" ++ base ++ "@") ∧
    27 < base.utf8ByteSize + (toString caller).utf8ByteSize

theorem canonical_long_of_crowded (reads : parse raw caller = .ok name)
    (crowded : Crowded raw caller) : 32 < name.canonical.utf8ByteSize := by
  obtain ⟨base, whole, written, long⟩ := crowded
  obtain ⟨filled, short, _⟩ := parse_iff.mp reads
  have form : Form caller raw (stream base caller) := by
    rcases written with rfl | rfl
    · have bare : Form caller ("svc:" ++ base ++ "") (stream base caller) := .service whole .bare
      rwa [String.append_empty] at bare
    · exact .service whole .marked
  cases reads.symm.trans (parse_of_form filled short form)
  have text : (stream base caller).canonical = "svc:" ++ base ++ "@" ++ toString caller := rfl
  have sign : ("@" : String).utf8ByteSize = 1 := rfl
  have lead : ("svc:" : String).utf8ByteSize = 4 := rfl
  simp only [text, String.utf8ByteSize_append, sign, lead]
  omega

theorem Form.canonical_short (form : Form caller raw name) (short : raw.utf8ByteSize ≤ 32)
    (roomy : ¬ Crowded raw caller) : name.canonical.utf8ByteSize ≤ 32 := by
  have sign : ("@" : String).utf8ByteSize = 1 := rfl
  cases form with
  | own =>
      have bound := Text.size_written_le caller
      have text : (Name.control caller).canonical = "pid:" ++ toString caller := rfl
      have lead : ("pid:" : String).utf8ByteSize = 4 := rfl
      simp only [text, String.utf8ByteSize_append, lead]
      omega
  | @control owner digits numeral =>
      have bound := numeral.size_ge
      have text : (Name.control owner).canonical = "pid:" ++ toString owner := rfl
      simp only [text, String.utf8ByteSize_append] at short ⊢
      omega
  | @service base ending owner whole ends =>
      have lead : ("svc:" : String).utf8ByteSize = 4 := rfl
      have text : (stream base (owner.getD caller)).canonical =
          "svc:" ++ base ++ "@" ++ toString (owner.getD caller) := rfl
      have room : ending = "" ∨ ending = "@" →
          base.utf8ByteSize + (toString caller).utf8ByteSize ≤ 27 := by
        rintro (rfl | rfl)
        · exact Nat.le_of_not_lt fun long => roomy ⟨base, whole, Or.inl String.append_empty, long⟩
        · exact Nat.le_of_not_lt fun long => roomy ⟨base, whole, Or.inr rfl, long⟩
      simp only [text, String.utf8ByteSize_append, sign, lead] at short ⊢
      cases ends with
      | bare =>
          have room := room (Or.inl rfl)
          simp only [Option.getD_none]
          omega
      | marked =>
          have room := room (Or.inr rfl)
          simp only [Option.getD_none]
          omega
      | owned numeral =>
          have bound := numeral.size_ge
          simp only [String.utf8ByteSize_append, sign, Option.getD_some] at short ⊢
          omega
  | @app base ending owner whole ends =>
      have bare : (⟨.app, base, none⟩ : Name).canonical = "app:" ++ base := rfl
      simp only [String.utf8ByteSize_append] at short
      cases ends with
      | bare | marked =>
          simp only [bare, String.utf8ByteSize_append]
          omega
      | @owned owner digits numeral =>
          have bound := numeral.size_ge
          have text : (⟨.app, base, some owner⟩ : Name).canonical =
              "app:" ++ base ++ "@" ++ toString owner := rfl
          simp only [text, String.utf8ByteSize_append] at short ⊢
          omega
  | @shared base ending owner whole ends =>
      have text : (⟨.shared, base, none⟩ : Name).canonical = "shared:" ++ base := rfl
      simp only [text, String.utf8ByteSize_append] at short ⊢
      omega

/-- The canonical text of a name that could be read is read as this name by every task, unless it
lacks the room for an owner that the raw name leaves out; then every task is refused. -/
theorem canonical_opens_iff (reads : parse raw caller = .ok name) (other : Pid) :
    (parse name.canonical other = .ok name ↔ ¬ Crowded raw caller) ∧
      (Crowded raw caller →
        parse name.canonical other = .error (.tooLong name.canonical.utf8ByteSize)) := by
  obtain ⟨_, short, form⟩ := parse_iff.mp reads
  have refused : Crowded raw caller →
      parse name.canonical other = .error (.tooLong name.canonical.utf8ByteSize) := by
    intro crowded
    have long := canonical_long_of_crowded reads crowded
    have exceeds : name.canonical.utf8ByteSize > maxBytes := long
    rw [parse, if_neg (by omega), if_pos exceeds]
  refine ⟨⟨fun opens crowded => ?_, fun roomy => ?_⟩, refused⟩
  · rw [refused crowded] at opens
    cases opens
  · have again := form.canonical_form other
    exact parse_iff.mpr ⟨name.canonical_filled, form.canonical_short short roomy, again⟩

/-- With its owner, this service takes all the room there is. -/
theorem full_name_opens :
    parse "svc:abcdefghijklmnopqrstuvwxyz@" 5 = .ok (stream "abcdefghijklmnopqrstuvwxyz" 5) ∧
      parse "svc:abcdefghijklmnopqrstuvwxyz@5" 6 = .ok (stream "abcdefghijklmnopqrstuvwxyz" 5) := by
  have reads : parse "svc:abcdefghijklmnopqrstuvwxyz@" 5 =
      .ok (stream "abcdefghijklmnopqrstuvwxyz" 5) := by decide +kernel
  have text : (stream "abcdefghijklmnopqrstuvwxyz" 5).canonical =
      "svc:abcdefghijklmnopqrstuvwxyz@5" := by decide +kernel
  have roomy : ¬ Crowded "svc:abcdefghijklmnopqrstuvwxyz@" 5 := by
    intro crowded
    have long := canonical_long_of_crowded reads crowded
    rw [text] at long
    exact absurd long (by decide)
  have opens := (canonical_opens_iff reads 6).1.mpr roomy
  rw [text] at opens
  exact ⟨reads, opens⟩

/-- A service of 28 letters. Its owner may leave himself out; nobody else can, and there is no
room to name him. -/
theorem long_service_unreachable :
    parse "svc:abcdefghijklmnopqrstuvwxyz01" 5 =
        .ok (stream "abcdefghijklmnopqrstuvwxyz01" 5) ∧
      (stream "abcdefghijklmnopqrstuvwxyz01" 5).canonical =
        "svc:abcdefghijklmnopqrstuvwxyz01@5" ∧
      ∀ other, parse "svc:abcdefghijklmnopqrstuvwxyz01@5" other = .error (.tooLong 34) := by
  refine ⟨by decide +kernel, by decide +kernel, fun other => ?_⟩
  have size : ("svc:abcdefghijklmnopqrstuvwxyz01@5" : String).utf8ByteSize = 34 := by decide
  rw [parse, size]
  rfl

end Name

end Mailroom
