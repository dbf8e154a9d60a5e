import Mailroom.Host.Handler
import Mailroom.Proofs.Bytes
import Mailroom.Wire.Reply
import Mathlib.Data.List.Basic
import Mathlib.Data.String.Basic

/-!
Lines and what is written on them: a newline ends a line and never stands inside of one, also not
inside of a reply.
-/

namespace Mailroom

namespace Line

theorem newline_mem_encoded {char : Char} (inside : newline ∈ String.utf8EncodeChar char) :
    char = '\n' := by
  have small : char.val.toNat = 10 := by
    simp only [String.utf8EncodeChar, newline] at inside
    split_ifs at inside <;>
      simp only [List.mem_cons, List.not_mem_nil, ← UInt8.toNat_inj, UInt8.toNat_ofNat',
        UInt8.reduceToNat, or_false] at inside <;>
      omega
  exact Char.ext (UInt32.toNat_inj.mp small)

theorem newline_mem_ofText {text : String} (inside : newline ∈ Bytes.ofText text) :
    '\n' ∈ text.toList := by
  rw [Bytes.ofText_eq, List.mem_flatMap] at inside
  obtain ⟨char, member, inside⟩ := inside
  exact newline_mem_encoded inside ▸ member

theorem split_append {line rest : Bytes} (whole : newline ∉ line) :
    split (line ++ newline :: rest) = line :: split rest := by
  induction line with
  | nil => simp [split]
  | cons byte line ih =>
      have differs : byte ≠ newline := by
        rintro rfl
        exact whole List.mem_cons_self
      have later := ih fun inside => whole (List.mem_cons_of_mem _ inside)
      simp [split, differs, later]

theorem split_flatMap {lines : List Bytes} (whole : ∀ line ∈ lines, newline ∉ line) :
    split (lines.flatMap (· ++ [newline])) = lines := by
  induction lines with
  | nil => rfl
  | cons line lines ih =>
      have later := ih fun other member => whole other (List.mem_cons_of_mem _ member)
      rw [List.flatMap_cons, List.append_assoc, List.singleton_append,
        split_append (whole line List.mem_cons_self), later]

end Line

namespace Json

inductive Plain : Json → Prop
  | null : Plain .null
  | bool (value : Bool) : Plain (.bool value)
  | integer (value : Int) : Plain (.integer value)
  | decimal {literal : String} (unbroken : '\n' ∉ literal.toList) : Plain (.decimal literal)
  | text (value : String) : Plain (.text value)
  | array {items : List Json} (plain : ∀ item ∈ items, Plain item) : Plain (.array items)
  | object {fields : List (String × Json)} (plain : ∀ field ∈ fields, Plain field.2) :
      Plain (.object fields)
  | illegible {written : String} (unbroken : '\n' ∉ written.toList) : Plain (.illegible written)

theorem newline_not_mem_escape (char : Char) : '\n' ∉ escape char := by
  have digits : ∀ high < 2, ∀ low < 16, '\n' ≠ Nat.digitChar high ∧ '\n' ≠ Nat.digitChar low := by
    decide
  unfold escape
  repeat' split
  all_goals first | decide | skip
  next control =>
    have parts := digits (char.toNat / 16) (by omega) (char.toNat % 16) (by omega)
    simp [parts]
  next line _ _ _ =>
    simpa using fun same => line same.symm

theorem newline_not_mem_stringChars (value : String) : '\n' ∉ stringChars value := by
  simp [stringChars, newline_not_mem_escape]

theorem newline_not_mem_integer (value : Int) : '\n' ∉ (toString value).toList := by
  have digits : ∀ number : Nat, '\n' ∉ Nat.toDigits 10 number := by
    intro number inside
    have digit := Nat.isDigit_of_mem_toDigits (by decide) (by decide) inside
    exact absurd digit (by decide)
  rw [Int.toString_eq_repr, Int.repr_eq_if]
  split <;> simp [digits]

theorem newline_not_mem_itemChars {items : List Json} (each : ∀ item ∈ items, '\n' ∉ chars item) :
    '\n' ∉ itemChars items := by
  induction items with
  | nil => simp [itemChars]
  | cons item items ih =>
      simp only [List.mem_cons, forall_eq_or_imp] at each
      simp [itemChars, each.1, ih each.2]

theorem newline_not_mem_fieldsChars {fields : List (String × Json)}
    (each : ∀ field ∈ fields, '\n' ∉ chars field.2) : '\n' ∉ fieldsChars fields := by
  induction fields with
  | nil => simp [fieldsChars]
  | cons field fields ih =>
      obtain ⟨key, value⟩ := field
      simp only [List.mem_cons, forall_eq_or_imp] at each
      simp [fieldsChars, fieldChars, newline_not_mem_stringChars, each.1, ih each.2]

theorem Plain.newline_not_mem_chars {value : Json} (plain : Plain value) : '\n' ∉ value.chars := by
  induction plain with
  | null => decide
  | bool value => cases value <;> decide
  | integer value => simpa [chars] using newline_not_mem_integer value
  | decimal unbroken => simpa [chars] using unbroken
  | text value => simpa [chars] using newline_not_mem_stringChars value
  | @array items _ each =>
      cases items with
      | nil => simp [chars]
      | cons item items =>
          simp only [List.mem_cons, forall_eq_or_imp] at each
          simp [chars, each.1, newline_not_mem_itemChars each.2]
  | @object fields _ each =>
      cases fields with
      | nil => simp [chars]
      | cons field fields =>
          obtain ⟨key, value⟩ := field
          simp only [List.mem_cons, forall_eq_or_imp] at each
          simp [chars, fieldChars, newline_not_mem_stringChars, each.1,
            newline_not_mem_fieldsChars each.2]
  | illegible unbroken => simpa [chars] using unbroken

theorem Plain.newline_not_mem_render {value : Json} (plain : Plain value) :
    Line.newline ∉ Bytes.ofText value.render := by
  intro inside
  have broken := Line.newline_mem_ofText inside
  rw [render, String.toList_ofList] at broken
  exact plain.newline_not_mem_chars broken

theorem Plain.fields {fields : List (String × Json)}
    (plain : (fields.map Prod.snd).Forall Plain) : Plain (.object fields) :=
  .object fun _ member => List.forall_iff_forall_mem.mp plain _ (List.mem_map_of_mem member)

theorem Plain.option {α : Type} {encode : α → Json} (plain : ∀ value, Plain (encode value)) :
    ∀ value, Plain (Json.option encode value)
  | none => .null
  | some value => plain value

theorem plain_word (value : UInt16) : Plain (.word value) := .integer _

end Json

namespace Reply

def Plain : Reply → Prop
  | .success data => data.Plain
  | .failure .. => True

def text (reply : Reply) : Bytes := Bytes.ofText reply.toJson.render

theorem newline_not_mem_text {reply : Reply} (plain : reply.Plain) :
    Line.newline ∉ reply.text := by
  have written : reply.toJson.Plain := by
    cases reply with
    | success data => exact .fields ⟨.text _, plain⟩
    | failure message code => exact .fields ⟨.text _, .text _, .integer _⟩
  exact written.newline_not_mem_render

theorem split_lines {replies : List Reply} (plain : ∀ reply ∈ replies, reply.Plain) :
    Line.split (replies.flatMap Reply.line) = replies.map text := by
  have lines : replies.flatMap Reply.line = (replies.map text).flatMap (· ++ [Line.newline]) := by
    rw [List.flatMap_map]
    rfl
  rw [lines, Line.split_flatMap]
  intro line member
  obtain ⟨reply, replied, rfl⟩ := List.mem_map.mp member
  exact newline_not_mem_text (plain reply replied)

end Reply

theorem Snapshot.toJson_plain (snapshot : Snapshot) : snapshot.toJson.Plain :=
  .fields ⟨.integer _, .text _, .text _, .option Json.plain_word _, .integer _, .integer _,
    .integer _, .integer _, .text _, .integer _, .bool _, .integer _, .integer _⟩

theorem Response.reply_plain (stamp : String) (response : Response) :
    (response.reply stamp).Plain := by
  cases response with
  | standard task handles => exact .fields ⟨.integer _, .integer _, .integer _⟩
  | reaped task count => exact .integer _
  | handle given | accepted given | closed given => exact .fields (.integer _)
  | tapped flag | reset flag => exact .fields (.bool _)
  | received receipt =>
      exact .fields ⟨.integer _, .integer _, .integer _, .integer _, .bool _, .text _,
        .option .text _, .text _⟩
  | peek seen => exact .fields ⟨.integer _, .integer _, .integer _, .integer _⟩
  | mailboxes snapshots =>
      refine .array fun item member => ?_
      obtain ⟨snapshot, -, rfl⟩ := List.mem_map.mp member
      exact snapshot.toJson_plain
  | fault cause | refused cause => trivial

end Mailroom
