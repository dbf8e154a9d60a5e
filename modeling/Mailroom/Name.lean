import Mailroom.Fault
import Mailroom.Text.Quoted

/-!
Mailbox names: a scheme, a base and sometimes an owner, read from raw text on behalf of a task.
The canonical text makes the owner explicit, so that it names the same mailbox for every task.
-/

namespace Mailroom

inductive Scheme where
  | pid
  | svc
  | app
  | shared
  deriving DecidableEq, Repr, Inhabited

namespace Scheme

def all : List Scheme := [.pid, .svc, .app, .shared]

def label : Scheme → String
  | .pid => "pid"
  | .svc => "svc"
  | .app => "app"
  | .shared => "shared"

def lead (scheme : Scheme) : String := scheme.label ++ ":"

def after? : List Char → List Char → Option (List Char)
  | [], chars => some chars
  | char :: lead, first :: chars => if char = first then after? lead chars else none
  | _ :: _, [] => none

def split? (chars : List Char) : Option (Scheme × List Char) :=
  all.findSome? fun scheme => (after? scheme.lead.toList chars).map (scheme, ·)

end Scheme

structure Name where
  scheme : Scheme
  base : String
  owner : Option Pid
  deriving DecidableEq, Repr, Inhabited

def Scheme.rank : Scheme → Nat
  | .pid => 0
  | .svc => 1
  | .app => 2
  | .shared => 3

instance : Ord Scheme := ⟨compareOn Scheme.rank⟩

instance : Std.TransOrd Scheme := inferInstanceAs (Std.TransCmp (compareOn Scheme.rank))

instance : Std.LawfulEqOrd Scheme where
  eq_of_compare := by
    intro left right same
    have ranks : left.rank = right.rank := Std.LawfulEqOrd.eq_of_compare (by exact same)
    cases left <;> cases right <;> first | rfl | exact absurd ranks (by decide)

def Name.order : Name → Name → Ordering :=
  compareLex (compareOn Name.scheme) (compareLex (compareOn Name.base) (compareOn Name.owner))

instance : Ord Name := ⟨Name.order⟩

instance : Std.TransOrd Name :=
  inferInstanceAs (Std.TransCmp
    (compareLex (compareOn Name.scheme) (compareLex (compareOn Name.base) (compareOn Name.owner))))

instance : Std.LawfulEqOrd Name where
  eq_of_compare := by
    intro left right same
    obtain ⟨leftScheme, leftBase, leftOwner⟩ := left
    obtain ⟨rightScheme, rightBase, rightOwner⟩ := right
    have parts := compareLex_eq_eq.mp same
    have others := compareLex_eq_eq.mp parts.2
    rw [Std.LawfulEqOrd.eq_of_compare (a := leftScheme) (b := rightScheme) parts.1,
      Std.LawfulEqOrd.eq_of_compare (a := leftBase) (b := rightBase) others.1,
      Std.LawfulEqOrd.eq_of_compare (a := leftOwner) (b := rightOwner) others.2]

inductive NameFault where
  | empty
  | tooLong (size : Nat)
  | unknownLead (raw : String)
  | badOwner (raw : String)
  | emptyBase (raw : String)
  | unterminated (limit : Nat)
  | notText
  deriving DecidableEq, Repr

namespace Name

def maxBytes : Nat := 32

end Name

namespace NameFault

def message : NameFault → String
  | .empty => "empty name"
  | .tooLong size => s!"{size} bytes exceeds {Name.maxBytes} byte limit"
  | .unknownLead raw => "unknown prefix in " ++ Text.quote raw
  | .badOwner raw => "bad owner pid in " ++ Text.quote raw
  | .emptyBase raw => "empty base in " ++ Text.quote raw
  | .unterminated limit => s!"name exceeds {limit} bytes"
  | .notText => "name is not valid UTF-8"

def fault (nameFault : NameFault) : Fault := .invalidName nameFault.message

end NameFault

namespace Name

/-- Parts a body at its first at-sign. Nothing after the sign is no owner. The owner is read
before the base is looked at. -/
def splitOwner (raw : String) (body : List Char) : Except NameFault (String × Option Pid) :=
  let base := body.takeWhile (· ≠ '@')
  let owner : Except NameFault (Option Pid) :=
    match body.dropWhile (· ≠ '@') with
    | [] | ['@'] => .ok none
    | _ :: digits =>
      match Text.wordNumeral? digits with
      | some pid => .ok (some pid)
      | none => .error (.badOwner raw)
  match owner with
  | .error fault => .error fault
  | .ok owner => if base = [] then .error (.emptyBase raw) else .ok (String.ofList base, owner)

def control (owner : Pid) : Name := ⟨.pid, toString owner, some owner⟩

def stream (base : String) (owner : Pid) : Name := ⟨.svc, base, some owner⟩

def parse (raw : String) (caller : Pid) : Except NameFault Name :=
  if raw.utf8ByteSize = 0 then .error .empty
  else if raw.utf8ByteSize > maxBytes then .error (.tooLong raw.utf8ByteSize)
  else match Scheme.split? raw.toList with
    | none => .error (.unknownLead raw)
    | some (.pid, []) => .ok (control caller)
    | some (.pid, digits) =>
      match Text.wordNumeral? digits with
      | some owner => .ok (control owner)
      | none => .error (.badOwner raw)
    | some (.svc, body) =>
      (splitOwner raw body).map fun (base, owner) => ⟨.svc, base, some (owner.getD caller)⟩
    | some (.app, body) => (splitOwner raw body).map fun (base, owner) => ⟨.app, base, owner⟩
    | some (.shared, body) => (splitOwner raw body).map fun (base, _) => ⟨.shared, base, none⟩

def canonical (name : Name) : String :=
  match name.scheme, name.owner with
  | .pid, _ | _, none => name.scheme.lead ++ name.base
  | _, some owner => name.scheme.lead ++ name.base ++ "@" ++ toString owner

def streams : List String := ["stdio.in", "stdio.out", "stdio.err"]

/-- Names that opening binds by itself, and whose mailboxes live as long as their owner. -/
def isWellKnown (name : Name) : Bool :=
  match name.scheme with
  | .pid => true
  | .svc => name.base ∈ streams
  | .app | .shared => false

end Name

end Mailroom
