import Std.Data.ExtTreeMap

/-!
Who takes part: tasks, their handles, and mailboxes. Each kind of identifier has a linear order,
so that tables over them list their entries in one way only.
-/

namespace Mailroom

abbrev Pid := UInt16

abbrev Handle := UInt16

structure MailboxId where
  number : UInt32
  deriving DecidableEq, Repr, Inhabited

structure Endpoint where
  pid : Pid
  handle : Handle
  deriving DecidableEq, Repr, Inhabited

abbrev Table (κ α : Type) [Ord κ] := Std.ExtTreeMap κ α

instance : Ord MailboxId := ⟨compareOn MailboxId.number⟩

instance : Std.TransOrd MailboxId :=
  inferInstanceAs (Std.TransCmp (compareOn MailboxId.number))

instance : Std.LawfulEqOrd MailboxId where
  eq_of_compare := by
    intro left right same
    obtain ⟨leftNumber⟩ := left
    obtain ⟨rightNumber⟩ := right
    have numbers : leftNumber = rightNumber := Std.LawfulEqOrd.eq_of_compare (by exact same)
    rw [numbers]

instance : Ord Endpoint := ⟨compareLex (compareOn Endpoint.pid) (compareOn Endpoint.handle)⟩

instance : Std.TransOrd Endpoint :=
  inferInstanceAs (Std.TransCmp (compareLex (compareOn Endpoint.pid) (compareOn Endpoint.handle)))

instance : Std.LawfulEqOrd Endpoint where
  eq_of_compare := by
    intro left right same
    obtain ⟨leftPid, leftHandle⟩ := left
    obtain ⟨rightPid, rightHandle⟩ := right
    have both : compare leftPid rightPid = .eq ∧ compare leftHandle rightHandle = .eq :=
      compareLex_eq_eq.mp same
    rw [Std.LawfulEqOrd.eq_of_compare both.1, Std.LawfulEqOrd.eq_of_compare both.2]

def MailboxId.text (id : MailboxId) : String := "mbx#" ++ toString id.number

end Mailroom
