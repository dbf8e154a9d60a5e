import Mailroom.Ident

/-!
What a blocked call waits for and for how long, and who is woken when it comes about.
-/

namespace Mailroom

inductive ConditionKind where
  | readable
  | subscriber
  | writable
  deriving DecidableEq, Repr, Inhabited

namespace ConditionKind

def all : List ConditionKind := [.readable, .subscriber, .writable]

def label : ConditionKind → String
  | .readable => "readable"
  | .subscriber => "subscriber"
  | .writable => "writable"

def rank : ConditionKind → Nat
  | .readable => 0
  | .subscriber => 1
  | .writable => 2

end ConditionKind

structure Condition where
  kind : ConditionKind
  mailbox : MailboxId
  deriving DecidableEq, Repr, Inhabited

def Condition.allOf (mailbox : MailboxId) : List Condition :=
  ConditionKind.all.map fun kind => ⟨kind, mailbox⟩

instance : Ord ConditionKind := ⟨compareOn ConditionKind.rank⟩

instance : Std.TransOrd ConditionKind :=
  inferInstanceAs (Std.TransCmp (compareOn ConditionKind.rank))

instance : Std.LawfulEqOrd ConditionKind where
  eq_of_compare := by
    intro left right same
    have ranks : left.rank = right.rank := Std.LawfulEqOrd.eq_of_compare (by exact same)
    cases left <;> cases right <;> first | rfl | exact absurd ranks (by decide)

instance : Ord Condition := ⟨compareLex (compareOn Condition.kind) (compareOn Condition.mailbox)⟩

instance : Std.TransOrd Condition :=
  inferInstanceAs
    (Std.TransCmp (compareLex (compareOn Condition.kind) (compareOn Condition.mailbox)))

instance : Std.LawfulEqOrd Condition where
  eq_of_compare := by
    intro left right same
    obtain ⟨leftKind, leftMailbox⟩ := left
    obtain ⟨rightKind, rightMailbox⟩ := right
    have parts := compareLex_eq_eq.mp same
    rw [Std.LawfulEqOrd.eq_of_compare (a := leftKind) (b := rightKind) parts.1,
      Std.LawfulEqOrd.eq_of_compare (a := leftMailbox) (b := rightMailbox) parts.2]

inductive WakeScope where
  | one
  | all
  deriving DecidableEq, Repr, Inhabited

def WakeScope.label : WakeScope → String
  | .one => "one"
  | .all => "all"

structure Wakeup where
  condition : Condition
  scope : WakeScope
  deriving DecidableEq, Repr, Inhabited

inductive Timeout where
  | poll
  | millis (count : UInt16)
  | infinite
  deriving DecidableEq, Repr, Inhabited

namespace Timeout

/-- Zero never waits and the largest word waits without end. -/
def ofWord (word : UInt16) : Timeout :=
  if word = 0 then .poll
  else if word = 0xffff then .infinite
  else .millis word

def word : Timeout → UInt16
  | .poll => 0
  | .millis count => count
  | .infinite => 0xffff

def isPoll : Timeout → Bool
  | .poll => true
  | .millis count => count = 0
  | .infinite => false

def duration? : Timeout → Option Nat
  | .poll => some 0
  | .millis count => some count.toNat
  | .infinite => none

end Timeout

end Mailroom
