/-!
Resource limits of one engine, and the two profiles they come in.
-/

namespace Mailroom

structure Limits where
  maxDescriptors : Nat := 256
  handlesPerTask : Nat := 64
  defaultCapacity : UInt16 := 64
  maxCapacity : UInt16 := 16384
  eventCapacity : Nat := 1024
  deriving DecidableEq, Repr, Inhabited

def Limits.ringCapacity : UInt16 := 64

/-- Every limit is at least one, and the default capacity is usable. -/
def Limits.normalized (limits : Limits) : Limits :=
  let largest := max limits.maxCapacity 1
  { maxDescriptors := max limits.maxDescriptors 1
    handlesPerTask := max limits.handlesPerTask 1
    defaultCapacity :=
      if limits.defaultCapacity = 0 ∨ limits.defaultCapacity > largest then
        min Limits.ringCapacity largest
      else limits.defaultCapacity
    maxCapacity := largest
    eventCapacity := max limits.eventCapacity 1 }

inductive Profile where
  | desktop
  | embedded
  deriving DecidableEq, Repr, Inhabited

namespace Profile

def all : List Profile := [.desktop, .embedded]

def label : Profile → String
  | .desktop => "desktop"
  | .embedded => "embedded"

def limits : Profile → Limits
  | .desktop => {}
  | .embedded =>
    { maxDescriptors := 16, handlesPerTask := 8, maxCapacity := 1024, eventCapacity := 64 }

structure Unknown where
  name : String
  deriving DecidableEq, Repr

def Unknown.message (unknown : Unknown) : String := "unknown mailbox profile: " ++ unknown.name

def ofText (text : String) : Except Unknown Profile :=
  let name := text.map Char.toLower
  match all.find? fun profile => profile.label = name with
  | some profile => .ok profile
  | none => .error ⟨name⟩

end Profile

end Mailroom
