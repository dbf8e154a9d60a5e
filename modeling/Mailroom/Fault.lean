import Mailroom.Ident
import Mailroom.Status
import Mailroom.Text.Numeral

/-!
Why a call fails: one constructor for each cause, its wording, and the status it is reported as.
-/

namespace Mailroom

inductive Direction where
  | read
  | write
  deriving DecidableEq, Repr, Inhabited

def Direction.text : Direction → String
  | .read => "read"
  | .write => "write"

inductive Fault where
  | wouldBlock
  | timedOut
  | invalidHandle (pid : Pid) (handle : Handle)
  | permissionDenied (handle : Handle) (direction : Direction)
  | tapUnsupported (handle : Handle)
  | noData
  | messageTooLarge (size capacity : Nat)
  | invalidName (reason : String)
  | invalidMode (word : UInt32)
  | invalidCapacity (capacity : UInt32)
  | unknownMailbox (name : String)
  | alreadyBound (name : String)
  | descriptorsExhausted
  | handleQuota (pid : Pid)
  | badAddress (address : UInt32)
  | unknownSelector (selector : UInt8)
  | internal (reason : String)
  deriving DecidableEq, Repr, Inhabited

namespace Fault

def message : Fault → String
  | .wouldBlock => "operation would block"
  | .timedOut => "timed out"
  | .invalidHandle pid handle => s!"invalid handle {handle} for pid {pid}"
  | .permissionDenied handle direction => s!"handle {handle} not opened for {direction.text}"
  | .tapUnsupported handle => s!"handle {handle} was not opened in tap mode"
  | .noData => "no data"
  | .messageTooLarge size capacity =>
    s!"message of {size} bytes exceeds mailbox capacity {capacity}"
  | .invalidName reason => "invalid mailbox name: " ++ reason
  | .invalidMode word => "invalid mode 0x" ++ Text.hexNumeral 4 word.toNat
  | .invalidCapacity capacity => s!"invalid capacity {capacity}"
  | .unknownMailbox name => "unknown mailbox " ++ name
  | .alreadyBound name => "mailbox " ++ name ++ " already bound with a different configuration"
  | .descriptorsExhausted => "descriptor pool exhausted"
  | .handleQuota pid => s!"handle limit reached for pid {pid}"
  | .badAddress address => "bad user address 0x" ++ Text.hexNumeral 4 address.toNat
  | .unknownSelector selector => "unknown trap selector 0x" ++ Text.hexNumeral 2 selector.toNat
  | .internal reason => "internal error: " ++ reason

def status : Fault → Status
  | .wouldBlock => .wouldBlock
  | .timedOut => .timedOut
  | .invalidHandle .. | .permissionDenied .. | .tapUnsupported _ => .invalidHandle
  | .noData => .noData
  | .messageTooLarge .. => .messageTooLarge
  | .invalidName _ | .invalidMode _ | .invalidCapacity _ | .unknownMailbox _ | .alreadyBound _
  | .descriptorsExhausted | .handleQuota _ | .badAddress _ => .noDescriptor
  | .unknownSelector _ | .internal _ => .internalError

/-- Whether the fault shows a broken invariant, after which the engine refuses to go on. -/
def isFatal : Fault → Bool
  | .internal _ => true
  | _ => false

end Fault

end Mailroom
