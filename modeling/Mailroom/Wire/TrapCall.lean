import Mailroom.Bytes
import Mailroom.Event
import Mailroom.Json.Value
import Mailroom.Limits
import Mailroom.Message
import Mailroom.Name
import Mailroom.Trap.Call
import Mailroom.Trap.Selector
import Mailroom.Waiting.Condition

/-!
Words of the wire: statuses, selectors, policies and other alternatives by their labels, flags and
modes by the names of their bits, timeouts, and trap calls as records for those who watch them.
-/

namespace Mailroom

def Status.toJson (status : Status) : Json := .text status.label

def Status.ofJson? (value : Json) : Option Status := value.label? Status.all Status.label

def Selector.toJson (selector : Selector) : Json := .text selector.label

def Selector.ofJson? (value : Json) : Option Selector := value.label? Selector.all Selector.label

def Profile.toJson (profile : Profile) : Json := .text profile.label

def Profile.ofJson? (value : Json) : Option Profile := value.label? Profile.all Profile.label

def Policy.toJson (policy : Policy) : Json := .text policy.label

def Policy.ofJson? (value : Json) : Option Policy := value.label? Policy.all Policy.label

def Scheme.toJson (scheme : Scheme) : Json := .text scheme.label

def Scheme.ofJson? (value : Json) : Option Scheme := value.label? Scheme.all Scheme.label

def BlockingKind.toJson (kind : BlockingKind) : Json := .text kind.label

def Exhaustion.toJson (reason : Exhaustion) : Json := .text reason.label

def Mode.toJson (mode : Mode) : Json := .text (Text.writeFlags Mode.names mode.bits)

def Mode.ofJson? (value : Json) : Option Mode :=
  value.text?.bind fun text => (Text.readFlags? Mode.names text).map Mode.mk

def Flags.toJson (flags : Flags) : Json := .text (Text.writeFlags Flags.names flags.bits)

def Flags.ofJson? (value : Json) : Option Flags :=
  value.text?.bind fun text => (Text.readFlags? Flags.names text).map Flags.mk

def Timeout.plain : List (String × Timeout) := [("poll", .poll), ("infinite", .infinite)]

def Timeout.toJson : Timeout → Json
  | .poll => .text "poll"
  | .millis count => .field "millis" (.word count)
  | .infinite => .text "infinite"

def Timeout.ofJson? : Json → Option Timeout
  | .object [("millis", count)] => count.word?.map .millis
  | value => (value.label? Timeout.plain Prod.fst).map Prod.snd

def MailboxId.toJson (id : MailboxId) : Json := .nat id.number.toNat

def MailboxId.ofJson? (value : Json) : Option MailboxId := value.wideWord?.map MailboxId.mk

namespace TrapCall

def selector : TrapCall → Selector
  | .openName .. => .openName
  | .bindName .. => .bindName
  | .send .. => .send
  | .receive .. => .receive
  | .peek _ => .peek
  | .tap .. => .tap
  | .close _ => .close

def fields : TrapCall → List (String × Json)
  | .openName name mode => [("name", .text name), ("mode", .word mode)]
  | .bindName name capacity mode =>
    [("name", .text name), ("capacity", .word capacity), ("mode", .word mode)]
  | .send handle payload flags channel timeout =>
    [("handle", .word handle), ("payload", .text (Text.hex payload)), ("flags", .word flags),
     ("channel", .word channel), ("timeout", timeout.toJson)]
  | .receive handle buffer room timeout info =>
    [("handle", .word handle), ("buffer", .nat buffer.toNat), ("max_len", .nat room),
     ("timeout", timeout.toJson), ("info", .nat info.toNat)]
  | .peek handle | .close handle => [("handle", .word handle)]
  | .tap handle enabled => [("handle", .word handle), ("enable", .bool enabled)]

def toJson (call : TrapCall) : Json := .object (("call", call.selector.toJson) :: call.fields)

end TrapCall

end Mailroom
