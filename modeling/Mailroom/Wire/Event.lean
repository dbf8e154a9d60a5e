import Mailroom.Wire.TrapCall

/-!
Events on the wire: records that begin with the type of the event. Alternatives inside an event
are read loosely: an object without fields may stand where others have null.
-/

namespace Mailroom.Event

def typeLabel : Event → String
  | .created .. => "created"
  | .destroyed .. => "destroyed"
  | .sent .. => "send"
  | .received .. => "recv"
  | .waiting .. => "wait"
  | .woken .. => "wake"
  | .timedOut .. => "timeout"
  | .overrun .. => "overrun"
  | .tapped .. => "tap"
  | .exhausted .. => "exhausted"

def fields : Event → List (String × Json)
  | .created mailbox name capacity policy creator =>
    [("mailbox", mailbox.toJson), ("name", .text name), ("capacity", .word capacity),
     ("policy", policy.toJson), ("creator", .word creator)]
  | .destroyed mailbox name discarded =>
    [("mailbox", mailbox.toJson), ("name", .text name), ("discarded", .nat discarded)]
  | .sent pid mailbox bytes channel =>
    [("pid", .word pid), ("mailbox", mailbox.toJson), ("bytes", .nat bytes),
     ("channel", .word channel)]
  | .received pid mailbox bytes marked =>
    [("pid", .word pid), ("mailbox", mailbox.toJson), ("bytes", .nat bytes),
     ("overrun", .bool marked)]
  | .waiting pid mailbox kind | .woken pid mailbox kind | .timedOut pid mailbox kind =>
    [("pid", .word pid), ("mailbox", mailbox.toJson), ("op", kind.toJson)]
  | .overrun mailbox pid handle =>
    [("mailbox", mailbox.toJson), ("pid", .word pid), ("handle", .word handle)]
  | .tapped pid mailbox handle enabled =>
    [("pid", .word pid), ("mailbox", mailbox.toJson), ("handle", .word handle),
     ("enabled", .bool enabled)]
  | .exhausted pid reason => [("pid", .word pid), ("reason", reason.toJson)]

def toJson (event : Event) : Json := .object (("type", .text event.typeLabel) :: event.fields)

def policy? (value : Json) : Option Policy := value.looseLabel? Policy.all Policy.label

def kind? (value : Json) : Option BlockingKind :=
  value.looseLabel? BlockingKind.all BlockingKind.label

def reason? (value : Json) : Option Exhaustion :=
  value.looseLabel? Exhaustion.all Exhaustion.label

def blocking? (record : Json) : Option (Pid × MailboxId × BlockingKind) := do
  match ← record.fields? ["pid", "mailbox", "op"] with
  | [pid, mailbox, kind] =>
    return (← pid.word?, ← MailboxId.ofJson? mailbox, ← kind? kind)
  | _ => none

def ofJson? (value : Json) : Option Event := do
  let (label, record) ← value.tagged? "type"
  match label with
  | "created" =>
    match ← record.fields? ["mailbox", "name", "capacity", "policy", "creator"] with
    | [mailbox, name, capacity, policy, creator] =>
      return .created (← MailboxId.ofJson? mailbox) (← name.text?) (← capacity.word?)
        (← policy? policy) (← creator.word?)
    | _ => none
  | "destroyed" =>
    match ← record.fields? ["mailbox", "name", "discarded"] with
    | [mailbox, name, discarded] =>
      return .destroyed (← MailboxId.ofJson? mailbox) (← name.text?) (← discarded.size?)
    | _ => none
  | "send" =>
    match ← record.fields? ["pid", "mailbox", "bytes", "channel"] with
    | [pid, mailbox, bytes, channel] =>
      return .sent (← pid.word?) (← MailboxId.ofJson? mailbox) (← bytes.size?) (← channel.word?)
    | _ => none
  | "recv" =>
    match ← record.fields? ["pid", "mailbox", "bytes", "overrun"] with
    | [pid, mailbox, bytes, marked] =>
      return .received (← pid.word?) (← MailboxId.ofJson? mailbox) (← bytes.size?)
        (← marked.bool?)
    | _ => none
  | "wait" => (blocking? record).map fun (pid, mailbox, kind) => .waiting pid mailbox kind
  | "wake" => (blocking? record).map fun (pid, mailbox, kind) => .woken pid mailbox kind
  | "timeout" => (blocking? record).map fun (pid, mailbox, kind) => .timedOut pid mailbox kind
  | "overrun" =>
    match ← record.fields? ["mailbox", "pid", "handle"] with
    | [mailbox, pid, handle] =>
      return .overrun (← MailboxId.ofJson? mailbox) (← pid.word?) (← handle.word?)
    | _ => none
  | "tap" =>
    match ← record.fields? ["pid", "mailbox", "handle", "enabled"] with
    | [pid, mailbox, handle, enabled] =>
      return .tapped (← pid.word?) (← MailboxId.ofJson? mailbox) (← handle.word?)
        (← enabled.bool?)
    | _ => none
  | "exhausted" =>
    match ← record.fields? ["pid", "reason"] with
    | [pid, reason] => return .exhausted (← pid.word?) (← reason? reason)
    | _ => none
  | _ => none

end Mailroom.Event
