import Mailroom.Engine.Lifecycle
import Mailroom.Engine.Transfer
import Mailroom.Wire.TrapCall

/-!
Records of the wire: limits, message headers, receipts and information blocks, names, and what
can be seen of mailboxes and handles.
-/

namespace Mailroom

def Limits.toJson (limits : Limits) : Json :=
  .object
    [("max_descriptors", .nat limits.maxDescriptors),
     ("handle_limit_per_pid", .nat limits.handlesPerTask),
     ("default_capacity", .word limits.defaultCapacity),
     ("max_capacity", .word limits.maxCapacity),
     ("event_capacity", .nat limits.eventCapacity)]

/-- What a record of limits leaves out is as on a desktop. -/
def Limits.ofJson? (value : Json) : Option Limits := do
  let usual : Limits := {}
  match ← value.record?
      [("max_descriptors", .optional), ("handle_limit_per_pid", .optional),
       ("default_capacity", .optional), ("max_capacity", .optional),
       ("event_capacity", .optional)] with
  | [descriptors, handles, capacity, largest, events] =>
    return {
      maxDescriptors := ← Json.orElse? usual.maxDescriptors Json.size? descriptors
      handlesPerTask := ← Json.orElse? usual.handlesPerTask Json.size? handles
      defaultCapacity := ← Json.orElse? usual.defaultCapacity Json.word? capacity
      maxCapacity := ← Json.orElse? usual.maxCapacity Json.word? largest
      eventCapacity := ← Json.orElse? usual.eventCapacity Json.size? events }
  | _ => none

def Header.toJson (header : Header) : Json :=
  .object
    [("length", .word header.length), ("flags", header.flags.toJson),
     ("src_id", .word header.source), ("channel", .word header.channel)]

def Header.ofJson? (value : Json) : Option Header := do
  match ← value.fields? ["length", "flags", "src_id", "channel"] with
  | [length, flags, source, channel] =>
    return ⟨← length.word?, ← Flags.ofJson? flags, ← source.word?, ← channel.word?⟩
  | _ => none

def Receipt.toJson (receipt : Receipt) : Json :=
  .object
    [("header", receipt.header.toJson),
     ("payload", .array (receipt.payload.map fun byte => .nat byte.toNat))]

def Receipt.ofJson? (value : Json) : Option Receipt := do
  match ← value.fields? ["header", "payload"] with
  | [header, payload] =>
    let bytes ← (← payload.array?).mapM fun byte => (byte.nat? 0xff).map UInt8.ofNat
    return ⟨← Header.ofJson? header, bytes⟩
  | _ => none

def InfoBlock.toJson (block : InfoBlock) : Json :=
  .object
    [("status", .word block.status), ("length", .word block.length), ("flags", .word block.flags),
     ("channel", .word block.channel), ("src_id", .word block.source)]

def InfoBlock.ofJson? (value : Json) : Option InfoBlock := do
  match ← (← value.fields? ["status", "length", "flags", "channel", "src_id"]).mapM Json.word? with
  | [status, length, flags, channel, source] => return { status, length, flags, channel, source }
  | _ => none

def Name.toJson (name : Name) : Json :=
  .object
    [("namespace", name.scheme.toJson), ("base", .text name.base),
     ("owner", .option .word name.owner)]

def Name.ofJson? (value : Json) : Option Name := do
  match ← value.record? [("namespace", .required), ("base", .required), ("owner", .nullable)] with
  | [some scheme, some base, some owner] =>
    return ⟨← Scheme.ofJson? scheme, ← base.text?, ← owner.orNull? Json.word?⟩
  | _ => none

def Peek.toJson (peek : Peek) : Json :=
  .object
    [("depth", .nat peek.depth), ("bytes_used", .nat peek.used), ("capacity", .nat peek.capacity),
     ("next_len", .word peek.nextLength)]

def Peek.ofJson? (value : Json) : Option Peek := do
  match ← value.fields? ["depth", "bytes_used", "capacity", "next_len"] with
  | [depth, used, capacity, nextLength] =>
    return ⟨← depth.size?, ← used.size?, ← capacity.size?, ← nextLength.word?⟩
  | _ => none

def StandardHandles.toJson (handles : StandardHandles) : Json :=
  .object
    [("stdin", .word handles.stdin), ("stdout", .word handles.stdout),
     ("stderr", .word handles.stderr)]

def StandardHandles.ofJson? (value : Json) : Option StandardHandles := do
  match ← (← value.fields? ["stdin", "stdout", "stderr"]).mapM Json.word? with
  | [stdin, stdout, stderr] => return { stdin, stdout, stderr }
  | _ => none

def Snapshot.toJson (snapshot : Snapshot) : Json :=
  .object
    [("id", snapshot.id.toJson), ("name", .text snapshot.name),
     ("namespace", snapshot.scheme.toJson), ("owner", .option .word snapshot.owner),
     ("creator", .word snapshot.creator), ("capacity", .word snapshot.capacity),
     ("bytes_used", .nat snapshot.used), ("depth", .nat snapshot.depth),
     ("policy", snapshot.policy.toJson), ("refs", .nat snapshot.references),
     ("persistent", .bool snapshot.persistent), ("subscribers", .nat snapshot.readers),
     ("taps", .nat snapshot.taps)]

def Snapshot.ofJson? (value : Json) : Option Snapshot := do
  match ← value.record?
      [("id", .required), ("name", .required), ("namespace", .required), ("owner", .nullable),
       ("creator", .required), ("capacity", .required), ("bytes_used", .required),
       ("depth", .required), ("policy", .required), ("refs", .required),
       ("persistent", .required), ("subscribers", .required), ("taps", .required)] with
  | [some id, some name, some scheme, some owner, some creator, some capacity, some used,
     some depth, some policy, some references, some persistent, some readers, some taps] =>
    return {
      id := ← MailboxId.ofJson? id
      name := ← name.text?
      scheme := ← Scheme.ofJson? scheme
      owner := ← owner.orNull? Json.word?
      creator := ← creator.word?
      capacity := ← capacity.word?
      used := ← used.size?
      depth := ← depth.size?
      policy := ← Policy.ofJson? policy
      references := ← references.size?
      persistent := ← persistent.bool?
      readers := ← readers.size?
      taps := ← taps.size? }
  | _ => none

end Mailroom
