import Mailroom.Bytes
import Mailroom.Ident
import Mailroom.Json.Deferred
import Mailroom.Json.Value

/-!
Requests to the host service: a type, and the data that the type calls for. What stands for its
usual value may be left out of the data. The type may come before or after the data.
-/

namespace Mailroom

inductive Payload where
  | text (words : String)
  | hex (digits : String)
  deriving DecidableEq, Repr, Inhabited

inductive Request where
  | registerTask (pid : Pid)
  | reapTask (pid : Pid)
  | openName (pid : Pid) (name : String) (mode : UInt16)
  | bindName (pid : Pid) (name : String) (capacity mode : UInt16)
  | send (endpoint : Endpoint) (payload : Payload) (flags channel timeout : UInt16)
  | receive (endpoint : Endpoint) (room : Nat) (timeout : UInt16)
  | peek (endpoint : Endpoint)
  | tap (endpoint : Endpoint) (enabled : Bool)
  | close (endpoint : Endpoint)
  | snapshot
  | reset
  deriving DecidableEq, Repr, Inhabited

namespace Payload

def toBytes : Payload → Except Text.HexFault Bytes
  | .text words => .ok (Bytes.ofText words)
  | .hex digits => Text.unhex (Bytes.ofText digits)

def refusal (fault : Text.HexFault) : String := "invalid hex payload: " ++ fault.message

def toJson : Payload → Json
  | .text words => .field "text" (.text words)
  | .hex digits => .field "hex" (.text digits)

def ofJson? : Json → Option Payload
  | .object [("text", .text words)] => some (.text words)
  | .object [("hex", .text digits)] => some (.hex digits)
  | _ => none

end Payload

namespace Request

def usualRoom : Nat := 0xffff

def typeLabel : Request → String
  | .registerTask _ => "register_task"
  | .reapTask _ => "reap_task"
  | .openName .. => "open"
  | .bindName .. => "bind"
  | .send .. => "send"
  | .receive .. => "recv"
  | .peek _ => "peek"
  | .tap .. => "tap"
  | .close _ => "close"
  | .snapshot => "snapshot"
  | .reset => "reset"

def endpointFields (endpoint : Endpoint) : List (String × Json) :=
  [("pid", .word endpoint.pid), ("handle", .word endpoint.handle)]

def data? : Request → Option (List (String × Json))
  | .registerTask pid | .reapTask pid => some [("pid", .word pid)]
  | .openName pid name mode => some [("pid", .word pid), ("name", .text name), ("mode", .word mode)]
  | .bindName pid name capacity mode =>
    some [("pid", .word pid), ("name", .text name), ("capacity", .word capacity),
      ("mode", .word mode)]
  | .send endpoint payload flags channel timeout =>
    some (endpointFields endpoint ++
      [("payload", payload.toJson), ("flags", .word flags), ("channel", .word channel),
       ("timeout", .word timeout)])
  | .receive endpoint room timeout =>
    some (endpointFields endpoint ++ [("max_len", .nat room), ("timeout", .word timeout)])
  | .peek endpoint | .close endpoint => some (endpointFields endpoint)
  | .tap endpoint enabled => some (endpointFields endpoint ++ [("enable", .bool enabled)])
  | .snapshot | .reset => none

def toJson (request : Request) : Json :=
  .object (("type", .text request.typeLabel) ::
    match request.data? with
    | some fields => [("data", .object fields)]
    | none => [])

/-- Data is an object, never a list of fields. -/
def fieldsOf? (keys : List (String × Json.Presence)) : Json → Option (List (Option Json))
  | .object fields => Json.record? keys (.object fields)
  | _ => none

def pidOf? (data : Json) : Option Pid := do
  match ← fieldsOf? [("pid", .required)] data with
  | [some pid] => pid.word?
  | _ => none

def endpointOf? (data : Json) : Option Endpoint := do
  match ← fieldsOf? [("pid", .required), ("handle", .required)] data with
  | [some pid, some handle] => return ⟨← pid.word?, ← handle.word?⟩
  | _ => none

def ofData? (label : String) (data : Json) : Option Request :=
  match label with
  | "register_task" => (pidOf? data).map .registerTask
  | "reap_task" => (pidOf? data).map .reapTask
  | "open" => do
    match ← fieldsOf? [("pid", .required), ("name", .required), ("mode", .required)] data with
    | [some pid, some name, some mode] =>
      return .openName (← pid.word?) (← name.text?) (← mode.word?)
    | _ => none
  | "bind" => do
    match ← fieldsOf?
        [("pid", .required), ("name", .required), ("capacity", .required), ("mode", .required)]
        data with
    | [some pid, some name, some capacity, some mode] =>
      return .bindName (← pid.word?) (← name.text?) (← capacity.word?) (← mode.word?)
    | _ => none
  | "send" => do
    let endpoint ← endpointOf? data
    match ← fieldsOf?
        [("payload", .required), ("flags", .optional), ("channel", .optional),
         ("timeout", .optional)] data with
    | [some payload, flags, channel, timeout] =>
      return .send endpoint (← Payload.ofJson? payload) (← Json.orElse? 0 Json.word? flags)
        (← Json.orElse? 0 Json.word? channel) (← Json.orElse? 0 Json.word? timeout)
    | _ => none
  | "recv" => do
    let endpoint ← endpointOf? data
    match ← fieldsOf? [("max_len", .optional), ("timeout", .optional)] data with
    | [room, timeout] =>
      return .receive endpoint (← Json.orElse? usualRoom Json.size? room)
        (← Json.orElse? 0 Json.word? timeout)
    | _ => none
  | "peek" => (endpointOf? data).map .peek
  | "tap" => do
    let endpoint ← endpointOf? data
    match ← fieldsOf? [("enable", .required)] data with
    | [some enabled] => return .tap endpoint (← enabled.bool?)
    | _ => none
  | "close" => (endpointOf? data).map .close
  | "snapshot" => if data matches .null then some .snapshot else none
  | "reset" => if data matches .null then some .reset else none
  | _ => none

def alone? : String → Option Request
  | "snapshot" => some .snapshot
  | "reset" => some .reset
  | _ => none

def labelOf? : Json → Option String
  | .text label => some label
  | .object [(label, .null)] => some label
  | _ => none

/-- How deep lists and objects may nest in data that comes before its type. -/
def deferredLevels : Nat := 126

def isDeferred (fields : List (String × Json)) : Bool :=
  (fields.find? fun field => field.1 = "type" ∨ field.1 = "data").any (·.1 = "data")

def ofJson? (value : Json) : Option Request := do
  match value with
  | .array [.text label, data] => ofData? label data
  | .object fields =>
    match ← value.record? [("type", .required), ("data", .optional)] with
    | [some kind, some data] =>
      if isDeferred fields && !data.isDeferrable deferredLevels then none
      else ofData? (← labelOf? kind) data
    | [some kind, none] => alone? (← labelOf? kind)
    | _ => none
  | _ => none

end Request

end Mailroom
