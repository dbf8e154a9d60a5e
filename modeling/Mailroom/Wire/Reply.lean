import Mailroom.Bytes
import Mailroom.Fault
import Mailroom.Json.Printer
import Mailroom.Json.Reader
import Mailroom.Json.Value
import Mailroom.Text.Pieces
import Mailroom.Wire.Request

/-!
Replies of the host service, which are data or a message with the number of a status, and the lines
of a connection: each request and each reply is one line of JSON with a newline at its end, and
blank lines mean nothing.
-/

namespace Mailroom

inductive Reply where
  | success (data : Json)
  | failure (message : String) (code : UInt16)
  deriving Repr, Inhabited

namespace Reply

def ofFault (fault : Fault) : Reply := .failure fault.message fault.status.code

def toJson : Reply → Json
  | .success data => .object [("status", .text "success"), ("data", data)]
  | .failure message code =>
    .object [("status", .text "error"), ("message", .text message), ("code", .word code)]

def ofJson? (value : Json) : Option Reply := do
  let (label, record) ← value.tagged? "status"
  match label with
  | "success" =>
    match ← record.fields? ["data"] with
    | [data] => return .success data
    | _ => none
  | "error" =>
    match ← record.fields? ["message", "code"] with
    | [message, code] => return .failure (← message.text?) (← code.word?)
    | _ => none
  | _ => none

end Reply

namespace Line

def newline : UInt8 := 10

def carriageReturn : UInt8 := 13

/-- The lines of a stream, without their newlines. What follows the last newline is a line of
its own unless it is empty. -/
def split : Bytes → List Bytes
  | [] => []
  | byte :: rest =>
    if byte = newline then [] :: split rest
    else match split rest with
      | [] => [[byte]]
      | line :: lines => (byte :: line) :: lines

def body (line : Bytes) : Bytes :=
  if line.getLast? = some carriageReturn then line.dropLast else line

def ofJson (value : Json) : Bytes := Bytes.ofText value.render ++ [newline]

end Line

def Request.parse? (text : String) : Option Request := (Json.parse? text).bind Request.ofJson?

def Request.line (request : Request) : Bytes := Line.ofJson request.toJson

def Reply.line (reply : Reply) : Bytes := Line.ofJson reply.toJson

inductive Reading where
  | blank
  | request (request : Request)
  | malformed
  | notText
  deriving DecidableEq, Repr, Inhabited

def Reading.ofLine (line : Bytes) : Reading :=
  match Bytes.text? (Line.body line) with
  | none => .notText
  | some text =>
    if Text.trim text.toList = [] then .blank
    else match Request.parse? text with
      | some asked => .request asked
      | none => .malformed

end Mailroom
