import Mailroom.Toml.Printer
import Mailroom.Toml.Reader
import Mailroom.Toml.Value
import Mailroom.Wire.Record

/-!
Settings of the host service: the limits of its engine, where it listens and what it logs. They
are kept in a TOML file with one table for the engine and one for the service.
-/

namespace Mailroom

structure Settings where
  limits : Limits := {}
  socket : String := "/run/hsx/mboxd.sock"
  logLevel : String := "info"
  traceEvents : Bool := false
  deriving DecidableEq, Repr, Inhabited

namespace Settings

def readLimits (usual : Limits) (value : Toml) : Option Limits := do
  match ← value.record?
      ["max_descriptors", "handle_limit_per_pid", "default_capacity", "max_capacity",
       "event_capacity"] with
  | [descriptors, handles, capacity, largest, events] =>
    return {
      maxDescriptors := ← Toml.orElse? usual.maxDescriptors Toml.size? descriptors
      handlesPerTask := ← Toml.orElse? usual.handlesPerTask Toml.size? handles
      defaultCapacity := ← Toml.orElse? usual.defaultCapacity Toml.word? capacity
      maxCapacity := ← Toml.orElse? usual.maxCapacity Toml.word? largest
      eventCapacity := ← Toml.orElse? usual.eventCapacity Toml.size? events }
  | _ => none

def readDaemon (limits : Limits) (value : Toml) : Option Settings := do
  let usual : Settings := {}
  match ← value.record? ["socket_path", "log_level", "trace_events"] with
  | [socket, level, trace] =>
    return {
      limits
      socket := ← Toml.orElse? usual.socket Toml.text? socket
      logLevel := ← Toml.orElse? usual.logLevel Toml.text? level
      traceEvents := ← Toml.orElse? usual.traceEvents Toml.bool? trace }
  | _ => none

/-- Reads a settings file. What it leaves out is as usual, and what it should not hold is passed
over. -/
def parse? (text : String) : Option Settings := do
  let entries ← Toml.parse? text
  let limits ← Toml.orElse? {} (readLimits {}) (entries.value? "mailbox")
  Toml.orElse? { limits } (readDaemon limits) (entries.value? "daemon")

def render (settings : Settings) : String :=
  let limits := settings.limits
  "[mailbox]\n" ++
    s!"max_descriptors = {limits.maxDescriptors}\n" ++
    s!"handle_limit_per_pid = {limits.handlesPerTask}\n" ++
    s!"default_capacity = {limits.defaultCapacity}\n" ++
    s!"max_capacity = {limits.maxCapacity}\n" ++
    s!"event_capacity = {limits.eventCapacity}\n" ++
    "\n[daemon]\n" ++
    "socket_path = " ++ Toml.renderText settings.socket ++ "\n" ++
    "log_level = " ++ Toml.renderText settings.logLevel ++ "\n" ++
    s!"trace_events = {settings.traceEvents}\n"

def toJson (settings : Settings) : Json :=
  .object
    [("mailbox", settings.limits.toJson),
     ("daemon", .object
       [("socket_path", .text settings.socket), ("log_level", .text settings.logLevel),
        ("trace_events", .bool settings.traceEvents)])]

end Settings

end Mailroom
