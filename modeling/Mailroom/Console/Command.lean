import Mailroom.CommandLine
import Mailroom.Message
import Mailroom.Mode
import Mailroom.Wire.Request

/-!
Console commands: what a person types to have a request made on behalf of a task.
-/

namespace Mailroom.Console

inductive Command where
  | list
  | register (task : Pid)
  | reap (task : Pid)
  | openName (name mode : String)
  | bindName (name : String) (capacity : UInt16) (mode : String) (fanout : Option String)
  | send (handle : Handle) (payload : Payload) (channel : UInt16) (flags : List String)
      (timeout : UInt16)
  | receive (handle : Handle) (room : Nat) (timeout : UInt16)
  | peek (handle : Handle)
  | tap (handle : Handle) (off : Bool)
  | close (handle : Handle)
  | reset
  deriving DecidableEq, Repr, Inhabited

structure Invocation where
  socket : String
  pid : Pid
  command : Command
  deriving DecidableEq, Repr, Inhabited

open CommandLine

def grammar : Grammar where
  options := [⟨"socket", none, .single⟩, ⟨"pid", none, .single⟩]
  commands :=
    ["list", "task", "open", "bind", "send", "recv", "peek", "tap", "close", "reset"]

def modeRule : OptionRule := ⟨"mode", some 'm', .single⟩

def timeoutRule : OptionRule := ⟨"timeout", some 't', .single⟩

def usualMode : String := "rw"

def usualCapacity : UInt16 := 64

def usualRoom : Nat := 1024

def parseTask (arguments : List String) : Option Command := do
  let parsed ← Grammar.parse { commands := ["register", "reap"] } arguments
  let (action, rest) ← parsed.command
  match (← Grammar.parse { words := 1 } rest).words with
  | [pid] =>
    let task ← word? pid
    return if action = "register" then .register task else .reap task
  | _ => none

def parseSend (arguments : List String) : Option Command := do
  let parsed ← Grammar.parse
    { options :=
        [⟨"hex", none, .flag⟩, ⟨"channel", none, .single⟩, ⟨"flag", none, .repeated⟩, timeoutRule]
      words := 2 } arguments
  match parsed.words with
  | [handle, payload] =>
    return .send (← word? handle) (if parsed.has "hex" then .hex payload else .text payload)
      (← parsed.valueOr "channel" 0 word?) (parsed.valuesOf "flag")
      (← parsed.valueOr "timeout" 0 word?)
  | _ => none

def parseHandle (options : List OptionRule) (arguments : List String) :
    Option (Handle × Parsed) := do
  let parsed ← Grammar.parse { options, words := 1 } arguments
  match parsed.words with
  | [handle] => return (← word? handle, parsed)
  | _ => none

def parseCommand (name : String) (arguments : List String) : Option Command :=
  match name with
  | "list" => (Grammar.parse {} arguments).map fun _ => .list
  | "task" => parseTask arguments
  | "open" => do
    let parsed ← Grammar.parse { options := [modeRule], words := 1 } arguments
    match parsed.words with
    | [raw] => return .openName raw ((parsed.value? "mode").getD usualMode)
    | _ => none
  | "bind" => do
    let parsed ← Grammar.parse
      { options := [⟨"capacity", some 'c', .single⟩, modeRule, ⟨"fanout", none, .single⟩]
        words := 1 } arguments
    match parsed.words with
    | [raw] =>
      return .bindName raw (← parsed.valueOr "capacity" usualCapacity word?)
        ((parsed.value? "mode").getD usualMode) (parsed.value? "fanout")
    | _ => none
  | "send" => parseSend arguments
  | "recv" => do
    let (handle, parsed) ← parseHandle [⟨"max-len", none, .single⟩, timeoutRule] arguments
    return .receive handle (← parsed.valueOr "max-len" usualRoom size?)
      (← parsed.valueOr "timeout" 0 word?)
  | "peek" => (parseHandle [] arguments).map fun (handle, _) => .peek handle
  | "tap" =>
    (parseHandle [⟨"off", none, .flag⟩] arguments).map fun (handle, parsed) =>
      .tap handle (parsed.has "off")
  | "close" => (parseHandle [] arguments).map fun (handle, _) => .close handle
  | "reset" => (Grammar.parse {} arguments).map fun _ => .reset
  | _ => none

def usualSocket : String := "/run/hsx/mboxd.sock"

def Invocation.parse (arguments : List String) : Option Invocation := do
  let parsed ← grammar.parse arguments
  let (name, rest) ← parsed.command
  return {
    socket := (parsed.value? "socket").getD usualSocket
    pid := ← parsed.valueOr "pid" 0 word?
    command := ← parseCommand name rest }

inductive WordFault where
  | mode (word : String)
  | fanout (word : String)
  | flag (word : String)
  deriving DecidableEq, Repr

def WordFault.message : WordFault → String
  | .mode word => "unknown mode: " ++ word
  | .fanout word => "unknown fan-out policy: " ++ word
  | .flag word => "unknown flag: " ++ word

def modeOf (word : String) : Except WordFault Mode :=
  if word ∈ ["r", "ro", "rdonly"] then .ok .readOnly
  else if word ∈ ["w", "wo", "wronly"] then .ok .writeOnly
  else if word ∈ ["rw", "rdwr"] then .ok .readWrite
  else if word = "tap" then .ok .tap
  else .error (.mode word)

def fanoutOf : Option String → Except WordFault Mode
  | none => .ok ⟨0⟩
  | some "drop" => .ok (Mode.fanout.union .fanoutDrop)
  | some "block" => .ok (Mode.fanout.union .fanoutBlock)
  | some word => .error (.fanout word)

def flagsOf : List String → Except WordFault Flags
  | [] => .ok .none
  | word :: words => do
    let flag ← match word with
      | "stdout" => .ok Flags.stdout
      | "stderr" => .ok Flags.stderr
      | "oob" => .ok Flags.outOfBand
      | _ => .error (.flag word)
    return flag.union (← flagsOf words)

def Command.request (pid : Pid) : Command → Except WordFault Request
  | .list => .ok .snapshot
  | .register task => .ok (.registerTask task)
  | .reap task => .ok (.reapTask task)
  | .openName raw mode => do return .openName pid raw (← modeOf mode).bits
  | .bindName raw capacity mode fanout => do
    let access ← modeOf mode
    return .bindName pid raw capacity (access.union (← fanoutOf fanout)).bits
  | .send handle payload channel flags timeout => do
    return .send ⟨pid, handle⟩ payload (← flagsOf flags).bits channel timeout
  | .receive handle room timeout => .ok (.receive ⟨pid, handle⟩ room timeout)
  | .peek handle => .ok (.peek ⟨pid, handle⟩)
  | .tap handle off => .ok (.tap ⟨pid, handle⟩ !off)
  | .close handle => .ok (.close ⟨pid, handle⟩)
  | .reset => .ok .reset

end Mailroom.Console
