import Mailroom.Console.Command
import Mailroom.Host.Handler
import Mailroom.Waiting.Schedule

/-!
Console reports: what a person reads after a command, and how the command ends.
-/

namespace Mailroom.Console

structure Report where
  code : Nat
  output : String := ""
  errors : String := ""
  deriving DecidableEq, Repr, Inhabited

def succeeded (output : String) : Report := { code := 0, output }

def failed (message : String) : Report := { code := 1, errors := "Error: " ++ message ++ "\n" }

def misuse : Report := { code := 2 }

def padding (width : Nat) (text : String) : String :=
  String.ofList (List.replicate (width - text.length) ' ')

def left (width : Nat) (text : String) : String := text ++ padding width text

def right (width : Nat) (text : String) : String := padding width text ++ text

def row (id name capacity used depth references policy flags : String) : String :=
  " ".intercalate
    [left 6 id, left 24 name, right 6 capacity, right 6 used, right 5 depth, right 4 references,
     left 12 policy, flags] ++ "\n"

def policyWord : Policy → String
  | .queue => "Queue"
  | .fanoutDrop => "FanoutDrop"
  | .fanoutBlock => "FanoutBlock"

def traits (snapshot : Snapshot) : String :=
  ",".intercalate
    ((if snapshot.persistent then ["persistent"] else []) ++
     (if snapshot.readers > 0 then [s!"subs={snapshot.readers}"] else []) ++
     (if snapshot.taps > 0 then [s!"taps={snapshot.taps}"] else []))

def mailboxRow (snapshot : Snapshot) : String :=
  row (toString snapshot.id.number) snapshot.name (toString snapshot.capacity)
    (toString snapshot.used) (toString snapshot.depth) (toString snapshot.references)
    (policyWord snapshot.policy) (traits snapshot)

def table (snapshots : List Snapshot) : String :=
  row "ID" "NAME" "CAP" "USED" "DEPTH" "REFS" "POLICY" "FLAGS" ++
    String.join (snapshots.map mailboxRow) ++ s!"\nTotal: {snapshots.length} mailboxes\n"

def message (receipt : Receipt) : String :=
  let header := receipt.header
  let payload := match Bytes.text? receipt.payload with
    | some text => text
    | none => Text.hex receipt.payload ++ " (hex)"
  s!"From:      pid {header.source}\nChannel:   {header.channel}\n" ++
    "Flags:     0x" ++ Text.hexNumeral 4 header.flags.bits.toNat ++
    s!"\nLength:    {header.length}\n" ++
    (if receipt.overrun then "Overrun:   yes\n" else "") ++
    "Payload:   " ++ payload ++ "\n"

def refusal (text : String) (status : Status) : String := text ++ " (" ++ status.text ++ ")"

def ofResponse : Response → Report
  | .standard task handles =>
    succeeded (s!"Task {task} registered\n  stdin:  handle {handles.stdin}\n" ++
      s!"  stdout: handle {handles.stdout}\n  stderr: handle {handles.stderr}\n")
  | .reaped task count => succeeded s!"Task {task} reaped ({count} handles closed)\n"
  | .handle given => succeeded s!"{given}\n"
  | .accepted count => succeeded s!"Sent {count} bytes\n"
  | .received receipt => succeeded (message receipt)
  | .peek seen =>
    succeeded (s!"Depth:     {seen.depth}\nUsed:      {seen.used} / {seen.capacity} bytes\n" ++
      s!"Next:      {seen.nextLength} bytes\n")
  | .tapped enabled => succeeded (if enabled then "Tap enabled\n" else "Tap disabled\n")
  | .closed given => succeeded s!"Closed handle {given}\n"
  | .mailboxes snapshots => succeeded (table snapshots)
  | .reset wasHalted =>
    succeeded (if wasHalted then "Engine was halted; reset\n" else "Engine reset\n")
  | .fault cause => failed (refusal cause.message cause.status)
  | .refused cause => failed (refusal (Payload.refusal cause) .noDescriptor)

def unreachable (socket : String) : Report :=
  failed ("connecting to mboxd at " ++ Text.quote socket ++
    "\n\nCaused by:\n    No such file or directory (os error 2)")

def complete (request : Request) (exchange : Exchange) : Option Response × Exchange :=
  match exchange.handle 0 request with
  | (some response, after) => (some response, after)
  | (none, after) =>
    match after.firstDeadline? with
    | none => (none, after)
    | some deadline =>
      match after.advanceTo deadline with
      | ([], last) => (none, last)
      | (finished :: _, last) => (some (request.response finished.outcome), last)

/-- Runs a command line against a service, if there is one. There is no report of a command that
waits without end. -/
def run (arguments : List String) (service : Option Exchange) :
    Option Report × Option Exchange :=
  match Invocation.parse arguments with
  | none => (some misuse, service)
  | some invocation =>
    match invocation.command.request invocation.pid with
    | .error fault => (some (failed fault.message), service)
    | .ok request =>
      match service with
      | none => (some (unreachable invocation.socket), none)
      | some exchange =>
        let (response, after) := complete request exchange
        (response.map ofResponse, some after)

end Mailroom.Console
