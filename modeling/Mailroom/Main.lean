import Mailroom.Console.Report
import Mailroom.Host.Launch
import Mailroom.Host.Server
import Mailroom.Host.Trace
import Std.Time.DateTime.Timestamp

/-!
The program. Without a command it serves requests, one a line, from standard input, and replies
on standard output. With the word `console` first it runs one console command a line instead.
-/

namespace Mailroom.Main

def stamp : IO String := do
  let now ← Std.Time.Timestamp.now
  return Stamp.ofMillis now.toMillisecondsSinceUnixEpoch.val.toNat

def directoryOf (path : String) : Option String :=
  match path.toList.reverse.dropWhile (· ≠ '/') with
  | _ :: rest => if rest = [] then none else some (String.ofList rest.reverse)
  | [] => none

def readFile? (path : String) : IO (Option String) := do
  try return some (← IO.FS.readFile path)
  catch
    | .noFileOrDirectory .. => return none
    | other => throw other

def tell (trace : Bool) (outputs : List Output) (server : Server) : IO Server := do
  let stdout ← IO.getStdout
  for output in outputs do
    match output with
    | .reply _ reply => stdout.write ⟨reply.line.toArray⟩
    | .closed _ => pure ()
  stdout.flush
  let (events, exchange) := server.exchange.drainEvents
  if trace then
    for line in (Heard.of exchange.engine.limits.eventCapacity events).log do
      (← IO.getStderr).putStrLn (line.severity.label ++ " " ++ line.text)
  return { server with exchange }

def elapsed (start : Nat) : IO Nat := do return (← IO.monoMsNow) - start

partial def waitForDeadlines (trace : Bool) (start : Nat) (server : Server) : IO Server := do
  match server.exchange.firstDeadline? with
  | none => return server
  | some deadline =>
    let now ← elapsed start
    if now < deadline then IO.sleep (UInt32.ofNat (deadline - now))
    match server.expireNext (← stamp) with
    | none => return server
    | some (outputs, after) => waitForDeadlines trace start (← tell trace outputs after)

def takeIn (trace : Bool) (start : Nat) (bytes : Bytes) (server : Server) : IO Server := do
  let clock ← elapsed start
  let current := { server with exchange := { server.exchange with clock } }
  let (outputs, after) := current.receive (← stamp) 0 bytes
  waitForDeadlines trace start (← tell trace outputs after)

partial def serve (trace : Bool) (start : Nat) (rest : Bytes) (server : Server) : IO Unit := do
  let chunk ← (← IO.getStdin).read 4096
  if chunk.isEmpty then
    let _ ← takeIn trace start rest server
  else
    let written := rest ++ chunk.toList
    let begun := written.reverse.takeWhile (· ≠ Line.newline)
    let whole := written.take (written.length - begun.length)
    let after ← takeIn trace start whole server
    match after.fateOf 0 with
    | .idle => serve trace start begun.reverse after
    | .waiting .. | .closed => return

def daemon (arguments : List String) : IO UInt32 := do
  match Launch.parse arguments (← IO.getEnv "HSX_MAILBOX_PROFILE") with
  | none => return 2
  | some launch =>
    match launch.settings? (← readFile? launch.config) with
    | none =>
      (← IO.getStderr).putStrLn ("Error: bad settings in " ++ launch.config)
      return 1
    | some settings =>
      if launch.initConfig then
        if let some directory := directoryOf launch.config then IO.FS.createDirAll directory
        IO.FS.writeFile launch.config settings.render
        (← IO.getStdout).putStr (Launch.wrote launch.config)
      else
        serve settings.traceEvents (← IO.monoMsNow) [] (.start settings.limits)
      return 0

def wordsOf (line : String) : List String :=
  ((Text.pieces ' ' (Text.trim line.toList)).filter (· ≠ [])).map String.ofList

partial def console (service : Exchange) : IO UInt32 := do
  let line ← (← IO.getStdin).getLine
  if line.isEmpty then return 0
  match wordsOf line with
  | [] => console service
  | words =>
    match Console.run words (some service) with
    | (some report, after) =>
      (← IO.getStdout).putStr report.output
      (← IO.getStderr).putStr report.errors
      console (after.getD service)
    | (none, _) => return 1

end Mailroom.Main

def main (arguments : List String) : IO UInt32 :=
  match arguments with
  | "console" :: _ => Mailroom.Main.console (.start {})
  | _ => Mailroom.Main.daemon arguments
