import Mailroom.CommandLine
import Mailroom.Host.Settings

/-!
Launching the host service: its command line, and the settings that are in effect when the file
and the command line are put together.
-/

namespace Mailroom

structure Launch where
  config : String := "/etc/hsx/mboxd.toml"
  profile : Option Profile := none
  socket : Option String := none
  debug : Bool := false
  initConfig : Bool := false
  deriving DecidableEq, Repr, Inhabited

namespace Launch

open CommandLine

def grammar : Grammar where
  options :=
    [⟨"config", some 'c', .single⟩, ⟨"profile", some 'p', .single⟩, ⟨"socket", some 's', .single⟩,
     ⟨"debug", some 'd', .flag⟩, ⟨"init-config", none, .flag⟩]

def parse (arguments : List String) (environment : Option String) : Option Launch := do
  let parsed ← grammar.parse arguments
  let usual : Launch := {}
  let profile ← match parsed.value? "profile" <|> environment with
    | none => some none
    | some text => (Profile.ofText text).toOption.map some
  return {
    config := ← parsed.valueOr "config" usual.config fun path =>
      if path = "" then none else some path
    profile
    socket := parsed.value? "socket"
    debug := parsed.has "debug"
    initConfig := parsed.has "init-config" }

/-- What the command line says goes before what the file says. A profile replaces all limits. -/
def override (launch : Launch) (settings : Settings) : Settings :=
  { settings with
    limits := (launch.profile.map Profile.limits).getD settings.limits
    socket := launch.socket.getD settings.socket }

def settings? (launch : Launch) (file : Option String) : Option Settings :=
  (match file with
    | some text => Settings.parse? text
    | none => some {}).map launch.override

def logLevel (launch : Launch) (settings : Settings) : String :=
  if launch.debug then "debug" else settings.logLevel

def wrote (path : String) : String := "Wrote " ++ path ++ "\n"

end Launch

end Mailroom
