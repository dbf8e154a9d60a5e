import Mailroom.Fault

/-!
Trap selectors: which of its seven functions a task asks the mailbox service for.
-/

namespace Mailroom

inductive Selector where
  | openName
  | bindName
  | send
  | receive
  | peek
  | tap
  | close
  deriving DecidableEq, Repr, Inhabited

namespace Selector

def all : List Selector := [.openName, .bindName, .send, .receive, .peek, .tap, .close]

def code : Selector → UInt8
  | .openName => 0
  | .bindName => 1
  | .send => 2
  | .receive => 3
  | .peek => 4
  | .tap => 5
  | .close => 6

def label : Selector → String
  | .openName => "open"
  | .bindName => "bind"
  | .send => "send"
  | .receive => "recv"
  | .peek => "peek"
  | .tap => "tap"
  | .close => "close"

def ofCode (code : UInt8) : Except Fault Selector :=
  match all.find? fun selector => selector.code = code with
  | some selector => .ok selector
  | none => .error (.unknownSelector code)

theorem ofCode_code (selector : Selector) : ofCode selector.code = .ok selector := by
  cases selector <;> rfl

end Selector

end Mailroom
