/-!
Status words: how a call ended, as a small number that a task can test.
-/

namespace Mailroom

inductive Status where
  | ok
  | wouldBlock
  | invalidHandle
  | noData
  | messageTooLarge
  | noDescriptor
  | timedOut
  | internalError
  deriving DecidableEq, Repr, Inhabited

namespace Status

def all : List Status :=
  [.ok, .wouldBlock, .invalidHandle, .noData, .messageTooLarge, .noDescriptor, .timedOut,
   .internalError]

/-- The number of a status. Six is reserved. -/
def code : Status → UInt16
  | .ok => 0
  | .wouldBlock => 1
  | .invalidHandle => 2
  | .noData => 3
  | .messageTooLarge => 4
  | .noDescriptor => 5
  | .timedOut => 7
  | .internalError => 0xff

def ofCode? (code : UInt16) : Option Status := all.find? fun status => status.code = code

def retryable : Status → Bool
  | .wouldBlock | .noData | .timedOut => true
  | _ => false

def text : Status → String
  | .ok => "ok"
  | .wouldBlock => "would block"
  | .invalidHandle => "invalid handle"
  | .noData => "no data"
  | .messageTooLarge => "message too large"
  | .noDescriptor => "no descriptor"
  | .timedOut => "timeout"
  | .internalError => "internal error"

def label : Status → String
  | .ok => "ok"
  | .wouldBlock => "would_block"
  | .invalidHandle => "invalid_handle"
  | .noData => "no_data"
  | .messageTooLarge => "msg_too_large"
  | .noDescriptor => "no_descriptor"
  | .timedOut => "timeout"
  | .internalError => "internal_error"

end Status

end Mailroom
