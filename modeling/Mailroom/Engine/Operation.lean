import Mailroom.Engine.Lifecycle
import Mailroom.Engine.Transfer

/-!
Operations as data, so that runs of an engine are lists of operations.
-/

namespace Mailroom

inductive Operation where
  | openName (pid : Pid) (name : String) (mode : UInt16)
  | bindName (pid : Pid) (name : String) (capacity mode : UInt16)
  | send (endpoint : Endpoint) (payload : Bytes) (flags channel : UInt16)
  | receive (endpoint : Endpoint) (room : Nat)
  | peek (endpoint : Endpoint)
  | tap (endpoint : Endpoint) (enabled : Bool)
  | close (endpoint : Endpoint)
  | receiveCondition (endpoint : Endpoint)
  | sendCondition (endpoint : Endpoint)
  | register (pid : Pid)
  | reap (pid : Pid)
  | halt (reason : String)
  | reset
  deriving DecidableEq, Repr, Inhabited

inductive Answer where
  | nothing
  | handle (handle : Handle)
  | count (count : Nat)
  | receipt (receipt : Receipt)
  | peek (peek : Peek)
  | condition (condition : Condition)
  | standard (handles : StandardHandles)
  deriving DecidableEq, Repr, Inhabited

def Operation.step : Operation → Step Answer
  | .openName pid name mode => return .handle (← Engine.openName pid name mode)
  | .bindName pid name capacity mode => return .handle (← Engine.bindName pid name capacity mode)
  | .send endpoint payload flags channel =>
    return .count (← Engine.trySend endpoint payload flags channel)
  | .receive endpoint room => return .receipt (← Engine.tryReceive endpoint room)
  | .peek endpoint => return .peek (← Engine.peek endpoint)
  | .tap endpoint enabled => do
    Engine.tap endpoint enabled
    return .nothing
  | .close endpoint => do
    Engine.close endpoint
    return .nothing
  | .receiveCondition endpoint => return .condition (← Engine.receiveCondition endpoint)
  | .sendCondition endpoint => return .condition (← Engine.sendCondition endpoint)
  | .register pid => return .standard (← Engine.registerTask pid)
  | .reap pid => return .count (← Engine.reapTask pid)
  | .halt reason => do
    Step.change fun engine => engine.halt reason
    return .nothing
  | .reset => do
    Step.change Engine.reset
    return .nothing

def Engine.run (engine : Engine) (operations : List Operation) : Engine :=
  operations.foldl (fun engine operation => (operation.step engine).2) engine

end Mailroom
