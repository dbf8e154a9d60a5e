import Mailroom.Fault
import Mailroom.Wire.Reply

/-!
One connection: its lines are answered in order, one reply for each line that is not blank, until
a request has to wait or a line is not text.
-/

namespace Mailroom

/-- The reply to a line that is no request. What the decoder says of the line, which follows a colon
after these words, is left out. -/
def Reply.malformed : Reply := .failure "Invalid request" Status.noDescriptor.code

/-- How far a connection got: all lines are done, a request waits and holds up the lines behind
it, or the connection is over. -/
inductive Fate where
  | idle
  | waiting (request : Request) (behind : List Bytes)
  | closed
  deriving Repr, Inhabited

structure Progress (σ : Type) where
  replies : List Reply
  fate : Fate
  state : σ

def Progress.ofLines {σ : Type} (handle : Request → σ → Option Reply × σ) :
    List Bytes → σ → Progress σ
  | [], state => ⟨[], .idle, state⟩
  | line :: lines, state =>
    match Reading.ofLine line with
    | .blank => ofLines handle lines state
    | .notText => ⟨[], .closed, state⟩
    | .malformed =>
      let rest := ofLines handle lines state
      { rest with replies := .malformed :: rest.replies }
    | .request request =>
      match handle request state with
      | (none, after) => ⟨[], .waiting request lines, after⟩
      | (some reply, after) =>
        let rest := ofLines handle lines after
        { rest with replies := reply :: rest.replies }

def Progress.output {σ : Type} (progress : Progress σ) : Bytes :=
  progress.replies.flatMap Reply.line

end Mailroom
