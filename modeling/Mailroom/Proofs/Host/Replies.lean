import Mailroom.Host.Server
import Mailroom.Proofs.Host.Lines
import Mathlib.Data.List.TakeWhile

/-!
One reply a line: the lines of a connection that are not blank are answered one by one and in
order, the malformed ones without the handler, as long as the lines are text. A line that is not
text ends the connection, and neither it nor what follows it is answered.
-/

namespace Mailroom

namespace Line

def text? (line : Bytes) : Option String := Bytes.text? (body line)

def isText (line : Bytes) : Bool := (text? line).isSome

def isBlank (line : Bytes) : Bool :=
  (text? line).any fun text => text.toList.all Text.isBlank

def request? (line : Bytes) : Option Request :=
  if isBlank line then none else (text? line).bind Request.parse?

theorem isText_of_isBlank {line : Bytes} (blank : isBlank line = true) : isText line = true := by
  unfold isBlank at blank
  unfold isText
  cases read : text? line with
  | none => simp [read] at blank
  | some text => rfl

end Line

theorem Text.trim_eq_nil_iff (chars : List Char) : trim chars = [] ↔ chars.all isBlank := by
  rw [trim, List.reverse_eq_nil_iff, List.dropWhile_eq_nil_iff, List.all_eq_true]
  constructor
  · intro blank
    by_contra shown
    rw [← List.dropWhile_eq_nil_iff] at shown
    have first := List.head_dropWhile_not isBlank shown
    rw [blank _ (List.mem_reverse.mpr (List.head_mem shown))] at first
    cases first
  · intro blank char inside
    exact blank char ((List.dropWhile_sublist _).subset (List.mem_reverse.mp inside))

theorem Reading.ofLine_eq (line : Bytes) :
    ofLine line =
      if Line.isText line = false then .notText
      else if Line.isBlank line then .blank
      else match Line.request? line with
        | some asked => .request asked
        | none => .malformed := by
  unfold ofLine Line.request? Line.isBlank Line.isText Line.text?
  cases Bytes.text? (Line.body line) with
  | none => rfl
  | some text =>
      by_cases blank : text.toList.all Text.isBlank
      · simp [blank, Text.trim_eq_nil_iff]
      · cases parsed : Request.parse? text <;> simp [blank, Text.trim_eq_nil_iff, parsed]

namespace Progress

variable {σ : Type} {handle : Request → σ → Reply × σ} {line : Bytes}
  {lines before after : List Bytes} {state : σ}

def replying (handle : Request → σ → Reply × σ) (request : Request) (state : σ) :
    Option Reply × σ :=
  (some (handle request state).1, (handle request state).2)

def served (handle : Request → σ → Reply × σ) (requests : List Request) (state : σ) : σ :=
  requests.foldl (fun state request => (handle request state).2) state

def due (lines : List Bytes) : Nat := lines.countP fun line => !Line.isBlank line

def replyTo (handle : Request → σ → Reply × σ) (line : Bytes) (state : σ) : Reply :=
  match Line.request? line with
  | some request => (handle request state).1
  | none => .failure "Invalid request" 5

/-- Each line that is not blank has its reply, at the place that the lines before it leave it, and
the handler was asked what the lines ask and nothing else. -/
structure Answers (handle : Request → σ → Reply × σ) (lines : List Bytes) (state : σ)
    (progress : Progress σ) : Prop where
  count : progress.replies.length = due lines
  replied : ∀ before line after, lines = before ++ line :: after → Line.isBlank line = false →
    progress.replies[due before]? =
      some (replyTo handle line (served handle (before.filterMap Line.request?) state))
  asked : progress.state = served handle (lines.filterMap Line.request?) state

theorem served_cons :
    served handle ((line :: lines).filterMap Line.request?) state =
      served handle (lines.filterMap Line.request?)
        (served handle (Line.request? line).toList state) := by
  cases asked : Line.request? line with
  | none => simp [asked, served]
  | some request => simp [asked, served]

theorem request?_of_isBlank (blank : Line.isBlank line = true) : Line.request? line = none := by
  rw [Line.request?, if_pos blank]

theorem ofLines_blank (blank : Line.isBlank line = true) :
    ofLines (replying handle) (line :: lines) state = ofLines (replying handle) lines state := by
  have reading : Reading.ofLine line = .blank := by
    rw [Reading.ofLine_eq, Line.isText_of_isBlank blank, blank]
    rfl
  rw [ofLines, reading]

theorem ofLines_shown (text : Line.isText line = true) (shown : Line.isBlank line = false) :
    ofLines (replying handle) (line :: lines) state =
      let rest := ofLines (replying handle) lines
        (served handle (Line.request? line).toList state)
      { rest with replies := replyTo handle line state :: rest.replies } := by
  have reading := Reading.ofLine_eq line
  rw [text, shown] at reading
  cases asked : Line.request? line with
  | none =>
      simp only [asked] at reading
      simp [ofLines, reading, replyTo, asked, served]
      rfl
  | some request =>
      simp only [asked] at reading
      simp [ofLines, reading, replyTo, asked, served, replying]

theorem ofLines_notText (notText : Line.isText line = false) :
    ofLines (replying handle) (line :: lines) state = ⟨[], .closed, state⟩ := by
  have reading : Reading.ofLine line = .notText := by
    rw [Reading.ofLine_eq, notText]
    rfl
  rw [ofLines, reading]

theorem Answers.blank {progress : Progress σ} (blank : Line.isBlank line = true)
    (answers : Answers handle lines state progress) :
    Answers handle (line :: lines) state progress := by
  refine ⟨?_, fun before other after split shown => ?_, ?_⟩
  · rw [answers.count, due, due, List.countP_cons_of_neg (by simp [blank])]
  · rcases List.cons_eq_append_iff.mp split with ⟨rfl, same⟩ | ⟨earlier, rfl, later⟩
    · cases same
      rw [blank] at shown
      cases shown
    · have place := answers.replied earlier other after later shown
      rwa [served_cons, request?_of_isBlank blank, due,
        List.countP_cons_of_neg (by simp [blank])]
  · rw [answers.asked, served_cons, request?_of_isBlank blank]
    rfl

theorem Answers.shown {rest : Progress σ} (shown : Line.isBlank line = false)
    (answers : Answers handle lines (served handle (Line.request? line).toList state) rest) :
    Answers handle (line :: lines) state
      { rest with replies := replyTo handle line state :: rest.replies } := by
  refine ⟨?_, fun before other after split otherShown => ?_, ?_⟩
  · rw [List.length_cons, answers.count, due, due, List.countP_cons_of_pos (by simp [shown])]
  · rcases List.cons_eq_append_iff.mp split with ⟨rfl, same⟩ | ⟨earlier, rfl, later⟩
    · cases same
      rfl
    · have place := answers.replied earlier other after later otherShown
      rwa [served_cons, due, List.countP_cons_of_pos (by simp [shown]), List.getElem?_cons_succ]
  · rw [served_cons]
    exact answers.asked

theorem answers_of_text (text : ∀ line ∈ lines, Line.isText line = true) :
    Answers handle lines state (ofLines (replying handle) lines state) ∧
      (ofLines (replying handle) lines state).fate = .idle := by
  induction lines generalizing state with
  | nil => exact ⟨⟨rfl, fun before line after split => by simp at split, rfl⟩, rfl⟩
  | cons line lines ih =>
      simp only [List.mem_cons, forall_eq_or_imp] at text
      cases blank : Line.isBlank line with
      | true =>
          rw [ofLines_blank blank]
          exact ⟨(ih text.2).1.blank blank, (ih text.2).2⟩
      | false =>
          rw [ofLines_shown text.1 blank]
          exact ⟨(ih text.2).1.shown blank, (ih text.2).2⟩

theorem ofLines_cut (text : ∀ line ∈ before, Line.isText line = true)
    (notText : Line.isText line = false) :
    ofLines (replying handle) (before ++ line :: after) state =
      { ofLines (replying handle) before state with fate := .closed } := by
  induction before generalizing state with
  | nil => exact ofLines_notText notText
  | cons first before ih =>
      simp only [List.mem_cons, forall_eq_or_imp] at text
      rw [List.cons_append]
      cases blank : Line.isBlank first with
      | true => rw [ofLines_blank blank, ofLines_blank blank, ih text.2]
      | false => rw [ofLines_shown text.1 blank, ofLines_shown text.1 blank, ih text.2]

theorem exists_first_notText (broken : ¬ ∀ line ∈ lines, Line.isText line = true) :
    ∃ before line after, lines = before ++ line :: after ∧
      (∀ line ∈ before, Line.isText line = true) ∧ Line.isText line = false := by
  have shown : lines.dropWhile Line.isText ≠ [] := by
    rwa [ne_eq, List.dropWhile_eq_nil_iff]
  refine ⟨lines.takeWhile Line.isText, (lines.dropWhile Line.isText).head shown,
    (lines.dropWhile Line.isText).tail, ?_, fun line member => ?_, ?_⟩
  · rw [List.cons_head_tail, List.takeWhile_append_dropWhile]
  · exact List.mem_takeWhile_imp member
  · exact List.head_dropWhile_not _ shown

theorem due_append : due (before ++ line :: after) =
    due before + due after + if Line.isBlank line then 0 else 1 := by
  simp only [due, List.countP_append, List.countP_cons]
  cases Line.isBlank line <;> simp
  omega

/-- Lines that come in on a connection are all answered exactly if they are text, and the connection
is ready for more only then. What a request waits for, and what others do meanwhile, is part of
the handler's state. -/
theorem stream_answered_iff (handle : Request → σ → Reply × σ) (stream : Bytes) (state : σ) :
    let lines := Line.split stream
    let progress := ofLines (replying handle) lines state
    (Answers handle lines state progress ↔ ∀ line ∈ lines, Line.isText line = true) ∧
    (progress.fate = .idle ↔ ∀ line ∈ lines, Line.isText line = true) ∧
    (∀ before line after, lines = before ++ line :: after →
      (∀ line ∈ before, Line.isText line = true) → Line.isText line = false →
      Answers handle before state progress ∧ progress.fate = .closed) ∧
    ((∀ reply ∈ progress.replies, reply.Plain) →
      Line.split progress.output = progress.replies.map Reply.text) := by
  intro lines progress
  have cut : ∀ before line after, lines = before ++ line :: after →
      (∀ line ∈ before, Line.isText line = true) → Line.isText line = false →
      Answers handle before state progress ∧ progress.fate = .closed := by
    intro before line after split text notText
    have answers : Answers handle before state (ofLines (replying handle) before state) :=
      (answers_of_text text).1
    have same : progress = { ofLines (replying handle) before state with fate := .closed } := by
      rw [← ofLines_cut text notText, ← split]
    rw [same]
    exact ⟨⟨answers.count, answers.replied, answers.asked⟩, rfl⟩
  refine ⟨⟨fun answers => ?_, fun text => (answers_of_text text).1⟩,
    ⟨fun idle => ?_, fun text => (answers_of_text text).2⟩, cut, Reply.split_lines⟩
  · by_contra broken
    obtain ⟨before, line, after, split, text, notText⟩ := exists_first_notText broken
    have shown : Line.isBlank line = false := by
      by_contra blank
      rw [Line.isText_of_isBlank (by simpa using blank)] at notText
      cases notText
    have fewer := (cut before line after split text notText).1.count
    rw [answers.count, split, due_append, shown] at fewer
    simp only [Bool.false_eq_true, ↓reduceIte] at fewer
    omega
  · by_contra broken
    obtain ⟨before, line, after, split, text, notText⟩ := exists_first_notText broken
    rw [(cut before line after split text notText).2] at idle
    cases idle

/-- A byte that no text starts with, and after it a request: two lines that call for a reply, and
there is none. -/
theorem unreadable_line_silences :
    let lines := Line.split ([0xff, Line.newline] ++ Request.line .snapshot)
    let progress := ofLines (replying fun _ calls => (.success .null, calls + 1)) lines 0
    lines.map Line.request? = [none, some .snapshot] ∧ due lines = 2 ∧
      progress.replies.length = 0 ∧ progress.fate = .closed ∧ progress.state = 0 := by
  have written : Request.line .snapshot =
      [123, 34, 116, 121, 112, 101, 34, 58, 34, 115, 110, 97, 112, 115, 104, 111, 116, 34, 125,
        10] := by
    decide +kernel
  rw [written]
  exact ⟨by decide +kernel, by decide +kernel, rfl, rfl, rfl⟩

theorem replies_forall {handle : Request → σ → Option Reply × σ} {holds : Reply → Prop}
    (refusal : holds .malformed)
    (handled : ∀ request state reply, (handle request state).1 = some reply → holds reply) :
    ∀ reply ∈ (ofLines handle lines state).replies, holds reply := by
  induction lines generalizing state with
  | nil => simp [ofLines]
  | cons line lines ih =>
      intro reply member
      unfold ofLines at member
      split at member
      next => exact ih reply member
      next => cases member
      next =>
        rcases List.mem_cons.mp member with rfl | later
        · exact refusal
        · exact ih reply later
      next request _ =>
        split at member
        next => cases member
        next said after answer =>
          rcases List.mem_cons.mp member with rfl | later
          · exact handled request state reply (by rw [answer])
          · exact ih reply later

end Progress

/-- Whatever the server says on a connection at work is on lines of its own. -/
theorem Server.work_plain (stamp : String) (connection : Nat) (lines : List Bytes)
    (server : Server) (reply : Reply)
    (said : .reply connection reply ∈ (server.work stamp connection lines).1) : reply.Plain := by
  simp only [work, List.mem_append, List.mem_map] at said
  rcases said with ⟨other, member, same⟩ | ending
  · cases same
    refine Progress.replies_forall trivial (fun request exchange other answer => ?_) _ member
    obtain ⟨response, -, rfl⟩ := Option.map_eq_some_iff.mp answer
    exact response.reply_plain stamp
  · split at ending <;> simp at ending

end Mailroom
