import Mailroom.Proofs.Host.Replies
import Mailroom.Proofs.Json.RoundTrip

/-!
Requests survive their lines: a request is one line, whatever its names and payloads hold, and the
line is read as that request. So it is if fields that have their usual values are left out.
-/

namespace Mailroom

namespace Json

theorem Legible.plain {value : Json} (legible : Legible value) : Plain value := by
  induction legible with
  | null => exact .null
  | bool value => exact .bool value
  | integer _ _ => exact .integer _
  | text value => exact .text value
  | array _ each => exact .array each
  | object _ each => exact .object each

theorem Legible.fields {fields : List (String × Json)}
    (legible : (fields.map Prod.snd).Forall Legible) : Legible (.object fields) :=
  .object fun _ member => List.forall_iff_forall_mem.mp legible _ (List.mem_map_of_mem member)

theorem legible_nat {value : Nat} (small : value ≤ Text.largestSize) : Legible (.nat value) :=
  .integer (by omega) (Int.ofNat_le.mpr small)

theorem legible_word (value : UInt16) : Legible (.word value) :=
  legible_nat (Nat.le_trans (Nat.le_of_lt value.toNat_lt) (by decide))

theorem word?_word (value : UInt16) : (word value).word? = some value := by
  have small : value.toNat ≤ 0xffff := Nat.le_of_lt_succ value.toNat_lt
  simp [word, nat, word?, nat?, small]

theorem size?_nat {value : Nat} (small : value ≤ Text.largestSize) :
    (nat value).size? = some value := if_pos small

theorem nat_inj {first second : Nat} (same : nat first = nat second) : first = second :=
  Int.ofNat.inj (Json.integer.inj same)

theorem word_inj {first second : UInt16} (same : word first = word second) : first = second :=
  Option.some.inj (by rw [← word?_word first, same, word?_word])

theorem fieldsChars_last (fields : List (String × Json)) :
    ∃ chars, fieldsChars fields = chars ++ ['}'] := by
  induction fields with
  | nil => exact ⟨[], by simp [fieldsChars]⟩
  | cons field fields ih =>
      obtain ⟨chars, last⟩ := ih
      exact ⟨',' :: (fieldChars field ++ chars), by simp [fieldsChars, last]⟩

theorem object_chars (fields : List (String × Json)) :
    ∃ chars, (object fields).chars = '{' :: (chars ++ ['}']) := by
  cases fields with
  | nil => exact ⟨[], by simp [chars]⟩
  | cons field fields =>
      obtain ⟨inside, last⟩ := fieldsChars_last fields
      exact ⟨fieldChars field ++ inside, by simp [chars, last]⟩

end Json

namespace Line

theorem body_object (fields : List (String × Json)) :
    body (Bytes.ofText (Json.object fields).render) = Bytes.ofText (Json.object fields).render := by
  obtain ⟨chars, written⟩ := Json.object_chars fields
  have bytes : ∃ before, Bytes.ofText (Json.object fields).render = before ++ [125] := by
    rw [Bytes.ofText_eq, Json.render, String.toList_ofList, written, ← List.cons_append,
      List.flatMap_append]
    exact ⟨_, rfl⟩
  obtain ⟨before, bytes⟩ := bytes
  rw [body, bytes, if_neg (by simp [carriageReturn])]

end Line

theorem Reading.ofLine_object (fields : List (String × Json)) {request : Request}
    (read : Request.parse? (Json.object fields).render = some request) :
    ofLine (Bytes.ofText (Json.object fields).render) = .request request := by
  obtain ⟨chars, written⟩ := Json.object_chars fields
  have shown : Text.trim (Json.object fields).render.toList ≠ [] := by
    rw [Ne, Text.trim_eq_nil_iff, Json.render, String.toList_ofList, written]
    simp only [List.all_cons, Bool.and_eq_true, not_and_or]
    exact Or.inl (by decide)
  rw [ofLine, Line.body_object, Bytes.text_iff.mpr rfl]
  simp only [shown, if_false, read]

namespace Request

def Fits : Request → Prop
  | .receive _ room _ => room ≤ Text.largestSize
  | _ => True

def usualFields : List (String × Json) :=
  [("flags", .word 0), ("channel", .word 0), ("timeout", .word 0), ("max_len", .nat usualRoom)]

/-- The same fields, but some that have their usual values may be missing. -/
def Abbreviates (short fields : List (String × Json)) : Prop :=
  ∀ key, Json.valuesOf key short = Json.valuesOf key fields ∨
    Json.valuesOf key short = [] ∧ ∀ value ∈ Json.valuesOf key fields, (key, value) ∈ usualFields

variable {short fields : List (String × Json)}

theorem Abbreviates.required (abbreviates : Abbreviates short fields) (key : String) {value : Json}
    (there : Json.valuesOf key fields = [value]) (kept : key ∉ usualFields.map Prod.fst) :
    Json.objectField? short (key, .required) = some (some value) := by
  rcases abbreviates key with same | ⟨_, usual⟩
  · rw [Json.objectField?, same, there]
  · exact absurd (List.mem_map_of_mem (usual value (by simp [there]))) kept

theorem Abbreviates.optional (abbreviates : Abbreviates short fields) (key : String) {value : Json}
    (there : Json.valuesOf key fields = [value]) {α : Type} {decode : Json → Option α}
    {decoded fallback : α} (means : decode value = some decoded)
    (usual : (key, value) ∈ usualFields → fallback = decoded) :
    ∃ found, Json.objectField? short (key, .optional) = some found ∧
      Json.orElse? fallback decode found = some decoded := by
  rcases abbreviates key with same | ⟨left, omitted⟩
  · exact ⟨some value, by rw [Json.objectField?, same, there], means⟩
  · refine ⟨none, by rw [Json.objectField?, left], ?_⟩
    rw [Json.orElse?, usual (omitted value (by simp [there]))]

theorem ofJson?_data (label : String) (data : Json) :
    ofJson? (.object [("type", .text label), ("data", data)]) = ofData? label data := by
  simp [ofJson?, Json.record?, Json.objectField?, Json.valuesOf, isDeferred, labelOf?]

theorem ofJson?_alone (label : String) :
    ofJson? (.object [("type", .text label)]) = alone? label := by
  simp [ofJson?, Json.record?, Json.objectField?, Json.valuesOf, labelOf?]

theorem ofPayload (payload : Payload) : Payload.ofJson? payload.toJson = some payload := by
  cases payload <;> rfl

theorem Abbreviates.pid (abbreviates : Abbreviates short fields) {pid : Pid}
    (there : Json.valuesOf "pid" fields = [.word pid]) : pidOf? (.object short) = some pid := by
  have found := abbreviates.required "pid" there (by decide)
  simp [pidOf?, fieldsOf?, Json.record?, found, Json.word?_word]

theorem Abbreviates.endpoint (abbreviates : Abbreviates short fields) {endpoint : Endpoint}
    (pid : Json.valuesOf "pid" fields = [.word endpoint.pid])
    (handle : Json.valuesOf "handle" fields = [.word endpoint.handle]) :
    endpointOf? (.object short) = some endpoint := by
  have pid := abbreviates.required "pid" pid (by decide)
  have handle := abbreviates.required "handle" handle (by decide)
  simp [endpointOf?, fieldsOf?, Json.record?, pid, handle, Json.word?_word]

theorem Abbreviates.word (abbreviates : Abbreviates short fields) (key : String) {value : UInt16}
    (there : Json.valuesOf key fields = [.word value]) (other : key ≠ "max_len") :
    ∃ found, Json.objectField? short (key, .optional) = some found ∧
      Json.orElse? 0 Json.word? found = some value := by
  refine abbreviates.optional key there (Json.word?_word value) fun usual => ?_
  have zero : Json.word value = .word 0 := by
    simp only [usualFields, List.mem_cons, Prod.mk.injEq, List.not_mem_nil, or_false] at usual
    rcases usual with ⟨_, zero⟩ | ⟨_, zero⟩ | ⟨_, zero⟩ | ⟨same, _⟩
    · exact zero
    · exact zero
    · exact zero
    · exact absurd same other
  exact (Json.word_inj zero).symm

theorem ofData?_abbreviated {request : Request} (fits : request.Fits)
    (data : request.data? = some fields) (abbreviates : Abbreviates short fields) :
    ofData? request.typeLabel (.object short) = some request := by
  cases request with
  | registerTask pid | reapTask pid =>
      cases data
      simp [typeLabel, ofData?, abbreviates.pid rfl]
  | openName pid name mode =>
      cases data
      have pid := abbreviates.required "pid" rfl (by decide)
      have name := abbreviates.required "name" rfl (by decide)
      have mode := abbreviates.required "mode" rfl (by decide)
      simp [typeLabel, ofData?, fieldsOf?, Json.record?, pid, name, mode, Json.word?_word,
        Json.text?]
  | bindName pid name capacity mode =>
      cases data
      have pid := abbreviates.required "pid" rfl (by decide)
      have name := abbreviates.required "name" rfl (by decide)
      have capacity := abbreviates.required "capacity" rfl (by decide)
      have mode := abbreviates.required "mode" rfl (by decide)
      simp [typeLabel, ofData?, fieldsOf?, Json.record?, pid, name, capacity, mode, Json.word?_word,
        Json.text?]
  | send endpoint payload flags channel timeout =>
      cases data
      have payload := abbreviates.required "payload" rfl (by decide)
      obtain ⟨_, flagsFound, flagsRead⟩ := abbreviates.word "flags" rfl (by simp)
      obtain ⟨_, channelFound, channelRead⟩ := abbreviates.word "channel" rfl (by simp)
      obtain ⟨_, timeoutFound, timeoutRead⟩ := abbreviates.word "timeout" rfl (by simp)
      simp [typeLabel, ofData?, abbreviates.endpoint rfl rfl, fieldsOf?, Json.record?, payload,
        flagsFound, flagsRead, channelFound, channelRead, timeoutFound, timeoutRead, ofPayload]
  | receive endpoint room timeout =>
      cases data
      have usual : ("max_len", .nat room) ∈ usualFields → usualRoom = room := by
        simp only [usualFields, List.mem_cons, Prod.mk.injEq, String.reduceEq, false_and, false_or,
          true_and, List.not_mem_nil, or_false]
        exact fun same => (Json.nat_inj same).symm
      obtain ⟨_, roomFound, roomRead⟩ :=
        abbreviates.optional "max_len" rfl (Json.size?_nat fits) usual
      obtain ⟨_, timeoutFound, timeoutRead⟩ := abbreviates.word "timeout" rfl (by simp)
      simp [typeLabel, ofData?, abbreviates.endpoint rfl rfl, fieldsOf?, Json.record?, roomFound,
        roomRead, timeoutFound, timeoutRead]
  | peek endpoint | close endpoint =>
      cases data
      simp [typeLabel, ofData?, abbreviates.endpoint rfl rfl]
  | tap endpoint enabled =>
      cases data
      have enabled := abbreviates.required "enable" rfl (by decide)
      simp [typeLabel, ofData?, abbreviates.endpoint rfl rfl, fieldsOf?, Json.record?, enabled,
        Json.bool?]
  | snapshot | reset => cases data

def without (request : Request) (omitted : List String) : Json :=
  .object (("type", .text request.typeLabel) ::
    match request.data? with
    | some fields => [("data", .object (fields.filter fun field => field.1 ∉ omitted))]
    | none => [])

theorem without_nothing (request : Request) : request.without [] = request.toJson := by
  unfold without toJson
  cases request.data? <;> simp

theorem filter_abbreviates {omitted : List String}
    (usual : ∀ field ∈ fields, field.1 ∈ omitted → field ∈ usualFields) :
    Abbreviates (fields.filter fun field => field.1 ∉ omitted) fields := by
  intro key
  simp only [Json.valuesOf, List.filter_filter]
  by_cases left : key ∈ omitted
  · refine Or.inr ⟨?_, ?_⟩
    · rw [List.map_eq_nil_iff, List.filter_eq_nil_iff]
      rintro ⟨_, value⟩ _ both
      simp only [Bool.and_eq_true, decide_eq_true_eq] at both
      exact both.2 (both.1 ▸ left)
    · intro value member
      simp only [List.mem_map, List.mem_filter, decide_eq_true_eq] at member
      obtain ⟨⟨_, _⟩, ⟨member, rfl⟩, rfl⟩ := member
      exact usual _ member left
  · refine Or.inl (congrArg (List.map Prod.snd) (List.filter_congr ?_))
    rintro ⟨other, value⟩ _
    by_cases same : other = key
    · simp [same, left]
    · simp [same]

theorem ofJson?_without {request : Request} (fits : request.Fits) {omitted : List String}
    (usual : ∀ field ∈ request.data?.getD [], field.1 ∈ omitted → field ∈ usualFields) :
    ofJson? (request.without omitted) = some request := by
  unfold without
  cases data : request.data? with
  | some fields =>
      rw [data] at usual
      rw [ofJson?_data]
      exact ofData?_abbreviated fits data (filter_abbreviates usual)
  | none =>
      rw [ofJson?_alone]
      cases request <;> first | rfl | cases data

theorem payload_legible (payload : Payload) : payload.toJson.Legible := by
  cases payload <;> exact .fields (.text _)

theorem data_legible {request : Request} (fits : request.Fits)
    (data : request.data? = some fields) : (fields.map Prod.snd).Forall Json.Legible := by
  have word := Json.legible_word
  cases request with
  | registerTask pid | reapTask pid =>
      cases data
      exact word pid
  | openName pid name mode =>
      cases data
      exact ⟨word pid, .text name, word mode⟩
  | bindName pid name capacity mode =>
      cases data
      exact ⟨word pid, .text name, word capacity, word mode⟩
  | send endpoint payload flags channel timeout =>
      cases data
      exact ⟨word endpoint.pid, word endpoint.handle, payload_legible payload, word flags,
        word channel, word timeout⟩
  | receive endpoint room timeout =>
      cases data
      exact ⟨word endpoint.pid, word endpoint.handle, Json.legible_nat fits, word timeout⟩
  | peek endpoint | close endpoint =>
      cases data
      exact ⟨word endpoint.pid, word endpoint.handle⟩
  | tap endpoint enabled =>
      cases data
      exact ⟨word endpoint.pid, word endpoint.handle, .bool enabled⟩
  | snapshot | reset => cases data

theorem without_legible {request : Request} (fits : request.Fits) (omitted : List String) :
    (request.without omitted).Legible := by
  unfold without
  cases data : request.data? with
  | none => exact .fields (.text _)
  | some fields =>
      have legible := List.forall_iff_forall_mem.mp (data_legible fits data)
      refine .fields ⟨.text _, .object fun field member => ?_⟩
      exact legible _ (List.mem_map_of_mem (List.mem_of_mem_filter member))

theorem parse?_without {request : Request} (fits : request.Fits) {omitted : List String}
    (usual : ∀ field ∈ request.data?.getD [], field.1 ∈ omitted → field ∈ usualFields) :
    parse? (request.without omitted).render = some request := by
  rw [parse?, Json.parse?_render (without_legible fits omitted)]
  exact ofJson?_without fits usual

/-- A request is written as one line, and that line is read as the request. So it is if fields with
their usual values are left out. -/
theorem line_round_trip {request : Request} (fits : request.Fits) :
    ∃ text, request.line = Bytes.ofText text ++ [Line.newline] ∧
      Line.newline ∉ Bytes.ofText text ∧ parse? text = some request ∧
      (Line.split request.line).map Reading.ofLine = [.request request] ∧
      ∀ omitted : List String,
        (∀ field ∈ request.data?.getD [], field.1 ∈ omitted → field ∈ usualFields) →
        parse? (request.without omitted).render = some request := by
  have whole : request.toJson.Legible ∧ parse? request.toJson.render = some request := by
    rw [← without_nothing]
    exact ⟨without_legible fits [], parse?_without fits (by simp)⟩
  have unbroken := whole.1.plain.newline_not_mem_render
  have lines : Line.split request.line = [Bytes.ofText request.toJson.render] :=
    Line.split_append unbroken
  have reading : Reading.ofLine (Bytes.ofText request.toJson.render) = .request request :=
    Reading.ofLine_object _ whole.2
  refine ⟨request.toJson.render, rfl, unbroken, whole.2, ?_, fun omitted => parse?_without fits⟩
  rw [lines, List.map_singleton, reading]

def oddPayload : Request := .send ⟨3, 1⟩ (.text "\"\\\n\x01\u00e9") 0 7 0

def plainReceive : Request := .receive ⟨3, 1⟩ usualRoom 0

theorem oddPayload_round_trip :
    (∃ text, oddPayload.line = Bytes.ofText text ++ [Line.newline] ∧
      Line.newline ∉ Bytes.ofText text ∧ parse? text = some oddPayload) ∧
    parse? (oddPayload.without ["flags", "timeout"]).render = some oddPayload ∧
    plainReceive.without ["max_len", "timeout"] =
      .object [("type", .text "recv"),
        ("data", .object [("pid", .word 3), ("handle", .word 1)])] ∧
    parse? (plainReceive.without ["max_len", "timeout"]).render = some plainReceive := by
  have sendFits : oddPayload.Fits := trivial
  have receiveFits : plainReceive.Fits := show usualRoom ≤ Text.largestSize by decide
  obtain ⟨text, line, unbroken, read, _, shorter⟩ := line_round_trip sendFits
  obtain ⟨_, _, _, _, _, shorterReceive⟩ := line_round_trip receiveFits
  refine ⟨⟨text, line, unbroken, read⟩, shorter _ ?_, rfl, shorterReceive _ ?_⟩
  · simp [oddPayload, data?, endpointFields, usualFields]
  · simp [plainReceive, data?, endpointFields, usualFields]

end Request

end Mailroom
