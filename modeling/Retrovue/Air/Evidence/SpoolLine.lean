/-
**The lines of the spool file** (`ToJsonLine`, `FromJsonLine`).

* `ParseJsonStringValue`, `ParseJsonUint64Value`, `ParsePayloadObject`: the readers of a line, each from
  where the one before it stopped;
* `FromJsonLine`: a stored record, read back;
* `stored`: a record with any texts and any payload of the emitter;
* `fromJsonLine_iff`: it is one line, and is read back as it was exactly when the scan for the end of
  the payload passes the payload's texts.

The scan looks one character back for an escaped quote. After a text that ends in a backslash it takes
the closing quote for one.
-/

import Mathlib
import Retrovue.Air.Evidence.Wire
import Retrovue.Foundation.BraceScan

namespace Retrovue.Air.Evidence

open Retrovue.Foundation.FlatJson
open Retrovue.Foundation.BraceScan

/-! ### The readers -/

section LineReaders

/-- The letters that `ParseJsonStringValue` decodes. -/
def lineLetter : Char → Option Char
  | '"' => some '"'
  | '\\' => some '\\'
  | 'n' => some '\n'
  | 'r' => some '\r'
  | 't' => some '\t'
  | _ => none

/-- A text up to its closing quote, and what follows. -/
def readText : Text → Option (Text × Text)
  | [] => none
  | '"' :: rest => some ([], rest)
  | '\\' :: letter :: rest =>
    match lineLetter letter with
    | some c => (readText rest).map fun read => (c :: read.1, read.2)
    | none => (readText (letter :: rest)).map fun read => ('\\' :: read.1, read.2)
  | c :: rest => (readText rest).map fun read => (c :: read.1, read.2)

/-- `ParseJsonStringValue`. -/
def ParseJsonStringValue (key : String) (line : Text) : Option (Text × Text) :=
  (after (sought key ['"']) line).bind readText

/-- `std::stoull` of digits and blanks. -/
def stoull (shown : Text) : Option ℕ :=
  let digits := digitsOf (shown.dropWhile (· = ' '))
  let v := Nat.ofDigitChars 10 digits 0
  if digits = [] then none else if v < 2 ^ 64 then some v else none

/-- A digit or a blank. -/
def numeric (c : Char) : Bool := c.isDigit || c = ' '

/-- `ParseJsonUint64Value`. -/
def ParseJsonUint64Value (key : String) (line : Text) : Option (ℕ × Text) :=
  (after (pattern key) line).bind fun found =>
    if found.takeWhile numeric = [] then none
    else (stoull (found.takeWhile numeric)).map fun v => (v, found.dropWhile numeric)

/-- `ParseJsonUint32Value`. -/
def ParseJsonUint32Value (key : String) (line : Text) : Option (ℕ × Text) :=
  (ParseJsonUint64Value key line).filter fun read => read.1 ≤ 0xFFFFFFFF

/-- `ParsePayloadObject`. -/
def ParsePayloadObject (line : Text) : Option (Text × Text) :=
  (after (pattern "payload") line).bind fun found =>
    match found.dropWhile fun c => c = ' ' || c = '\t' with
    | '{' :: rest => (closing 1 none rest).map fun left =>
        (('{' :: rest).take (rest.length + 1 - left.length), left)
    | _ => none

/-- **`FromJsonLine`.** -/
def FromJsonLine (line : Text) : Option EvidenceFromAir :=
  if line.head? ≠ some '{' ∨ line.getLast? ≠ some '}' then none
  else do
    let (schema_version, line) ← ParseJsonUint32Value "schema_version" line
    let (channel_id, line) ← ParseJsonStringValue "channel_id" line
    let (playout_session_id, line) ← ParseJsonStringValue "playout_session_id" line
    let (sequence, line) ← ParseJsonUint64Value "sequence" line
    let (event_uuid, line) ← ParseJsonStringValue "event_uuid" line
    let (emitted_utc, line) ← ParseJsonStringValue "emitted_utc" line
    let (payload_type, line) ← ParseJsonStringValue "payload_type" line
    let (payload, _) ← ParsePayloadObject line
    return { schema_version, channel_id, playout_session_id, sequence, event_uuid, emitted_utc
             payload_type := String.ofList payload_type, payload }

/-- A record with a payload of the emitter. -/
def stored (schema_version : UInt32) (sequence : UInt64)
    (channel_id playout_session_id event_uuid emitted_utc payload_type : Text) (p : Payload) :
    EvidenceFromAir where
  schema_version := schema_version.toNat
  channel_id := channel_id
  playout_session_id := playout_session_id
  sequence := sequence.toNat
  event_uuid := event_uuid
  emitted_utc := emitted_utc
  payload_type := String.ofList payload_type
  payload := p.json

end LineReaders

/-! ### Reading one field -/

section LineFields

/-- **An escaped text is read back.** -/
theorem readText_escape (s rest : Text) :
    readText (escape jsonLetter s ++ '"' :: rest) = some (s, rest) := by
  induction s with
  | nil => rfl
  | cons c s ih =>
    cases letter : jsonLetter c with
    | none =>
      have notQuote : c ≠ '"' := by
        rintro rfl
        cases letter
      have notBackslash : c ≠ '\\' := by
        rintro rfl
        cases letter
      rw [escape_cons_none letter, List.cons_append, readText, ih]
      · rfl
      · exact notQuote
      · rintro _ _ rfl
        exact absurd rfl notBackslash
    | some shown =>
      have decoded : lineLetter shown = some c := by
        unfold jsonLetter at letter
        split at letter <;> cases letter <;> rfl
      rw [escape_cons_some letter, List.cons_append, List.cons_append, readText, decoded, ih]
      rfl

/-- A text field, behind a comma. -/
theorem parseString_field (key : String) (s : Text) (next : String × Value)
    (rest : List (String × Value)) :
    ParseJsonStringValue key (',' :: renderFields jsonLetter ((key, .text s) :: next :: rest)) =
      some (s, ',' :: renderFields jsonLetter (next :: rest)) := by
  have shown : (',' :: renderFields jsonLetter ((key, .text s) :: next :: rest)) =
      [','] ++ (sought key ['"'] ++ (escape jsonLetter s ++
        '"' :: ',' :: renderFields jsonLetter (next :: rest))) := by
    simp [renderFields, renderField, sought, Value.render]
  have found : after (sought key ['"']) (',' :: renderFields jsonLetter
      ((key, .text s) :: next :: rest)) = some (escape jsonLetter s ++
        '"' :: ',' :: renderFields jsonLetter (next :: rest)) := by
    rw [shown, sought_eq, after_append_of_notMem (by decide), after_append]
  rw [ParseJsonStringValue, found]
  exact readText_escape s _

theorem numeric_of_decimal {n : ℕ} {c : Char} (mem : c ∈ decimal n) : numeric c = true := by
  rw [numeric, digits_of_decimal mem]
  rfl

/-- A number field, behind a comma or the opening brace. -/
theorem parseUint64_field {d : Char} (notQuote : '"' ≠ d) (key : String) {n : ℕ} (fits : n < 2 ^ 64)
    (next : String × Value) (rest : List (String × Value)) :
    ParseJsonUint64Value key
        (d :: renderFields jsonLetter ((key, .bare (decimal n)) :: next :: rest)) =
      some (n, ',' :: renderFields jsonLetter (next :: rest)) := by
  have found : after (pattern key) (d :: renderFields jsonLetter
      ((key, .bare (decimal n)) :: next :: rest)) =
        some (decimal n ++ ',' :: renderFields jsonLetter (next :: rest)) := by
    rw [← List.singleton_append, renderFields, renderField, pattern,
      after_append_of_notMem (by simpa using notQuote), List.append_assoc, after_append]
    rfl
  have run : (decimal n ++ ',' :: renderFields jsonLetter (next :: rest)).takeWhile numeric =
      decimal n := by
    rw [List.takeWhile_append_of_pos fun c mem => numeric_of_decimal mem,
      List.takeWhile_cons_of_neg (by decide), List.append_nil]
  have left : (decimal n ++ ',' :: renderFields jsonLetter (next :: rest)).dropWhile numeric =
      ',' :: renderFields jsonLetter (next :: rest) := by
    rw [List.dropWhile_append_of_pos fun c mem => numeric_of_decimal mem,
      List.dropWhile_cons_of_neg (by decide)]
  have digits : digitsOf (decimal n) = decimal n :=
    List.takeWhile_eq_self_iff.mpr fun c mem => digits_of_decimal mem
  have read : stoull (decimal n) = some n := by
    have blanks := dropWhile_decimal n []
    rw [List.append_nil] at blanks
    rw [stoull, blanks, digits, if_neg (decimal_ne_nil n),
      ofDigits_decimal, if_pos fits]
  rw [ParseJsonUint64Value, found, Option.bind_some, run, if_neg (decimal_ne_nil n), read, left]
  rfl

end LineFields

/-! ### Words and lines -/

section Words

/-- A character of a key or of a bare value. -/
def wordChar (c : Char) : Bool := c.isAlphanum || c == '_' || c == '-'

theorem plain_of_word {c : Char} (word : wordChar c = true) : Plain c ∧ c ≠ '\n' := by
  have other {d : Char} (noWord : wordChar d = false) : c ≠ d := by
    rintro rfl
    rw [noWord] at word
    cases word
  exact ⟨⟨other (by decide), other (by decide), other (by decide), other (by decide)⟩,
    other (by decide)⟩

theorem word_of_digit {c : Char} (digit : c.isDigit = true) : wordChar c = true := by
  simp [wordChar, Char.isAlphanum, digit]

/-- A word. -/
def Word (s : Text) : Prop := ∀ c ∈ s, wordChar c = true

theorem word_decimal (n : ℕ) : Word (decimal n) :=
  fun _ mem => word_of_digit (digits_of_decimal mem)

theorem word_signed (i : ℤ) : Word (signed i) := by
  intro c mem
  unfold signed at mem
  split at mem
  · rcases List.mem_cons.mp mem with rfl | digit
    · decide
    · exact word_decimal _ c digit
  · exact word_decimal _ c mem

theorem word_truth (b : Bool) : Word (truth b) := by
  have letters : (truth b).all wordChar = true := by cases b <;> decide
  exact List.all_eq_true.mp letters

/-- A value that is a text, or a word. -/
def wordValue : Value → Prop
  | .text _ => True
  | .bare s => Word s

/-- A field whose key and bare value are words. -/
structure Wordy (field : String × Value) : Prop where
  key : Word field.1.toList
  value : wordValue field.2

theorem Wordy.bare {field : String × Value} (wordy : Wordy field) {s : Text}
    (bare : field.2 = .bare s) : Word s := by
  have value := wordy.value
  rwa [bare] at value

/-- **Every field of a payload is one.** -/
theorem Payload.wordy (p : Payload) : ∀ field ∈ p.fields, Wordy field := by
  have keys : (p.fields.map Prod.fst).all (fun key => key.toList.all wordChar) = true := by
    cases p <;>
      simp +decide [Payload.fields, BlockStartPayload.fields, SegmentStartPayload.fields,
        SegmentEndPayload.fields, BlockFencePayload.fields, ChannelTerminatedPayload.fields]
  have values : ∀ field ∈ p.fields, wordValue field.2 := by
    cases p <;>
      simp [Payload.fields, BlockStartPayload.fields, SegmentStartPayload.fields,
        SegmentEndPayload.fields, BlockFencePayload.fields, ChannelTerminatedPayload.fields,
        wordValue, word_decimal, word_signed, word_truth]
  intro field mem
  have key := List.all_eq_true.mp keys field.1 (List.mem_map_of_mem mem)
  exact ⟨List.all_eq_true.mp key, values field mem⟩

theorem Wordy.scannable {field : String × Value} (wordy : Wordy field) : Scannable field :=
  ⟨fun c mem => (plain_of_word (wordy.key c mem)).1,
    fun _ bare c mem => (plain_of_word (wordy.bare bare c mem)).1⟩

theorem jsonLetter_passing : Passing jsonLetter where
  toHides := jsonLetter_hides
  opening := rfl
  closes := rfl
  letters := by
    intro c letter found
    unfold jsonLetter at found
    split at found <;> cases found <;> decide

/-- An escaped text is on one line. -/
theorem newline_notMem_escape (s : Text) : '\n' ∉ escape jsonLetter s := by
  induction s with
  | nil => simp
  | cons c s ih =>
    cases letter : jsonLetter c with
    | none =>
      have other : '\n' ≠ c := by
        rintro rfl
        cases letter
      rw [escape_cons_none letter, List.mem_cons, not_or]
      exact ⟨other, ih⟩
    | some shown =>
      have other : '\n' ≠ shown := by
        rintro rfl
        unfold jsonLetter at letter
        split at letter <;> cases letter
      rw [escape_cons_some letter, List.mem_cons, List.mem_cons, not_or, not_or]
      exact ⟨by decide, other, ih⟩

/-- Fields are on one line when their keys and bare values are. -/
theorem newline_notMem_renderFields : ∀ fields : List (String × Value),
    (∀ field ∈ fields, '\n' ∉ field.1.toList ∧ ∀ s, field.2 = .bare s → '\n' ∉ s) →
      '\n' ∉ renderFields jsonLetter fields
  | [], _ => by decide
  | [field], single => by
    have here := newline_notMem_renderField (single field List.mem_cons_self)
    simp [renderFields, here]
  | field :: next :: rest, single => by
    have here := newline_notMem_renderField (single field List.mem_cons_self)
    have later := newline_notMem_renderFields (next :: rest)
      fun other mem => single other (List.mem_cons_of_mem _ mem)
    simp [renderFields, here, later]
where
  newline_notMem_renderField {field : String × Value}
      (single : '\n' ∉ field.1.toList ∧ ∀ s, field.2 = .bare s → '\n' ∉ s) :
      '\n' ∉ renderField jsonLetter field := by
    obtain ⟨key, value⟩ := field
    cases value with
    | bare s => simp [renderField, pattern, Value.render, single.1, single.2 s rfl]
    | text s => simp [renderField, pattern, Value.render, single.1, newline_notMem_escape s]

theorem Wordy.single {field : String × Value} (wordy : Wordy field) :
    '\n' ∉ field.1.toList ∧ ∀ s, field.2 = .bare s → '\n' ∉ s :=
  ⟨fun mem => (plain_of_word (wordy.key _ mem)).2 rfl,
    fun _ bare mem => (plain_of_word (wordy.bare bare _ mem)).2 rfl⟩

end Words

/-! ### Reading a record back -/

section Records

/-- **The payload is read back exactly when the scan passes its texts.** -/
theorem parsePayload_iff (p : Payload) :
    (∃ left, ParsePayloadObject (',' :: renderFields jsonLetter [("payload", .bare p.json)]) =
        some (p.json, left)) ↔ Passes (texts p.fields) := by
  have found : after (pattern "payload") (',' :: renderFields jsonLetter
      [("payload", .bare p.json)]) = some (p.json ++ ['}']) := by
    rw [← List.singleton_append, renderFields, renderField, pattern,
      after_append_of_notMem (by decide), List.append_assoc, after_append]
    rfl
  have object : p.json ++ ['}'] = '{' :: (renderFields jsonLetter p.fields ++ ['}']) := rfl
  rw [← closing_fields_iff jsonLetter_passing (fun field mem => (p.wordy field mem).scannable) ['}']]
  have parsed : ParsePayloadObject (',' :: renderFields jsonLetter [("payload", .bare p.json)]) =
      (closing 1 none (renderFields jsonLetter p.fields ++ ['}'])).map fun left =>
        ((p.json ++ ['}']).take (p.json.length + 1 - left.length), left) := by
    rw [ParsePayloadObject, found, Option.bind_some, object, List.dropWhile_cons_of_neg (by decide)]
    show (closing 1 none (renderFields jsonLetter p.fields ++ ['}'])).map _ = _
    rw [List.length_append, List.length_singleton]
    rfl
  rw [parsed]
  cases scanned : closing 1 none (renderFields jsonLetter p.fields ++ ['}']) with
  | none => simp
  | some left =>
    have suffix := (closing_suffix _ scanned).1
    have taken : (∃ rest, (some left).map (fun left =>
        ((p.json ++ ['}']).take (p.json.length + 1 - left.length), left)) = some (p.json, rest)) ↔
          (p.json ++ ['}']).take (p.json.length + 1 - left.length) = p.json := by simp
    rw [taken, Option.some_inj]
    constructor
    · intro whole
      have long := congrArg List.length whole
      rw [List.length_take, List.length_append, List.length_singleton] at long
      have json : p.json.length = (renderFields jsonLetter p.fields).length + 1 := rfl
      have one : left.length = 1 := by omega
      obtain ⟨before, split⟩ := suffix
      exact (List.append_inj' split (by rw [one]; rfl)).2
    · rintro rfl
      exact List.take_left

/-- The fields of a stored record before its payload. -/
def headFields (m : EvidenceFromAir) : List (String × Value) :=
  [("schema_version", .bare (decimal m.schema_version)),
   ("channel_id", .text m.channel_id),
   ("playout_session_id", .text m.playout_session_id),
   ("sequence", .bare (decimal m.sequence)),
   ("event_uuid", .text m.event_uuid),
   ("emitted_utc", .text m.emitted_utc),
   ("payload_type", .text m.payload_type.toList)]

/-- A record with a payload text is a line of its fields. -/
theorem toJsonLine_eq {m : EvidenceFromAir} {p : Payload} (payload : m.payload = p.json) :
    m.ToJsonLine =
      '{' :: renderFields jsonLetter (headFields m ++ [("payload", .bare p.json)]) := by
  have object : p.json.head? = some '{' := rfl
  rw [EvidenceFromAir.ToJsonLine, payload, if_pos object]
  rfl

/-- An object ends with its closing brace. -/
theorem getLast?_renderFields : ∀ fields : List (String × Value),
    (renderFields jsonLetter fields).getLast? = some '}'
  | [] => rfl
  | [field] => by simp [renderFields]
  | field :: next :: rest => by
    have later := getLast?_renderFields (next :: rest)
    rw [renderFields, List.getLast?_append, List.getLast?_cons, later]
    rfl

/-- **A stored record is one line.** -/
theorem newline_notMem_toJsonLine {m : EvidenceFromAir} {p : Payload} (payload : m.payload = p.json) :
    '\n' ∉ m.ToJsonLine := by
  have inside := newline_notMem_renderFields p.fields fun field mem => (p.wordy field mem).single
  have object : '\n' ∉ p.json := by
    rw [Payload.json, renderObject, List.mem_cons, not_or]
    exact ⟨by decide, inside⟩
  have number (n : ℕ) : '\n' ∉ decimal n := fun mem => (plain_of_word (word_decimal n _ mem)).2 rfl
  rw [toJsonLine_eq payload, List.mem_cons, not_or]
  refine ⟨by decide, newline_notMem_renderFields _ ?_⟩
  simp [headFields, number, object]

/-- Everything of a stored record but the payload is read back. -/
theorem fromJsonLine_eq {m : EvidenceFromAir} {p : Payload} (payload : m.payload = p.json)
    (version : m.schema_version < 2 ^ 32) (sequence : m.sequence < 2 ^ 64) :
    FromJsonLine m.ToJsonLine =
      (ParsePayloadObject (',' :: renderFields jsonLetter [("payload", .bare p.json)])).map
        fun read => { m with payload := read.1 } := by
  have line := toJsonLine_eq payload
  have last : m.ToJsonLine.getLast? = some '}' := by
    rw [line, List.getLast?_cons, getLast?_renderFields]
    rfl
  have versionRead : ParseJsonUint32Value "schema_version" m.ToJsonLine =
      some (m.schema_version, ',' :: renderFields jsonLetter
        ((headFields m).tail ++ [("payload", .bare p.json)])) := by
    rw [line, ParseJsonUint32Value]
    have read := @parseUint64_field '{' (by decide) "schema_version" m.schema_version (by omega)
    rw [show headFields m ++ [("payload", Value.bare p.json)] = ("schema_version",
      Value.bare (decimal m.schema_version)) :: ("channel_id", Value.text m.channel_id) ::
        ((headFields m).tail.tail ++ [("payload", Value.bare p.json)]) from rfl, read]
    simp only [Option.filter_some]
    rw [if_pos (decide_eq_true (by omega))]
    rfl
  rw [FromJsonLine, if_neg, versionRead]
  · simp only [headFields, List.tail_cons, List.cons_append, List.nil_append, Option.bind_eq_bind,
      Option.bind_some, parseString_field, @parseUint64_field ',' (by decide) "sequence" m.sequence sequence]
    cases ParsePayloadObject (',' :: renderFields jsonLetter [("payload", .bare p.json)]) with
    | none => rfl
    | some read => simp
  · rw [last, line]
    simp

/-- **A stored record is read back**: it is one line, and is read back as it was exactly when the scan
for the end of its payload passes the payload's texts. -/
theorem fromJsonLine_iff (schema_version : UInt32) (sequence : UInt64)
    (channel_id playout_session_id event_uuid emitted_utc payload_type : Text) (p : Payload) :
    ('\n' ∉ (stored schema_version sequence channel_id playout_session_id event_uuid emitted_utc
          payload_type p).ToJsonLine ∧
        FromJsonLine (stored schema_version sequence channel_id playout_session_id event_uuid
          emitted_utc payload_type p).ToJsonLine =
            some (stored schema_version sequence channel_id playout_session_id event_uuid emitted_utc
              payload_type p)) ↔
      Passes (texts p.fields) := by
  have payload : (stored schema_version sequence channel_id playout_session_id event_uuid emitted_utc
      payload_type p).payload = p.json := rfl
  rw [← parsePayload_iff, fromJsonLine_eq payload schema_version.toNat_lt sequence.toNat_lt]
  rw [and_iff_right (newline_notMem_toJsonLine payload), Option.map_eq_some_iff]
  constructor
  · rintro ⟨⟨object, left⟩, read, same⟩
    have whole : object = p.json := congrArg EvidenceFromAir.payload same
    exact ⟨left, whole ▸ read⟩
  · rintro ⟨left, read⟩
    exact ⟨_, read, rfl⟩

/-- A segment whose event id ends in a backslash. -/
def backslashEvent : Payload :=
  .segmentStart { block_id := "b-1".toList, event_id := "e\\".toList, segment_index := 0 }

/-- **A stored record that is taken for a corrupt line**: the payload's end is not found. -/
theorem backslash_record_is_lost :
    FromJsonLine (stored 1 1 "ch".toList "ps".toList "u-1".toList "2026-01-01T00:00:00.000Z".toList
      "SEGMENT_START".toList backslashEvent).ToJsonLine = none := by
  decide +kernel

end Records

end Retrovue.Air.Evidence
