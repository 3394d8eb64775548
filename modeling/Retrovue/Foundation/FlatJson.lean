/-
**Flat objects written as text, and fields found in the text by searching for their key.**

Text is a list of characters (or of bytes). An object is a list of keys with values that are texts,
written escaped between quotes, or bare words (numerals, truth values).

* `after`: what follows the first place a pattern occurs, as a string search finds it;
* `escape`, `readQuoted`: an escaping table, and a reader with a table of its own; `readQuoted_escape`:
  the reader gives back every text whose characters it decodes as they were encoded;
* `renderObject`, `after_renderObject`: whatever the texts hold, the search for a key finds the field
  of that key.
-/

import Mathlib

namespace Retrovue.Foundation.FlatJson

/-- A text, character by character. -/
abbrev Text := List Char

/-! ### Searching -/

section Search

/-- **What follows the first occurrence of the pattern.** -/
def after (pattern : Text) : Text → Option Text
  | [] => if pattern = [] then some [] else none
  | c :: rest =>
    if pattern <+: c :: rest then some ((c :: rest).drop pattern.length) else after pattern rest

/-- A place where the pattern stands is found. -/
theorem after_append (pattern tail : Text) : after pattern (pattern ++ tail) = some tail := by
  cases whole : pattern ++ tail with
  | nil =>
    obtain ⟨rfl, rfl⟩ := List.append_eq_nil_iff.mp whole
    rfl
  | cons c rest =>
    have stands : pattern <+: c :: rest := ⟨tail, whole⟩
    rw [after, if_pos stands, ← whole, List.drop_left]

/-- A place where the pattern does not stand is passed. -/
theorem after_cons {pattern rest : Text} {c : Char} (absent : ¬ pattern <+: c :: rest) :
    after pattern (c :: rest) = after pattern rest := by
  rw [after, if_neg absent]

/-- A pattern is looked for only where its first character stands. -/
theorem after_cons_of_ne {head c : Char} {pattern rest : Text} (different : c ≠ head) :
    after (head :: pattern) (c :: rest) = after (head :: pattern) rest :=
  after_cons fun stands => different (List.cons_prefix_cons.mp stands).1.symm

/-- Text without the first character of the pattern is passed. -/
theorem after_append_of_notMem {head : Char} {pattern passed rest : Text} (free : head ∉ passed) :
    after (head :: pattern) (passed ++ rest) = after (head :: pattern) rest := by
  induction passed with
  | nil => rfl
  | cons c passed ih =>
    rw [List.mem_cons, not_or] at free
    rw [List.cons_append, after_cons_of_ne (Ne.symm free.1)]
    exact ih free.2

end Search

/-! ### Escaping -/

section Escape

/-- One character, by a table of the letters that stand for the escaped ones. -/
def escapeChar (table : Char → Option Char) (c : Char) : Text :=
  match table c with
  | some letter => ['\\', letter]
  | none => [c]

/-- A text, escaped. -/
def escape (table : Char → Option Char) (s : Text) : Text := s.flatMap (escapeChar table)

/-- **A table that hides quotes**: quotes and backslashes are escaped, only a quote by a quote. -/
structure Hides (table : Char → Option Char) : Prop where
  quote : table '"' = some '"'
  backslash : table '\\' = some '\\'
  letter : ∀ c letter, table c = some letter → letter = '"' → c = '"'

variable {table : Char → Option Char}

@[simp] theorem escape_nil : escape table [] = [] := rfl

theorem escape_cons_some {c letter : Char} (found : table c = some letter) (s : Text) :
    escape table (c :: s) = '\\' :: letter :: escape table s := by
  rw [escape, List.flatMap_cons, escapeChar, found]
  rfl

theorem escape_cons_none {c : Char} (plain : table c = none) (s : Text) :
    escape table (c :: s) = c :: escape table s := by
  rw [escape, List.flatMap_cons, escapeChar, plain]
  rfl

/-- An escaped text is as long as the text at least. -/
theorem length_le_escape (s : Text) : s.length ≤ (escape table s).length := by
  induction s with
  | nil => exact Nat.le_refl _
  | cons c s ih =>
    cases found : table c with
    | none => rw [escape_cons_none found]; simpa using ih
    | some letter =>
      rw [escape_cons_some found, List.length_cons, List.length_cons, List.length_cons]
      omega

end Escape

/-! ### Reading a quoted text -/

section Read

/-- **Read up to the closing quote**, with a table of the characters that letters stand for; a
backslash before another letter is kept as it is. -/
def readQuoted (decode : Char → Option Char) : Text → Option Text
  | [] => none
  | '"' :: _ => some []
  | '\\' :: letter :: rest =>
    match decode letter with
    | some c => (readQuoted decode rest).map (c :: ·)
    | none => (readQuoted decode (letter :: rest)).map ('\\' :: ·)
  | c :: rest => (readQuoted decode rest).map (c :: ·)

variable {decode : Char → Option Char}

theorem readQuoted_quote (rest : Text) : readQuoted decode ('"' :: rest) = some [] := by
  rw [readQuoted]

theorem readQuoted_decoded {letter c : Char} (found : decode letter = some c) (rest : Text) :
    readQuoted decode ('\\' :: letter :: rest) = (readQuoted decode rest).map (c :: ·) := by
  rw [readQuoted, found]

theorem readQuoted_kept {letter : Char} (unknown : decode letter = none) (rest : Text) :
    readQuoted decode ('\\' :: letter :: rest) =
      (readQuoted decode (letter :: rest)).map ('\\' :: ·) := by
  rw [readQuoted, unknown]

theorem readQuoted_plain {c : Char} (notQuote : c ≠ '"') (notBackslash : c ≠ '\\') (rest : Text) :
    readQuoted decode (c :: rest) = (readQuoted decode rest).map (c :: ·) := by
  rw [readQuoted]
  · exact notQuote
  · rintro _ _ rfl
    exact absurd rfl notBackslash

end Read

/-! ### Writing and reading -/

section RoundTrip

variable {table decode : Char → Option Char}

/-- The reader decodes the character as it was encoded. -/
def Agrees (table decode : Char → Option Char) (c : Char) : Prop :=
  ∀ letter, table c = some letter → decode letter = some c

/-- A letter the reader does not know stays, with its backslash. -/
def Unknown (table decode : Char → Option Char) (c : Char) : Prop :=
  ∃ letter, table c = some letter ∧ decode letter = none ∧ letter ≠ '"' ∧ letter ≠ '\\'

/-- What the reader makes of one character. -/
def reread (table decode : Char → Option Char) (c : Char) : Text :=
  match table c with
  | none => [c]
  | some letter =>
    match decode letter with
    | some d => [d]
    | none => ['\\', letter]

/-- **What the reader makes of a written text**: each character for itself. -/
theorem readQuoted_escape (hides : Hides table)
    (known : ∀ c, Agrees table decode c ∨ Unknown table decode c) (s rest : Text) :
    readQuoted decode (escape table s ++ '"' :: rest) = some (s.flatMap (reread table decode)) := by
  induction s with
  | nil => exact readQuoted_quote rest
  | cons c s ih =>
    rw [List.flatMap_cons]
    cases found : table c with
    | none =>
      have notQuote : c ≠ '"' := by
        rintro rfl
        exact absurd hides.quote (by simp [found])
      have notBackslash : c ≠ '\\' := by
        rintro rfl
        exact absurd hides.backslash (by simp [found])
      rw [escape_cons_none found, List.cons_append, readQuoted_plain notQuote notBackslash, ih]
      simp [reread, found]
    | some letter =>
      rw [escape_cons_some found, List.cons_append, List.cons_append]
      rcases known c with agrees | ⟨other, same, unknown, notQuote, notBackslash⟩
      · rw [readQuoted_decoded (agrees letter found), ih]
        simp [reread, found, agrees letter found]
      · rw [found, Option.some_inj] at same
        subst same
        rw [readQuoted_kept unknown, readQuoted_plain notQuote notBackslash, ih]
        simp [reread, found, unknown]

/-- A character the reader decodes as it was encoded is read as itself. -/
theorem reread_of_agrees {c : Char} (agrees : Agrees table decode c) :
    reread table decode c = [c] := by
  cases found : table c with
  | none => simp [reread, found]
  | some letter => simp [reread, found, agrees letter found]

theorem length_reread_of_unknown {c : Char} (unknown : Unknown table decode c) :
    (reread table decode c).length = 2 := by
  obtain ⟨letter, found, none_, -, -⟩ := unknown
  simp [reread, found, none_]

/-- **Which texts the reader gives back**: those whose characters it decodes as they were encoded. -/
theorem flatMap_reread_eq_iff (known : ∀ c, Agrees table decode c ∨ Unknown table decode c)
    (s : Text) : s.flatMap (reread table decode) = s ↔ ∀ c ∈ s, ¬ Unknown table decode c := by
  have grows : ∀ t : Text, t.length ≤ (t.flatMap (reread table decode)).length := by
    intro t
    induction t with
    | nil => exact Nat.le_refl _
    | cons c t ih =>
      rw [List.flatMap_cons, List.length_append, List.length_cons]
      have one : 1 ≤ (reread table decode c).length := by
        rcases known c with agrees | unknown
        · rw [reread_of_agrees agrees]
          exact Nat.le_refl _
        · rw [length_reread_of_unknown unknown]
          omega
      omega
  have exclusive : ∀ c, Agrees table decode c → ¬ Unknown table decode c := by
    rintro c agrees ⟨letter, found, unknown, -⟩
    rw [agrees letter found] at unknown
    cases unknown
  induction s with
  | nil => simp
  | cons c s ih =>
    rw [List.flatMap_cons, List.forall_mem_cons]
    rcases known c with agrees | unknown
    · rw [reread_of_agrees agrees, List.singleton_append, List.cons_inj_right]
      exact ih.trans (and_iff_right (exclusive c agrees)).symm
    · constructor
      · intro same
        have longer := congrArg List.length same
        rw [List.length_append, length_reread_of_unknown unknown, List.length_cons] at longer
        have := grows s
        omega
      · rintro ⟨not, -⟩
        exact absurd unknown not

end RoundTrip

/-! ### Objects -/

section Objects

/-- A value: a text, or a bare word. -/
inductive Value where
  | text (s : Text)
  | bare (s : Text)

/-- A value, written. -/
def Value.render (table : Char → Option Char) : Value → Text
  | .text s => '"' :: (escape table s ++ ['"'])
  | .bare s => s

/-- What a field begins with. -/
def pattern (key : String) : Text := '"' :: (key.toList ++ ['"', ':'])

/-- A field, written. -/
def renderField (table : Char → Option Char) (field : String × Value) : Text :=
  pattern field.1 ++ field.2.render table

/-- The fields, with commas between them and the closing brace. -/
def renderFields (table : Char → Option Char) : List (String × Value) → Text
  | [] => ['}']
  | [field] => renderField table field ++ ['}']
  | field :: next :: rest => renderField table field ++ ',' :: renderFields table (next :: rest)

/-- **An object, written.** -/
def renderObject (table : Char → Option Char) (fields : List (String × Value)) : Text :=
  '{' :: renderFields table fields

/-- A character of a key. -/
def plainChar (c : Char) : Bool :=
  c != '"' && c != '\\' && c != ':' && c != ',' && c != '}'

/-- **A key that can be searched for.** -/
def plainKey (key : String) : Bool := key.toList != [] && key.toList.all plainChar

/-- A value that has no quote of its own. -/
def Value.Clean : Value → Prop
  | .text _ => True
  | .bare s => '"' ∉ s

end Objects

/-! ### Finding a field -/

section Find

variable {table : Char → Option Char}

/-- What a search for a key looks for, with what must follow. -/
def sought (key : String) (value : Text) : Text := pattern key ++ value

theorem sought_eq (key : String) (value : Text) :
    sought key value = '"' :: (key.toList ++ '"' :: ':' :: value) := by
  simp [sought, pattern]

theorem plainKey_chars {key : String} (plain : plainKey key = true) :
    ∀ c ∈ key.toList, plainChar c = true := by
  rw [plainKey, Bool.and_eq_true, List.all_eq_true] at plain
  exact plain.2

/-- A key does not begin where a character stands that no key has. -/
theorem not_prefix_of_plain {key : String} (plain : plainKey key = true) {d : Char}
    (foreign : plainChar d = false) (value rest : Text) :
    ¬ key.toList ++ '"' :: ':' :: value <+: d :: rest := by
  intro stands
  cases chars : key.toList with
  | nil => simp [plainKey, chars] at plain
  | cons c cs =>
    have member := plainKey_chars plain c (by rw [chars]; exact List.mem_cons_self)
    rw [chars, List.cons_append, List.cons_prefix_cons] at stands
    rw [stands.1, foreign] at member
    cases member

/-- **No key stands at the opening quote of a value**, whatever the text is, unless a colon follows. -/
theorem not_prefix_escape (hides : Hides table) {d : Char} (notColon : d ≠ ':') (value rest : Text) :
    ∀ (chars s : Text), (∀ c ∈ chars, plainChar c = true) →
      ¬ chars ++ '"' :: ':' :: value <+: escape table s ++ '"' :: d :: rest
  | [], [], _ => by
    intro stands
    rw [List.nil_append, escape_nil, List.nil_append, List.cons_prefix_cons,
      List.cons_prefix_cons] at stands
    exact notColon stands.2.1.symm
  | k :: ks, [], plain => by
    intro stands
    rw [escape_nil, List.nil_append, List.cons_append, List.cons_prefix_cons] at stands
    have := plain k List.mem_cons_self
    rw [stands.1] at this
    exact absurd this (by decide)
  | chars, c :: s, plain => by
    intro stands
    cases found : table c with
    | some letter =>
      rw [escape_cons_some found, List.cons_append] at stands
      cases chars with
      | nil => exact absurd (List.cons_prefix_cons.mp stands).1 (by decide)
      | cons k ks =>
        have := plain k List.mem_cons_self
        rw [(List.cons_prefix_cons.mp stands).1] at this
        exact absurd this (by decide)
    | none =>
      rw [escape_cons_none found, List.cons_append] at stands
      cases chars with
      | nil =>
        have quote := (List.cons_prefix_cons.mp stands).1
        rw [← quote, hides.quote] at found
        cases found
      | cons k ks =>
        exact not_prefix_escape hides notColon value rest ks s
          (fun c member => plain c (List.mem_cons_of_mem _ member))
          (List.cons_prefix_cons.mp stands).2

/-- **The search passes an escaped text and its closing quote.** -/
theorem after_escape (hides : Hides table) {key : String} (plain : plainKey key = true) {d : Char}
    (foreign : plainChar d = false) (notColon : d ≠ ':') (value rest : Text) :
    ∀ s : Text, after (sought key value) (escape table s ++ '"' :: d :: rest) =
      after (sought key value) (d :: rest)
  | [] => by
    rw [escape_nil, List.nil_append, sought_eq]
    apply after_cons
    rw [List.cons_prefix_cons]
    exact fun stands => not_prefix_of_plain plain foreign value rest stands.2
  | c :: s => by
    have later := after_escape hides plain foreign notColon value rest s
    have quoted : after (sought key value) ('"' :: (escape table s ++ '"' :: d :: rest)) =
        after (sought key value) (escape table s ++ '"' :: d :: rest) := by
      rw [sought_eq]
      apply after_cons
      rw [List.cons_prefix_cons]
      exact fun stands => not_prefix_escape hides notColon value rest key.toList s
        (plainKey_chars plain) stands.2
    cases found : table c with
    | some letter =>
      rw [escape_cons_some found, List.cons_append, List.cons_append, sought_eq,
        after_cons_of_ne (by decide), ← sought_eq]
      by_cases quote : letter = '"'
      · rw [quote, quoted]
        exact later
      · rw [sought_eq, after_cons_of_ne quote, ← sought_eq]
        exact later
    | none =>
      have notQuote : c ≠ '"' := by
        rintro rfl
        rw [hides.quote] at found
        cases found
      rw [escape_cons_none found, List.cons_append, sought_eq, after_cons_of_ne notQuote,
        ← sought_eq]
      exact later

/-- **The search passes a value.** -/
theorem after_value (hides : Hides table) {key : String} (plain : plainKey key = true) {d : Char}
    (foreign : plainChar d = false) (notColon : d ≠ ':') (value rest : Text) {v : Value}
    (clean : v.Clean) :
    after (sought key value) (v.render table ++ d :: rest) =
      after (sought key value) (d :: rest) := by
  cases v with
  | bare s =>
    rw [sought_eq]
    exact after_append_of_notMem clean
  | text s =>
    have inner := after_escape hides plain foreign notColon value rest s
    rw [Value.render, List.cons_append, List.append_assoc, List.singleton_append, sought_eq,
      after_cons, ← sought_eq]
    · exact inner
    · rw [List.cons_prefix_cons]
      exact fun stands => not_prefix_escape hides notColon value rest key.toList s
        (plainKey_chars plain) stands.2

/-- Two keys that stand at the same place are the same. -/
theorem eq_of_key_prefixed : ∀ (left right : Text) (value rest : Text),
    (∀ c ∈ left, plainChar c = true) → (∀ c ∈ right, plainChar c = true) →
      left ++ '"' :: ':' :: value <+: right ++ '"' :: ':' :: rest → left = right
  | [], [], _, _, _, _, _ => rfl
  | [], r :: rs, _, _, _, plain, stands => by
    have := plain r List.mem_cons_self
    rw [← (List.cons_prefix_cons.mp stands).1] at this
    exact absurd this (by decide)
  | l :: ls, [], _, _, plain, _, stands => by
    have := plain l List.mem_cons_self
    rw [(List.cons_prefix_cons.mp stands).1] at this
    exact absurd this (by decide)
  | l :: ls, r :: rs, value, rest, plainLeft, plainRight, stands => by
    obtain ⟨same, stands⟩ := List.cons_prefix_cons.mp stands
    rw [same, eq_of_key_prefixed ls rs value rest
      (fun c member => plainLeft c (List.mem_cons_of_mem _ member))
      (fun c member => plainRight c (List.mem_cons_of_mem _ member)) stands]

/-- **The search passes the key of another field.** -/
theorem after_pattern {key other : String} (plain : plainKey key = true)
    (plainOther : plainKey other = true) (different : key ≠ other) (value rest : Text) :
    after (sought key value) (pattern other ++ rest) = after (sought key value) rest := by
  have free : '"' ∉ other.toList := fun member =>
    absurd (plainKey_chars plainOther '"' member) (by decide)
  have shape : pattern other ++ rest = '"' :: (other.toList ++ '"' :: ':' :: rest) := by
    simp [pattern]
  rw [shape, sought_eq, after_cons, after_append_of_notMem free, after_cons,
    after_cons_of_ne (by decide)]
  · rw [List.cons_prefix_cons]
    exact fun stands => not_prefix_of_plain plain (by decide) value rest stands.2
  · rw [List.cons_prefix_cons]
    intro stands
    exact different (String.toList_inj.mp (eq_of_key_prefixed key.toList other.toList value rest
      (plainKey_chars plain) (plainKey_chars plainOther) stands.2))

/-- A field, and what follows it: a comma or the closing brace. -/
theorem renderFields_cons (field : String × Value) (rest : List (String × Value)) :
    ∃ d tail, (d = ',' ∨ d = '}') ∧
      renderFields table (field :: rest) = renderField table field ++ d :: tail ∧
      (rest ≠ [] → d = ',' ∧ tail = renderFields table rest) := by
  cases rest with
  | nil => exact ⟨'}', [], .inr rfl, rfl, fun some_ => absurd rfl some_⟩
  | cons next rest => exact ⟨',', _, .inl rfl, rfl, fun _ => ⟨rfl, rfl⟩⟩

theorem foreign_of_end {d : Char} (ending : d = ',' ∨ d = '}') :
    plainChar d = false ∧ d ≠ ':' ∧ d ≠ '"' := by
  rcases ending with rfl | rfl <;> exact ⟨by decide, by decide, by decide⟩

/-- The search among the fields. -/
theorem after_renderFields (hides : Hides table) {key : String} {v : Value} :
    ∀ fields : List (String × Value), (∀ field ∈ fields, plainKey field.1 = true) →
      (∀ field ∈ fields, field.2.Clean) → fields.lookup key = some v →
      ∃ d tail, (d = ',' ∨ d = '}') ∧ ∀ value rest : Text,
        v.render table ++ d :: tail = value ++ rest →
          after (sought key value) (renderFields table fields) = some rest
  | [], _, _, found => by cases found
  | field :: fields, plain, clean, found => by
    obtain ⟨d, tail, ending, shape, continues⟩ := @renderFields_cons table field fields
    by_cases here : key = field.1
    · rw [List.lookup, ← here, beq_self_eq_true] at found
      cases found
      refine ⟨d, tail, ending, ?_⟩
      intro value rest same
      rw [shape, renderField, ← here, List.append_assoc, same, ← List.append_assoc]
      exact after_append _ _
    · rw [List.lookup, beq_false_of_ne here] at found
      have plainHere := plain field List.mem_cons_self
      have plainRest : ∀ other ∈ fields, plainKey other.1 = true :=
        fun other member => plain other (List.mem_cons_of_mem _ member)
      obtain ⟨e, rear, ended, finds⟩ := after_renderFields hides fields plainRest
        (fun other member => clean other (List.mem_cons_of_mem _ member)) found
      have nonempty : fields ≠ [] := by
        rintro rfl
        cases found
      have plainKeyHere : plainKey key = true := by
        obtain ⟨before, behind, split, -⟩ := List.lookup_eq_some_iff.mp found
        exact plainRest (key, v) (by rw [split]; simp)
      obtain ⟨rfl, rfl⟩ := continues nonempty
      refine ⟨e, rear, ended, ?_⟩
      intro value rest same
      obtain ⟨foreign, notColon, notQuote⟩ := foreign_of_end ending
      rw [shape, renderField, List.append_assoc, after_pattern plainKeyHere plainHere here,
        after_value hides plainKeyHere foreign notColon _ _ (clean field List.mem_cons_self),
        sought_eq, after_cons_of_ne notQuote, ← sought_eq]
      exact finds value rest same

/-- **The search for a key finds its field**, whatever the texts hold. -/
theorem after_renderObject (hides : Hides table) {fields : List (String × Value)} {key : String}
    {v : Value} (plain : ∀ field ∈ fields, plainKey field.1 = true)
    (clean : ∀ field ∈ fields, field.2.Clean) (found : fields.lookup key = some v) :
    ∃ d tail, (d = ',' ∨ d = '}') ∧ ∀ value rest : Text,
      v.render table ++ d :: tail = value ++ rest →
        after (sought key value) (renderObject table fields) = some rest := by
  obtain ⟨d, tail, ending, finds⟩ := after_renderFields hides fields plain clean found
  refine ⟨d, tail, ending, ?_⟩
  intro value rest same
  rw [renderObject, sought_eq, after_cons_of_ne (by decide), ← sought_eq]
  exact finds value rest same

end Find

end Retrovue.Foundation.FlatJson
