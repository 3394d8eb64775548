/-
**Looking for the brace that closes an object**, with one character of look-behind for quotes.

* `closing`: the scan; inside quotes a quote closes unless a backslash stands before it;
* `ScanState`, `scanText`: what a text of the object does to the scan. An escaped text that ends in a
  backslash leaves the scan inside quotes; from there on texts and what is between them change places,
  until a text has a quote;
* `closing_fields_iff`: the scan finds the end of a rendered object exactly when it comes out of the
  object's texts as it went in.
-/

import Mathlib
import Retrovue.Foundation.FlatJson

namespace Retrovue.Foundation.BraceScan

open Retrovue.Foundation.FlatJson

/-! ### The scan -/

section Scan

/-- **What follows the brace that closes an object**, some braces deep. Inside quotes it remembers the
character before. -/
def closing : ℕ → Option Char → Text → Option Text
  | 0, _, rest => some rest
  | _ + 1, _, [] => none
  | depth + 1, none, c :: rest =>
    if c = '{' then closing (depth + 2) none rest
    else if c = '}' then closing depth none rest
    else closing (depth + 1) (if c = '"' then some c else none) rest
  | depth + 1, some prev, c :: rest =>
    closing (depth + 1) (if c = '"' ∧ prev ≠ '\\' then none else some c) rest

@[simp]
theorem closing_zero (quoted : Option Char) (text : Text) : closing 0 quoted text = some text := by
  cases text <;> rfl

/-- What it finds is the end of the text, and less than all of it. -/
theorem closing_suffix (text : Text) : ∀ {depth : ℕ} {quoted : Option Char} {rest : Text},
    closing (depth + 1) quoted text = some rest → rest <:+ text ∧ rest.length < text.length := by
  induction text with
  | nil =>
    intro depth quoted rest found
    cases found
  | cons c text ih =>
    intro depth quoted rest found
    have later {depth : ℕ} {quoted : Option Char} (found : closing (depth + 1) quoted text = some rest) :
        rest <:+ c :: text ∧ rest.length < (c :: text).length := by
      obtain ⟨suffix, shorter⟩ := ih found
      exact ⟨suffix.trans (List.suffix_cons c text), Nat.lt_succ_of_lt shorter⟩
    cases quoted with
    | none =>
      rw [closing] at found
      split_ifs at found with opens closes
      · exact later found
      · cases depth with
        | zero =>
          rw [closing_zero] at found
          obtain rfl := Option.some.inj found
          exact ⟨List.suffix_cons c text, Nat.lt_succ_self _⟩
        | succ depth => exact later found
      · exact later found
      · exact later found
    | some prev => exact later found

/-- Inside quotes only a backslash is remembered. -/
theorem closing_congr {prev : Char} (plain : prev ≠ '\\') (depth : ℕ) (text : Text) :
    closing (depth + 1) (some prev) text = closing (depth + 1) (some '"') text := by
  cases text with
  | nil => rfl
  | cons c text =>
    rw [closing, closing]
    simp [plain]

end Scan

/-! ### What a text does to the scan -/

section Texts

/-- Whether what is outside quotes counts as inside, and the braces that are open in the object. -/
structure ScanState where
  inverted : Bool
  opened : ℕ
  deriving DecidableEq, Repr

/-- Inside quotes after a quote, or outside. -/
def resume (inverted : Bool) : Option Char := if inverted then some '"' else none

/-- The open braces after a text; one that closes the object is none of its own. -/
def braces : ℕ → Text → Option ℕ
  | count, [] => some count
  | count, c :: rest =>
    if c = '{' then braces (count + 1) rest
    else if c = '}' then
      match count with
      | 0 => none
      | count + 1 => braces count rest
    else braces count rest

@[simp]
theorem braces_opening (count : ℕ) (rest : Text) :
    braces count ('{' :: rest) = braces (count + 1) rest := by simp [braces]

@[simp]
theorem braces_closing_zero (rest : Text) : braces 0 ('}' :: rest) = none := by simp [braces]

@[simp]
theorem braces_closing_succ (count : ℕ) (rest : Text) :
    braces (count + 1) ('}' :: rest) = braces count rest := by simp [braces]

theorem braces_other {c : Char} (opens : c ≠ '{') (closes : c ≠ '}') (count : ℕ) (rest : Text) :
    braces count (c :: rest) = braces count rest := by simp [braces, opens, closes]

/-- A text whose last character is a backslash. -/
def endsInBackslash (s : Text) : Bool := s.getLast? == some '\\'

/-- **A text**: its last character counts, and in the inverted scan the braces before its first quote. -/
def scanText (state : ScanState) (s : Text) : Option ScanState :=
  if state.inverted then
    (braces state.opened (s.takeWhile (· ≠ '"'))).map fun count =>
      ⟨if '"' ∈ s then endsInBackslash s else true, count⟩
  else some ⟨endsInBackslash s, state.opened⟩

/-- The texts of some fields. -/
def texts (fields : List (String × Value)) : List Text :=
  fields.filterMap fun field =>
    match field.2 with
    | .text s => some s
    | .bare _ => none

/-- **The scan comes out of some texts as it went in.** -/
def Passes (passed : List Text) : Prop := passed.foldlM scanText ⟨false, 0⟩ = some ⟨false, 0⟩

instance (passed : List Text) : Decidable (Passes passed) := inferInstanceAs (Decidable (_ = _))

/-- It does when no text ends in a backslash. -/
theorem passes_of_forall {passed : List Text} (plain : ∀ s ∈ passed, endsInBackslash s = false) :
    Passes passed := by
  unfold Passes
  induction passed with
  | nil => rfl
  | cons s rest ih =>
    obtain ⟨here, later⟩ := List.forall_mem_cons.mp plain
    rw [List.foldlM_cons, scanText, if_neg Bool.false_ne_true, here]
    exact ih later

/-- A character that the scan passes. -/
def Plain (c : Char) : Prop := c ≠ '"' ∧ c ≠ '\\' ∧ c ≠ '{' ∧ c ≠ '}'

instance (c : Char) : Decidable (Plain c) := inferInstanceAs (Decidable (_ ∧ _ ∧ _ ∧ _))

/-- Nothing of a field but its text matters to the scan. -/
structure Scannable (field : String × Value) : Prop where
  key : ∀ c ∈ field.1.toList, Plain c
  bare : ∀ s, field.2 = .bare s → ∀ c ∈ s, Plain c

/-- A table whose letters the scan passes. -/
structure Passing (table : Char → Option Char) : Prop extends Hides table where
  opening : table '{' = none
  closes : table '}' = none
  letters : ∀ c letter, table c = some letter → letter ≠ '{' ∧ letter ≠ '}' ∧ (letter = '\\' ↔ c = '\\')

end Texts

/-! ### The scan of a rendered object -/

section Rendered

variable {table : Char → Option Char}

/-- Plain characters are passed, outside quotes and inside. -/
theorem closing_plain (depth : ℕ) (inverted : Bool) {passed : Text} (plain : ∀ c ∈ passed, Plain c)
    (rest : Text) :
    closing (depth + 1) (resume inverted) (passed ++ rest) =
      closing (depth + 1) (resume inverted) rest := by
  induction passed with
  | nil => rfl
  | cons c passed ih =>
    obtain ⟨⟨quote, backslash, opens, closes⟩, later⟩ := List.forall_mem_cons.mp plain
    rw [List.cons_append]
    cases inverted with
    | false =>
      rw [resume, if_neg Bool.false_ne_true, closing, if_neg opens, if_neg closes, if_neg quote]
      exact ih later
    | true =>
      rw [resume, if_pos rfl, closing, if_neg (fun both => quote both.1), closing_congr backslash]
      exact ih later

/-- A quote after no backslash changes sides. -/
theorem closing_quote (depth : ℕ) (inverted : Bool) (rest : Text) :
    closing (depth + 1) (resume inverted) ('"' :: rest) =
      closing (depth + 1) (resume !inverted) rest := by
  cases inverted <;> rfl

/-- What a field begins with is passed. -/
theorem closing_pattern (depth : ℕ) (inverted : Bool) {key : String}
    (plain : ∀ c ∈ key.toList, Plain c) (rest : Text) :
    closing (depth + 1) (resume inverted) (pattern key ++ rest) =
      closing (depth + 1) (resume inverted) rest := by
  rw [pattern, List.cons_append, closing_quote, List.append_assoc, closing_plain _ _ plain,
    List.cons_append, List.cons_append, List.nil_append, closing_quote, Bool.not_not]
  exact @closing_plain depth inverted [':'] (List.forall_mem_singleton.mpr (by decide)) rest

/-- **Inside quotes an escaped text ends at its closing quote**, but for a last backslash. -/
theorem closing_inside (passing : Passing table) (depth : ℕ) (rest s : Text) : ∀ prev : Char,
    closing (depth + 1) (some prev) (escape table s ++ '"' :: rest) =
      closing (depth + 1) (resume (s.getLastD prev == '\\')) rest := by
  induction s with
  | nil =>
    intro prev
    rw [escape_nil, List.nil_append, closing, List.getLastD_nil]
    by_cases backslash : prev = '\\' <;> simp [backslash, resume]
  | cons c s ih =>
    intro prev
    rw [List.getLastD_cons]
    cases letter : table c with
    | none =>
      have notQuote : c ≠ '"' := by
        rintro rfl
        cases letter.symm.trans passing.quote
      rw [escape_cons_none letter, List.cons_append, closing, if_neg (fun both => notQuote both.1), ih]
    | some letter' =>
      have same := (passing.letters c letter' letter).2.2
      rw [escape_cons_some letter, List.cons_append, List.cons_append, closing, if_neg (by simp),
        closing, if_neg (by simp), ih]
      cases s with
      | nil =>
        congr 2
        rw [List.getLastD_nil, List.getLastD_nil, Bool.eq_iff_iff, beq_iff_eq, beq_iff_eq]
        exact same
      | cons next s => rfl

theorem endsInBackslash_cons (c : Char) (s : Text) :
    endsInBackslash (c :: s) = (s.getLastD c == '\\') := by
  rw [endsInBackslash, List.getLast?_cons, List.getLastD_eq_getLast?]
  rfl

/-- A first character that is no quote decides nothing. -/
theorem ends_cons {c : Char} (notQuote : c ≠ '"') (s : Text) :
    (if '"' ∈ c :: s then endsInBackslash (c :: s) else true) =
      if '"' ∈ s then endsInBackslash s else true := by
  by_cases quoted : '"' ∈ s
  · rw [if_pos quoted, if_pos (List.mem_cons_of_mem c quoted)]
    obtain ⟨next, rest, rfl⟩ := List.exists_cons_of_ne_nil (List.ne_nil_of_mem quoted)
    rfl
  · rw [if_neg quoted, if_neg]
    exact fun inside => quoted (List.mem_of_ne_of_mem notQuote.symm inside)

/-- **Outside quotes an escaped text counts up to its first quote**: its braces are those of the object,
and one too many closes it early. -/
theorem closing_outside (passing : Passing table) (rest s : Text) : ∀ opened : ℕ,
    match braces opened (s.takeWhile (· ≠ '"')) with
    | some count => closing (opened + 1) none (escape table s ++ '"' :: rest) =
        closing (count + 1) (resume (if '"' ∈ s then endsInBackslash s else true)) rest
    | none => ∃ early, closing (opened + 1) none (escape table s ++ '"' :: rest) = some early ∧
        rest.length < early.length := by
  induction s with
  | nil =>
    intro opened
    rfl
  | cons c s ih =>
    intro opened
    by_cases quote : c = '"'
    · -- the text's own quote: from here on the scan is inside
      subst quote
      rw [List.takeWhile_cons_of_neg (by simp), escape_cons_some passing.quote,
        if_pos List.mem_cons_self, endsInBackslash_cons]
      exact closing_inside passing opened rest s '"'
    · rw [List.takeWhile_cons_of_pos (by simpa using quote), ends_cons quote]
      cases letter : table c with
      | none =>
        rw [escape_cons_none letter, List.cons_append, closing]
        by_cases opens : c = '{'
        · subst opens
          rw [braces_opening, if_pos rfl]
          exact ih (opened + 1)
        by_cases closes : c = '}'
        · subst closes
          rw [if_neg (by decide), if_pos rfl]
          cases opened with
          | zero =>
            rw [braces_closing_zero]
            refine ⟨_, closing_zero _ _, ?_⟩
            rw [List.length_append, List.length_cons]
            omega
          | succ opened =>
            rw [braces_closing_succ]
            exact ih opened
        · rw [braces_other opens closes, if_neg opens, if_neg closes, if_neg quote]
          exact ih opened
      | some shown =>
        have opens : c ≠ '{' := by
          rintro rfl
          cases letter.symm.trans passing.opening
        have closes : c ≠ '}' := by
          rintro rfl
          cases letter.symm.trans passing.closes
        have shownOpens := (passing.letters c shown letter).1
        have shownCloses := (passing.letters c shown letter).2.1
        have shownQuote : shown ≠ '"' := fun same => quote (passing.letter c shown letter same)
        rw [escape_cons_some letter, List.cons_append, List.cons_append, closing, if_neg (by decide),
          if_neg (by decide), if_neg (by decide), closing, if_neg shownOpens, if_neg shownCloses,
          if_neg shownQuote, braces_other opens closes]
        exact ih opened

/-- The text of a field, if it has one. -/
theorem texts_cons (field : String × Value) (rest : List (String × Value)) :
    texts (field :: rest) = texts [field] ++ texts rest := by
  rw [← List.singleton_append, texts, List.filterMap_append]
  rfl

/-- **One field** does to the scan what its text does. -/
theorem closing_field (passing : Passing table) {field : String × Value} (scannable : Scannable field)
    (state : ScanState) (rest : Text) :
    match (texts [field]).foldlM scanText state with
    | some next => closing (state.opened + 1) (resume state.inverted)
        (renderField table field ++ rest) = closing (next.opened + 1) (resume next.inverted) rest
    | none => ∃ early, closing (state.opened + 1) (resume state.inverted)
        (renderField table field ++ rest) = some early ∧ rest.length < early.length := by
  obtain ⟨key, value⟩ := field
  rw [renderField, List.append_assoc, closing_pattern _ _ scannable.key]
  cases value with
  | bare s => exact closing_plain _ _ (scannable.bare s rfl) rest
  | text s =>
    have scanned : (texts [(key, Value.text s)]).foldlM scanText state = scanText state s := by
      simp [texts]
    rw [scanned, Value.render, List.cons_append, List.append_assoc, closing_quote]
    obtain ⟨inverted, opened⟩ := state
    cases inverted with
    | false =>
      have inside := closing_inside passing opened rest s '"'
      have last : (s.getLastD '"' == '\\') = endsInBackslash s := by
        cases s with
        | nil => rfl
        | cons c s => rw [endsInBackslash_cons, List.getLastD_cons]
      rw [last] at inside
      exact inside
    | true =>
      have outside := closing_outside passing rest s opened
      unfold scanText
      cases counted : braces opened (s.takeWhile (· ≠ '"')) with
      | none =>
        rw [counted] at outside
        exact outside
      | some count =>
        rw [counted] at outside
        exact outside

/-- **The fields**, up to the brace that closes the object. -/
theorem closing_fields (passing : Passing table) (tail : Text) : ∀ (fields : List (String × Value))
    (state : ScanState), (∀ field ∈ fields, Scannable field) →
    match (texts fields).foldlM scanText state with
    | some next => closing (state.opened + 1) (resume state.inverted)
        (renderFields table fields ++ tail) = closing (next.opened + 1) (resume next.inverted)
          ('}' :: tail)
    | none => ∃ early, closing (state.opened + 1) (resume state.inverted)
        (renderFields table fields ++ tail) = some early ∧ tail.length + 1 < early.length
  | [], state, _ => rfl
  | [field], state, scannable => by
    have one := closing_field passing (scannable field List.mem_cons_self) state ('}' :: tail)
    rw [renderFields, List.append_assoc]
    exact one
  | field :: following :: rest, state, scannable => by
    have one := closing_field passing (scannable field List.mem_cons_self) state
      (',' :: (renderFields table (following :: rest) ++ tail))
    rw [texts_cons, List.foldlM_append, renderFields, List.append_assoc, List.cons_append]
    cases passed : (texts [field]).foldlM scanText state with
    | none =>
      rw [passed] at one
      obtain ⟨early, found, longer⟩ := one
      refine ⟨early, found, ?_⟩
      have shown : 0 < (renderFields table (following :: rest)).length := by
        cases rest <;> simp [renderFields]
      rw [List.length_cons, List.length_append] at longer
      omega
    | some next =>
      rw [passed] at one
      have comma := @closing_plain next.opened next.inverted [','] (List.forall_mem_singleton.mpr
        (by decide)) (renderFields table (following :: rest) ++ tail)
      have later := closing_fields passing tail (following :: rest) next
        fun field mem => scannable field (List.mem_cons_of_mem _ mem)
      rw [Option.bind_eq_bind, Option.bind_some]
      rw [List.singleton_append] at comma
      rw [one, comma]
      exact later

/-- **The scan finds the end of an object exactly when it passes its texts.** -/
theorem closing_fields_iff (passing : Passing table) {fields : List (String × Value)}
    (scannable : ∀ field ∈ fields, Scannable field) (tail : Text) :
    closing 1 none (renderFields table fields ++ tail) = some tail ↔ Passes (texts fields) := by
  have scanned := closing_fields passing tail fields ⟨false, 0⟩ scannable
  unfold Passes
  cases passed : (texts fields).foldlM scanText ⟨false, 0⟩ with
  | none =>
    rw [passed] at scanned
    obtain ⟨early, found, longer⟩ := scanned
    refine iff_of_false (fun same => ?_) (by simp)
    rw [show early = tail from Option.some.inj (found.symm.trans same)] at longer
    omega
  | some state =>
    rw [passed] at scanned
    rw [show closing 1 none (renderFields table fields ++ tail) = _ from scanned]
    obtain ⟨inverted, opened⟩ := state
    have shorter {depth : ℕ} {quoted : Option Char} : closing (depth + 1) quoted tail ≠ some tail :=
      fun found => absurd (closing_suffix tail found).2 (lt_irrefl _)
    cases inverted with
    | true =>
      refine iff_of_false (fun found => ?_) (by simp)
      rw [resume, if_pos rfl, closing, if_neg (by decide)] at found
      exact shorter found
    | false =>
      rw [resume, if_neg Bool.false_ne_true, closing, if_neg (by decide), if_pos rfl]
      cases opened with
      | zero => simp
      | succ opened => exact iff_of_false shorter (by simp)

end Rendered

end Retrovue.Foundation.BraceScan
