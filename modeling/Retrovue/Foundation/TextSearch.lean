/-
**The leftmost match in a text**, for patterns that are a label and something read behind it.

* `search`: the first place where a reader succeeds, as a regular expression search finds it;
* `labelled`: a reader behind a label, and the readers `digits`, `signedDigits` and `loneZero`;
* `ofDigitChars_zeros`: a number that was padded with zeros;
* `Clear`: no occurrence of the label begins in a piece of text, whatever follows it;
  `search_append`: such a piece is passed.
-/

import Retrovue.Foundation.FlatJson

namespace Retrovue.Foundation.TextSearch

open Retrovue.Foundation.FlatJson

/-! ### Searching -/

section Search

variable {α : Type}

/-- **What the reader finds at the first place it succeeds.** -/
def search (read : Text → Option α) : Text → Option α
  | [] => read []
  | c :: rest => (read (c :: rest)).or (search read rest)

theorem search_of_read {read : Text → Option α} {text : Text} {found : α}
    (here : read text = some found) : search read text = some found := by
  cases text with
  | nil => exact here
  | cons c rest => rw [search, here, Option.some_or]

theorem search_cons {read : Text → Option α} {c : Char} {rest : Text}
    (absent : read (c :: rest) = none) : search read (c :: rest) = search read rest := by
  rw [search, absent, Option.none_or]

/-- A reader behind a label. -/
def labelled (label : Text) (read : Text → Option α) (text : Text) : Option α :=
  if label <+: text then read (text.drop label.length) else none

theorem labelled_append (label : Text) (read : Text → Option α) (text : Text) :
    labelled label read (label ++ text) = read text := by
  rw [labelled, if_pos (List.prefix_append label text), List.drop_left]

/-- A label that is not empty is not found in the empty text. -/
theorem search_labelled_nil {label : Text} (read : Text → Option α) (labels : label ≠ []) :
    search (labelled label read) [] = none :=
  if_neg fun stands => labels (List.prefix_nil.mp stands)

end Search

/-! ### Pieces of text without the label -/

section Clear

/-- **No occurrence of the label begins in the piece**, whatever follows it. -/
def Clear (label : Text) : Text → Prop
  | [] => True
  | c :: rest => ¬ label <+: c :: rest ∧ ¬ c :: rest <+: label ∧ Clear label rest

instance clearDecidable (label : Text) : ∀ passed : Text, Decidable (Clear label passed)
  | [] => inferInstanceAs (Decidable True)
  | c :: rest =>
    haveI := clearDecidable label rest
    inferInstanceAs (Decidable (¬ label <+: c :: rest ∧ ¬ c :: rest <+: label ∧ Clear label rest))

/-- A piece without the first character of the label is clear. -/
theorem clear_of_notMem {head : Char} {label passed : Text} (begins : label.head? = some head)
    (free : head ∉ passed) : Clear label passed := by
  obtain ⟨more, rfl⟩ := List.head?_eq_some_iff.mp begins
  induction passed with
  | nil => exact trivial
  | cons c rest ih =>
    rw [List.mem_cons, not_or] at free
    refine ⟨?_, ?_, ih free.2⟩
    · exact fun stands => free.1 (List.cons_prefix_cons.mp stands).1
    · exact fun stands => free.1 (List.cons_prefix_cons.mp stands).1.symm

/-- **A clear piece is passed.** -/
theorem search_append {α : Type} {label passed : Text} (read : Text → Option α) (rest : Text)
    (clear : Clear label passed) :
    search (labelled label read) (passed ++ rest) = search (labelled label read) rest := by
  induction passed with
  | nil => rfl
  | cons c passed ih =>
    obtain ⟨absent, short, later⟩ := clear
    rw [List.cons_append, search_cons, ih later]
    apply if_neg
    intro stands
    rcases List.prefix_or_prefix_of_prefix stands (List.prefix_append (c :: passed) rest) with
      inside | reaching
    · exact absent inside
    · exact short reaching

/-- A label that the reader fails behind is passed, if it does not overlap itself. -/
theorem search_label {α : Type} {label rest : Text} {read : Text → Option α} (labels : label ≠ [])
    (clear : Clear label label.tail) (unread : read rest = none) :
    search (labelled label read) (label ++ rest) = search (labelled label read) rest := by
  obtain ⟨c, more, rfl⟩ := List.exists_cons_of_ne_nil labels
  have absent : labelled (c :: more) read (c :: more ++ rest) = none := by
    rw [labelled_append, unread]
  rw [List.cons_append] at absent ⊢
  rw [search_cons absent]
  exact search_append read rest clear

end Clear

/-! ### What is read behind a label -/

section Readers

/-- `\d+`: the digits the text begins with. -/
def digits (text : Text) : Option Text :=
  if text.takeWhile Char.isDigit = [] then none else some (text.takeWhile Char.isDigit)

/-- `-?\d+`. -/
def signedDigits : Text → Option Text
  | '-' :: rest => (digits rest).map ('-' :: ·)
  | text => digits text

/-- `0\b`: a zero that no letter, digit or underscore follows. -/
def loneZero : Text → Option Unit
  | '0' :: c :: _ => if c.isAlphanum || c == '_' then none else some ()
  | ['0'] => some ()
  | _ => none

/-- Digits are read up to where they end. -/
theorem digits_append {shown rest : Text} (some_ : shown ≠ [])
    (all : ∀ c ∈ shown, c.isDigit = true) (ends : ∀ c ∈ rest.head?, c.isDigit = false) :
    digits (shown ++ rest) = some shown := by
  have whole : (shown ++ rest).takeWhile Char.isDigit = shown := by
    rw [List.takeWhile_append_of_pos all]
    cases rest with
    | nil => simp
    | cons c rest => simp [ends c rfl]
  rw [digits, whole, if_neg some_]

/-- Zeros before a number do not change it. -/
theorem ofDigitChars_zeros (zeros n : Nat) :
    Nat.ofDigitChars 10 (List.replicate zeros '0' ++ Nat.toDigits 10 n) 0 = n := by
  induction zeros with
  | zero => exact Nat.ofDigitChars_ten_toDigits
  | succ zeros ih => exact ih

end Readers

end Retrovue.Foundation.TextSearch
