/-
**Lower-casing a text**, as `str.lower` does it.

* `CaseData`: what the character database holds of a character; `CaseData.Lawful`: what it is known for;
* `lower`: each character's lower case, a capital sigma by what stands before and after it;
* `lower_append`: a separator cuts a text for lower-casing;
* `lower_lower`: what was lower-cased stays as it is;
* `mem_lower_iff`: the ASCII characters that are no letters stay, and none comes in.
-/

import Mathlib

namespace Retrovue.Foundation.Casing

/-- **The character database**: full lower-case mappings and the two properties that the rule for the
final sigma reads. -/
structure CaseData where
  lowercase : Char → List Char
  cased : Char → Bool
  caseIgnorable : Char → Bool

namespace CaseData

/-- What is known of the database. -/
structure Lawful (data : CaseData) : Prop where
  ascii : ∀ c : Char, c.toNat < 128 → data.lowercase c = [c.toLower]
  settled : ∀ c : Char, c ≠ 'Σ' → ∀ d ∈ data.lowercase c, d ≠ 'Σ' ∧ data.lowercase d = [d]
  sigmas : data.lowercase 'σ' = ['σ'] ∧ data.lowercase 'ς' = ['ς']
  letters : ∀ c : Char, 128 ≤ c.toNat → ∀ d ∈ data.lowercase c, d.toNat < 128 → d.isLower = true
  nonempty : ∀ c : Char, data.lowercase c ≠ []
  slash : data.cased '/' = false ∧ data.caseIgnorable '/' = false

variable (data : CaseData)

/-- The nearest character that is not ignorable is cased. -/
def meetsCased (text : List Char) : Bool := (text.dropWhile data.caseIgnorable).head?.any data.cased

/-- A sigma is final after a cased character, where no cased one follows. -/
def finalSigma (before after : List Char) : Bool := data.meetsCased before && !data.meetsCased after

/-- The lower case of a character, by what stands before it, the nearest first, and after it. -/
def lowerChar (before : List Char) (c : Char) (after : List Char) : List Char :=
  if c = 'Σ' then [if data.finalSigma before after then 'ς' else 'σ'] else data.lowercase c

/-- The lower case of a text that stands after another one. -/
def lowerFrom (before : List Char) : List Char → List Char
  | [] => []
  | c :: rest => data.lowerChar before c rest ++ lowerFrom (c :: before) rest

/-- `str.lower`. -/
def lower (text : List Char) : List Char := data.lowerFrom [] text

variable {data}

@[simp] theorem lower_nil : data.lower [] = [] := rfl

/-! ### Separators -/

section Separators

theorem meetsCased_append (lawful : data.Lawful) (near far : List Char) :
    data.meetsCased (near ++ '/' :: far) = data.meetsCased near := by
  induction near with
  | nil =>
    unfold meetsCased
    rw [List.nil_append, List.dropWhile_cons_of_neg (by simp [lawful.slash.2]), List.head?_cons,
      Option.any_some, lawful.slash.1]
    rfl
  | cons c near ih =>
    unfold meetsCased at ih ⊢
    rw [List.cons_append]
    cases passed : data.caseIgnorable c with
    | true => rw [List.dropWhile_cons_of_pos passed, List.dropWhile_cons_of_pos passed, ih]
    | false =>
      rw [List.dropWhile_cons_of_neg (by simp [passed]), List.dropWhile_cons_of_neg (by simp [passed])]
      rfl

theorem lowerFrom_context (lawful : data.Lawful) (before far text : List Char) :
    data.lowerFrom (before ++ '/' :: far) text = data.lowerFrom before text := by
  induction text generalizing before with
  | nil => rfl
  | cons c rest ih =>
    have here : data.lowerChar (before ++ '/' :: far) c rest = data.lowerChar before c rest := by
      unfold lowerChar finalSigma
      rw [meetsCased_append lawful]
    rw [lowerFrom, lowerFrom, here, ← List.cons_append, ih]

theorem lowerFrom_slash (lawful : data.Lawful) (before rest : List Char) :
    data.lowerFrom before ('/' :: rest) = '/' :: data.lower rest := by
  have own : data.lowerChar before '/' rest = ['/'] := by
    rw [lowerChar, if_neg (by decide), lawful.ascii '/' (by decide)]
    rfl
  rw [lowerFrom, own]
  exact congrArg (List.cons '/') (lowerFrom_context lawful [] before rest)

theorem lowerFrom_append (lawful : data.Lawful) (before text rest : List Char) :
    data.lowerFrom before (text ++ '/' :: rest) =
      data.lowerFrom before text ++ '/' :: data.lower rest := by
  induction text generalizing before with
  | nil => exact lowerFrom_slash lawful before rest
  | cons c text ih =>
    have here : data.lowerChar before c (text ++ '/' :: rest) = data.lowerChar before c text := by
      unfold lowerChar finalSigma
      rw [meetsCased_append lawful]
    rw [List.cons_append, lowerFrom, lowerFrom, here, ih, List.append_assoc]

/-- **A slash cuts a text for lower-casing.** -/
theorem lower_append (lawful : data.Lawful) (text rest : List Char) :
    data.lower (text ++ '/' :: rest) = data.lower text ++ '/' :: data.lower rest :=
  lowerFrom_append lawful [] text rest

theorem lower_slash (lawful : data.Lawful) (rest : List Char) :
    data.lower ('/' :: rest) = '/' :: data.lower rest := lowerFrom_slash lawful [] rest

end Separators

/-! ### Settled texts -/

section Settled

/-- The character is its own lower case. -/
def Settled (data : CaseData) (c : Char) : Prop := c ≠ 'Σ' ∧ data.lowercase c = [c]

theorem settled_lowerChar (lawful : data.Lawful) (before : List Char) (c : Char)
    (after : List Char) : ∀ d ∈ data.lowerChar before c after, data.Settled d := by
  intro d member
  unfold lowerChar at member
  split_ifs at member with sigma final
  · rw [List.mem_singleton.mp member]
    exact ⟨by decide, lawful.sigmas.2⟩
  · rw [List.mem_singleton.mp member]
    exact ⟨by decide, lawful.sigmas.1⟩
  · exact lawful.settled c sigma d member

theorem settled_lowerFrom (lawful : data.Lawful) (before text : List Char) :
    ∀ d ∈ data.lowerFrom before text, data.Settled d := by
  induction text generalizing before with
  | nil => exact fun _ none_ => absurd none_ List.not_mem_nil
  | cons c rest ih =>
    intro d member
    rcases List.mem_append.mp member with here | later
    · exact settled_lowerChar lawful before c rest d here
    · exact ih (c :: before) d later

theorem lowerFrom_of_settled {text : List Char} (settled : ∀ c ∈ text, data.Settled c)
    (before : List Char) : data.lowerFrom before text = text := by
  induction text generalizing before with
  | nil => rfl
  | cons c rest ih =>
    obtain ⟨here, later⟩ := List.forall_mem_cons.mp settled
    rw [lowerFrom, ih later, lowerChar, if_neg here.1, here.2]
    rfl

theorem lower_of_settled {text : List Char} (settled : ∀ c ∈ text, data.Settled c) :
    data.lower text = text := lowerFrom_of_settled settled []

/-- **What was lower-cased stays as it is.** -/
theorem lower_lower (lawful : data.Lawful) (text : List Char) :
    data.lower (data.lower text) = data.lower text :=
  lower_of_settled (settled_lowerFrom lawful [] text)

/-- The lower-cased texts are those of settled characters. -/
theorem lower_eq_self_iff (lawful : data.Lawful) {text : List Char} :
    data.lower text = text ↔ ∀ c ∈ text, data.Settled c := by
  constructor
  · intro same
    rw [← same]
    exact settled_lowerFrom lawful [] text
  · exact lower_of_settled

end Settled

/-! ### Characters that are no letters -/

section Symbols

/-- An ASCII character other than a letter. -/
def Symbol (c : Char) : Prop := c.toNat < 128 ∧ c.isAlpha = false

instance (c : Char) : Decidable (Symbol c) := inferInstanceAs (Decidable (_ ∧ _))

theorem toLower_cases (c : Char) (ascii : c.toNat < 128) :
    c.toLower = c ∨ (c.isAlpha = true ∧ c.toLower.isAlpha = true) := by
  have all : ∀ n < 128, (Char.ofNat n).toLower = Char.ofNat n ∨
      ((Char.ofNat n).isAlpha = true ∧ (Char.ofNat n).toLower.isAlpha = true) := by decide
  have here := all c.toNat ascii
  rwa [Char.ofNat_toNat] at here

theorem isAlpha_of_isLower {c : Char} (lower : c.isLower = true) : c.isAlpha = true := by
  rw [Char.isAlpha, lower, Bool.or_true]

/-- **No symbol comes in, and none is lost.** -/
theorem mem_lowerChar (lawful : data.Lawful) {x : Char} (symbol : Symbol x) (before : List Char)
    (c : Char) (after : List Char) : x ∈ data.lowerChar before c after ↔ x = c := by
  unfold lowerChar
  split_ifs with sigma final
  · subst sigma
    rw [List.mem_singleton]
    constructor
    · rintro rfl
      exact absurd symbol (by decide)
    · rintro rfl
      exact absurd symbol (by decide)
  · subst sigma
    rw [List.mem_singleton]
    constructor
    · rintro rfl
      exact absurd symbol (by decide)
    · rintro rfl
      exact absurd symbol (by decide)
  · by_cases ascii : c.toNat < 128
    · rw [lawful.ascii c ascii, List.mem_singleton]
      rcases toLower_cases c ascii with same | ⟨letter, lowered⟩
      · rw [same]
      · constructor
        · rintro rfl
          rw [symbol.2] at lowered
          cases lowered
        · rintro rfl
          rw [symbol.2] at letter
          cases letter
    · constructor
      · intro member
        have letter := isAlpha_of_isLower (lawful.letters c (by omega) x member symbol.1)
        rw [symbol.2] at letter
        cases letter
      · rintro rfl
        exact absurd symbol.1 ascii

theorem mem_lower_iff (lawful : data.Lawful) {x : Char} (symbol : Symbol x) {text : List Char} :
    x ∈ data.lower text ↔ x ∈ text := by
  unfold lower
  generalize ([] : List Char) = before
  induction text generalizing before with
  | nil => rfl
  | cons c rest ih =>
    rw [lowerFrom, List.mem_append, List.mem_cons, mem_lowerChar lawful symbol, ih]

theorem lowerChar_ne_nil (lawful : data.Lawful) (before : List Char) (c : Char)
    (after : List Char) : data.lowerChar before c after ≠ [] := by
  unfold lowerChar
  split_ifs
  · exact List.cons_ne_nil _ _
  · exact List.cons_ne_nil _ _
  · exact lawful.nonempty c

/-- A symbol that comes first is its own lower case. -/
theorem lowerChar_symbol (lawful : data.Lawful) {x : Char} (symbol : Symbol x) (before after : List Char) :
    data.lowerChar before x after = [x] := by
  have plain : x ≠ 'Σ' := by
    rintro rfl
    exact absurd symbol (by decide)
  rw [lowerChar, if_neg plain, lawful.ascii x symbol.1]
  rcases toLower_cases x symbol.1 with same | ⟨letter, -⟩
  · rw [same]
  · rw [symbol.2] at letter
    cases letter

theorem lowerFrom_concat (lawful : data.Lawful) {x : Char} (symbol : Symbol x)
    (before text : List Char) :
    ∃ lowered, data.lowerFrom before (text ++ [x]) = lowered ++ [x] := by
  induction text generalizing before with
  | nil =>
    refine ⟨[], ?_⟩
    rw [List.nil_append, lowerFrom, lowerFrom, lowerChar_symbol lawful symbol]
    rfl
  | cons c text ih =>
    obtain ⟨lowered, same⟩ := ih (c :: before)
    refine ⟨data.lowerChar before c (text ++ [x]) ++ lowered, ?_⟩
    rw [List.cons_append, lowerFrom, same, List.append_assoc]

/-- A symbol that comes last stays last. -/
theorem lower_concat (lawful : data.Lawful) {x : Char} (symbol : Symbol x) (text : List Char) :
    ∃ lowered, data.lower (text ++ [x]) = lowered ++ [x] := lowerFrom_concat lawful symbol [] text

/-- Of a character that is no sigma the context does not matter. -/
theorem lowerChar_context {c : Char} (plain : c ≠ 'Σ') (before after before' after' : List Char) :
    data.lowerChar before c after = data.lowerChar before' c after' := by
  unfold lowerChar
  rw [if_neg plain, if_neg plain]

/-- A sigma's lower case is no letter of ASCII. -/
theorem ne_sigma_of_letter {c d : Char} {before after : List Char}
    (lowered : data.lowerChar before c after = [d]) (letter : d.isAlpha = true) : c ≠ 'Σ' := by
  rintro rfl
  rw [lowerChar, if_pos rfl] at lowered
  split_ifs at lowered
  · cases lowered
    cases letter
  · cases lowered
    cases letter

theorem lower_singleton (c : Char) : data.lower [c] = data.lowerChar [] c [] := List.append_nil _

/-- Two characters come from a letter and a symbol only if they are one and the other. -/
theorem lower_eq_pair_iff (lawful : data.Lawful) {text : List Char} {d x : Char}
    (letter : d.isAlpha = true) (symbol : Symbol x) :
    data.lower text = [d, x] ↔ ∃ c, text = [c, x] ∧ data.lower [c] = [d] := by
  constructor
  · intro pair
    cases text with
    | nil => cases pair
    | cons c rest =>
      have split : data.lowerChar [] c rest ++ data.lowerFrom [c] rest = [d, x] := pair
      cases rest with
      | nil =>
        rw [lowerFrom, List.append_nil] at split
        have inside : x ∈ data.lowerChar [] c [] := by
          rw [split]
          simp
        rw [mem_lowerChar lawful symbol] at inside
        subst inside
        rw [lowerChar_symbol lawful symbol] at split
        cases split
      | cons e rest =>
        have nonempty := List.length_pos_iff.mpr (lowerChar_ne_nil lawful [] c (e :: rest))
        have nonempty' := List.length_pos_iff.mpr (lowerChar_ne_nil lawful [c] e rest)
        have lengths := congrArg List.length split
        rw [lowerFrom, List.length_append, List.length_append] at lengths
        simp only [List.length_cons, List.length_nil] at lengths
        obtain ⟨first, single⟩ := List.length_eq_one_iff.mp
          (show (data.lowerChar [] c (e :: rest)).length = 1 by omega)
        obtain ⟨second, single'⟩ := List.length_eq_one_iff.mp
          (show (data.lowerChar [c] e rest).length = 1 by omega)
        have last : data.lowerFrom [e, c] rest = [] :=
          List.length_eq_zero_iff.mp (by omega)
        rw [lowerFrom, single, single', last] at split
        cases split
        have none_ : rest = [] := by
          cases rest with
          | nil => rfl
          | cons f rest =>
            exact absurd (List.append_eq_nil_iff.mp last).1 (lowerChar_ne_nil lawful _ f rest)
        subst none_
        have own : x ∈ data.lowerChar [c] e [] := by
          rw [single']
          exact List.mem_singleton_self x
        rw [mem_lowerChar lawful symbol] at own
        subst own
        refine ⟨c, rfl, ?_⟩
        rw [lower_singleton, ← single]
        exact lowerChar_context (ne_sigma_of_letter single letter) _ _ _ _
  · rintro ⟨c, rfl, lowered⟩
    rw [lower_singleton] at lowered
    show data.lowerChar [] c [x] ++ (data.lowerChar [c] x [] ++ []) = _
    rw [lowerChar_symbol lawful symbol,
      lowerChar_context (ne_sigma_of_letter lowered letter) [] [x] [] [], lowered]
    rfl

theorem lower_eq_nil_iff (lawful : data.Lawful) {text : List Char} :
    data.lower text = [] ↔ text = [] := by
  cases text with
  | nil => exact ⟨fun _ => rfl, fun _ => rfl⟩
  | cons c rest =>
    constructor
    · intro empty
      exact absurd (List.append_eq_nil_iff.mp empty).1 (lowerChar_ne_nil lawful [] c rest)
    · exact fun none_ => absurd none_ (List.cons_ne_nil _ _)

end Symbols

end CaseData

end Retrovue.Foundation.Casing
