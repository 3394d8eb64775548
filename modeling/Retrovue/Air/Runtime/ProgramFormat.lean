/-
**The program format of a channel and its JSON text** (`ProgramFormat.cpp`).

* `fromJson`: the fields are found by searching for their names, the objects by counting braces;
* `toJson`: the text is written without escaping;
* `fromJson_toJson_iff`: a valid format comes back from its text exactly when its aspect policy is not
  empty and has no quote, closes no brace that it did not open and leaves at most one open.
-/

import Mathlib
import Retrovue.Foundation.TextSearch
import Retrovue.Air.Evidence.Envelope

namespace Retrovue.Air.Runtime

open Retrovue.Foundation.FlatJson (Text)
open Retrovue.Foundation.TextSearch
open Retrovue.Air.Evidence (decimal signed digits_of_decimal notMem_decimal quote_notMem_signed)

/-! ### Formats -/

section Formats

/-- `int32_t`. -/
abbrev Int32Value := { n : Int // -2147483648 ≤ n ∧ n < 2147483648 }

/-- `ProgramFormat::Video`. -/
structure Video where
  width : Int32Value
  height : Int32Value
  frameRate : Text
  aspectPolicy : Text
  deriving DecidableEq, Repr

/-- `ProgramFormat::Audio`. -/
structure Audio where
  sampleRate : Int32Value
  channels : Int32Value
  deriving DecidableEq, Repr

/-- `ProgramFormat`. -/
structure ProgramFormat where
  video : Video
  audio : Audio
  deriving DecidableEq, Repr

/-- The default aspect policy. -/
def preserve : Text := "preserve".toList

/-- The two numerals of `\d+/\d+`. -/
def splitRate (frameRate : Text) : Option (Text × Text) :=
  match frameRate.dropWhile Char.isDigit with
  | '/' :: denominator =>
    if frameRate.takeWhile Char.isDigit ≠ [] ∧ denominator ≠ [] ∧
        denominator.all Char.isDigit = true then
      some (frameRate.takeWhile Char.isDigit, denominator)
    else none
  | _ => none

/-- `IsValidFrameRate`. -/
def isValidFrameRate (frameRate : Text) : Bool := (splitRate frameRate).isSome

/-- `IsValid`. -/
def ProgramFormat.isValid (format : ProgramFormat) : Bool :=
  decide (0 < format.video.width.val) && decide (0 < format.video.height.val) &&
    isValidFrameRate format.video.frameRate && decide (0 < format.audio.sampleRate.val) &&
    decide (0 < format.audio.channels.val)

/-- The number that a numeral shows. -/
def numeral (shown : Text) : Nat := Nat.ofDigitChars 10 shown 0

/-- `GetFrameRateAsDouble`, with doubles as rationals. -/
def ProgramFormat.getFrameRateAsDouble (format : ProgramFormat) : ℚ :=
  match splitRate format.video.frameRate with
  | some (numerator, denominator) =>
    if numeral denominator ≠ 0 then numeral numerator / numeral denominator else 0
  | none => 0

end Formats

/-! ### Text to format -/

section Reading

/-- `\s`. -/
def isSpace (c : Char) : Bool := c ∈ [' ', '\t', '\n', '\x0b', '\x0c', '\r']

/-- `\s*`. -/
def skipSpaces (text : Text) : Text := text.dropWhile isSpace

/-- A field's name between quotes. -/
def key (name : String) : Text := '"' :: (name.toList ++ ['"'])

/-- `\s*:\s*` before what is read. -/
def afterColon {α : Type} (read : Text → Option α) (text : Text) : Option α :=
  match skipSpaces text with
  | ':' :: rest => read (skipSpaces rest)
  | _ => none

/-- The search for a field. -/
def searchField {α : Type} (name : String) (read : Text → Option α) (json : Text) : Option α :=
  search (labelled (key name) (afterColon read)) json

/-- `std::stoi`, which throws above the largest `int`. -/
def stoi (shown : Text) : Option Int32Value :=
  if small : numeral shown < 2147483648 then some ⟨numeral shown, by omega, by omega⟩ else none

/-- `ExtractInt`. -/
def extractInt (json : Text) (name : String) : Option Int32Value :=
  (searchField name digits json).bind stoi

/-- `"([^"]+)"`. -/
def quotedText : Text → Option Text
  | '"' :: rest =>
    if rest.takeWhile (· != '"') = [] ∨ rest.dropWhile (· != '"') = [] then none
    else some (rest.takeWhile (· != '"'))
  | _ => none

/-- `ExtractString`. -/
def extractString (json : Text) (name : String) : Option Text := searchField name quotedText json

/-- `\{`. -/
def openBrace : Text → Option Text
  | '{' :: rest => some rest
  | _ => none

/-- The number of open braces after a character. -/
def braceStep (depth : Nat) (c : Char) : Nat :=
  if c = '{' then depth + 1 else if c = '}' then depth - 1 else depth

/-- The text up to the brace that closes the last of `depth` open ones. -/
def closeBraces : Nat → Text → Option Text
  | 0, _ => some []
  | _ + 1, [] => none
  | depth + 1, c :: rest => (closeBraces (braceStep (depth + 1) c) rest).map (c :: ·)

/-- `ExtractNestedObject`. -/
def extractNestedObject (json : Text) (name : String) : Option Text :=
  (searchField name openBrace json).bind fun rest => (closeBraces 1 rest).map ('{' :: ·)

/-- `ProgramFormat::FromJson`. -/
def fromJson (json : Text) : Option ProgramFormat :=
  if json = [] then none
  else do
    let videoJson ← extractNestedObject json "video"
    let width ← extractInt videoJson "width"
    let height ← extractInt videoJson "height"
    let frameRate ← extractString videoJson "frame_rate"
    if isValidFrameRate frameRate then
      let aspectPolicy := (extractString videoJson "aspect_policy").getD preserve
      let audioJson ← extractNestedObject json "audio"
      let sampleRate ← extractInt audioJson "sample_rate"
      let channels ← extractInt audioJson "channels"
      let format : ProgramFormat :=
        ⟨⟨width, height, frameRate, aspectPolicy⟩, ⟨sampleRate, channels⟩⟩
      if format.isValid then some format else none
    else none

end Reading

/-! ### Format to text -/

section Writing

/-- A field and the text behind it. -/
def field (name : String) (value rest : Text) : Text := key name ++ (':' :: (value ++ rest))

/-- The text of the video object up to the aspect policy. -/
def videoHead (video : Video) : Text :=
  field "width" (signed video.width.val)
    (',' :: field "height" (signed video.height.val)
      (',' :: field "frame_rate" ('"' :: (video.frameRate ++ ['"']))
        (',' :: field "aspect_policy" ['"'] [])))

/-- The text of the audio object behind its opening brace. -/
def audioBody (audio : Audio) : Text :=
  field "sample_rate" (signed audio.sampleRate.val)
    (',' :: field "channels" (signed audio.channels.val) ['}'])

/-- The text behind the aspect policy. -/
def jsonTail (audio : Audio) : Text :=
  '"' :: '}' :: ',' :: field "audio" ['{'] (audioBody audio ++ ['}'])

/-- `ToJson`. -/
def toJson (format : ProgramFormat) : Text :=
  '{' :: field "video" ['{']
    (videoHead format.video ++ (format.video.aspectPolicy ++ jsonTail format.audio))

end Writing

/-! ### Braces -/

section Braces

/-- The number of open braces after a text, of which none is read once all are closed. -/
def braceDepth : Nat → Text → Nat
  | 0, _ => 0
  | depth + 1, [] => depth + 1
  | depth + 1, c :: rest => braceDepth (braceStep (depth + 1) c) rest

@[simp] theorem closeBraces_zero (text : Text) : closeBraces 0 text = some [] := by
  cases text <;> rfl

@[simp] theorem braceDepth_zero (text : Text) : braceDepth 0 text = 0 := by cases text <;> rfl

/-- Text that leaves a brace open is passed. -/
theorem closeBraces_append {depth : Nat} {text : Text} (rest : Text)
    (still : braceDepth depth text ≠ 0) :
    closeBraces depth (text ++ rest) =
      (closeBraces (braceDepth depth text) rest).map (text ++ ·) := by
  induction text generalizing depth with
  | nil =>
    cases depth with
    | zero => exact absurd rfl still
    | succ depth => simp [braceDepth]
  | cons c text ih =>
    cases depth with
    | zero => exact absurd rfl still
    | succ depth =>
      simp only [braceDepth] at still
      rw [List.cons_append, closeBraces, ih still, braceDepth, Option.map_map]
      rfl

/-- Text that closes all braces holds the end of what they enclose. -/
theorem closeBraces_inside {depth : Nat} {text : Text} (rest : Text)
    (closed : braceDepth depth text = 0) :
    ∃ inside, inside <+: text ∧ closeBraces depth (text ++ rest) = some inside := by
  induction text generalizing depth with
  | nil =>
    cases depth with
    | zero => exact ⟨[], List.nil_prefix, closeBraces_zero _⟩
    | succ depth => cases closed
  | cons c text ih =>
    cases depth with
    | zero => exact ⟨[], List.nil_prefix, closeBraces_zero _⟩
    | succ depth =>
      obtain ⟨inside, begins, found⟩ := ih closed
      refine ⟨c :: inside, List.cons_prefix_cons.mpr ⟨rfl, begins⟩, ?_⟩
      rw [List.cons_append, closeBraces, found]
      rfl

/-- Text without braces does not change their number. -/
theorem braceDepth_of_notMem {depth : Nat} {text : Text} (opening : '{' ∉ text)
    (closing : '}' ∉ text) : braceDepth depth text = depth := by
  induction text generalizing depth with
  | nil => cases depth <;> rfl
  | cons c text ih =>
    cases depth with
    | zero => rfl
    | succ depth =>
      rw [List.mem_cons, not_or] at opening closing
      rw [braceDepth, braceStep, if_neg (Ne.symm opening.1), if_neg (Ne.symm closing.1)]
      exact ih opening.2 closing.2

theorem braceDepth_append (depth : Nat) (text rest : Text) :
    braceDepth depth (text ++ rest) = braceDepth (braceDepth depth text) rest := by
  induction text generalizing depth with
  | nil => cases depth <;> rfl
  | cons c text ih =>
    cases depth with
    | zero => simp
    | succ depth =>
      rw [List.cons_append, braceDepth, braceDepth]
      exact ih _

end Braces

/-! ### Finding a field -/

section Fields

variable {α : Type}

theorem skipSpaces_cons {c : Char} (visible : isSpace c = false) (rest : Text) :
    skipSpaces (c :: rest) = c :: rest := by
  rw [skipSpaces, List.dropWhile_cons_of_neg (by simp [visible])]

theorem afterColon_colon (read : Text → Option α) {c : Char} (visible : isSpace c = false)
    (rest : Text) : afterColon read (':' :: c :: rest) = read (c :: rest) := by
  rw [afterColon, skipSpaces_cons (by decide)]
  simp only
  rw [skipSpaces_cons visible]

/-- No colon, no value. -/
theorem afterColon_of_ne (read : Text → Option α) {c : Char} (visible : isSpace c = false)
    (other : c ≠ ':') (rest : Text) : afterColon read (c :: rest) = none := by
  rw [afterColon, skipSpaces_cons visible]
  split
  · rename_i same
    exact absurd (List.cons.inj same).1 other
  · rfl

/-- A field is found where it stands. -/
theorem searchField_field {name : String} {read : Text → Option α} {c : Char} {value rest : Text}
    {found : α} (visible : isSpace c = false) (reads : read (c :: (value ++ rest)) = some found) :
    searchField name read (field name (c :: value) rest) = some found := by
  apply search_of_read
  rw [field, labelled_append, List.cons_append, afterColon_colon read visible, reads]

/-- What is found was read somewhere. -/
theorem read_of_search {read : Text → Option α} {text : Text} {found : α}
    (there : search read text = some found) : ∃ place, read place = some found := by
  induction text with
  | nil => exact ⟨[], there⟩
  | cons c rest ih =>
    rw [search] at there
    rcases Option.or_eq_some_iff.mp there with here | ⟨_, later⟩
    · exact ⟨_, here⟩
    · exact ih later

/-- A piece with no quote is passed. -/
theorem searchField_append (name : String) (read : Text → Option α) {passed : Text} (rest : Text)
    (free : '"' ∉ passed) : searchField name read (passed ++ rest) = searchField name read rest :=
  search_append _ rest (@clear_of_notMem '"' (key name) passed rfl free)

/-- Another field's name, and a value without quotes, are passed. -/
theorem searchField_pass {name other : String} (read : Text → Option α) {value : Text} (rest : Text)
    (clear : Clear (key name) (key other ++ [':'])) (free : '"' ∉ value) :
    searchField name read (field other value rest) = searchField name read rest := by
  have pieces : field other value rest = (key other ++ [':']) ++ (value ++ rest) := by
    simp [field]
  rw [pieces, ← searchField_append name read rest free]
  exact search_append _ _ clear

/-- The first quote ends a text without quotes. -/
theorem span_quote {quoted : Text} (rest : Text) (free : '"' ∉ quoted) :
    (quoted ++ '"' :: rest).takeWhile (· != '"') = quoted ∧
      (quoted ++ '"' :: rest).dropWhile (· != '"') = '"' :: rest := by
  have plain : ∀ c ∈ quoted, (c != '"') = true := by
    intro c member
    rw [bne_iff_ne]
    rintro rfl
    exact free member
  constructor
  · rw [List.takeWhile_append_of_pos plain]
    simp
  · rw [List.dropWhile_append_of_pos plain]
    simp

/-- Text between quotes is passed, also when it is the field's name but no colon follows. -/
theorem searchField_quoted {name : String} (read : Text → Option α) {quoted : Text} {c : Char}
    (rest : Text) (free : '"' ∉ quoted) (plain : '"' ∉ name.toList) (visible : isSpace c = false)
    (noColon : c ≠ ':') (other : name.toList.head? ≠ some c) (named : name.toList ≠ []) :
    searchField name read ('"' :: (quoted ++ '"' :: c :: rest)) =
      searchField name read (c :: rest) := by
  have atOpening : labelled (key name) (afterColon read) ('"' :: (quoted ++ '"' :: c :: rest)) =
      none := by
    by_cases stands : key name <+: '"' :: (quoted ++ '"' :: c :: rest)
    · obtain ⟨more, whole⟩ := stands
      have split : name.toList ++ '"' :: more = quoted ++ '"' :: c :: rest := by
        have tails := (List.cons.inj whole).2
        simpa using tails
      have same : more = c :: rest := by
        have tails := (span_quote more plain).2
        rw [split, (span_quote _ free).2] at tails
        exact (List.cons.inj tails).2.symm
      rw [← whole, labelled_append, same]
      exact afterColon_of_ne read visible noColon rest
    · exact if_neg stands
  have atClosing : labelled (key name) (afterColon read) ('"' :: c :: rest) = none := by
    apply if_neg
    intro stands
    obtain ⟨head, tail, split⟩ := List.exists_cons_of_ne_nil named
    have begins := (List.cons_prefix_cons.mp stands).2
    rw [split, List.cons_append] at begins
    apply other
    rw [split, List.head?_cons, (List.cons_prefix_cons.mp begins).1]
  rw [searchField, search_cons atOpening]
  have inside := searchField_append name read ('"' :: c :: rest) free
  rw [searchField, searchField] at inside
  rw [inside, search_cons atClosing]
  rfl

end Fields

/-! ### What is written -/

section Written

/-- A valid rate is two numerals and a slash. -/
theorem splitRate_eq_some {frameRate numerator denominator : Text}
    (split : splitRate frameRate = some (numerator, denominator)) :
    frameRate = numerator ++ '/' :: denominator ∧ numerator ≠ [] ∧ denominator ≠ [] ∧
      (∀ c ∈ numerator, c.isDigit = true) ∧ ∀ c ∈ denominator, c.isDigit = true := by
  unfold splitRate at split
  split at split
  · rename_i rest behind
    obtain ⟨⟨begins, ends, all⟩, parts⟩ := Option.ite_none_right_eq_some.mp split
    cases parts
    have whole := List.takeWhile_append_dropWhile (p := Char.isDigit) (l := frameRate)
    rw [behind] at whole
    exact ⟨whole.symm, begins, ends, fun c => List.mem_takeWhile_imp, List.all_eq_true.mp all⟩
  · cases split

/-- A valid rate holds digits and a slash only. -/
theorem notMem_frameRate {frameRate : Text} (valid : isValidFrameRate frameRate = true) {c : Char}
    (noDigit : c.isDigit = false) (noSlash : c ≠ '/') : c ∉ frameRate := by
  obtain ⟨⟨numerator, denominator⟩, split⟩ := Option.isSome_iff_exists.mp valid
  obtain ⟨rfl, _, _, before, behind⟩ := splitRate_eq_some split
  intro member
  rcases List.mem_append.mp member with inside | inside
  · rw [before c inside] at noDigit
    cases noDigit
  · rcases List.mem_cons.mp inside with slash | inside
    · exact noSlash slash
    · rw [behind c inside] at noDigit
      cases noDigit

theorem frameRate_ne_nil {frameRate : Text} (valid : isValidFrameRate frameRate = true) :
    frameRate ≠ [] := by
  rintro rfl
  cases valid

theorem notMem_signed {c : Char} (noDigit : c.isDigit = false) (noMinus : c ≠ '-') (i : Int) :
    c ∉ signed i := by
  have absent := notMem_decimal noDigit i.natAbs
  unfold signed
  split
  · simpa [noMinus] using absent
  · exact absent

theorem notMem_field {c : Char} {name : String} {value rest : Text} (noName : c ∉ key name)
    (noColon : c ≠ ':') (noValue : c ∉ value) (noRest : c ∉ rest) : c ∉ field name value rest := by
  simp [field, noName, noColon, noValue, noRest]

/-- A positive number is written in digits. -/
theorem signed_positive {value : Int32Value} (positive : 0 < value.val) :
    ∃ c shown, signed value.val = c :: shown ∧ (∀ d ∈ c :: shown, d.isDigit = true) ∧
      stoi (c :: shown) = some value := by
  have written : signed value.val = decimal value.val.natAbs := if_neg (by omega)
  have nonempty : decimal value.val.natAbs ≠ [] := Nat.toDigits_ne_nil
  obtain ⟨c, shown, shows⟩ := List.exists_cons_of_ne_nil nonempty
  refine ⟨c, shown, written.trans shows, ?_, ?_⟩
  · intro d member
    rw [← shows] at member
    exact digits_of_decimal member
  · have same : numeral (c :: shown) = value.val.natAbs := by
      rw [← shows]
      exact Nat.ofDigitChars_ten_toDigits
    have bound := value.property.2
    have small : numeral (c :: shown) < 2147483648 := by omega
    rw [stoi, dif_pos small]
    apply congrArg some
    apply Subtype.ext
    dsimp only
    omega

/-- No space is a digit. -/
theorem visible_of_digit {c : Char} (digit : c.isDigit = true) : isSpace c = false := by
  simp only [isSpace, decide_eq_false_iff_not]
  intro space
  fin_cases space <;> cases digit

/-- **A number is read back** from its field. -/
theorem extractInt_field {name : String} {value : Int32Value} (positive : 0 < value.val) {rest : Text}
    (ends : ∀ c ∈ rest.head?, c.isDigit = false) :
    extractInt (field name (signed value.val) rest) name = some value := by
  obtain ⟨c, shown, written, all, reads⟩ := signed_positive positive
  have found : searchField name digits (field name (c :: shown) rest) = some (c :: shown) :=
    searchField_field (visible_of_digit (all c List.mem_cons_self))
      (digits_append (List.cons_ne_nil c shown) all ends)
  rw [extractInt, written, found]
  exact reads

/-- A quoted text is read up to its end. -/
theorem quotedText_append {quoted : Text} (rest : Text) (free : '"' ∉ quoted)
    (nonempty : quoted ≠ []) : quotedText ('"' :: (quoted ++ '"' :: rest)) = some quoted := by
  obtain ⟨taken, left⟩ := span_quote rest free
  simp only [quotedText, taken, left]
  simp [nonempty]

/-- A text that is read between quotes has none, and is not empty. -/
theorem quotedText_clean {text found : Text} (reads : quotedText text = some found) :
    found ≠ [] ∧ '"' ∉ found := by
  unfold quotedText at reads
  split at reads
  · obtain ⟨whole, taken⟩ := Option.ite_none_left_eq_some.mp reads
    cases taken
    rw [not_or] at whole
    refine ⟨whole.1, ?_⟩
    intro member
    have plain := List.mem_takeWhile_imp member
    simp at plain
  · cases reads

theorem searchField_cons {α : Type} (name : String) (read : Text → Option α) {c : Char}
    (rest : Text) (plain : c ≠ '"') :
    searchField name read (c :: rest) = searchField name read rest :=
  @searchField_append _ name read [c] rest (by simpa using plain.symm)

/-- Another field with a value between quotes is passed. -/
theorem searchField_pass_quoted {α : Type} {name other : String} (read : Text → Option α)
    {quoted : Text} {c : Char} (rest : Text) (clear : Clear (key name) (key other ++ [':']))
    (free : '"' ∉ quoted) (plain : '"' ∉ name.toList) (visible : isSpace c = false)
    (noColon : c ≠ ':') (unlike : name.toList.head? ≠ some c) (named : name.toList ≠ []) :
    searchField name read (key other ++ (':' :: '"' :: (quoted ++ '"' :: c :: rest))) =
      searchField name read (c :: rest) := by
  rw [← searchField_quoted read rest free plain visible noColon unlike named]
  have pieces : key other ++ (':' :: '"' :: (quoted ++ '"' :: c :: rest)) =
      (key other ++ [':']) ++ '"' :: (quoted ++ '"' :: c :: rest) := by simp
  rw [pieces]
  exact search_append _ _ clear

end Written

/-! ### The round trip -/

section RoundTrip

/-- The aspect policies that come back from the text: not empty, without quotes, and with braces that
close none of the objects around them and leave at most one open. -/
def AspectReadable (policy : Text) : Prop :=
  policy ≠ [] ∧ '"' ∉ policy ∧ (braceDepth 1 policy = 1 ∨ braceDepth 1 policy = 2)

instance aspectReadableDecidable (policy : Text) : Decidable (AspectReadable policy) :=
  inferInstanceAs (Decidable (_ ∧ _ ∧ _))

variable {video : Video}

theorem videoHead_append (rest : Text) :
    videoHead video ++ rest =
      field "width" (signed video.width.val)
        (',' :: field "height" (signed video.height.val)
          (',' :: (key "frame_rate" ++ (':' :: '"' :: (video.frameRate ++ '"' :: ',' ::
            (key "aspect_policy" ++ (':' :: '"' :: rest))))))) := by
  simp [videoHead, field]

/-- What the fields of a video object are read as, whatever follows the aspect policy's quote. -/
theorem video_reads (widthPos : 0 < video.width.val) (heightPos : 0 < video.height.val)
    (rate : isValidFrameRate video.frameRate = true) (rest : Text) :
    extractInt ('{' :: (videoHead video ++ rest)) "width" = some video.width ∧
      extractInt ('{' :: (videoHead video ++ rest)) "height" = some video.height ∧
      extractString ('{' :: (videoHead video ++ rest)) "frame_rate" = some video.frameRate ∧
      extractString ('{' :: (videoHead video ++ rest)) "aspect_policy" =
        searchField "aspect_policy" quotedText (key "aspect_policy" ++ (':' :: '"' :: rest)) := by
  have noQuote : '"' ∉ video.frameRate := notMem_frameRate rate (by decide) (by decide)
  rw [videoHead_append]
  refine ⟨?_, ?_, ?_, ?_⟩
  · rw [extractInt, searchField_cons _ _ _ (by decide)]
    exact extractInt_field widthPos (by rintro _ ⟨⟩; decide)
  · rw [extractInt, searchField_cons _ _ _ (by decide),
      searchField_pass _ _ (by decide) (quote_notMem_signed _), searchField_cons _ _ _ (by decide)]
    exact extractInt_field heightPos (by rintro _ ⟨⟩; decide)
  · rw [extractString, searchField_cons _ _ _ (by decide),
      searchField_pass _ _ (by decide) (quote_notMem_signed _), searchField_cons _ _ _ (by decide),
      searchField_pass _ _ (by decide) (quote_notMem_signed _), searchField_cons _ _ _ (by decide)]
    apply search_of_read
    rw [labelled_append, afterColon_colon _ (by decide)]
    exact quotedText_append _ noQuote (frameRate_ne_nil rate)
  · rw [extractString, searchField_cons _ _ _ (by decide),
      searchField_pass _ _ (by decide) (quote_notMem_signed _), searchField_cons _ _ _ (by decide),
      searchField_pass _ _ (by decide) (quote_notMem_signed _), searchField_cons _ _ _ (by decide),
      searchField_pass_quoted _ _ (by decide) noQuote (by decide) (by decide) (by decide)
        (by decide) (by decide), searchField_cons _ _ _ (by decide)]

/-- A policy whose closing quote is there is read up to it. -/
theorem aspect_read {policy : Text} (rest : Text) (nonempty : policy ≠ []) (free : '"' ∉ policy) :
    searchField "aspect_policy" quotedText
        (key "aspect_policy" ++ (':' :: '"' :: (policy ++ '"' :: rest))) = some policy := by
  apply search_of_read
  rw [labelled_append, afterColon_colon _ (by decide)]
  exact quotedText_append rest free nonempty

/-- A policy that is cut off before its closing quote is not read. -/
theorem aspect_unread {cut : Text} (free : '"' ∉ cut) :
    searchField "aspect_policy" quotedText (key "aspect_policy" ++ (':' :: '"' :: cut)) = none := by
  have unread : quotedText ('"' :: cut) = none := by
    have through : cut.dropWhile (· != '"') = [] := by
      rw [List.dropWhile_eq_nil_iff]
      intro c member
      rw [bne_iff_ne]
      rintro rfl
      exact free member
    rw [quotedText, if_pos (.inr through)]
  have atName : labelled (key "aspect_policy") (afterColon quotedText)
      ('"' :: ("aspect_policy".toList ++ '"' :: ':' :: '"' :: cut)) = none := by
    have whole : '"' :: ("aspect_policy".toList ++ '"' :: ':' :: '"' :: cut) =
        key "aspect_policy" ++ (':' :: '"' :: cut) := by simp [key]
    rw [whole, labelled_append, afterColon_colon _ (by decide), unread]
  have atClosing : labelled (key "aspect_policy") (afterColon quotedText)
      ('"' :: ':' :: '"' :: cut) = none := by
    apply if_neg
    intro stands
    have second := (List.cons_prefix_cons.mp stands).2.head (by decide)
    rw [List.head_cons] at second
    revert second
    decide
  have atValue : labelled (key "aspect_policy") (afterColon quotedText) ('"' :: cut) = none := by
    apply if_neg
    intro stands
    have inside := (List.cons_prefix_cons.mp stands).2.subset
      (List.mem_append_right "aspect_policy".toList (List.mem_singleton_self '"'))
    exact free inside
  have name := searchField_append "aspect_policy" quotedText ('"' :: ':' :: '"' :: cut)
    (by decide : '"' ∉ "aspect_policy".toList)
  have colon := searchField_cons "aspect_policy" quotedText ('"' :: cut) (by decide : ':' ≠ '"')
  have value := searchField_append "aspect_policy" quotedText [] free
  rw [searchField, searchField] at name colon value
  have whole : key "aspect_policy" ++ (':' :: '"' :: cut) =
      '"' :: ("aspect_policy".toList ++ '"' :: ':' :: '"' :: cut) := by simp [key]
  rw [searchField, whole, search_cons atName, name, search_cons atClosing, colon,
    search_cons atValue, ← List.append_nil cut, value]
  rfl

variable {audio : Audio}

/-- The fields of an audio object are read back. -/
theorem audio_reads (ratePos : 0 < audio.sampleRate.val) (channelsPos : 0 < audio.channels.val) :
    extractInt ('{' :: audioBody audio) "sample_rate" = some audio.sampleRate ∧
      extractInt ('{' :: audioBody audio) "channels" = some audio.channels := by
  rw [audioBody]
  refine ⟨?_, ?_⟩
  · rw [extractInt, searchField_cons _ _ _ (by decide)]
    exact extractInt_field ratePos (by rintro _ ⟨⟩; decide)
  · rw [extractInt, searchField_cons _ _ _ (by decide),
      searchField_pass _ _ (by decide) (quote_notMem_signed _), searchField_cons _ _ _ (by decide)]
    exact extractInt_field channelsPos (by rintro _ ⟨⟩; decide)

/-- The text of the audio object up to its own brace. -/
def audioHead (audio : Audio) : Text :=
  field "sample_rate" (signed audio.sampleRate.val)
    (',' :: field "channels" (signed audio.channels.val) [])

theorem audioBody_eq : audioBody audio = audioHead audio ++ ['}'] := by
  simp [audioBody, audioHead, field]

/-- A number's field has no brace, if nothing behind it has. -/
theorem notMem_numberField {c : Char} (brace : c = '{' ∨ c = '}') {name : String} {value : Int}
    {rest : Text} (noName : c ∉ key name) (noRest : c ∉ rest) :
    c ∉ field name (signed value) rest := by
  rcases brace with rfl | rfl <;>
    exact notMem_field noName (by decide) (notMem_signed (by decide) (by decide) _) noRest

/-- The number of open braces stays through the audio object. -/
theorem braceDepth_audioHead (depth : Nat) : braceDepth depth (audioHead audio) = depth := by
  apply braceDepth_of_notMem
  · apply notMem_numberField (.inl rfl) (by decide)
    apply List.not_mem_cons_of_ne_of_not_mem (by decide)
    exact notMem_numberField (.inl rfl) (by decide) List.not_mem_nil
  · apply notMem_numberField (.inr rfl) (by decide)
    apply List.not_mem_cons_of_ne_of_not_mem (by decide)
    exact notMem_numberField (.inr rfl) (by decide) List.not_mem_nil

/-- The audio object ends with its own brace. -/
theorem closeBraces_audioBody (rest : Text) :
    closeBraces 1 (audioBody audio ++ rest) = some (audioBody audio) := by
  have depth : braceDepth 1 (audioHead audio) = 1 := braceDepth_audioHead 1
  rw [audioBody_eq, List.append_assoc, closeBraces_append _ (by rw [depth]; decide), depth]
  simp [closeBraces, braceStep]

/-- The video object's text opens and closes no brace before the aspect policy. -/
theorem braceDepth_videoHead (rate : isValidFrameRate video.frameRate = true) :
    braceDepth 1 (videoHead video) = 1 := by
  have quoted : ∀ c, c = '{' ∨ c = '}' → c ∉ '"' :: (video.frameRate ++ ['"']) := by
    rintro c (rfl | rfl) <;> simp [notMem_frameRate rate]
  have flat : ∀ c, c = '{' ∨ c = '}' → c ∉ key "width" ∧ c ∉ key "height" ∧
      c ∉ key "frame_rate" ∧ c ∉ field "aspect_policy" ['"'] [] ∧ c ≠ ',' ∧ c ≠ ':' := by
    rintro c (rfl | rfl) <;> decide
  have free : ∀ c, c = '{' ∨ c = '}' → c ∉ videoHead video := by
    intro c brace
    obtain ⟨noWidth, noHeight, noRate, noAspect, noComma, noColon⟩ := flat c brace
    apply notMem_numberField brace noWidth
    apply List.not_mem_cons_of_ne_of_not_mem noComma
    apply notMem_numberField brace noHeight
    apply List.not_mem_cons_of_ne_of_not_mem noComma
    apply notMem_field noRate noColon (quoted c brace)
    exact List.not_mem_cons_of_ne_of_not_mem noComma noAspect
  exact braceDepth_of_notMem (free '{' (.inl rfl)) (free '}' (.inr rfl))

variable {format : ProgramFormat}

/-- The video object begins behind its brace. -/
theorem video_found :
    extractNestedObject (toJson format) "video" =
      (closeBraces 1 (videoHead format.video ++
        (format.video.aspectPolicy ++ jsonTail format.audio))).map ('{' :: ·) := by
  have found : searchField "video" openBrace (toJson format) =
      some (videoHead format.video ++ (format.video.aspectPolicy ++ jsonTail format.audio)) := by
    rw [toJson, searchField_cons _ _ _ (by decide)]
    exact searchField_field (by decide) rfl
  rw [extractNestedObject, found]
  rfl

/-- The audio object is found, when the aspect policy has no quote. -/
theorem audio_found (rate : isValidFrameRate format.video.frameRate = true)
    (free : '"' ∉ format.video.aspectPolicy) :
    extractNestedObject (toJson format) "audio" = some ('{' :: audioBody format.audio) := by
  have noQuote : '"' ∉ format.video.frameRate := notMem_frameRate rate (by decide) (by decide)
  have found : searchField "audio" openBrace (toJson format) =
      some (audioBody format.audio ++ ['}']) := by
    rw [toJson, searchField_cons _ _ _ (by decide),
      searchField_pass _ _ (by decide) (by decide), videoHead_append,
      searchField_pass _ _ (by decide) (quote_notMem_signed _), searchField_cons _ _ _ (by decide),
      searchField_pass _ _ (by decide) (quote_notMem_signed _), searchField_cons _ _ _ (by decide),
      searchField_pass_quoted _ _ (by decide) noQuote (by decide) (by decide) (by decide)
        (by decide) (by decide), searchField_cons _ _ _ (by decide), jsonTail,
      searchField_pass_quoted _ _ (by decide) free (by decide) (by decide) (by decide)
        (by decide) (by decide), searchField_cons _ _ _ (by decide),
      searchField_cons _ _ _ (by decide)]
    exact searchField_field (by decide) rfl
  rw [extractNestedObject, found]
  exact congrArg (Option.map ('{' :: ·)) (closeBraces_audioBody ['}'])

/-- The text behind the policy, up to the last brace, closes one object. -/
theorem braceDepth_jsonTail (depth : Nat) :
    ∃ body, jsonTail audio = '"' :: (body ++ ['}']) ∧
      braceDepth (depth + 2) ('"' :: body) = depth + 1 := by
  refine ⟨'}' :: ',' :: (key "audio" ++ ([':', '{'] ++ (audioHead audio ++ ['}']))), ?_, ?_⟩
  · simp [jsonTail, field, audioBody_eq]
  · have name : braceDepth (depth + 1) (key "audio") = depth + 1 :=
      braceDepth_of_notMem (by decide) (by decide)
    have opened : braceDepth (depth + 1) [':', '{'] = depth + 2 := by simp [braceDepth, braceStep]
    have closed : braceDepth (depth + 2) ['}'] = depth + 1 := by simp [braceDepth, braceStep]
    have begins : braceDepth (depth + 2)
        ('"' :: '}' :: ',' :: (key "audio" ++ ([':', '{'] ++ (audioHead audio ++ ['}'])))) =
          braceDepth (depth + 1) (key "audio" ++ ([':', '{'] ++ (audioHead audio ++ ['}']))) := by
      simp [braceDepth, braceStep]
    rw [begins, braceDepth_append, name, braceDepth_append, opened, braceDepth_append,
      braceDepth_audioHead, closed]

/-- **The braces behind the policy**: one open brace ends the video object there, two are closed by
the last brace of the text, more are not. -/
theorem closeBraces_jsonTail :
    (∃ rest, closeBraces 1 (jsonTail audio) = some ('"' :: rest)) ∧
      (∃ rest, closeBraces 2 (jsonTail audio) = some ('"' :: rest)) ∧
      ∀ depth, closeBraces (depth + 3) (jsonTail audio) = none := by
  refine ⟨⟨['}'], by simp [jsonTail, closeBraces, braceStep]⟩, ?_, ?_⟩
  · obtain ⟨body, whole, stillOpen⟩ := @braceDepth_jsonTail audio 0
    refine ⟨body ++ ['}'], ?_⟩
    rw [whole, ← List.cons_append, closeBraces_append _ (by rw [stillOpen]; decide), stillOpen]
    simp [closeBraces, braceStep]
  · intro depth
    obtain ⟨body, whole, stillOpen⟩ := @braceDepth_jsonTail audio (depth + 1)
    rw [whole, ← List.cons_append, closeBraces_append _ (by rw [stillOpen]; omega), stillOpen]
    simp [closeBraces, braceStep]

/-- What is parsed when the fields are found. -/
theorem fromJson_of_reads {json videoJson audioJson frameRate : Text}
    {width height sampleRate channels : Int32Value} (nonempty : json ≠ [])
    (videoFound : extractNestedObject json "video" = some videoJson)
    (widthRead : extractInt videoJson "width" = some width)
    (heightRead : extractInt videoJson "height" = some height)
    (rateRead : extractString videoJson "frame_rate" = some frameRate)
    (rate : isValidFrameRate frameRate = true)
    (audioFound : extractNestedObject json "audio" = some audioJson)
    (sampleRateRead : extractInt audioJson "sample_rate" = some sampleRate)
    (channelsRead : extractInt audioJson "channels" = some channels) :
    let format : ProgramFormat :=
      ⟨⟨width, height, frameRate, (extractString videoJson "aspect_policy").getD preserve⟩,
        ⟨sampleRate, channels⟩⟩
    fromJson json = if format.isValid then some format else none := by
  intro format
  rw [fromJson, if_neg nonempty, videoFound, audioFound]
  simp only [Option.bind_eq_bind, Option.bind_some, widthRead, heightRead, rateRead, rate, if_true,
    sampleRateRead, channelsRead, format]

/-- Without a video object nothing is parsed. -/
theorem fromJson_of_no_video {json : Text} (missing : extractNestedObject json "video" = none) :
    fromJson json = none := by
  rw [fromJson]
  split
  · rfl
  · rw [missing]
    rfl

/-- A parsed aspect policy is not empty and has no quote. -/
theorem fromJson_aspectPolicy {json : Text} (parsed : fromJson json = some format) :
    format.video.aspectPolicy ≠ [] ∧ '"' ∉ format.video.aspectPolicy := by
  have clean : ∀ videoJson,
      (extractString videoJson "aspect_policy").getD preserve ≠ [] ∧
        '"' ∉ (extractString videoJson "aspect_policy").getD preserve := by
    intro videoJson
    cases read : extractString videoJson "aspect_policy" with
    | none => decide
    | some policy =>
      obtain ⟨place, found⟩ := read_of_search read
      have quoted : ∃ text, quotedText text = some policy := by
        unfold labelled at found
        obtain ⟨_, found⟩ := Option.ite_none_right_eq_some.mp found
        unfold afterColon at found
        split at found
        · exact ⟨_, found⟩
        · cases found
      obtain ⟨text, quoted⟩ := quoted
      exact quotedText_clean quoted
  unfold fromJson at parsed
  obtain ⟨_, parsed⟩ := Option.ite_none_left_eq_some.mp parsed
  simp only [Option.bind_eq_bind, Option.bind_eq_some_iff] at parsed
  obtain ⟨videoJson, _, width, _, height, _, frameRate, _, parsed⟩ := parsed
  obtain ⟨_, parsed⟩ := Option.ite_none_right_eq_some.mp parsed
  simp only [Option.bind_eq_some_iff] at parsed
  obtain ⟨_, _, _, _, _, _, parsed⟩ := parsed
  obtain ⟨_, same⟩ := Option.ite_none_right_eq_some.mp parsed
  cases same
  exact clean videoJson

/-- What a valid format's text is parsed as, given what its video object is taken to be. -/
theorem fromJson_toJson_of_video (valid : format.isValid = true)
    (free : '"' ∉ format.video.aspectPolicy) {rest : Text}
    (videoText : extractNestedObject (toJson format) "video" =
      some ('{' :: (videoHead format.video ++ rest))) :
    let policy := (searchField "aspect_policy" quotedText
      (key "aspect_policy" ++ (':' :: '"' :: rest))).getD preserve
    fromJson (toJson format) =
      some { format with video := { format.video with aspectPolicy := policy } } := by
  intro policy
  have checks := valid
  simp only [ProgramFormat.isValid, Bool.and_eq_true, decide_eq_true_eq] at checks
  obtain ⟨⟨⟨⟨widthPos, heightPos⟩, rate⟩, ratePos⟩, channelsPos⟩ := checks
  obtain ⟨width, height, frameRate, aspect⟩ := video_reads widthPos heightPos rate rest
  obtain ⟨sampleRate, channels⟩ := audio_reads ratePos channelsPos
  have nonempty : toJson format ≠ [] := List.cons_ne_nil _ _
  have parsed := fromJson_of_reads nonempty videoText width height frameRate rate
    (audio_found rate free) sampleRate channels
  rw [aspect] at parsed
  rw [parsed, if_pos]
  simpa [ProgramFormat.isValid] using valid

/-- **The round trip**: a valid format comes back from its text exactly when its aspect policy can be
read. -/
theorem fromJson_toJson_iff (valid : format.isValid = true) :
    fromJson (toJson format) = some format ↔ AspectReadable format.video.aspectPolicy := by
  have rate : isValidFrameRate format.video.frameRate = true := by
    simp only [ProgramFormat.isValid, Bool.and_eq_true] at valid
    exact valid.1.1.2
  have head := braceDepth_videoHead rate
  have found := @video_found format
  rw [closeBraces_append _ (by rw [head]; decide), head] at found
  obtain ⟨⟨_, one⟩, ⟨_, two⟩, more⟩ := @closeBraces_jsonTail format.audio
  -- a policy that leaves its object, or one object more, open is read to its closing quote
  have readable : ∀ {after : Text}, '"' ∉ format.video.aspectPolicy →
      format.video.aspectPolicy ≠ [] →
      extractNestedObject (toJson format) "video" =
        some ('{' :: (videoHead format.video ++ (format.video.aspectPolicy ++ '"' :: after))) →
      fromJson (toJson format) = some format := by
    intro after free nonempty videoText
    have parsed := fromJson_toJson_of_video valid free videoText
    rw [aspect_read after nonempty free] at parsed
    exact parsed
  constructor
  · intro parsed
    obtain ⟨nonempty, free⟩ := fromJson_aspectPolicy parsed
    refine ⟨nonempty, free, ?_⟩
    rcases depth : braceDepth 1 format.video.aspectPolicy with _ | _ | _ | further
    · obtain ⟨inside, begins, cut⟩ := closeBraces_inside (jsonTail format.audio) depth
      rw [cut] at found
      have noQuote : '"' ∉ inside := fun member => free (begins.subset member)
      have truncated := fromJson_toJson_of_video valid free found
      rw [aspect_unread noQuote, parsed] at truncated
      have default : format.video.aspectPolicy = preserve :=
        congrArg (fun format => format.video.aspectPolicy) (Option.some.inj truncated)
      rw [default] at depth
      exact absurd depth (by decide)
    · exact .inl rfl
    · exact .inr rfl
    · rw [closeBraces_append _ (by rw [depth]; omega), depth, more further] at found
      rw [fromJson_of_no_video found] at parsed
      cases parsed
  · rintro ⟨nonempty, free, still | still⟩
    · rw [closeBraces_append _ (by rw [still]; decide), still, one] at found
      exact readable free nonempty found
    · rw [closeBraces_append _ (by rw [still]; decide), still, two] at found
      exact readable free nonempty found

end RoundTrip

end Retrovue.Air.Runtime
