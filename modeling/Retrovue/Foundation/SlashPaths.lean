/-
**Paths as texts with slashes of either kind.**

* `segments`: the names between the slashes; `rooted`: whether the text begins with a slash;
* `render`: a path written with single slashes; `segments_render`, `rooted_render`: reading it back;
* `collapse`, `dropTrailing`: runs of slashes made one, and the last slash dropped;
  `dropTrailing_collapse`: together they render the names of the text;
* `not_infix_render`: a rendered path has no two slashes in a row.
-/

import Mathlib

namespace Retrovue.Foundation.SlashPaths

/-- A slash or a backslash. -/
def isSlash (c : Char) : Bool := c == '/' || c == '\\'

/-- `path.replace("\\", "/")`, of one character. -/
def toSlash (c : Char) : Char := if c = '\\' then '/' else c

/-- The names between the slashes. -/
def segments (text : List Char) : List (List Char) := (text.splitOnP isSlash).filter (· ≠ [])

/-- The text begins with a slash. -/
def rooted (text : List Char) : Bool := text.head?.any isSlash

/-- The names, with single slashes between them and one before them where the path is rooted. -/
def render (root : Bool) (names : List (List Char)) : List Char :=
  (if root then ['/'] else []) ++ ['/'].intercalate names

/-- A name: some characters, none of them a slash. -/
def Name (name : List Char) : Prop := name ≠ [] ∧ ∀ c ∈ name, isSlash c = false

/-! ### Names of a text -/

section Segments

@[simp] theorem segments_nil : segments [] = [] := rfl

theorem segments_append {slash : Char} (isSlash_ : isSlash slash = true) (before after : List Char) :
    segments (before ++ slash :: after) = segments before ++ segments after := by
  unfold segments
  rw [List.splitOnP_append_cons _ _ isSlash_, List.filter_append]

theorem segments_slash {slash : Char} (isSlash_ : isSlash slash = true) (after : List Char) :
    segments (slash :: after) = segments after :=
  segments_append isSlash_ [] after

theorem segments_name {name : List Char} (named : Name name) : segments name = [name] := by
  unfold segments
  rw [List.splitOnP_eq_singleton named.2, List.filter_cons_of_pos (by simpa using named.1)]
  rfl

theorem name_of_mem_segments {text name : List Char} (member : name ∈ segments text) :
    Name name := by
  obtain ⟨split, nonempty⟩ := List.mem_filter.mp member
  refine ⟨by simpa using nonempty, ?_⟩
  clear nonempty member
  induction text generalizing name with
  | nil =>
    rw [List.splitOnP_nil, List.mem_singleton] at split
    subst split
    exact fun _ none_ => absurd none_ List.not_mem_nil
  | cons c rest ih =>
    rw [List.splitOnP_cons_eq_if_modifyHead] at split
    split_ifs at split with here
    · rcases List.mem_cons.mp split with rfl | later
      · exact fun _ none_ => absurd none_ List.not_mem_nil
      · exact ih later
    · cases pieces : rest.splitOnP isSlash with
      | nil => exact absurd pieces (List.splitOnP_ne_nil _ _)
      | cons first others =>
        rw [pieces, List.modifyHead_cons] at split
        rcases List.mem_cons.mp split with rfl | later
        · intro d inside
          rcases List.mem_cons.mp inside with rfl | tail
          · exact Bool.eq_false_of_not_eq_true here
          · exact ih (by rw [pieces]; exact List.mem_cons_self) d tail
        · exact ih (by rw [pieces]; exact List.mem_cons_of_mem _ later)

/-- A text has no names when it has slashes only. -/
theorem segments_eq_nil_iff {text : List Char} :
    segments text = [] ↔ ∀ c ∈ text, isSlash c = true := by
  induction text with
  | nil => simp
  | cons c rest ih =>
    rw [List.forall_mem_cons]
    cases here : isSlash c with
    | true => rw [segments_slash here, ih]; simp
    | false =>
      constructor
      · intro none_
        obtain ⟨first, others, pieces⟩ :=
          List.exists_cons_of_ne_nil (List.splitOnP_ne_nil isSlash rest)
        rw [segments, List.splitOnP_cons_eq_if_modifyHead, here, if_neg Bool.false_ne_true, pieces,
          List.modifyHead_cons, List.filter_cons_of_pos (by simp)] at none_
        cases none_
      · intro both
        cases both.1

/-- A text of several names that does not begin with a slash begins with the first of them. -/
theorem exists_of_segments {text name : List Char} {names : List (List Char)}
    (unrooted : rooted text = false) (found : segments text = name :: names) (more : names ≠ []) :
    ∃ slash rest, text = name ++ slash :: rest ∧ isSlash slash = true ∧ segments rest = names := by
  have free : ∀ c ∈ text.takeWhile fun c => !isSlash c, isSlash c = false := fun c member => by
    simpa using List.mem_takeWhile_imp member
  have whole : text.takeWhile (fun c => !isSlash c) ++ text.dropWhile (fun c => !isSlash c) = text :=
    List.takeWhile_append_dropWhile
  generalize text.takeWhile (fun c => !isSlash c) = word at free whole
  cases after : text.dropWhile fun c => !isSlash c with
  | nil =>
    rw [after, List.append_nil] at whole
    subst whole
    by_cases empty : word = []
    · subst empty
      cases found
    · rw [segments_name ⟨empty, free⟩] at found
      exact absurd (List.cons.inj found).2.symm more
  | cons slash rest =>
    have slashes : isSlash slash = true := by
      have first := List.head?_dropWhile_not (fun c => !isSlash c) text
      rw [after] at first
      simpa using first
    rw [after] at whole
    subst whole
    by_cases empty : word = []
    · subst empty
      rw [List.nil_append, rooted, List.head?_cons, Option.any_some, slashes] at unrooted
      cases unrooted
    · rw [segments_append slashes, segments_name ⟨empty, free⟩] at found
      obtain ⟨rfl, rfl⟩ := List.cons.inj found
      exact ⟨slash, rest, rfl, slashes, rfl⟩

end Segments

/-! ### Rendered paths -/

section Render

theorem render_nil (root : Bool) : render root [] = if root then ['/'] else [] := by
  cases root <;> rfl

theorem render_singleton (root : Bool) (name : List Char) :
    render root [name] = (if root then ['/'] else []) ++ name := by
  simp [render]

theorem render_root (names : List (List Char)) : render true names = '/' :: render false names := rfl

theorem render_cons_cons (name next : List Char) (names : List (List Char)) :
    render false (name :: next :: names) = name ++ '/' :: render false (next :: names) := by
  simp [render]

theorem render_cons {name : List Char} {names : List (List Char)} (more : names ≠ []) :
    render false (name :: names) = name ++ '/' :: render false names := by
  cases names with
  | nil => exact absurd rfl more
  | cons next names => exact render_cons_cons name next names

theorem segments_render {root : Bool} {names : List (List Char)} (named : ∀ name ∈ names, Name name) :
    segments (render root names) = names := by
  have unrooted : segments (render false names) = names := by
    induction names with
    | nil => rfl
    | cons name names ih =>
      obtain ⟨here, later⟩ := List.forall_mem_cons.mp named
      cases names with
      | nil => rw [render_singleton]; exact segments_name here
      | cons next names =>
        rw [render_cons_cons, segments_append rfl, segments_name here, ih later]
        rfl
  cases root with
  | false => exact unrooted
  | true => rw [render_root, segments_slash rfl, unrooted]

theorem rooted_render {root : Bool} {names : List (List Char)} (named : ∀ name ∈ names, Name name) :
    rooted (render root names) = root := by
  cases root with
  | true => rfl
  | false =>
    cases names with
    | nil => rfl
    | cons name names =>
      obtain ⟨nonempty, free⟩ := named name List.mem_cons_self
      cases name with
      | nil => exact absurd rfl nonempty
      | cons c rest =>
        have first : isSlash c = false := free c List.mem_cons_self
        cases names with
        | nil => simpa [render, rooted] using first
        | cons next names => simpa [render, rooted] using first

/-- Rendered paths are the same when their names and roots are. -/
theorem render_inj {root root' : Bool} {names names' : List (List Char)}
    (named : ∀ name ∈ names, Name name) (named' : ∀ name ∈ names', Name name)
    (same : render root names = render root' names') : root = root' ∧ names = names' := by
  have roots := congrArg rooted same
  have lists := congrArg segments same
  rw [rooted_render named, rooted_render named'] at roots
  rw [segments_render named, segments_render named'] at lists
  exact ⟨roots, lists⟩

/-- What stands in some names written with a separator between them. -/
theorem mem_intercalate {separator c : Char} {names : List (List Char)}
    (member : c ∈ [separator].intercalate names) : c = separator ∨ ∃ name ∈ names, c ∈ name := by
  induction names with
  | nil => exact absurd member List.not_mem_nil
  | cons name names ih =>
    cases names with
    | nil =>
      rw [List.intercalate_singleton] at member
      exact Or.inr ⟨name, List.mem_cons_self, member⟩
    | cons next names =>
      rw [List.intercalate_cons_cons, List.append_assoc] at member
      rcases List.mem_append.mp member with here | after
      · exact Or.inr ⟨name, List.mem_cons_self, here⟩
      · rcases List.mem_cons.mp after with same | later
        · exact Or.inl same
        · rcases ih later with same | ⟨other, among, inside⟩
          · exact Or.inl same
          · exact Or.inr ⟨other, List.mem_cons_of_mem _ among, inside⟩

theorem mem_render {root : Bool} {names : List (List Char)} {c : Char}
    (member : c ∈ render root names) : c = '/' ∨ ∃ name ∈ names, c ∈ name := by
  cases root with
  | false => exact mem_intercalate member
  | true =>
    rcases List.mem_cons.mp member with slash | inside
    · exact Or.inl slash
    · exact mem_intercalate inside

/-- A rendered path has no backslash. -/
theorem backslash_render {root : Bool} {names : List (List Char)}
    (named : ∀ name ∈ names, Name name) : '\\' ∉ render root names := by
  intro member
  rcases mem_render member with slash | ⟨name, among, inside⟩
  · exact absurd slash (by decide)
  · have free := (named name among).2 _ inside
    cases free

/-- No two slashes are next to each other. -/
def Single (text : List Char) : Prop := text.IsChain fun a b => ¬ (a = '/' ∧ b = '/')

theorem Single.not_infix {text : List Char} (single : Single text) : ¬ ['/', '/'] <:+: text := by
  intro inside
  have pair : Single ['/', '/'] := List.IsChain.infix single inside
  exact List.rel_of_isChain_cons_cons pair ⟨rfl, rfl⟩

theorem ne_slash_of_name {name : List Char} (named : Name name) : ∀ c ∈ name, c ≠ '/' := by
  intro c inside same
  have free := named.2 c inside
  rw [same] at free
  cases free

theorem single_of_free {text : List Char} (free : ∀ c ∈ text, c ≠ '/') : Single text :=
  List.isChain_iff_getElem.mpr fun _ _ both => free _ (List.getElem_mem _) both.1

theorem single_render {root : Bool} {names : List (List Char)} (named : ∀ name ∈ names, Name name) :
    Single (render root names) := by
  have under : ∀ {names}, (∀ name ∈ names, Name name) → Single (render false names) →
      Single ('/' :: render false names) := by
    intro names named single
    refine List.IsChain.cons single fun c first both => ?_
    have unrooted : rooted (render false names) = false := rooted_render named
    rw [rooted, Option.mem_def.mp first, both.2] at unrooted
    cases unrooted
  have unrooted : Single (render false names) := by
    induction names with
    | nil => exact List.isChain_nil
    | cons name names ih =>
      obtain ⟨here, later⟩ := List.forall_mem_cons.mp named
      have word := single_of_free (ne_slash_of_name here)
      cases names with
      | nil => rw [render_singleton]; exact word
      | cons next names =>
        rw [render_cons_cons]
        refine List.IsChain.append word (under later (ih later)) fun c last _ _ both => ?_
        exact ne_slash_of_name here c (List.mem_of_getLast? last) both.1
  cases root with
  | false => exact unrooted
  | true => exact under named unrooted

end Render

/-! ### Single slashes -/

section Collapse

/-- `re.sub(r"/+", "/", path)`. -/
def collapse : List Char → List Char
  | [] => []
  | c :: rest => if c = '/' ∧ rest.head? = some '/' then collapse rest else c :: collapse rest

/-- `path[:-1]` where the path ends with a slash and is not one. -/
def dropTrailing (path : List Char) : List Char :=
  if path ≠ ['/'] ∧ path.getLast? = some '/' then path.dropLast else path

theorem collapse_sublist (text : List Char) : (collapse text).Sublist text := by
  induction text with
  | nil => exact List.Sublist.refl _
  | cons c rest ih =>
    rw [collapse]
    split_ifs
    · exact ih.cons c
    · exact ih.cons_cons c

theorem dropTrailing_sublist (path : List Char) : (dropTrailing path).Sublist path := by
  unfold dropTrailing
  split_ifs
  · exact List.dropLast_sublist path
  · exact List.Sublist.refl path

theorem collapse_append {word : List Char} (free : ∀ c ∈ word, c ≠ '/') (rest : List Char) :
    collapse (word ++ rest) = word ++ collapse rest := by
  induction word with
  | nil => rfl
  | cons c word ih =>
    obtain ⟨here, later⟩ := List.forall_mem_cons.mp free
    rw [List.cons_append, collapse, if_neg fun both => here both.1, ih later, List.cons_append]

theorem collapse_slash (rest : List Char) :
    collapse ('/' :: rest) = '/' :: collapse (rest.dropWhile (· = '/')) := by
  induction rest with
  | nil => rfl
  | cons c rest ih =>
    by_cases slash : c = '/'
    · subst slash
      rw [collapse, if_pos ⟨rfl, rfl⟩, ih, List.dropWhile_cons_of_pos (by simp)]
    · rw [collapse, if_neg (by simp [slash]), List.dropWhile_cons_of_neg (by simpa using slash)]

theorem dropTrailing_append (word : List Char) {rest : List Char} (more : rest ≠ [])
    (unrooted : rest.head? ≠ some '/') :
    dropTrailing (word ++ '/' :: rest) = word ++ '/' :: dropTrailing rest := by
  have whole : word ++ '/' :: rest ≠ ['/'] := by
    intro same
    have lengths := congrArg List.length same
    rw [List.length_append, List.length_cons, List.length_singleton] at lengths
    exact more (List.length_eq_zero_iff.mp (by omega))
  have part : rest ≠ ['/'] := by
    rintro rfl
    exact unrooted rfl
  have last : (word ++ '/' :: rest).getLast? = rest.getLast? := by
    rw [List.getLast?_append_of_ne_nil _ (List.cons_ne_nil _ _), List.getLast?_cons_of_ne_nil more]
  unfold dropTrailing
  rw [last]
  by_cases slash : rest.getLast? = some '/'
  · rw [if_pos ⟨whole, slash⟩, if_pos ⟨part, slash⟩,
      List.dropLast_append_of_ne_nil (List.cons_ne_nil _ _), List.dropLast_cons_of_ne_nil more]
  · rw [if_neg fun both => slash both.2, if_neg fun both => slash both.2]

theorem toSlash_of_slash {c : Char} (slash : isSlash c = true) : toSlash c = '/' := by
  unfold isSlash at slash
  unfold toSlash
  rcases Bool.or_eq_true_iff.mp slash with same | same
  · rw [beq_iff_eq.mp same]
    rfl
  · rw [if_pos (beq_iff_eq.mp same)]

theorem toSlash_of_not {c : Char} (other : isSlash c = false) : toSlash c = c ∧ c ≠ '/' := by
  unfold isSlash at other
  rw [Bool.or_eq_false_iff, beq_eq_false_iff_ne, beq_eq_false_iff_ne] at other
  exact ⟨if_neg other.2, other.1⟩

theorem map_toSlash_of_free {word : List Char} (free : ∀ c ∈ word, isSlash c = false) :
    word.map toSlash = word ∧ ∀ c ∈ word, c ≠ '/' := by
  refine ⟨?_, fun c member => (toSlash_of_not (free c member)).2⟩
  exact (List.map_congr_left fun c member => (toSlash_of_not (free c member)).1).trans word.map_id

theorem toSlash_eq_slash (c : Char) : decide (toSlash c = '/') = isSlash c := by
  cases slash : isSlash c with
  | true => rw [toSlash_of_slash slash]; rfl
  | false =>
    rw [(toSlash_of_not slash).1]
    exact decide_eq_false (toSlash_of_not slash).2

/-- A text begins with a name when it does not begin with a slash. -/
theorem segments_of_unrooted {text : List Char} (some_ : text ≠ [])
    (unrooted : rooted text = false) : segments text ≠ [] := by
  intro none_
  cases text with
  | nil => exact some_ rfl
  | cons c rest =>
    have slash := segments_eq_nil_iff.mp none_ c List.mem_cons_self
    rw [rooted, List.head?_cons, Option.any_some, slash] at unrooted
    cases unrooted

theorem segments_dropWhile (text : List Char) : segments (text.dropWhile isSlash) = segments text := by
  induction text with
  | nil => rfl
  | cons c rest ih =>
    cases slash : isSlash c with
    | true => rw [List.dropWhile_cons_of_pos slash, ih, segments_slash slash]
    | false => rw [List.dropWhile_cons_of_neg (by simp [slash])]

theorem rooted_dropWhile (text : List Char) : rooted (text.dropWhile isSlash) = false := by
  induction text with
  | nil => rfl
  | cons c rest ih =>
    cases slash : isSlash c with
    | true => rw [List.dropWhile_cons_of_pos slash, ih]
    | false =>
      rw [List.dropWhile_cons_of_neg (by simp [slash])]
      exact slash

theorem rooted_append {word : List Char} (some_ : word ≠ [])
    (free : ∀ c ∈ word, isSlash c = false) (rest : List Char) : rooted (word ++ rest) = false := by
  cases word with
  | nil => exact absurd rfl some_
  | cons c word => exact free c List.mem_cons_self

/-- **Single slashes and no last one render the names of the text.** -/
theorem dropTrailing_collapse (text : List Char) :
    dropTrailing (collapse (text.map toSlash)) = render (rooted text) (segments text) := by
  induction hn : text.length using Nat.strong_induction_on generalizing text with
  | _ n ih =>
    have free : ∀ c ∈ text.takeWhile fun c => !isSlash c, isSlash c = false := fun c member => by
      simpa using List.mem_takeWhile_imp member
    have whole : text.takeWhile (fun c => !isSlash c) ++ text.dropWhile (fun c => !isSlash c) = text :=
      List.takeWhile_append_dropWhile
    generalize text.takeWhile (fun c => !isSlash c) = word at free whole
    obtain ⟨wordKept, wordFree⟩ := map_toSlash_of_free free
    have wordLast : word.getLast? ≠ some '/' := fun last =>
      wordFree '/' (List.mem_of_getLast? last) rfl
    cases after : text.dropWhile fun c => !isSlash c with
    | nil =>
      -- one name at most
      rw [after, List.append_nil] at whole
      subst whole
      have kept := collapse_append wordFree []
      rw [List.append_nil, collapse, List.append_nil] at kept
      rw [wordKept, kept, dropTrailing, if_neg fun both => wordLast both.2]
      by_cases empty : word = []
      · subst empty
        rfl
      · have unrooted := rooted_append empty free []
        rw [List.append_nil] at unrooted
        rw [segments_name ⟨empty, free⟩, unrooted, render_singleton]
        rfl
    | cons slash rest =>
      have isSlash_ : isSlash slash = true := by
        have first := List.head?_dropWhile_not (fun c => !isSlash c) text
        rw [after] at first
        simpa using first
      rw [after] at whole
      subst whole
      have collapsed : collapse ((word ++ slash :: rest).map toSlash) =
          word ++ '/' :: collapse ((rest.dropWhile isSlash).map toSlash) := by
        have slashes : (fun c => decide (c = '/')) ∘ toSlash = isSlash := funext toSlash_eq_slash
        rw [List.map_append, List.map_cons, wordKept, toSlash_of_slash isSlash_,
          collapse_append wordFree, collapse_slash, List.dropWhile_map, slashes]
      have names : segments (word ++ slash :: rest) =
          segments word ++ segments (rest.dropWhile isSlash) := by
        rw [segments_append isSlash_, segments_dropWhile]
      have shorter : (rest.dropWhile isSlash).length < n := by
        have fewer := (List.dropWhile_sublist isSlash (l := rest)).length_le
        rw [List.length_append, List.length_cons] at hn
        omega
      have later := ih _ shorter (rest.dropWhile isSlash) rfl
      have unrooted := rooted_dropWhile rest
      rw [unrooted] at later
      rw [collapsed, names]
      generalize rest.dropWhile isSlash = tail at later unrooted
      by_cases none_ : tail = []
      · -- nothing but slashes after the name
        subst none_
        by_cases empty : word = []
        · subst empty
          rw [List.nil_append, List.nil_append, rooted, List.head?_cons, Option.any_some, isSlash_]
          rfl
        · have kept : dropTrailing (word ++ ['/']) = word := by
            rw [dropTrailing, if_pos ⟨by simp [empty], List.getLast?_concat⟩, List.dropLast_concat]
          rw [segments_name ⟨empty, free⟩, rooted_append empty free]
          exact kept.trans (render_singleton false word).symm
      · have more := segments_of_unrooted none_ unrooted
        have first : (collapse (tail.map toSlash)).head? ≠ some '/' ∧
            collapse (tail.map toSlash) ≠ [] := by
          cases tail with
          | nil => exact absurd rfl none_
          | cons c tail =>
            obtain ⟨same, other⟩ := toSlash_of_not unrooted
            rw [List.map_cons, same, collapse, if_neg fun both => other both.1]
            exact ⟨fun slash => other (Option.some.inj slash), List.cons_ne_nil _ _⟩
        rw [dropTrailing_append word first.2 first.1, later]
        by_cases empty : word = []
        · subst empty
          rw [List.nil_append, List.nil_append, rooted, List.head?_cons, Option.any_some, isSlash_]
          rfl
        · rw [segments_name ⟨empty, free⟩, rooted_append empty free]
          exact (render_cons more).symm

end Collapse

end Retrovue.Foundation.SlashPaths
