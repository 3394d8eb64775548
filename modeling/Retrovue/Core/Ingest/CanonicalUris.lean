/-
**Normal forms of URIs, normalised again** (`infra/canonical.py`).

* `Assembled`, `Rereads`: a URI put together from its parts, and when it is its own normal form;
  `normalize_assembled`: it is exactly then;
* `readable_host`, `readable_path`: the parts of a normal form can be put together again;
* `SettledUri`, `normalize_normalizeUri`: the URIs whose normal form is its own.
-/

import Retrovue.Core.Ingest.CanonicalForms

namespace Retrovue.Core.Ingest

open Retrovue.Foundation.Casing
open Retrovue.Foundation.SlashPaths
open Retrovue.Foundation.Urls

variable {tables : Tables} (lawful : tables.casing.Lawful)

/-! ### Putting a URI together -/

section Assembled

/-- `f"{scheme}://{netloc}{path}"`. -/
def assembled (url : Url) : List Char := url.scheme ++ "://".toList ++ url.netloc ++ url.path

/-- Nothing, or a text that begins with a slash. -/
def Tail (text : List Char) : Prop := text = [] ∨ text.head? = some '/'

/-- A word without a slash and what follows it are told apart. -/
theorem append_tail_inj {word word' tail tail' : List Char} (free : '/' ∉ word) (free' : '/' ∉ word')
    (begins : Tail tail) (begins' : Tail tail') (same : word ++ tail = word' ++ tail') :
    word = word' ∧ tail = tail' := by
  have cut : ∀ {word tail : List Char}, '/' ∉ word → Tail tail →
      (word ++ tail).takeWhile (· ≠ '/') = word := by
    intro word tail free begins
    have all : ∀ c ∈ word, decide (c ≠ '/') = true := by
      intro c member
      refine decide_eq_true ?_
      rintro rfl
      exact free member
    rw [List.takeWhile_append_of_pos all]
    rcases begins with rfl | root
    · simp
    · cases tail with
      | nil => simp
      | cons c tail =>
        cases root
        simp
  have words : word = word' := by rw [← cut free begins, same, cut free' begins']
  subst words
  exact ⟨rfl, List.append_cancel_left same⟩

/-- The path of a URI as it is written again. -/
def pathForm (data : CaseData) (url : Url) : List Char :=
  let path := if url.scheme ∈ usesParams then dropParams url.path else url.path
  if url.scheme ∈ pathSchemes then normalizePosixPath data path else path

/-- **A URI that is put together is read as its parts**: the network location is a host in lower case,
and no parameters are dropped from the path; without a host, the network location is empty and the scheme
is not that of files, or, for other schemes, all is in lower case. -/
def Rereads (tables : Tables) (url : Url) : Prop :=
  refused tables url.netloc = false ∧
    if hostOf url.netloc ≠ [] then
      tables.casing.lower (url.hostname tables.casing) = url.netloc ∧
        pathForm tables.casing url = url.path
    else if url.scheme ∈ pathSchemes then
      url.scheme ≠ "file".toList ∧ url.netloc = [] ∧ pathForm tables.casing url = url.path
    else tables.casing.lower url.netloc = url.netloc ∧ tables.casing.lower url.path = url.path

theorem mem_hostOf {netloc : List Char} {c : Char} (member : c ∈ hostOf netloc) : c ∈ netloc := by
  have info : ∀ {c}, c ∈ hostinfo netloc → c ∈ netloc := by
    intro c inside
    unfold hostinfo at inside
    rw [List.mem_reverse] at inside
    exact List.mem_reverse.mp ((List.takeWhile_sublist _).mem inside)
  unfold hostOf at member
  split_ifs at member
  · have tail := List.mem_of_mem_tail ((List.takeWhile_sublist _).mem member)
    exact info ((List.dropWhile_sublist _).mem tail)
  · exact info ((List.takeWhile_sublist _).mem member)

theorem tail_dropParams {path : List Char} (begins : Tail path) : Tail (dropParams path) := by
  rcases begins with rfl | root
  · exact Or.inl rfl
  · exact Or.inr (head_dropParams root)

include lawful

/-- The symbols of a host are among those of its network location. -/
theorem mem_hostname {url : Url} {c : Char} (symbol : CaseData.Symbol c)
    (member : c ∈ tables.casing.lower (url.hostname tables.casing)) : c ∈ url.netloc := by
  rw [CaseData.mem_lower_iff lawful symbol] at member
  unfold Url.hostname at member
  rcases List.mem_append.mp member with early | late
  · rw [CaseData.mem_lower_iff lawful symbol] at early
    exact mem_hostOf ((List.takeWhile_sublist _).mem early)
  · exact mem_hostOf ((List.dropWhile_sublist _).mem late)

theorem tail_normalize {path : List Char} (begins : Tail path) :
    Tail (normalizePosixPath tables.casing path) := by
  rcases begins with rfl | root
  · exact Or.inl rfl
  · refine Or.inr ((head_slash_iff (backslash_normalize lawful path)).mpr ?_)
    rw [rooted_normalize lawful, rooted, root]
    rfl

theorem tail_pathForm {url : Url} (begins : Tail url.path) : Tail (pathForm tables.casing url) := by
  have kept : Tail (if url.scheme ∈ usesParams then dropParams url.path else url.path) := by
    split_ifs
    · exact tail_dropParams begins
    · exact begins
  unfold pathForm
  dsimp only
  generalize (if url.scheme ∈ usesParams then dropParams url.path else url.path) = path at kept ⊢
  split_ifs
  · exact tail_normalize lawful kept
  · exact kept

omit lawful in
/-- A URI begins with the scheme of files when it has it. -/
theorem file_prefix_iff {url : Url} (readable : Readable url) (given : url.scheme ≠ []) :
    "file://".toList <+: assembled url ↔ url.scheme = "file".toList := by
  have colon : ∀ c ∈ url.scheme, decide (c ≠ ':') = true := by
    intro c member
    refine decide_eq_true ?_
    rintro rfl
    obtain ⟨valid, -⟩ := readable.scheme.resolve_left given
    have chars := (Bool.and_eq_true_iff.mp valid).2
    cases List.all_eq_true.mp chars _ member
  have before : (assembled url).takeWhile (· ≠ ':') = url.scheme := by
    unfold assembled
    rw [List.append_assoc, List.append_assoc, List.takeWhile_append_of_pos colon]
    exact List.append_nil _
  constructor
  · rintro ⟨rest, same⟩
    rw [← before, ← same]
    rfl
  · intro same
    refine ⟨url.netloc ++ url.path, ?_⟩
    unfold assembled
    rw [same, List.append_assoc]
    rfl

omit lawful in
/-- The normal form of a URI with a host. -/
theorem normalizeUri_host {data : CaseData} {url : Url} (identifier path : List Char)
    (host : data.lower (url.hostname data) ≠ []) :
    normalizeUri data identifier { url with path := path } =
      url.scheme ++ "://".toList ++ data.lower (url.hostname data) ++
        if url.scheme ∈ pathSchemes then normalizePosixPath data path else path := by
  unfold normalizeUri
  have same : Url.hostname data { url with path := path } = url.hostname data := rfl
  rw [same]
  dsimp only
  split_ifs <;> rfl

theorem settled_scheme {url : Url} (readable : Readable url) :
    ∀ c ∈ url.scheme, tables.casing.Settled c := by
  intro c member
  rcases readable.scheme with none_ | ⟨valid, lowered⟩
  · rw [none_] at member
    cases member
  · have chars := (Bool.and_eq_true_iff.mp valid).2
    have scheme := List.all_eq_true.mp chars c member
    have ascii := ascii_of_isSchemeChar scheme
    have same : c.toLower = c := by
      exact List.map_inj_left.mp (lowered.trans (List.map_id _).symm) c member
    refine ⟨?_, by rw [lawful.ascii c ascii, same]⟩
    rintro rfl
    cases scheme

theorem settled_mark : ∀ c ∈ "://".toList, tables.casing.Settled c := by
  intro c member
  have among : c = ':' ∨ c = '/' ∨ c = '/' := by simpa using member
  rcases among with rfl | rfl | rfl
  · exact ⟨by decide, lawful.ascii ':' (by decide)⟩
  · exact ⟨by decide, lawful.ascii '/' (by decide)⟩
  · exact ⟨by decide, lawful.ascii '/' (by decide)⟩

/-- The normal form of a URI without a host whose scheme has paths. -/
theorem normalizeUri_hostless {url : Url} (readable : Readable url) (given : url.scheme ≠ [])
    (path : List Char) (hostless : tables.casing.lower (url.hostname tables.casing) = [])
    (scheme : url.scheme ∈ pathSchemes) (begins : Tail path) (whole : Tail url.path) :
    normalizeUri tables.casing (assembled url) { url with path := path } = assembled url ↔
      url.scheme ≠ "file".toList ∧ url.netloc = [] ∧
        normalizePosixPath tables.casing path = url.path := by
  have netlocFree : '/' ∉ url.netloc := by
    intro member
    cases (readable.netloc _ member).1
  have double : ¬ Single (assembled url) := by
    intro single
    have path := hasScheme_of_single single
    have uri : hasScheme (assembled url) = true :=
      decide_eq_true ⟨url.scheme, url.netloc ++ url.path, by simp [assembled]⟩
    rw [path] at uri
    cases uri
  have same : Url.hostname tables.casing { url with path := path } = url.hostname tables.casing := rfl
  unfold normalizeUri
  rw [same, hostless]
  dsimp only
  rw [if_pos scheme, if_neg (not_not.mpr rfl)]
  by_cases file : url.scheme = "file".toList
  · -- the prefix is cut off, and what is left has no two slashes in a row
    have begin_ := (file_prefix_iff readable given).mpr file
    have other : ∀ cut, normalizePosixPath tables.casing cut ≠ assembled url := by
      intro cut same
      have single := single_normalize lawful cut
      rw [same] at single
      exact double single
    constructor
    · intro same
      split_ifs at same
      · exact absurd same (other _)
      · exact absurd same (other _)
      · exact absurd same (other _)
    · intro parts
      exact absurd file parts.1
  · have none_ : ¬ "file://".toList <+: assembled url := fun begin_ =>
      file ((file_prefix_iff readable given).mp begin_)
    have three : ¬ "file:///".toList <+: assembled url := fun begin_ =>
      none_ (List.IsPrefix.trans (by decide) begin_)
    have four : ¬ "file:////".toList <+: assembled url := fun begin_ =>
      none_ (List.IsPrefix.trans (by decide) begin_)
    rw [if_neg four, if_neg three, if_neg none_]
    unfold assembled
    rw [List.append_assoc (url.scheme ++ "://".toList), List.append_cancel_left_eq]
    constructor
    · intro same
      obtain ⟨empty, paths⟩ := append_tail_inj List.not_mem_nil netlocFree
        (tail_normalize lawful begins) whole same
      exact ⟨file, empty.symm, paths⟩
    · rintro ⟨-, empty, paths⟩
      rw [empty, paths]
      rfl

/-- **A URI that was put together is its own normal form** exactly when it is read as its parts. -/
theorem normalize_assembled {url : Url} (readable : Readable url) (given : url.scheme ≠ [])
    (begins : Tail url.path) :
    normalizeIdentifier tables (assembled url) = some (assembled url) ↔ Rereads tables url := by
  have uri : hasScheme (assembled url) = true :=
    decide_eq_true ⟨url.scheme, url.netloc ++ url.path, by simp [assembled]⟩
  have some_ : assembled url ≠ [] := by simp [assembled, given]
  have netlocFree : '/' ∉ url.netloc := by
    intro member
    cases (readable.netloc _ member).1
  have tail := tail_pathForm lawful begins
  have parsed : urlparse tables (assembled url) = if refused tables url.netloc then none
      else some { url with
        path := if url.scheme ∈ usesParams then dropParams url.path else url.path } :=
    urlparse_of_parts readable given begins
  unfold normalizeIdentifier
  rw [if_neg some_, if_pos uri, parsed]
  unfold Rereads
  cases refusal : refused tables url.netloc with
  | true => simp
  | false =>
    rw [if_neg Bool.false_ne_true, Option.map_some, Option.some.injEq]
    have host := hostname_eq_nil_iff lawful url
    have kept : Tail (if url.scheme ∈ usesParams then dropParams url.path else url.path) := by
      split_ifs
      · exact tail_dropParams begins
      · exact begins
    by_cases hostless : hostOf url.netloc = []
    · rw [if_neg (not_not.mpr hostless)]
      by_cases scheme : url.scheme ∈ pathSchemes
      · rw [if_pos scheme, normalizeUri_hostless lawful readable given _ (host.mpr hostless) scheme kept
          begins]
        unfold pathForm
        dsimp only
        rw [if_pos scheme]
        simp
      · rw [if_neg scheme]
        have own : normalizeUri tables.casing (assembled url) { url with
            path := if url.scheme ∈ usesParams then dropParams url.path else url.path } =
              tables.casing.lower (assembled url) := by
          have none_ : tables.casing.lower (Url.hostname tables.casing { url with
              path := if url.scheme ∈ usesParams then dropParams url.path else url.path }) = [] :=
            host.mpr hostless
          unfold normalizeUri
          rw [none_]
          dsimp only
          rw [if_neg scheme, if_neg (not_not.mpr rfl)]
        rw [own, CaseData.lower_eq_self_iff lawful, CaseData.lower_eq_self_iff lawful,
          CaseData.lower_eq_self_iff lawful]
        unfold assembled
        simp only [List.forall_mem_append]
        constructor
        · rintro ⟨⟨-, netloc⟩, path⟩
          exact ⟨trivial, netloc, path⟩
        · rintro ⟨-, netloc, path⟩
          exact ⟨⟨⟨settled_scheme lawful readable, settled_mark lawful⟩, netloc⟩, path⟩
    · have hostFree : '/' ∉ tables.casing.lower (url.hostname tables.casing) := fun member =>
        netlocFree (mem_hostname lawful (by decide) member)
      rw [if_pos hostless, normalizeUri_host _ _ (fun empty => hostless (host.mp empty))]
      show url.scheme ++ "://".toList ++ _ ++ pathForm tables.casing url = _ ↔ _
      unfold assembled
      rw [List.append_assoc, List.append_assoc (url.scheme ++ "://".toList),
        List.append_cancel_left_eq]
      constructor
      · intro same
        exact ⟨rfl, append_tail_inj hostFree netlocFree tail begins same⟩
      · rintro ⟨-, first, second⟩
        rw [first, second]

end Assembled

/-! ### Normal forms of URIs -/

section Uris

/-- A text reads as a URI that is written as its parts again. -/
def WrittenAgain (data : CaseData) (text : List Char) (again : Url) : Prop :=
  (hostOf again.netloc = [] ∧ again.scheme ∉ pathSchemes) ∨
    (¬ (hostOf again.netloc = [] ∧ "file://".toList <+: text) ∧
      text = again.scheme ++ "://".toList ++ data.lower (again.hostname data) ++
        if again.scheme ∈ pathSchemes then normalizePosixPath data again.path else again.path)

/-- **The URIs whose normal form is its own**, by what is read of them. -/
def SettledUri (tables : Tables) (identifier : List Char) (url : Url) : Prop :=
  let host := tables.casing.lower (url.hostname tables.casing)
  let path := normalizePosixPath tables.casing url.path
  if url.scheme ∈ pathSchemes then
    if hostOf url.netloc ≠ [] then Rereads tables ⟨url.scheme, host, path⟩
    else if "file:///".toList <+: identifier then ¬ DriveLike tables.casing (identifier.drop 8)
    else if "file://".toList <+: identifier then ¬ DriveLike tables.casing (identifier.drop 7)
    else Rereads tables ⟨url.scheme, path.takeWhile (· ≠ '/'), path.dropWhile (· ≠ '/')⟩
  else if hostOf url.netloc ≠ [] then
    if url.scheme = [] then tables.casing.lower url.path = url.path
    else Rereads tables ⟨url.scheme, host, url.path⟩
  else
    ∃ again, urlparse tables (tables.casing.lower identifier) = some again ∧
      WrittenAgain tables.casing (tables.casing.lower identifier) again

theorem symbol_of_ends {c : Char} (ends : endsNetloc c = true) : CaseData.Symbol c := by
  have among := of_decide_eq_true ends
  simp only [List.mem_cons, List.not_mem_nil, or_false] at among
  rcases among with rfl | rfl | rfl <;> decide

theorem symbol_of_removed {c : Char} (removed : isRemoved c = true) : CaseData.Symbol c := by
  have among := of_decide_eq_true removed
  simp only [List.mem_cons, List.not_mem_nil, or_false] at among
  rcases among with rfl | rfl | rfl <;> decide

include lawful

/-- The symbols of a normal form are those of the path, and slashes. -/
theorem mem_normalize {path : List Char} {c : Char} (symbol : CaseData.Symbol c)
    (member : c ∈ normalizePosixPath tables.casing path) : c ∈ path ∨ c = '/' := by
  unfold normalizePosixPath at member
  split_ifs at member
  · exact absurd member List.not_mem_nil
  · rw [CaseData.mem_lower_iff lawful symbol] at member
    have mapped := (collapse_sublist _).mem ((dropTrailing_sublist _).mem member)
    obtain ⟨d, inside, rfl⟩ := List.mem_map.mp mapped
    unfold toSlash
    split_ifs
    · exact Or.inr rfl
    · exact Or.inl inside

theorem readable_path {url : Url} (readable : Readable url) :
    ∀ c ∈ normalizePosixPath tables.casing url.path, c ≠ '?' ∧ c ≠ '#' ∧ isRemoved c = false := by
  intro c member
  have absent : ∀ d, CaseData.Symbol d → d ≠ '/' → d ∈ normalizePosixPath tables.casing url.path →
      d ∈ url.path := fun d symbol other inside =>
    (mem_normalize lawful symbol inside).resolve_right other
  refine ⟨?_, ?_, ?_⟩
  · rintro rfl
    exact (readable.path _ (absent '?' (by decide) (by decide) member)).1 rfl
  · rintro rfl
    exact (readable.path _ (absent '#' (by decide) (by decide) member)).2.1 rfl
  · rw [← Bool.not_eq_true]
    intro removed
    have other : c ≠ '/' := by
      rintro rfl
      cases removed
    have inside := (readable.path c (absent c (symbol_of_removed removed) other member)).2.2
    rw [removed] at inside
    cases inside

theorem readable_host {url : Url} (readable : Readable url) :
    ∀ c ∈ tables.casing.lower (url.hostname tables.casing),
      endsNetloc c = false ∧ isRemoved c = false := by
  intro c member
  constructor
  · rw [← Bool.not_eq_true]
    intro ends
    have inside := (readable.netloc c (mem_hostname lawful (symbol_of_ends ends) member)).1
    rw [ends] at inside
    cases inside
  · rw [← Bool.not_eq_true]
    intro removed
    have inside := (readable.netloc c (mem_hostname lawful (symbol_of_removed removed) member)).2
    rw [removed] at inside
    cases inside

/-- A text that reads as a URI, in lower case, is its own normal form when it is written as its parts
again. -/
theorem normalizeUri_fixed {text : List Char} (uri : hasScheme text = true)
    (lowered : tables.casing.lower text = text) (again : Url) :
    normalizeUri tables.casing text again = text ↔ WrittenAgain tables.casing text again := by
  have double : ∀ cut, normalizePosixPath tables.casing cut ≠ text := by
    intro cut same
    have path := hasScheme_of_single (single_normalize lawful cut)
    rw [same, uri] at path
    cases path
  have host := hostname_eq_nil_iff lawful again
  unfold WrittenAgain
  by_cases hostless : hostOf again.netloc = []
  · unfold normalizeUri
    rw [host.mpr hostless]
    dsimp only
    by_cases scheme : again.scheme ∈ pathSchemes
    · rw [if_pos scheme, if_neg (not_not.mpr rfl), if_pos scheme, List.append_nil]
      by_cases begin_ : "file://".toList <+: text
      · constructor
        · intro same
          split_ifs at same
          · exact absurd same (double _)
          · exact absurd same (double _)
          · exact absurd same (double _)
        · rintro (⟨-, other⟩ | ⟨other, -⟩)
          · exact absurd scheme other
          · exact absurd ⟨hostless, begin_⟩ other
      · have three : ¬ "file:///".toList <+: text := fun longer =>
          begin_ (List.IsPrefix.trans (by decide) longer)
        have four : ¬ "file:////".toList <+: text := fun longer =>
          begin_ (List.IsPrefix.trans (by decide) longer)
        rw [if_neg four, if_neg three, if_neg begin_]
        constructor
        · intro same
          exact Or.inr ⟨fun both => begin_ both.2, same.symm⟩
        · rintro (⟨-, other⟩ | ⟨-, same⟩)
          · exact absurd scheme other
          · exact same.symm
    · rw [if_neg scheme, if_neg (not_not.mpr rfl), lowered]
      simp [hostless, scheme]
  · have given : tables.casing.lower (again.hostname tables.casing) ≠ [] := fun empty =>
      hostless (host.mp empty)
    have whole : normalizeUri tables.casing text again = again.scheme ++ "://".toList ++
        tables.casing.lower (again.hostname tables.casing) ++
          if again.scheme ∈ pathSchemes then normalizePosixPath tables.casing again.path
          else again.path := normalizeUri_host text again.path given
    rw [whole]
    simp only [hostless, false_and, not_false_eq_true, true_and, false_or]
    exact eq_comm

/-- A URI without a scheme is lower-cased. -/
theorem normalize_schemeless {text : List Char} (clean : ∀ c ∈ text, isRemoved c = false) :
    normalizeIdentifier tables ("://".toList ++ text) =
      some (tables.casing.lower ("://".toList ++ text)) := by
  have uri : hasScheme ("://".toList ++ text) = true := decide_eq_true ⟨[], text, rfl⟩
  have kept : sanitize ("://".toList ++ text) = "://".toList ++ text := by
    have all : ∀ c ∈ "://".toList ++ text, c ∉ ['\t', '\r', '\n'] := by
      intro c member
      rcases List.mem_append.mp member with mark | inside
      · have among : c = ':' ∨ c = '/' ∨ c = '/' := by simpa using mark
        rcases among with rfl | rfl | rfl <;> decide
      · exact of_decide_eq_false (clean c inside)
    exact List.filter_eq_self.mpr fun c member => decide_eq_true (all c member)
  have parsed : ∃ path, urlparse tables ("://".toList ++ text) = some ⟨[], [], path⟩ := by
    have scheme : splitScheme ("://".toList ++ text) = ([], "://".toList ++ text) := by
      unfold splitScheme
      exact if_neg fun both => by cases both.2
    have netloc : splitNetloc ("://".toList ++ text) = ([], "://".toList ++ text) := by
      unfold splitNetloc
      exact if_neg fun begin_ => by cases (List.cons_prefix_cons.mp begin_).1
    unfold urlparse
    rw [kept, scheme]
    dsimp only
    rw [netloc]
    dsimp only
    rw [if_neg]
    · exact ⟨_, rfl⟩
    · simp [refused, refusedBrackets, refusedNfkc]
  obtain ⟨path, parsed⟩ := parsed
  have given : "://".toList ++ text ≠ [] := List.cons_ne_nil _ _
  unfold normalizeIdentifier
  rw [if_neg given, if_pos uri, parsed, Option.map_some]
  have hostless := (hostname_eq_nil_iff lawful ⟨[], [], path⟩).mpr rfl
  unfold normalizeUri
  rw [hostless]
  dsimp only
  rw [if_neg (by decide), if_neg (not_not.mpr rfl)]

theorem hasScheme_lower {text : List Char} (uri : hasScheme text = true) :
    hasScheme (tables.casing.lower text) = true := by
  obtain ⟨before, after, rfl⟩ := of_decide_eq_true uri
  obtain ⟨lowered, same⟩ := CaseData.lower_concat lawful (show CaseData.Symbol ':' by decide) before
  have shape : before ++ "://".toList ++ after = (before ++ [':']) ++ '/' :: '/' :: after := by simp
  rw [shape, CaseData.lower_append lawful, CaseData.lower_slash lawful, same]
  exact decide_eq_true ⟨lowered, tables.casing.lower after, by simp⟩

/-- **Normalising a URI again.** -/
theorem normalize_normalizeUri {identifier : List Char} (uri : hasScheme identifier = true)
    {url : Url} (parsed : urlparse tables identifier = some url) :
    normalizeIdentifier tables (normalizeUri tables.casing identifier url) =
        some (normalizeUri tables.casing identifier url) ↔ SettledUri tables identifier url := by
  have readable := readable_of_urlparse parsed
  have host := hostname_eq_nil_iff lawful url
  unfold SettledUri
  dsimp only
  by_cases hostless : hostOf url.netloc = []
  · have empty := host.mpr hostless
    rw [if_neg (not_not.mpr hostless), if_neg (not_not.mpr hostless)]
    by_cases scheme : url.scheme ∈ pathSchemes
    · have named : url.scheme ≠ [] := by
        intro none_
        rw [none_] at scheme
        exact absurd scheme (by decide)
      unfold normalizeUri
      rw [empty]
      dsimp only
      rw [if_pos scheme, if_pos scheme, if_neg (not_not.mpr rfl)]
      by_cases three : "file:///".toList <+: identifier
      · have cut : (if "file:////".toList <+: identifier then
            normalizePosixPath tables.casing (identifier.drop 8)
          else normalizePosixPath tables.casing (identifier.drop 8)) =
            normalizePosixPath tables.casing (identifier.drop 8) := ite_self _
        rw [if_pos three, if_pos three, cut]
        exact normalize_posix lawful _
      · have four : ¬ "file:////".toList <+: identifier := fun longer =>
          three (List.IsPrefix.trans (by decide) longer)
        rw [if_neg four, if_neg three, if_neg three]
        by_cases two : "file://".toList <+: identifier
        · rw [if_pos two, if_pos two]
          exact normalize_posix lawful _
        · rw [if_neg two, if_neg two]
          -- the first name of the path is read as a network location
          have shape : url.scheme ++ "://".toList ++ normalizePosixPath tables.casing url.path =
              assembled ⟨url.scheme, (normalizePosixPath tables.casing url.path).takeWhile (· ≠ '/'),
                (normalizePosixPath tables.casing url.path).dropWhile (· ≠ '/')⟩ := by
            unfold assembled
            rw [List.append_assoc _ (List.takeWhile _ _), List.takeWhile_append_dropWhile]
          have begins : Tail ((normalizePosixPath tables.casing url.path).dropWhile (· ≠ '/')) := by
            cases after : (normalizePosixPath tables.casing url.path).dropWhile (· ≠ '/') with
            | nil => exact Or.inl rfl
            | cons c rest =>
              have first := List.head?_dropWhile_not (· ≠ '/')
                (normalizePosixPath tables.casing url.path)
              rw [after] at first
              refine Or.inr (congrArg some ?_)
              simpa using first
          have parts : Readable ⟨url.scheme,
              (normalizePosixPath tables.casing url.path).takeWhile (· ≠ '/'),
              (normalizePosixPath tables.casing url.path).dropWhile (· ≠ '/')⟩ := by
            have chars := readable_path lawful readable
            refine ⟨readable.scheme, fun c member => ?_, fun c member => ?_, fun _ => begins⟩
            · have other := List.mem_takeWhile_imp member
              obtain ⟨query, fragment, kept⟩ := chars c ((List.takeWhile_sublist _).mem member)
              refine ⟨?_, kept⟩
              unfold endsNetloc
              simp only [ne_eq, decide_eq_true_eq] at other
              simp [other, query, fragment]
            · exact chars c ((List.dropWhile_sublist _).mem member)
          rw [shape]
          exact normalize_assembled lawful parts named begins
    · have own : normalizeUri tables.casing identifier url = tables.casing.lower identifier := by
        unfold normalizeUri
        rw [empty]
        dsimp only
        rw [if_neg scheme, if_neg (not_not.mpr rfl)]
      rw [own, if_neg scheme]
      have again := hasScheme_lower lawful uri
      have given : tables.casing.lower identifier ≠ [] := by
        intro none_
        rw [none_] at again
        cases again
      unfold normalizeIdentifier
      rw [if_neg given, if_pos again]
      cases urlparse tables (tables.casing.lower identifier) with
      | none => simp
      | some read =>
        rw [Option.map_some, Option.some.injEq,
          normalizeUri_fixed lawful again (CaseData.lower_lower lawful identifier)]
        simp
  · have given : tables.casing.lower (url.hostname tables.casing) ≠ [] := fun empty =>
      hostless (host.mp empty)
    have begins : Tail url.path := readable.rooted fun empty => hostless (by rw [empty]; rfl)
    have whole : normalizeUri tables.casing identifier url = url.scheme ++ "://".toList ++
        tables.casing.lower (url.hostname tables.casing) ++
          if url.scheme ∈ pathSchemes then normalizePosixPath tables.casing url.path
          else url.path := normalizeUri_host identifier url.path given
    rw [whole]
    by_cases scheme : url.scheme ∈ pathSchemes
    · have named : url.scheme ≠ [] := by
        intro empty
        rw [empty] at scheme
        exact absurd scheme (by decide)
      rw [if_pos scheme, if_pos scheme, if_pos hostless]
      have parts : Readable ⟨url.scheme, tables.casing.lower (url.hostname tables.casing),
          normalizePosixPath tables.casing url.path⟩ :=
        ⟨readable.scheme, readable_host lawful readable, readable_path lawful readable,
          fun _ => tail_normalize lawful begins⟩
      exact normalize_assembled lawful parts named (tail_normalize lawful begins)
    · rw [if_neg scheme, if_neg scheme, if_pos hostless]
      by_cases named : url.scheme = []
      · have shape : url.scheme ++ "://".toList ++ tables.casing.lower (url.hostname tables.casing) ++
            url.path = "://".toList ++ (tables.casing.lower (url.hostname tables.casing) ++ url.path) := by
          simp [named]
        have clean : ∀ c ∈ tables.casing.lower (url.hostname tables.casing) ++ url.path,
            isRemoved c = false := by
          intro c member
          rcases List.mem_append.mp member with inHost | inPath
          · exact (readable_host lawful readable c inHost).2
          · exact (readable.path c inPath).2.2
        have settled := (CaseData.lower_eq_self_iff lawful).mp
          (CaseData.lower_lower lawful (url.hostname tables.casing))
        rw [if_pos named, shape, normalize_schemeless lawful clean, Option.some.injEq,
          CaseData.lower_eq_self_iff lawful, CaseData.lower_eq_self_iff lawful]
        simp only [List.forall_mem_append]
        constructor
        · rintro ⟨-, -, path⟩
          exact path
        · intro path
          exact ⟨settled_mark lawful, settled, path⟩
      · rw [if_neg named]
        have parts : Readable ⟨url.scheme, tables.casing.lower (url.hostname tables.casing),
            url.path⟩ :=
          ⟨readable.scheme, readable_host lawful readable, readable.path, fun _ => begins⟩
        exact normalize_assembled lawful parts named begins

end Uris

end Retrovue.Core.Ingest
