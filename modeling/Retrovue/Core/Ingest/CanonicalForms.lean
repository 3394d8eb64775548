/-
**Normal forms of paths, normalised again** (`infra/canonical.py`).

* `normalize_path`: the normal form of an identifier that is no URI, by the kind of path;
* `DriveLike`, `matchDrive_normalize`: the paths whose lower-case names begin like a drive;
* `normalizeDrive_eq`: a drive path has the normal form of the posix path through its drive;
* `hasScheme_unc`: when the normal form of a UNC path reads as a URI;
* `Settled`, `normalize_normalizeIdentifier`: the paths whose normal form is its own.
-/

import Retrovue.Core.Ingest.Canonical

namespace Retrovue.Core.Ingest

open Retrovue.Foundation.Casing
open Retrovue.Foundation.SlashPaths
open Retrovue.Foundation.Urls

variable {tables : Tables} (lawful : tables.casing.Lawful)

/-! ### Kinds of path -/

section Kinds

/-- The normal form of an identifier that is no URI. -/
theorem normalize_path {identifier : List Char} (path : hasScheme identifier = false) :
    normalizeIdentifier tables identifier = some (normalizePath tables.casing identifier) := by
  unfold normalizeIdentifier
  by_cases empty : identifier = []
  · subst empty
    rfl
  · rw [if_neg empty, path, if_neg Bool.false_ne_true]

theorem normalizePath_drive {identifier rest : List Char} {letter : Char}
    (drive : matchDrive identifier = some (letter, rest)) :
    normalizePath tables.casing identifier = normalizeDrive tables.casing letter rest := by
  unfold normalizePath
  rw [drive]

theorem normalizePath_unc {identifier : List Char} (other : matchDrive identifier = none)
    (unc : isUnc identifier = true) :
    normalizePath tables.casing identifier = normalizeUnc tables.casing (identifier.drop 2) := by
  unfold normalizePath
  rw [other, unc]
  rfl

theorem normalizePath_posix {identifier : List Char} (other : matchDrive identifier = none)
    (plain : isUnc identifier = false) :
    normalizePath tables.casing identifier = normalizePosixPath tables.casing identifier := by
  unfold normalizePath
  rw [other, plain]
  rfl

theorem matchDrive_eq_some {identifier rest : List Char} {letter : Char}
    (drive : matchDrive identifier = some (letter, rest)) :
    ∃ slash, identifier = letter :: ':' :: slash :: rest ∧ letter.isAlpha = true ∧
      isSlash slash = true := by
  unfold matchDrive at drive
  split at drive
  · split_ifs at drive with both
    obtain ⟨alpha, slashes⟩ := Bool.and_eq_true_iff.mp both
    cases drive
    exact ⟨_, rfl, alpha, slashes⟩
  · cases drive

theorem isSlash_of_isAlpha {c : Char} (alpha : c.isAlpha = true) : isSlash c = false := by
  rw [← Bool.not_eq_true]
  intro slash
  rcases Bool.or_eq_true_iff.mp slash with same | same
  · rw [beq_iff_eq.mp same] at alpha
    cases alpha
  · rw [beq_iff_eq.mp same] at alpha
    cases alpha

theorem ascii_of_isAlpha {c : Char} (alpha : c.isAlpha = true) : c.toNat < 128 := by
  simp only [Char.isAlpha, Char.isUpper, Char.isLower, Bool.or_eq_true, Bool.and_eq_true,
    decide_eq_true_eq, UInt32.le_iff_toNat_le, ge_iff_le] at alpha
  have value : c.toNat = c.val.toNat := rfl
  have upper : 'Z'.val.toNat = 90 := rfl
  have lower : 'z'.val.toNat = 122 := rfl
  omega

/-- What begins with a slash is no drive path. -/
theorem matchDrive_of_rooted {identifier : List Char} (root : rooted identifier = true) :
    matchDrive identifier = none := by
  cases found : matchDrive identifier with
  | none => rfl
  | some drive =>
    obtain ⟨letter, rest⟩ := drive
    obtain ⟨slash, rfl, alpha, -⟩ := matchDrive_eq_some found
    rw [rooted, List.head?_cons, Option.any_some, isSlash_of_isAlpha alpha] at root
    cases root

end Kinds

/-! ### Posix paths -/

section Posix

theorem name_drive {d : Char} (letter : d.isAlpha = true) : Name [d, ':'] := by
  refine ⟨List.cons_ne_nil _ _, List.forall_mem_cons.mpr ⟨isSlash_of_isAlpha letter, ?_⟩⟩
  exact List.forall_mem_singleton.mpr rfl

include lawful

/-- A text whose lower case begins like a drive path: one character, a colon, a slash and a name. -/
def DriveLike (data : CaseData) (path : List Char) : Prop :=
  ∃ c d slash rest, path = c :: ':' :: slash :: rest ∧ isSlash slash = true ∧
    data.lower [c] = [d] ∧ d.isAlpha = true ∧ segments rest ≠ []

theorem isUnc_normalize (path : List Char) :
    isUnc (normalizePosixPath tables.casing path) = false := by
  refine decide_eq_false fun inside => backslash_normalize lawful path ?_
  exact inside.subset List.mem_cons_self

/-- **The normal form of a path reads as a drive path** where the path begins like one. -/
theorem matchDrive_normalize (path : List Char) :
    matchDrive (normalizePosixPath tables.casing path) ≠ none ↔ DriveLike tables.casing path := by
  constructor
  · intro some_
    obtain ⟨drive, found⟩ := Option.ne_none_iff_exists'.mp some_
    obtain ⟨d, rest⟩ := drive
    obtain ⟨slash, same, letter, slashes⟩ := matchDrive_eq_some found
    -- the first name of the path is one character and a colon, and it has more names
    have unrooted : rooted path = false := by
      rw [← rooted_normalize lawful, same]
      exact isSlash_of_isAlpha letter
    have names : (segments path).map tables.casing.lower = [d, ':'] :: segments rest := by
      rw [← segments_normalize lawful, same]
      have split : d :: ':' :: slash :: rest = [d, ':'] ++ slash :: rest := rfl
      rw [split, segments_append slashes, segments_name (name_drive letter)]
      rfl
    cases listed : segments path with
    | nil =>
      rw [listed] at names
      cases names
    | cons name others =>
      rw [listed, List.map_cons] at names
      obtain ⟨head, tail⟩ := List.cons.inj names
      obtain ⟨c, rfl, lowered⟩ :=
        (CaseData.lower_eq_pair_iff lawful letter (by decide)).mp head
      have more : others ≠ [] := by
        rintro rfl
        have whole := normalizePosixPath_eq lawful path
        rw [unrooted, listed, List.map_singleton, head, render_singleton, same] at whole
        cases whole
      obtain ⟨slash', rest', rfl, slashes', rfl⟩ := exists_of_segments unrooted listed more
      exact ⟨c, d, slash', rest', rfl, slashes', lowered, letter, more⟩
  · rintro ⟨c, d, slash, rest, rfl, slashes, lowered, letter, more⟩
    have pair : tables.casing.lower [c, ':'] = [d, ':'] :=
      (CaseData.lower_eq_pair_iff lawful letter (by decide)).mpr ⟨c, rfl, lowered⟩
    have other : isSlash c = false := by
      rw [← Bool.not_eq_true]
      intro here
      have symbol : CaseData.Symbol c := by
        rcases Bool.or_eq_true_iff.mp here with same | same
        · rw [beq_iff_eq.mp same]
          decide
        · rw [beq_iff_eq.mp same]
          decide
      rw [CaseData.lower_singleton, CaseData.lowerChar_symbol lawful symbol] at lowered
      cases lowered
      rw [isSlash_of_isAlpha letter] at here
      cases here
    have name : Name [c, ':'] :=
      ⟨List.cons_ne_nil _ _, List.forall_mem_cons.mpr ⟨other, List.forall_mem_singleton.mpr rfl⟩⟩
    have split : c :: ':' :: slash :: rest = [c, ':'] ++ slash :: rest := rfl
    have names : (segments (c :: ':' :: slash :: rest)).map tables.casing.lower =
        [d, ':'] :: (segments rest).map tables.casing.lower := by
      rw [split, segments_append slashes, segments_name name, List.map_append, List.map_singleton,
        pair]
      rfl
    have whole := normalizePosixPath_eq lawful (c :: ':' :: slash :: rest)
    rw [names, show rooted (c :: ':' :: slash :: rest) = false from other,
      render_cons (by simpa using more)] at whole
    rw [whole]
    unfold matchDrive
    simp [letter, isSlash]

/-- **The normal form of a path is its own**, unless it reads as a drive path. -/
theorem normalize_posix (path : List Char) :
    normalizeIdentifier tables (normalizePosixPath tables.casing path) =
        some (normalizePosixPath tables.casing path) ↔
      ¬ DriveLike tables.casing path := by
  rw [normalize_path (hasScheme_of_single (single_normalize lawful path)), Option.some.injEq,
    ← matchDrive_normalize lawful]
  cases found : matchDrive (normalizePosixPath tables.casing path) with
  | none =>
    rw [normalizePath_posix found (isUnc_normalize lawful path), normalize_normalize lawful]
    simp
  | some drive =>
    obtain ⟨letter, rest⟩ := drive
    obtain ⟨slash, same, alpha, -⟩ := matchDrive_eq_some found
    rw [normalizePath_drive found, same]
    constructor
    · intro fixed
      unfold normalizeDrive at fixed
      rw [(List.cons.inj fixed).1.symm] at alpha
      cases alpha
    · intro none_
      exact absurd (by simp) none_

end Posix

/-! ### Drive paths -/

section Drives

theorem name_letter {letter : Char} (alpha : letter.isAlpha = true) : Name [letter] :=
  ⟨List.cons_ne_nil _ _, List.forall_mem_singleton.mpr (isSlash_of_isAlpha alpha)⟩

theorem isAlpha_toLower {c : Char} (alpha : c.isAlpha = true) : c.toLower.isAlpha = true := by
  rcases CaseData.toLower_cases c (ascii_of_isAlpha alpha) with same | ⟨-, lowered⟩
  · rw [same, alpha]
  · exact lowered

include lawful

theorem lower_letter {letter : Char} (alpha : letter.isAlpha = true) :
    tables.casing.lower [letter] = [letter.toLower] := by
  have ascii := ascii_of_isAlpha alpha
  have plain : letter ≠ 'Σ' := by
    rintro rfl
    cases alpha
  rw [CaseData.lower_singleton, CaseData.lowerChar, if_neg plain, lawful.ascii letter ascii]

/-- **The normal form of a drive path**: its letter, then its names with single slashes, or one slash
where it has none. -/
theorem normalizeDrive_eq (letter : Char) (path : List Char) :
    normalizeDrive tables.casing letter path =
      '/' :: letter.toLower :: render true ((segments path).map tables.casing.lower) := by
  unfold normalizeDrive
  rw [normalizePosixPath_eq lawful]
  cases root : rooted path with
  | true => rw [render_root]; rfl
  | false =>
    have unrooted : rooted (render false ((segments path).map tables.casing.lower)) = false :=
      rooted_render (names_lower lawful path)
    dsimp only
    rw [if_neg, render_root]
    intro first
    rw [rooted, first] at unrooted
    cases unrooted

/-- A drive path with names has the normal form of the posix path through its drive. -/
theorem normalizeDrive_posix {letter : Char} (alpha : letter.isAlpha = true) {path : List Char}
    (named : segments path ≠ []) :
    normalizeDrive tables.casing letter path =
      normalizePosixPath tables.casing ('/' :: letter :: '/' :: path) := by
  have names : segments ('/' :: letter :: '/' :: path) = [letter] :: segments path := by
    have split : letter :: '/' :: path = [letter] ++ '/' :: path := rfl
    rw [segments_slash rfl, split, segments_append rfl, segments_name (name_letter alpha)]
    rfl
  rw [normalizeDrive_eq lawful, normalizePosixPath_eq lawful, names, List.map_cons,
    lower_letter lawful alpha]
  have root : rooted ('/' :: letter :: '/' :: path) = true := rfl
  rw [root, render_root, render_root, render_cons (by simpa using named)]
  rfl

/-- **The normal form of a drive path is its own** where the path has a name. -/
theorem normalize_drive {letter : Char} (alpha : letter.isAlpha = true) (path : List Char) :
    normalizeIdentifier tables (normalizeDrive tables.casing letter path) =
        some (normalizeDrive tables.casing letter path) ↔
      segments path ≠ [] := by
  by_cases named : segments path = []
  · -- the drive itself keeps its last slash, which is dropped the second time
    have bare : normalizeDrive tables.casing letter path = ['/', letter.toLower, '/'] := by
      rw [normalizeDrive_eq lawful, named]
      rfl
    have lowered := isAlpha_toLower alpha
    have single : Single ['/', letter.toLower, '/'] := by
      have other := isSlash_of_isAlpha lowered
      refine List.isChain_cons_cons.mpr ⟨fun both => ?_, List.isChain_cons_cons.mpr ⟨fun both => ?_,
        List.isChain_singleton _⟩⟩
      · rw [both.2] at other
        cases other
      · rw [both.1] at other
        cases other
    have again : normalizePosixPath tables.casing ['/', letter.toLower, '/'] =
        ['/', letter.toLower] := by
      have split : [letter.toLower, '/'] = [letter.toLower] ++ '/' :: [] := rfl
      have names : segments ['/', letter.toLower, '/'] = [[letter.toLower]] := by
        rw [segments_slash rfl, split, segments_append rfl, segments_name (name_letter lowered)]
        rfl
      have twice : letter.toLower.toLower = letter.toLower := by
        have same := CaseData.lower_lower lawful [letter]
        rw [lower_letter lawful alpha, lower_letter lawful lowered] at same
        exact (List.cons.inj same).1
      rw [normalizePosixPath_eq lawful, names, List.map_singleton, lower_letter lawful lowered, twice]
      rfl
    rw [bare, normalize_path (hasScheme_of_single single),
      normalizePath_posix (matchDrive_of_rooted rfl) rfl, again]
    simp [named]
  · rw [normalizeDrive_posix lawful alpha named, normalize_posix lawful,
      ← matchDrive_normalize lawful, not_not, matchDrive_of_rooted]
    · simp [named]
    · rw [rooted_normalize lawful]
      rfl

end Drives

/-! ### UNC paths -/

section Unc

theorem hasScheme_cons (c : Char) (rest : List Char) :
    hasScheme (c :: rest) = (decide ("://".toList <+: c :: rest) || hasScheme rest) := by
  unfold hasScheme
  rw [Bool.eq_iff_iff, Bool.or_eq_true, decide_eq_true_iff, decide_eq_true_iff, decide_eq_true_iff,
    List.infix_cons_iff]

theorem hasScheme_slash (rest : List Char) : hasScheme ('/' :: rest) = hasScheme rest := by
  rw [hasScheme_cons, decide_eq_false, Bool.false_or]
  intro begins
  cases (List.cons_prefix_cons.mp begins).1

theorem hasScheme_free {text : List Char} (free : '/' ∉ text) : hasScheme text = false :=
  decide_eq_false fun inside => free (inside.subset (by decide))

/-- Before a slash a word ends with a colon, and a slash follows; or the scheme is later. -/
theorem hasScheme_word {word : List Char} (free : '/' ∉ word) (rest : List Char) :
    hasScheme (word ++ '/' :: rest) =
      (decide (word.getLast? = some ':' ∧ rest.head? = some '/') || hasScheme rest) := by
  induction word with
  | nil => rw [List.nil_append, hasScheme_slash]; rfl
  | cons c word ih =>
    have free' := List.not_mem_of_not_mem_cons free
    rw [List.cons_append, hasScheme_cons, ih free', ← Bool.or_assoc]
    congr 1
    cases word with
    | nil =>
      rw [Bool.eq_iff_iff, Bool.or_eq_true, decide_eq_true_iff, decide_eq_true_iff,
        decide_eq_true_iff]
      constructor
      · rintro (begins | both)
        · obtain ⟨rfl, tail⟩ := List.cons_prefix_cons.mp begins
          obtain ⟨-, tail⟩ := List.cons_prefix_cons.mp tail
          refine ⟨rfl, ?_⟩
          obtain ⟨after, rfl⟩ := tail
          rfl
        · cases both.1
      · rintro ⟨last, first⟩
        cases last
        cases rest with
        | nil => cases first
        | cons d rest =>
          cases first
          exact Or.inl ⟨rest, rfl⟩
    | cons d word =>
      have other : d ≠ '/' := (List.ne_of_not_mem_cons free').symm
      rw [decide_eq_false, Bool.false_or, List.getLast?_cons_cons]
      intro begins
      obtain ⟨-, tail⟩ := List.cons_prefix_cons.mp begins
      exact other (List.cons_prefix_cons.mp tail).1.symm

theorem splitUnc_free (path : List Char) :
    '/' ∉ (splitUnc path).1 ∧ '/' ∉ (splitUnc path).2.1 := by
  have word : ∀ text : List Char, '/' ∉ text.takeWhile (· ≠ '/') := by
    intro text member
    simpa using List.mem_takeWhile_imp member
  exact ⟨word _, word _⟩

/-- The first slash of a URL leaves it without a scheme. -/
theorem urlparse_rooted (rest : List Char) :
    splitScheme (sanitize ('/' :: rest)) =
      ([], '/' :: rest.filter fun c => c ∉ ['\t', '\r', '\n']) := by
  have kept : sanitize ('/' :: rest) = '/' :: rest.filter fun c => c ∉ ['\t', '\r', '\n'] := by
    unfold sanitize
    rw [List.dropWhile_cons_of_neg (by decide), List.filter_cons_of_pos (by decide)]
  unfold splitScheme
  rw [kept, List.takeWhile_cons_of_pos (by decide), if_neg]
  intro both
  cases both.2

/-- The network location of what stands behind two slashes. -/
def netlocOf (text : List Char) : List Char :=
  (text.filter fun c => c ∉ ['\t', '\r', '\n']).takeWhile fun c => !endsNetloc c

theorem netlocOf_append (server rest : List Char) :
    netlocOf (server ++ '/' :: rest) = netlocOf server := by
  have cut : ∀ word : List Char, ∀ rest : List Char,
      (word ++ '/' :: rest).takeWhile (fun c => !endsNetloc c) =
        word.takeWhile fun c => !endsNetloc c := by
    intro word rest
    induction word with
    | nil => rfl
    | cons c word ih =>
      rw [List.cons_append, List.takeWhile_cons, List.takeWhile_cons, ih]
  unfold netlocOf
  rw [List.filter_append, List.filter_cons_of_pos (by decide), cut]

/-- A URL that begins with two slashes has a network location and no scheme. -/
theorem urlparse_netloc (tables : Tables) (text : List Char) :
    (urlparse tables ('/' :: '/' :: text)).map (fun url => (url.scheme, url.netloc)) =
      if refused tables (netlocOf text) then none else some ([], netlocOf text) := by
  have parts : splitNetloc ('/' :: '/' :: text.filter fun c => c ∉ ['\t', '\r', '\n']) =
      (netlocOf text,
        (text.filter fun c => c ∉ ['\t', '\r', '\n']).dropWhile fun c => !endsNetloc c) := by
    unfold splitNetloc
    rw [if_pos ⟨_, rfl⟩]
    rfl
  unfold urlparse
  rw [urlparse_rooted, List.filter_cons_of_pos (by decide)]
  dsimp only
  rw [parts]
  dsimp only
  split_ifs <;> rfl

/-- Behind two slashes there is no host. -/
def Hostless (tables : Tables) (text : List Char) : Prop :=
  refused tables (netlocOf text) = false ∧ hostOf (netlocOf text) = []

include lawful

theorem hostname_eq_nil_iff (url : Url) :
    tables.casing.lower (url.hostname tables.casing) = [] ↔ hostOf url.netloc = [] := by
  rw [CaseData.lower_eq_nil_iff lawful]
  unfold Url.hostname
  rw [List.append_eq_nil_iff, CaseData.lower_eq_nil_iff lawful]
  constructor
  · rintro ⟨before, after⟩
    rw [← List.takeWhile_append_dropWhile (p := (· ≠ '%')) (l := hostOf url.netloc), before, after]
    rfl
  · intro empty
    rw [empty]
    exact ⟨rfl, rfl⟩

/-- **A URI that begins with two slashes** is its own normal form where it has no host and is in lower
case. -/
theorem normalize_rooted {text : List Char} (uri : hasScheme ('/' :: '/' :: text) = true) :
    normalizeIdentifier tables ('/' :: '/' :: text) = some ('/' :: '/' :: text) ↔
      Hostless tables text ∧
        tables.casing.lower ('/' :: '/' :: text) = '/' :: '/' :: text := by
  unfold normalizeIdentifier
  rw [if_neg (List.cons_ne_nil _ _), if_pos uri]
  have parts := urlparse_netloc tables text
  unfold Hostless
  cases parsed : urlparse tables ('/' :: '/' :: text) with
  | none =>
    rw [parsed] at parts
    cases refusal : refused tables (netlocOf text) with
    | true => simp
    | false =>
      rw [refusal] at parts
      cases parts
  | some url =>
    rw [parsed] at parts
    cases refusal : refused tables (netlocOf text) with
    | true =>
      rw [refusal] at parts
      cases parts
    | false =>
      rw [refusal, if_neg Bool.false_ne_true, Option.map_some, Option.some.injEq, Prod.mk.injEq] at parts
      rw [Option.map_some, Option.some.injEq, ← parts.2, ← hostname_eq_nil_iff lawful]
      unfold normalizeUri
      rw [parts.1, if_neg (by decide)]
      by_cases host : tables.casing.lower (url.hostname tables.casing) = []
      · rw [if_neg (not_not.mpr host)]
        simp [host]
      · rw [if_pos host]
        simp [host]

omit lawful in
theorem head_slash_iff {text : List Char} (free : '\\' ∉ text) :
    text.head? = some '/' ↔ rooted text = true := by
  cases text with
  | nil => simp [rooted]
  | cons c rest =>
    have other : c ≠ '\\' := (List.ne_of_not_mem_cons free).symm
    simp [rooted, isSlash, other]

omit lawful in
theorem backslash_splitUnc (path : List Char) : '\\' ∉ (splitUnc (path.map toSlash)).2.2 := by
  intro member
  have inside := (List.dropWhile_sublist _).mem (List.mem_of_mem_tail member)
  have mapped := (List.dropWhile_sublist _).mem (List.mem_of_mem_tail inside)
  obtain ⟨c, -, same⟩ := List.mem_map.mp mapped
  unfold toSlash at same
  split_ifs at same with back
  · cases same
  · exact back same

/-- What begins with two slashes and is no URI loses one of them. -/
theorem normalize_double {text : List Char} (path : hasScheme ('/' :: '/' :: text) = false) :
    normalizeIdentifier tables ('/' :: '/' :: text) ≠ some ('/' :: '/' :: text) := by
  rw [normalize_path path, normalizePath_posix (matchDrive_of_rooted rfl) rfl]
  intro same
  have single := single_normalize lawful ('/' :: '/' :: text)
  rw [Option.some.inj same] at single
  exact List.rel_of_isChain_cons_cons single ⟨rfl, rfl⟩

/-- **A UNC path whose normal form reads as a URI, of itself**: a share that ends with a colon, before a
further slash, on a server that reads as no host, all in lower case. -/
def UncSettled (tables : Tables) (path : List Char) : Prop :=
  (splitUnc (path.map toSlash)).2.1.getLast? = some ':' ∧
    (splitUnc (path.map toSlash)).2.2.head? = some '/' ∧
    Hostless tables (splitUnc (path.map toSlash)).1 ∧
    tables.casing.lower (splitUnc (path.map toSlash)).1 = (splitUnc (path.map toSlash)).1 ∧
    tables.casing.lower (splitUnc (path.map toSlash)).2.1 = (splitUnc (path.map toSlash)).2.1

/-- **The normal form of a UNC path** is its own only where it reads as a URI of itself. -/
theorem normalize_unc (path : List Char) :
    normalizeIdentifier tables (normalizeUnc tables.casing path) =
        some (normalizeUnc tables.casing path) ↔ UncSettled tables path := by
  obtain ⟨serverFree, shareFree⟩ := splitUnc_free (path.map toSlash)
  have restFree := backslash_splitUnc path
  unfold normalizeUnc UncSettled
  dsimp only
  generalize (splitUnc (path.map toSlash)).1 = server at *
  generalize (splitUnc (path.map toSlash)).2.1 = share at *
  generalize (splitUnc (path.map toSlash)).2.2 = rest at *
  by_cases shareGiven : share = []
  · rw [if_neg fun both => both.1 shareGiven, if_neg (not_not.mpr shareGiven)]
    have path : hasScheme ('/' :: '/' :: server) = false := by
      rw [hasScheme_slash, hasScheme_slash, hasScheme_free serverFree]
    simp [normalize_double lawful path, shareGiven]
  · have shareHead : share.head? ≠ some '/' := fun first => shareFree (List.mem_of_mem_head? first)
    by_cases restGiven : rest = []
    · rw [if_neg fun both => both.2 restGiven, if_pos shareGiven]
      have path : hasScheme ('/' :: '/' :: (server ++ '/' :: share)) = false := by
        rw [hasScheme_slash, hasScheme_slash, hasScheme_word serverFree, hasScheme_free shareFree]
        simp [shareHead]
      have double := normalize_double lawful path
      simpa [restGiven] using double
    · rw [if_pos ⟨shareGiven, restGiven⟩]
      have uri : hasScheme ('/' :: '/' :: (server ++ '/' :: (share ++ '/' ::
          normalizePosixPath tables.casing rest))) =
          decide (share.getLast? = some ':' ∧ rest.head? = some '/') := by
        have first : (share ++ '/' :: normalizePosixPath tables.casing rest).head? ≠ some '/' := by
          rw [List.head?_append_of_ne_nil _ shareGiven]
          exact shareHead
        have heads : (normalizePosixPath tables.casing rest).head? = some '/' ↔
            rest.head? = some '/' := by
          rw [head_slash_iff (backslash_normalize lawful rest), head_slash_iff restFree,
            rooted_normalize lawful]
        rw [hasScheme_slash, hasScheme_slash, hasScheme_word serverFree, hasScheme_word shareFree,
          hasScheme_of_single (single_normalize lawful rest)]
        simp only [first, and_false, decide_false, Bool.false_or, Bool.or_false, heads]
      have whole : '/' :: '/' :: server ++ '/' :: share ++ '/' :: normalizePosixPath tables.casing rest =
          '/' :: '/' :: (server ++ '/' :: (share ++ '/' :: normalizePosixPath tables.casing rest)) := by
        simp
      rw [whole]
      cases reads : hasScheme ('/' :: '/' :: (server ++ '/' :: (share ++ '/' ::
          normalizePosixPath tables.casing rest))) with
      | false =>
        rw [reads] at uri
        have neither := of_decide_eq_false uri.symm
        have double := normalize_double lawful reads
        constructor
        · intro same
          exact absurd same double
        · rintro ⟨last, first, -⟩
          exact absurd ⟨last, first⟩ neither
      | true =>
        have both := of_decide_eq_true (uri.symm.trans reads)
        rw [normalize_rooted lawful reads]
        unfold Hostless
        rw [netlocOf_append]
        have lowered : tables.casing.lower ('/' :: '/' :: (server ++ '/' :: (share ++ '/' ::
            normalizePosixPath tables.casing rest))) = '/' :: '/' :: (server ++ '/' :: (share ++ '/' ::
              normalizePosixPath tables.casing rest)) ↔
            tables.casing.lower server = server ∧ tables.casing.lower share = share := by
          have slash : tables.casing.Settled '/' := ⟨by decide, lawful.ascii '/' (by decide)⟩
          have tail := (CaseData.lower_eq_self_iff lawful).mp (lower_normalize lawful rest)
          rw [CaseData.lower_eq_self_iff lawful, CaseData.lower_eq_self_iff lawful,
            CaseData.lower_eq_self_iff lawful]
          simp only [List.forall_mem_cons, List.forall_mem_append]
          exact ⟨fun all => ⟨all.2.2.1, all.2.2.2.2.1⟩,
            fun both => ⟨slash, slash, both.1, slash, both.2, slash, tail⟩⟩
        rw [lowered]
        simp only [both.1, both.2, true_and]

end Unc

/-! ### Settled paths -/

section Settled

include lawful

/-- **The paths whose normal form is its own**: a drive path with a name, a UNC path that reads as a URI
of itself, and any other path that does not begin like a drive. -/
def Settled (tables : Tables) (identifier : List Char) : Prop :=
  (∀ drive ∈ matchDrive identifier, segments drive.2 ≠ []) ∧
    (matchDrive identifier = none →
      if isUnc identifier then UncSettled tables (identifier.drop 2)
      else ¬ DriveLike tables.casing identifier)

/-- **Normalising a path again.** -/
theorem normalize_normalizePath (identifier : List Char) :
    normalizeIdentifier tables (normalizePath tables.casing identifier) =
        some (normalizePath tables.casing identifier) ↔ Settled tables identifier := by
  unfold Settled
  cases found : matchDrive identifier with
  | some drive =>
    obtain ⟨letter, rest⟩ := drive
    obtain ⟨-, -, alpha, -⟩ := matchDrive_eq_some found
    rw [normalizePath_drive found, normalize_drive lawful alpha]
    simp
  | none =>
    cases unc : isUnc identifier with
    | true => rw [normalizePath_unc found unc, normalize_unc lawful]; simp
    | false => rw [normalizePath_posix found unc, normalize_posix lawful]; simp

end Settled

end Retrovue.Core.Ingest
