/-
**Which paths share a normal form** (`infra/canonical.py`).

* `segments_unc`: the names of a UNC path are those of its server, its share and the rest;
* `normalizeDrive_eq_iff`, `normalizeDrive_eq_posix_iff`, `normalizeUnc_eq_iff`: each pair of branches;
* `SameKind`, `Collides`: two spellings that are read alike, and two paths that are mixed up;
* `normalizePath_eq_iff`: the normal forms are the same for these and for no others.
-/

import Retrovue.Core.Ingest.CanonicalUris

namespace Retrovue.Core.Ingest

open Retrovue.Foundation.Casing
open Retrovue.Foundation.SlashPaths
open Retrovue.Foundation.Urls

variable {tables : Tables} (lawful : tables.casing.Lawful)

/-! ### Drives -/

section Drives

include lawful

/-- What a drive path is as a text: the drive is its first name. -/
theorem names_drive {letter slash : Char} (alpha : letter.isAlpha = true)
    (slashes : isSlash slash = true) (rest : List Char) :
    rooted (letter :: ':' :: slash :: rest) = false ∧
      (segments (letter :: ':' :: slash :: rest)).map tables.casing.lower =
        [letter.toLower, ':'] :: (segments rest).map tables.casing.lower := by
  have split : letter :: ':' :: slash :: rest = [letter, ':'] ++ slash :: rest := rfl
  have drive : tables.casing.lower [letter, ':'] = [letter.toLower, ':'] :=
    (CaseData.lower_eq_pair_iff lawful (isAlpha_toLower alpha) (by decide)).mpr
      ⟨letter, rfl, lower_letter lawful alpha⟩
  refine ⟨isSlash_of_isAlpha alpha, ?_⟩
  rw [split, segments_append slashes, segments_name (name_drive alpha), List.map_append,
    List.map_singleton, drive]
  rfl

/-- Two drive paths share a normal form when they are spellings of one path. -/
theorem normalizeDrive_eq_iff {letter letter' slash slash' : Char} (alpha : letter.isAlpha = true)
    (alpha' : letter'.isAlpha = true) (slashes : isSlash slash = true)
    (slashes' : isSlash slash' = true) (rest rest' : List Char) :
    normalizeDrive tables.casing letter rest = normalizeDrive tables.casing letter' rest' ↔
      normalizePosixPath tables.casing (letter :: ':' :: slash :: rest) =
        normalizePosixPath tables.casing (letter' :: ':' :: slash' :: rest') := by
  obtain ⟨unrooted, names⟩ := names_drive lawful alpha slashes rest
  obtain ⟨unrooted', names'⟩ := names_drive lawful alpha' slashes' rest'
  rw [normalizeDrive_eq lawful, normalizeDrive_eq lawful, normalize_eq_iff lawful, unrooted, unrooted',
    names, names']
  constructor
  · intro same
    obtain ⟨letters, paths⟩ := List.cons.inj (List.cons.inj same).2
    have lists := (render_inj (names_lower lawful rest) (names_lower lawful rest') paths).2
    rw [letters, lists]
    exact ⟨rfl, rfl⟩
  · rintro ⟨-, lists⟩
    obtain ⟨drives, lists⟩ := List.cons.inj lists
    rw [(List.cons.inj drives).1, lists]

/-- **A drive path and a posix path share a normal form** when the posix path leads through the drive. -/
theorem normalizeDrive_eq_posix_iff {letter : Char} (alpha : letter.isAlpha = true)
    (rest path : List Char) :
    normalizeDrive tables.casing letter rest = normalizePosixPath tables.casing path ↔
      segments rest ≠ [] ∧
        normalizePosixPath tables.casing path =
          normalizePosixPath tables.casing ('/' :: letter :: '/' :: rest) := by
  by_cases named : segments rest = []
  · -- the bare drive ends with a slash, as no normal form of a longer path does
    have bare : normalizeDrive tables.casing letter rest = ['/', letter.toLower, '/'] := by
      rw [normalizeDrive_eq lawful, named]
      rfl
    constructor
    · intro same
      have twice := normalize_normalize lawful path
      rw [← same, bare] at twice
      have names : segments ['/', letter.toLower, '/'] = [[letter.toLower]] := by
        have split : [letter.toLower, '/'] = [letter.toLower] ++ '/' :: [] := rfl
        rw [segments_slash rfl, split, segments_append rfl,
          segments_name (name_letter (isAlpha_toLower alpha))]
        rfl
      rw [normalizePosixPath_eq lawful, names, List.map_singleton,
        lower_letter lawful (isAlpha_toLower alpha)] at twice
      exact absurd (congrArg List.length twice) (by decide : ¬ (2 = 3))
    · intro both
      exact absurd named both.1
  · rw [normalizeDrive_posix lawful alpha named]
    exact ⟨fun same => ⟨named, same.symm⟩, fun both => both.2.symm⟩

/-- The normal form of a drive path begins with one slash. -/
theorem normalizeDrive_second {letter : Char} (alpha : letter.isAlpha = true) (rest text : List Char) :
    normalizeDrive tables.casing letter rest ≠ '/' :: '/' :: text := by
  intro same
  rw [normalizeDrive_eq lawful] at same
  have letters := (List.cons.inj (List.cons.inj same).2).1
  have other := isSlash_of_isAlpha (isAlpha_toLower alpha)
  rw [letters] at other
  cases other

/-- The normal form of a posix path begins with one slash at most. -/
theorem normalizePosixPath_second (path text : List Char) :
    normalizePosixPath tables.casing path ≠ '/' :: '/' :: text := by
  intro same
  have single := single_normalize lawful path
  rw [same] at single
  exact List.rel_of_isChain_cons_cons single ⟨rfl, rfl⟩

end Drives

/-! ### Servers and shares -/

section Unc

/-- The slashes of either kind stand between the same names. -/
theorem segments_map_toSlash (text : List Char) :
    segments (text.map toSlash) = segments text ∧ rooted (text.map toSlash) = rooted text := by
  have twice : (text.map toSlash).map toSlash = text.map toSlash := by
    rw [List.map_map]
    refine List.map_congr_left fun c _ => ?_
    cases slash : isSlash c with
    | true => rw [Function.comp_apply, toSlash_of_slash slash]; rfl
    | false => rw [Function.comp_apply, (toSlash_of_not slash).1, (toSlash_of_not slash).1]
  have rendered := dropTrailing_collapse (text.map toSlash)
  rw [twice, dropTrailing_collapse] at rendered
  obtain ⟨roots, names⟩ := render_inj (fun _ member => name_of_mem_segments member)
    (fun _ member => name_of_mem_segments member) rendered
  exact ⟨names.symm, roots.symm⟩

/-- A text up to its first slash, and what follows it. -/
theorem segments_cut (text : List Char) :
    segments text = segments (text.takeWhile (· ≠ '/')) ++ segments (text.dropWhile (· ≠ '/')).tail := by
  have whole : text.takeWhile (· ≠ '/') ++ text.dropWhile (· ≠ '/') = text :=
    List.takeWhile_append_dropWhile
  cases after : text.dropWhile (· ≠ '/') with
  | nil =>
    rw [after, List.append_nil] at whole
    rw [whole, List.tail_nil, segments_nil, List.append_nil]
  | cons c rest =>
    have first := List.head?_dropWhile_not (· ≠ '/') text
    rw [after] at first
    have slash : c = '/' := by simpa using first
    rw [after, slash] at whole
    have names : segments (text.takeWhile (· ≠ '/') ++ '/' :: rest) = _ := segments_append rfl _ _
    rw [List.tail_cons, ← names, whole]

/-- **The names of a UNC path** are those of its server, of its share and of the rest. -/
theorem segments_splitUnc (path : List Char) :
    segments path = segments (splitUnc (path.map toSlash)).1 ++
      (segments (splitUnc (path.map toSlash)).2.1 ++ segments (splitUnc (path.map toSlash)).2.2) := by
  rw [← (segments_map_toSlash path).1, segments_cut (path.map toSlash), segments_cut (List.tail _)]
  rfl

theorem isUnc_eq_true {identifier : List Char} (unc : isUnc identifier = true) :
    identifier = '\\' :: '\\' :: identifier.drop 2 := by
  obtain ⟨rest, rfl⟩ := of_decide_eq_true unc
  rfl

/-- A UNC path begins with a slash and has the names behind the two. -/
theorem names_unc {identifier : List Char} (unc : isUnc identifier = true) :
    rooted identifier = true ∧ segments identifier = segments (identifier.drop 2) := by
  rw [isUnc_eq_true unc]
  exact ⟨rfl, (segments_slash rfl _).trans (segments_slash rfl _)⟩

/-- What stands behind the share in the normal form of a UNC path. -/
def uncRest (data : CaseData) (rest : List Char) : List Char :=
  if rest = [] then [] else '/' :: normalizePosixPath data rest

/-- What stands behind the server. -/
def uncTail (data : CaseData) (share rest : List Char) : List Char :=
  if share = [] then [] else '/' :: (share ++ uncRest data rest)

theorem normalizeUnc_eq (data : CaseData) (path : List Char) :
    normalizeUnc data path = '/' :: '/' :: ((splitUnc (path.map toSlash)).1 ++
      uncTail data (splitUnc (path.map toSlash)).2.1 (splitUnc (path.map toSlash)).2.2) := by
  unfold normalizeUnc uncTail uncRest
  dsimp only
  split_ifs <;> simp_all

include lawful

theorem normalize_eq_nil_iff (path : List Char) :
    normalizePosixPath tables.casing path = [] ↔ path = [] := by
  constructor
  · intro empty
    have none_ := segments_normalize lawful path
    have root := rooted_normalize lawful path
    rw [empty] at none_ root
    by_contra given
    exact segments_of_unrooted given root.symm (List.map_eq_nil_iff.mp none_.symm)
  · rintro rfl
    rfl

/-- What stands behind two servers is the same when there is no share, or the shares are the same and
what follows them has one normal form. -/
theorem uncTail_eq_iff {share share' rest rest' : List Char} (free : '/' ∉ share)
    (free' : '/' ∉ share') :
    uncTail tables.casing share rest = uncTail tables.casing share' rest' ↔
      share = share' ∧ (share ≠ [] →
        normalizePosixPath tables.casing rest = normalizePosixPath tables.casing rest') := by
  have begins : ∀ rest : List Char, Tail (uncRest tables.casing rest) := by
    intro rest
    unfold uncRest
    split_ifs
    · exact Or.inl rfl
    · exact Or.inr rfl
  have afters : uncRest tables.casing rest = uncRest tables.casing rest' ↔
      normalizePosixPath tables.casing rest = normalizePosixPath tables.casing rest' := by
    have here := normalize_eq_nil_iff lawful rest
    have there := normalize_eq_nil_iff lawful rest'
    unfold uncRest
    split_ifs with none_ none' none'
    · simp [none_, none']
    · rw [here.mpr none_]
      exact ⟨nofun, fun same => absurd (there.mp same.symm) none'⟩
    · rw [there.mpr none']
      exact ⟨nofun, fun same => absurd (here.mp same) none_⟩
    · exact ⟨fun same => (List.cons.inj same).2, fun same => by rw [same]⟩
  unfold uncTail
  split_ifs with none_ none' none'
  · simp [none_, none']
  · exact ⟨nofun, fun both => absurd (both.1.symm.trans none_) none'⟩
  · exact ⟨nofun, fun both => absurd (both.1.trans none') none_⟩
  · rw [List.cons.injEq]
    constructor
    · rintro ⟨-, same⟩
      obtain ⟨shares, tails⟩ := append_tail_inj free free' (begins rest) (begins rest') same
      exact ⟨shares, fun _ => afters.mp tails⟩
    · rintro ⟨shares, rests⟩
      rw [shares, afters.mpr (rests none_)]
      exact ⟨rfl, rfl⟩

/-- **Two UNC paths share a normal form** when their servers are the same and there is no share, or the
shares are the same and what follows them has one normal form. -/
theorem normalizeUnc_eq_iff (path path' : List Char) :
    normalizeUnc tables.casing path = normalizeUnc tables.casing path' ↔
      (splitUnc (path.map toSlash)).1 = (splitUnc (path'.map toSlash)).1 ∧
        (splitUnc (path.map toSlash)).2.1 = (splitUnc (path'.map toSlash)).2.1 ∧
        ((splitUnc (path.map toSlash)).2.1 ≠ [] →
          normalizePosixPath tables.casing (splitUnc (path.map toSlash)).2.2 =
            normalizePosixPath tables.casing (splitUnc (path'.map toSlash)).2.2) := by
  obtain ⟨serverFree, shareFree⟩ := splitUnc_free (path.map toSlash)
  obtain ⟨serverFree', shareFree'⟩ := splitUnc_free (path'.map toSlash)
  have begins : ∀ share rest : List Char, Tail (uncTail tables.casing share rest) := by
    intro share rest
    unfold uncTail
    split_ifs
    · exact Or.inl rfl
    · exact Or.inr rfl
  rw [normalizeUnc_eq, normalizeUnc_eq, ← uncTail_eq_iff lawful shareFree shareFree', List.cons.injEq,
    List.cons.injEq]
  constructor
  · rintro ⟨-, -, same⟩
    exact append_tail_inj serverFree serverFree' (begins _ _) (begins _ _) same
  · rintro ⟨servers, tails⟩
    rw [servers, tails]
    exact ⟨rfl, rfl, rfl⟩

end Unc

/-! ### Collisions -/

section Collisions

/-- Two UNC paths name one server and one share, and as many slashes follow. -/
def UncAlike (path path' : List Char) : Prop :=
  (splitUnc (path.map toSlash)).1 = (splitUnc (path'.map toSlash)).1 ∧
    (splitUnc (path.map toSlash)).2.1 = (splitUnc (path'.map toSlash)).2.1 ∧
    ((splitUnc (path.map toSlash)).2.1 ≠ [] →
      rooted (splitUnc (path.map toSlash)).2.2 = rooted (splitUnc (path'.map toSlash)).2.2)

/-- **Two paths that are read alike**: both under a drive, both posix, or both UNC with the server and the
share written alike. -/
def SameKind (first second : List Char) : Prop :=
  (matchDrive first).isSome = (matchDrive second).isSome ∧ isUnc first = isUnc second ∧
    (isUnc first = true → UncAlike (first.drop 2) (second.drop 2))

/-- **Two paths that are mixed up**: one under a drive and a posix one that leads through a directory
named like the drive, or two UNC paths of one server that name no share. -/
def Collides (data : CaseData) (first second : List Char) : Prop :=
  (∃ drive ∈ matchDrive first, matchDrive second = none ∧ isUnc second = false ∧
      segments drive.2 ≠ [] ∧
      normalizePosixPath data second = normalizePosixPath data ('/' :: drive.1 :: '/' :: drive.2)) ∨
    isUnc first = true ∧ isUnc second = true ∧
      (splitUnc ((first.drop 2).map toSlash)).1 = (splitUnc ((second.drop 2).map toSlash)).1 ∧
      (splitUnc ((first.drop 2).map toSlash)).2.1 = [] ∧
      (splitUnc ((second.drop 2).map toSlash)).2.1 = []

theorem isUnc_of_matchDrive {identifier : List Char} {drive : Char × List Char}
    (found : matchDrive identifier = some drive) : isUnc identifier = false := by
  rw [← Bool.not_eq_true]
  intro unc
  rw [isUnc_eq_true unc, matchDrive_of_rooted rfl] at found
  cases found

include lawful

/-- Two UNC paths share a normal form when they are spellings of one path that are read alike, or are of
one server and name no share. -/
theorem normalizeUnc_eq_iff_alike {first second : List Char} (unc : isUnc first = true)
    (unc' : isUnc second = true) :
    normalizeUnc tables.casing (first.drop 2) = normalizeUnc tables.casing (second.drop 2) ↔
      (normalizePosixPath tables.casing first = normalizePosixPath tables.casing second ∧
          UncAlike (first.drop 2) (second.drop 2)) ∨
        ((splitUnc ((first.drop 2).map toSlash)).1 = (splitUnc ((second.drop 2).map toSlash)).1 ∧
          (splitUnc ((first.drop 2).map toSlash)).2.1 = [] ∧
          (splitUnc ((second.drop 2).map toSlash)).2.1 = []) := by
  obtain ⟨root, names⟩ := names_unc unc
  obtain ⟨root', names'⟩ := names_unc unc'
  rw [normalizeUnc_eq_iff lawful, normalize_eq_iff lawful, normalize_eq_iff lawful, root, root', names,
    names', segments_splitUnc (first.drop 2), segments_splitUnc (second.drop 2)]
  unfold UncAlike
  constructor
  · rintro ⟨servers, shares, rests⟩
    by_cases given : (splitUnc ((first.drop 2).map toSlash)).2.1 = []
    · exact Or.inr ⟨servers, given, shares.symm.trans given⟩
    · obtain ⟨roots, lists⟩ := rests given
      refine Or.inl ⟨⟨rfl, ?_⟩, servers, shares, fun _ => roots⟩
      simp only [List.map_append, servers, shares, lists]
  · rintro (⟨⟨-, lists⟩, servers, shares, roots⟩ | ⟨servers, none_, none'⟩)
    · refine ⟨servers, shares, fun given => ⟨roots given, ?_⟩⟩
      rw [servers, shares, List.map_append, List.map_append, List.map_append, List.map_append,
        List.append_cancel_left_eq, List.append_cancel_left_eq] at lists
      exact lists
    · exact ⟨servers, none_.trans none'.symm, fun given => absurd none_ given⟩

/-- **The paths that share a normal form**: the spellings of one path that are read alike, and the paths
that are mixed up. -/
theorem normalizePath_eq_iff (first second : List Char) :
    normalizePath tables.casing first = normalizePath tables.casing second ↔
      (normalizePosixPath tables.casing first = normalizePosixPath tables.casing second ∧
          SameKind first second) ∨
        Collides tables.casing first second ∨ Collides tables.casing second first := by
  unfold SameKind Collides
  cases found : matchDrive first with
  | some drive =>
    obtain ⟨letter, rest⟩ := drive
    obtain ⟨slash, same, alpha, slashes⟩ := matchDrive_eq_some found
    have plain := isUnc_of_matchDrive found
    rw [normalizePath_drive found]
    cases found' : matchDrive second with
    | some drive' =>
      obtain ⟨letter', rest'⟩ := drive'
      obtain ⟨slash', same', alpha', slashes'⟩ := matchDrive_eq_some found'
      have plain' := isUnc_of_matchDrive found'
      rw [normalizePath_drive found', normalizeDrive_eq_iff lawful alpha alpha' slashes slashes', same,
        same', ← same, ← same']
      simp [plain, plain']
    | none =>
      cases unc' : isUnc second with
      | true =>
        rw [normalizePath_unc found' unc', normalizeUnc_eq]
        simp [plain, normalizeDrive_second lawful alpha]
      | false =>
        rw [normalizePath_posix found' unc', normalizeDrive_eq_posix_iff lawful alpha]
        simp [plain]
  | none =>
    cases unc : isUnc first with
    | true =>
      rw [normalizePath_unc found unc]
      cases found' : matchDrive second with
      | some drive' =>
        obtain ⟨letter', rest'⟩ := drive'
        obtain ⟨slash', same', alpha', slashes'⟩ := matchDrive_eq_some found'
        have plain' := isUnc_of_matchDrive found'
        have second_ := normalizeDrive_second lawful alpha' rest'
        rw [normalizePath_drive found', normalizeUnc_eq]
        simp [plain', (second_ _).symm]
      | none =>
        cases unc' : isUnc second with
        | true =>
          rw [normalizePath_unc found' unc', normalizeUnc_eq_iff_alike lawful unc unc']
          constructor
          · rintro (⟨forms, alike⟩ | ⟨servers, none_, none'⟩)
            · exact Or.inl ⟨forms, rfl, rfl, fun _ => alike⟩
            · exact Or.inr (Or.inl (Or.inr ⟨rfl, rfl, servers, none_, none'⟩))
          · rintro (⟨forms, -, -, alike⟩ | (⟨_, ⟨⟩, -⟩ | ⟨-, -, servers, none_, none'⟩) |
              (⟨_, ⟨⟩, -⟩ | ⟨-, -, servers, none', none_⟩))
            · exact Or.inl ⟨forms, alike rfl⟩
            · exact Or.inr ⟨servers, none_, none'⟩
            · exact Or.inr ⟨servers.symm, none_, none'⟩
        | false =>
          have second_ := normalizePosixPath_second lawful second
          rw [normalizePath_posix found' unc', normalizeUnc_eq]
          simp [(second_ _).symm]
    | false =>
      rw [normalizePath_posix found unc]
      cases found' : matchDrive second with
      | some drive' =>
        obtain ⟨letter', rest'⟩ := drive'
        obtain ⟨slash', same', alpha', slashes'⟩ := matchDrive_eq_some found'
        have plain' := isUnc_of_matchDrive found'
        rw [normalizePath_drive found', eq_comm, normalizeDrive_eq_posix_iff lawful alpha']
        simp [plain']
      | none =>
        cases unc' : isUnc second with
        | true =>
          rw [normalizePath_unc found' unc', normalizeUnc_eq]
          simp [normalizePosixPath_second lawful]
        | false =>
          rw [normalizePath_posix found' unc']
          simp

end Collisions

end Retrovue.Core.Ingest
