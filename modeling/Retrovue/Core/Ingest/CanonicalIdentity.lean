/-
**One key for one file?** (`infra/canonical.py`)

* `SettledIdentifier`, `idempotent_iff_settled`: the identifiers whose normal form is its own;
* `AbsolutePath`: a path, as it is written natively and as a file URI; `uri_ne_native`: the two never have
  the same normal form, as a file URI loses its leading slash or keeps its scheme;
* `keys_ne`: items whose identifiers have different normal forms have different keys;
* `canonical_identity`: when a normal form is its own, that no file has one key, and which paths share
  a normal form.
-/

import Retrovue.Core.Ingest.CanonicalCollisions

namespace Retrovue.Core.Ingest

open Retrovue.Foundation.Casing
open Retrovue.Foundation.SlashPaths
open Retrovue.Foundation.Urls

variable {tables : Tables} (lawful : tables.casing.Lawful)

/-! ### Normalising again -/

section Idempotence

/-- **The identifiers whose normal form is its own.** -/
def SettledIdentifier (tables : Tables) (identifier : List Char) : Prop :=
  if hasScheme identifier then
    ∀ url ∈ urlparse tables identifier, SettledUri tables identifier url
  else Settled tables identifier

include lawful

theorem idempotent_iff_settled (identifier : List Char) :
    (∀ normal ∈ normalizeIdentifier tables identifier,
        normalizeIdentifier tables normal = some normal) ↔
      SettledIdentifier tables identifier := by
  unfold SettledIdentifier
  cases uri : hasScheme identifier with
  | false =>
    rw [normalize_path uri, if_neg Bool.false_ne_true, ← normalize_normalizePath lawful]
    simp
  | true =>
    have given : identifier ≠ [] := by
      rintro rfl
      cases uri
    have whole : normalizeIdentifier tables identifier =
        (urlparse tables identifier).map (normalizeUri tables.casing identifier) := by
      unfold normalizeIdentifier
      rw [if_neg given, if_pos uri]
    rw [whole, if_pos rfl]
    cases parsed : urlparse tables identifier with
    | none => simp
    | some url =>
      simp only [Option.map_some, Option.mem_some_iff, forall_eq']
      exact normalize_normalizeUri lawful uri parsed

end Idempotence

/-! ### Files by their URIs -/

section FileUris

/-- **An absolute path**: its names, on a posix system, under a drive, or in a share of a server. -/
inductive AbsolutePath where
  | posix (names : List (List Char))
  | drive (letter : Char) (names : List (List Char))
  | unc (server share : List Char) (names : List (List Char))

namespace AbsolutePath

/-- The names of the path, the server and the share first. -/
def names : AbsolutePath → List (List Char)
  | posix names => names
  | drive _ names => names
  | unc server share names => server :: share :: names

/-- The drive is a letter; no name is empty or has a slash in it, nor a backslash under Windows. -/
def Valid : AbsolutePath → Prop
  | posix names => ∀ name ∈ names, name ≠ [] ∧ '/' ∉ name
  | drive letter names => letter.isAlpha = true ∧ ∀ name ∈ names, Name name
  | unc server share names => ∀ name ∈ server :: share :: names, Name name

/-- The path as its system writes it. -/
def native : AbsolutePath → List Char
  | posix names => '/' :: ['/'].intercalate names
  | drive letter names => letter :: ':' :: '\\' :: ['\\'].intercalate names
  | unc server share names => '\\' :: '\\' :: ['\\'].intercalate (server :: share :: names)

/-- The file URI of the path, its names spelled in some way. -/
def uri (spell : List Char → List Char) : AbsolutePath → List Char
  | posix names => "file://".toList ++ render true (names.map spell)
  | drive letter names => "file:///".toList ++ letter :: ':' :: render true (names.map spell)
  | unc server share names => "file://".toList ++ render false ((server :: share :: names).map spell)

end AbsolutePath

/-- What is sanitised behind the scheme of files. -/
theorem splitScheme_file (rest : List Char) :
    splitScheme (sanitize ("file://".toList ++ rest)) =
      ("file".toList, '/' :: '/' :: rest.filter fun c => c ∉ ['\t', '\r', '\n']) := by
  have kept : sanitize ("file://".toList ++ rest) =
      "file://".toList ++ rest.filter fun c => c ∉ ['\t', '\r', '\n'] := rfl
  rw [kept]
  unfold splitScheme
  have before : ("file://".toList ++ rest.filter fun c => c ∉ ['\t', '\r', '\n']).takeWhile (· ≠ ':') =
      "file".toList := rfl
  rw [before, if_pos ⟨by simp, by decide⟩]
  rfl

theorem scheme_of_file {rest : List Char} {url : Url}
    (parsed : urlparse tables ("file://".toList ++ rest) = some url) : url.scheme = "file".toList := by
  unfold urlparse at parsed
  rw [splitScheme_file] at parsed
  dsimp only at parsed
  split_ifs at parsed
  · cases parsed
    rfl
  · cases parsed
    rfl

theorem hasScheme_file (rest : List Char) : hasScheme ("file://".toList ++ rest) = true :=
  decide_eq_true ⟨"file".toList, rest, rfl⟩

include lawful

/-- **The normal form of a file URI without a host**: what follows three slashes. -/
theorem normalize_file (rest : List Char) :
    normalizeIdentifier tables ("file:///".toList ++ rest) =
      some (normalizePosixPath tables.casing rest) := by
  have shape : "file:///".toList ++ rest = "file://".toList ++ '/' :: rest := rfl
  have parsed : ∃ path, urlparse tables ("file:///".toList ++ rest) =
      some ⟨"file".toList, [], path⟩ := by
    unfold urlparse
    rw [shape, splitScheme_file]
    dsimp only
    have netloc : (splitNetloc ('/' :: '/' :: ('/' :: rest).filter
        fun c => c ∉ ['\t', '\r', '\n'])).1 = [] := rfl
    rw [netloc, if_neg (by simp [refused, refusedBrackets, refusedNfkc])]
    exact ⟨_, rfl⟩
  obtain ⟨path, parsed⟩ := parsed
  have hostless := (hostname_eq_nil_iff lawful ⟨"file".toList, [], path⟩).mpr rfl
  have uri := hasScheme_file ('/' :: rest)
  rw [← shape] at uri
  have given : "file:///".toList ++ rest ≠ [] := List.cons_ne_nil _ _
  unfold normalizeIdentifier
  rw [if_neg given, if_pos uri, parsed, Option.map_some]
  unfold normalizeUri
  rw [hostless]
  dsimp only
  rw [if_pos (by decide), if_neg (not_not.mpr rfl)]
  have cut : ("file:///".toList ++ rest).drop 8 = rest := rfl
  rw [cut]
  split_ifs with four three two
  · rfl
  · rfl
  · exact absurd (List.prefix_append _ rest) three
  · exact absurd (List.prefix_append _ rest) three

/-- **The normal form of a file URI has no slash before it**, when none follows two or three slashes. -/
theorem unrooted_of_file {rest normal : List Char} (unrooted : rooted rest = false)
    (result : normalizeIdentifier tables ("file://".toList ++ rest) = some normal) :
    rooted normal = false := by
  have given : "file://".toList ++ rest ≠ [] := List.cons_ne_nil _ _
  unfold normalizeIdentifier at result
  rw [if_neg given, if_pos (hasScheme_file rest)] at result
  obtain ⟨url, parsed, rfl⟩ := Option.map_eq_some_iff.mp result
  have scheme := scheme_of_file parsed
  have three : ¬ "file:///".toList <+: "file://".toList ++ rest := by
    intro longer
    have begin_ := (List.prefix_append_right_inj "file://".toList).mp
      (show "file://".toList ++ ['/'] <+: "file://".toList ++ rest from longer)
    obtain ⟨more, rfl⟩ := begin_
    cases unrooted
  have four : ¬ "file:////".toList <+: "file://".toList ++ rest := fun longer =>
    three (List.IsPrefix.trans (by decide) longer)
  unfold normalizeUri
  dsimp only
  rw [scheme, if_pos (by decide), if_neg four, if_neg three, if_pos (List.prefix_append _ rest)]
  split_ifs
  · rfl
  · rw [rooted_normalize lawful]
    exact unrooted

omit lawful in
/-- Names with single slashes between them are no URI. -/
theorem hasScheme_render {names : List (List Char)}
    (plain : ∀ name ∈ names, name ≠ [] ∧ '/' ∉ name) :
    (render false names).head? ≠ some '/' ∧ hasScheme (render false names) = false := by
  induction names with
  | nil => exact ⟨nofun, rfl⟩
  | cons name names ih =>
    obtain ⟨⟨given, free⟩, later⟩ := List.forall_mem_cons.mp plain
    have first : name.head? ≠ some '/' := fun slash => free (List.mem_of_head? slash)
    cases names with
    | nil =>
      rw [render_singleton]
      exact ⟨first, hasScheme_free free⟩
    | cons next names =>
      obtain ⟨unrooted, path⟩ := ih later
      rw [render_cons_cons]
      refine ⟨?_, ?_⟩
      · rw [List.head?_append_of_ne_nil _ given]
        exact first
      · rw [hasScheme_word free, path, decide_eq_false fun both => unrooted both.2]
        rfl

omit lawful in
/-- Names with backslashes between them have no slash. -/
theorem backslashes_free {names : List (List Char)} (named : ∀ name ∈ names, Name name) :
    '/' ∉ ['\\'].intercalate names := by
  intro member
  rcases mem_intercalate member with same | ⟨name, among, inside⟩
  · exact absurd same (by decide)
  · exact ne_slash_of_name (named name among) _ inside rfl

omit lawful in
/-- A native path is no URI. -/
theorem hasScheme_native {path : AbsolutePath} (valid : path.Valid) :
    hasScheme path.native = false := by
  cases path with
  | posix names => exact (hasScheme_slash _).trans (hasScheme_render valid).2
  | drive letter names =>
    have other : letter ≠ '/' := by
      rintro rfl
      cases valid.1
    have free := backslashes_free valid.2
    exact hasScheme_free (by simp [AbsolutePath.native, other.symm, free])
  | unc server share names =>
    have free := backslashes_free valid
    refine hasScheme_free fun member => free ?_
    rcases List.mem_cons.mp member with same | member
    · cases same
    · rcases List.mem_cons.mp member with same | member
      · cases same
      · exact member

/-- **The normal form of a native path begins with a slash.** -/
theorem rooted_native {path : AbsolutePath} (valid : path.Valid) :
    rooted (normalizePath tables.casing path.native) = true := by
  cases path with
  | posix names =>
    rw [normalizePath_posix (matchDrive_of_rooted rfl) rfl, rooted_normalize lawful]
    rfl
  | drive letter names =>
    have drive : matchDrive (AbsolutePath.drive letter names).native =
        some (letter, ['\\'].intercalate names) := by
      simp [AbsolutePath.native, matchDrive, isSlash, valid.1]
    rw [normalizePath_drive drive, normalizeDrive_eq lawful]
    rfl
  | unc server share names =>
    have other : matchDrive (AbsolutePath.unc server share names).native = none :=
      matchDrive_of_rooted rfl
    rw [normalizePath_unc other rfl]
    unfold normalizeUnc
    dsimp only
    split_ifs <;> rfl

omit lawful in
/-- The first of some names is no slash. -/
theorem unrooted_render {names : List (List Char)} (named : ∀ name ∈ names, Name name) :
    rooted (render false names) = false := rooted_render named

/-- **A file never has one normal form**: that of its URI is none, or does not begin with the slash that
the native path's begins with. -/
theorem uri_ne_native {path : AbsolutePath} (valid : path.Valid) {spell : List Char → List Char}
    (spelled : ∀ name ∈ path.names, Name (spell name)) :
    normalizeIdentifier tables (path.uri spell) ≠ normalizeIdentifier tables path.native := by
  rw [normalize_path (hasScheme_native valid)]
  intro same
  have native := rooted_native lawful valid
  have named : ∀ name ∈ path.names.map spell, Name name := by
    intro name member
    obtain ⟨plain, among, rfl⟩ := List.mem_map.mp member
    exact spelled plain among
  have uri : rooted (normalizePath tables.casing path.native) = false := by
    cases path with
    | posix names =>
      have begins : normalizeIdentifier tables ((AbsolutePath.posix names).uri spell) =
          some (normalizePosixPath tables.casing (render false (names.map spell))) :=
        normalize_file lawful _
      have forms := Option.some.inj (begins.symm.trans same)
      rw [← forms, rooted_normalize lawful]
      exact rooted_render named
    | drive letter names =>
      have begins : normalizeIdentifier tables ((AbsolutePath.drive letter names).uri spell) =
          some (normalizePosixPath tables.casing
            (letter :: ':' :: render true (names.map spell))) := normalize_file lawful _
      have forms := Option.some.inj (begins.symm.trans same)
      rw [← forms, rooted_normalize lawful]
      exact isSlash_of_isAlpha valid.1
    | unc server share names =>
      exact unrooted_of_file lawful (rooted_render named) same
  rw [native] at uri
  cases uri

end FileUris

/-! ### Keys -/

section Keys

/-- Joined texts that differ in the last of them only. -/
theorem intercalate_concat_inj {separator : Char} (before : List (List Char)) {text text' : List Char}
    (same : [separator].intercalate (before ++ [text]) = [separator].intercalate (before ++ [text'])) :
    text = text' := by
  induction before with
  | nil =>
    rw [List.nil_append, List.nil_append, List.intercalate_singleton,
      List.intercalate_singleton] at same
    exact same
  | cons part before ih =>
    rw [List.cons_append, List.cons_append,
      List.intercalate_cons_of_ne_nil (List.concat_ne_nil _ _),
      List.intercalate_cons_of_ne_nil (List.concat_ne_nil _ _)] at same
    exact ih (List.append_cancel_left same)

/-- **Items whose identifiers have different normal forms have different keys**, when one of them has a
key. -/
theorem keys_ne {item item' : Item} {normal : List Char} (collection : Option Collection)
    (provider : Option (List Char)) (given' : item'.identifier ≠ [])
    (form : normalizeIdentifier tables item'.identifier = some normal)
    (differ : normalizeIdentifier tables item.identifier ≠
      normalizeIdentifier tables item'.identifier) :
    canonicalKeyFor tables item collection provider ≠
      canonicalKeyFor tables item' collection provider := by
  intro same
  unfold canonicalKeyFor at same
  rw [if_neg given', form] at same
  dsimp only at same
  split_ifs at same with empty
  cases found : normalizeIdentifier tables item.identifier with
  | none =>
    rw [found] at same
    cases same
  | some normal' =>
    rw [found] at same
    have texts := intercalate_concat_inj _ (Except.ok.inj same)
    exact differ (by rw [found, form, texts])

end Keys

/-! ### Identity -/

section Identity

include lawful

/-- **One key for one file?** A normal form is its own for the settled identifiers; no file has one normal
form, nor one key, by its path and by its URI; and the paths that share a normal form are the spellings of
one path that are read alike, and those that are mixed up. -/
theorem canonical_identity :
    (∀ identifier, (∀ normal ∈ normalizeIdentifier tables identifier,
        normalizeIdentifier tables normal = some normal) ↔ SettledIdentifier tables identifier) ∧
      (∀ path : AbsolutePath, path.Valid → ∀ spell : List Char → List Char,
        (∀ name ∈ path.names, Name (spell name)) →
          normalizeIdentifier tables (path.uri spell) ≠ normalizeIdentifier tables path.native ∧
            ∀ item item' : Item, item.identifier = path.uri spell → item'.identifier = path.native →
              ∀ collection provider, canonicalKeyFor tables item collection provider ≠
                canonicalKeyFor tables item' collection provider) ∧
      (∀ first second, hasScheme first = false → hasScheme second = false →
        (normalizeIdentifier tables first = normalizeIdentifier tables second ↔
          (normalizePosixPath tables.casing first = normalizePosixPath tables.casing second ∧
              SameKind first second) ∨
            Collides tables.casing first second ∨ Collides tables.casing second first)) := by
  refine ⟨idempotent_iff_settled lawful, ?_, ?_⟩
  · intro path valid spell spelled
    have differ := uri_ne_native lawful valid spelled
    refine ⟨differ, fun item item' uri native collection provider => ?_⟩
    have given : item'.identifier ≠ [] := by
      rw [native]
      cases path <;> exact List.cons_ne_nil _ _
    have form : normalizeIdentifier tables path.native = _ := normalize_path (hasScheme_native valid)
    rw [← native] at form
    rw [← uri, ← native] at differ
    exact keys_ne collection provider given form differ
  · intro first second path path'
    rw [normalize_path path, normalize_path path', Option.some.injEq]
    exact normalizePath_eq_iff lawful first second

/-- ASCII tables. What the sigma rule reads is left out, as there is no sigma. -/
def asciiTables : Tables where
  casing := { lowercase := fun c => [c.toLower], cased := fun _ => false, caseIgnorable := fun _ => false }
  isIpv6 := fun _ => false
  nfkc := id

omit lawful in
theorem toLower_of_not_ascii {c : Char} (high : 128 ≤ c.toNat) : c.toLower = c := by
  have plain : ¬ ('A'.val ≤ c.val ∧ c.val ≤ 'Z'.val) := by
    rintro ⟨-, below⟩
    have bound := UInt32.le_iff_toNat_le.mp below
    exact absurd (high.trans bound) (by decide)
  rw [Char.toLower]
  exact dif_neg plain

omit lawful in
theorem lawful_ascii : asciiTables.casing.Lawful where
  ascii := fun _ _ => rfl
  settled := by
    intro c plain d member
    rw [List.mem_singleton.mp member]
    rcases Nat.lt_or_ge c.toNat 128 with ascii | high
    · refine ⟨fun sigma => ?_, congrArg (fun d => [d]) (toLower_toLower ascii)⟩
      rcases CaseData.toLower_cases c ascii with same | ⟨-, alpha⟩
      · exact plain (same.symm.trans sigma)
      · rw [sigma] at alpha
        cases alpha
    · rw [toLower_of_not_ascii high]
      exact ⟨plain, congrArg (fun d => [d]) (toLower_of_not_ascii high)⟩
  sigmas := ⟨rfl, rfl⟩
  letters := by
    intro c high d member ascii
    rw [List.mem_singleton.mp member, toLower_of_not_ascii high] at ascii
    exact absurd high (Nat.not_le.mpr ascii)
  nonempty := fun _ => List.cons_ne_nil _ _
  slash := ⟨rfl, rfl⟩

/-- The file `/mnt/x`. -/
def mounted : AbsolutePath := .posix [['m', 'n', 't'], ['x']]

omit lawful in
/-- The file has two normal forms, and every item that names it has two keys. -/
theorem mounted_identity : asciiTables.casing.Lawful ∧ mounted.Valid ∧
    normalizeIdentifier asciiTables (mounted.uri id) ≠
      normalizeIdentifier asciiTables mounted.native := by
  have named : ∀ name ∈ mounted.names, Name name := by
    refine List.forall_mem_cons.mpr ⟨?_, List.forall_mem_singleton.mpr ?_⟩
    · exact ⟨List.cons_ne_nil _ _, by simp [isSlash]⟩
    · exact ⟨List.cons_ne_nil _ _, by simp [isSlash]⟩
  have valid : mounted.Valid := fun name member =>
    ⟨(named name member).1, fun slash => ne_slash_of_name (named name member) _ slash rfl⟩
  exact ⟨lawful_ascii, valid,
    ((canonical_identity lawful_ascii).2.1 mounted valid id named).1⟩

omit lawful in
/-- **One file has two normal forms, two files have one, and a normal form is not its own**: a file URI
loses its leading slash, a drive is read as a directory, and a UNC path loses a slash the second time. -/
theorem identity_fails :
    (normalizeIdentifier asciiTables "file:///mnt/x".toList = some "mnt/x".toList ∧
        normalizeIdentifier asciiTables "/mnt/x".toList = some "/mnt/x".toList) ∧
      (normalizeIdentifier asciiTables "C:\\a".toList = some "/c/a".toList ∧
        normalizeIdentifier asciiTables "/c/a".toList = some "/c/a".toList ∧
        normalizePosixPath asciiTables.casing "C:\\a".toList = "c:/a".toList) ∧
      (normalizeIdentifier asciiTables "\\\\S\\h".toList = some "//S/h".toList ∧
        normalizeIdentifier asciiTables "//S/h".toList = some "/s/h".toList) :=
  ⟨⟨rfl, rfl⟩, ⟨rfl, rfl, rfl⟩, rfl, rfl⟩

end Identity

end Retrovue.Core.Ingest
