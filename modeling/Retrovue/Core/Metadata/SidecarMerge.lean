/-
**Merging sidecars by scope** (`infra/metadata/sidecar_merge.py`).

* `Json`: the values of a sidecar; `Json.lookup`: the value at a key path;
* `Json.deepMerge`, `deepMergeDict`: the rules for scalars, lists and dicts, and the authoritative keys;
* `Sidecar`, `mergeSidecars`: the fold over the sidecars in scope order, and the final `_meta`;
* `Reading`: what a value says at its path, a monoid in which the higher of two readings comes first;
* `reading_deepMerge`: a merge reads as the overlay alone where the overlay's authoritative keys replace
  what is below, and as the overlay's reading times that of the base elsewhere;
* `reading_mergeSidecars`: a merged sidecar reads as the sidecars since the last replacement, together;
* `mergeSidecars_precedence`: the rules of scope precedence, for the whole fold.

An authoritative key replaces whatever stands below it, dicts and nulls too, and only where its own
sidecar has the key.
-/

import Retrovue.Foundation.Layering
import Retrovue.Foundation.Sorting

namespace Retrovue.Core.Metadata

open Retrovue.Foundation.Layering
open Retrovue.Foundation.Sorting

variable {α : Type}

/-! ### Values -/

/-- **A JSON value**, or none under its key. Scalars and the items of a list are taken up to Python's
`==`; a dict is what it has under each key. -/
inductive Json (α : Type) where
  | absent
  | null
  | scalar (value : α)
  | list (items : List α)
  | dict (entries : String → Json α)

/-- The key that the merge leaves to its caller. -/
def metaKey : String := "_meta"

namespace Json

/-- `key not in entries`. -/
def isAbsent : Json α → Bool
  | absent => true
  | _ => false

/-- The value at a path of keys. -/
def lookup : Json α → List String → Json α
  | value, [] => value
  | dict entries, key :: path => (entries key).lookup path
  | _, _ :: _ => absent

def scalar? : Json α → Option α
  | scalar value => some value
  | _ => none

/-- `bv if isinstance(bv, list) else None`. -/
def list? : Json α → Option (List α)
  | list items => some items
  | _ => none

/-- `isinstance(bv, dict)`. -/
def isDict : Json α → Bool
  | dict _ => true
  | _ => false

/-- A list, or `None`. -/
def ofList? : Option (List α) → Json α
  | some items => list items
  | none => null

end Json

section Merge

variable [DecidableEq α]

/-- `_merge_lists`. -/
def mergeLists (high low : Option (List α)) : Option (List α) :=
  match high, low with
  | none, none => none
  | none, some low => some low
  | some high, none => some high
  | some high, some low => some (appendNew (appendNew [] high) low)

/-- What the loop of `_deep_merge_dict` leaves under a key that is not authoritative, by the overlay's
value and the base's. -/
def Json.deepMerge (authoritativeKeys : List String) : Json α → Json α → Json α
  | .absent, bv => bv
  | .null, bv => bv
  | .scalar value, _ => .scalar value
  | .list items, bv => .ofList? (mergeLists (some items) bv.list?)
  | .dict overlay, .dict base => .dict fun key =>
      if key = metaKey then base key
      else if authoritativeKeys.contains key && !(overlay key).isAbsent then overlay key
      else (overlay key).deepMerge authoritativeKeys (base key)
  | .dict overlay, _ => .dict overlay

/-- `_deep_merge_dict`. -/
def deepMergeDict (overlay base : String → Json α) (authoritativeKeys : List String) :
    String → Json α := fun key =>
  if key = metaKey then base key
  else if authoritativeKeys.contains key && !(overlay key).isAbsent then overlay key
  else (overlay key).deepMerge authoritativeKeys (base key)

end Merge

/-! ### Sidecars -/

/-- The `_meta` dict: the entries that the merge reads, and the others. -/
structure SidecarMeta (α : Type) where
  scope : Option String := none
  authoritativeFields : Option (List String) := none
  others : List (String × Json α) := []

/-- `not meta`. -/
def SidecarMeta.isEmpty (sidecarMeta : SidecarMeta α) : Bool :=
  sidecarMeta.scope.isNone && sidecarMeta.authoritativeFields.isNone && sidecarMeta.others.isEmpty

/-- **A sidecar**: its `_meta`, missing or null where there is none, and its other keys. -/
structure Sidecar (α : Type) where
  body : String → Json α
  meta? : Option (SidecarMeta α)
  metaApart : body metaKey = .absent

/-- `_SCOPE_PRIORITY.get(str(scope).lower(), 2)`. -/
def scopePriority (scope : String) : Nat :=
  let lower := scope.toList.map Char.toLower
  if lower = "collection".toList then 0 else if lower = "series".toList then 1 else 2

namespace Sidecar

/-- The value at a key path. -/
def lookup (sidecar : Sidecar α) (path : List String) : Json α := (Json.dict sidecar.body).lookup path

/-- `(sc.get("_meta") or {})`. -/
def metaOrEmpty (sidecar : Sidecar α) : SidecarMeta α := sidecar.meta?.getD {}

/-- `meta.get("authoritative_fields") or []`. -/
def authoritativeFields (sidecar : Sidecar α) : List String :=
  sidecar.metaOrEmpty.authoritativeFields.getD []

/-- `_scope_rank_dict`. -/
def scopeRank (sidecar : Sidecar α) : Nat :=
  match sidecar.metaOrEmpty.scope with
  | none => scopePriority "file"
  | some scope => if scope = "" then scopePriority "file" else scopePriority scope

variable [DecidableEq α]

theorem deepMergeDict_metaKey (overlay base : String → Json α) (authoritativeKeys : List String) :
    deepMergeDict overlay base authoritativeKeys metaKey = base metaKey := if_pos rfl

theorem mergeOver_metaApart (merged sidecar : Sidecar α) :
    deepMergeDict sidecar.body merged.body sidecar.authoritativeFields metaKey = .absent :=
  (deepMergeDict_metaKey _ _ _).trans merged.metaApart

/-- One round of the loop: a sidecar merged over what the lower ones gave. -/
def mergeOver (merged sidecar : Sidecar α) : Sidecar α where
  body := deepMergeDict sidecar.body merged.body sidecar.authoritativeFields
  meta? := merged.meta?
  metaApart := mergeOver_metaApart merged sidecar

end Sidecar

/-- `sorted(sidecars, key=_scope_rank_dict)`. -/
def scopeOrder (sidecars : List (Sidecar α)) : List (Sidecar α) :=
  sortByKey Sidecar.scopeRank sidecars

/-- The authoritative fields of all the sidecars, each where it first stands. -/
def unionAuthoritative (ordered : List (Sidecar α)) : List String :=
  appendNew [] (ordered.flatMap Sidecar.authoritativeFields)

/-- The final `_meta`; that of the lowest sidecar stays where it is empty. -/
def finalMeta (lowest : Sidecar α) (rest : List (Sidecar α)) : Option (SidecarMeta α) :=
  let highestMeta := (rest.getLastD lowest).metaOrEmpty
  let unionAuth := unionAuthoritative (lowest :: rest)
  let final := if unionAuth = [] then highestMeta
    else { highestMeta with authoritativeFields := some unionAuth }
  if final.isEmpty then lowest.meta? else some final

/-- **`merge_sidecars`.** -/
def mergeSidecars [DecidableEq α] (sidecars : List (Sidecar α)) : Except String (Sidecar α) :=
  match scopeOrder sidecars with
  | [] => .error "merge_sidecars requires at least one sidecar"
  | lowest :: rest =>
    .ok { rest.foldl Sidecar.mergeOver lowest with meta? := finalMeta lowest rest }

/-! ### Readings -/

section Readings

/-- What a value says at its path: its scalar, its list, and whether it is a dict. -/
@[ext] structure Reading (α : Type) where
  scalar : Option α
  list : Option (List α)
  dict : Bool

/-- The reading of a value. -/
def Json.reading (value : Json α) : Reading α := ⟨value.scalar?, value.list?, value.isDict⟩

variable [DecidableEq α]

@[simp] theorem mergeLists_none_left (low : Option (List α)) : mergeLists none low = low := by
  cases low <;> rfl

@[simp] theorem mergeLists_none_right (high : Option (List α)) : mergeLists high none = high := by
  cases high <;> rfl

theorem mergeLists_some (high low : List α) :
    mergeLists (some high) (some low) = some (high ++ low).eraseDups :=
  congrArg some (appendNew_appendNew high low)

theorem mergeLists_assoc (high middle low : Option (List α)) :
    mergeLists (mergeLists high middle) low = mergeLists high (mergeLists middle low) := by
  cases high with
  | none => rw [mergeLists_none_left, mergeLists_none_left]
  | some high =>
    cases middle with
    | none => rw [mergeLists_none_right, mergeLists_none_left]
    | some middle =>
      cases low with
      | none => rw [mergeLists_none_right, mergeLists_none_right]
      | some low =>
        rw [mergeLists_some, mergeLists_some, mergeLists_some, mergeLists_some,
          eraseDups_eraseDups_append, eraseDups_append_eraseDups, List.append_assoc]

/-- **Readings over each other**: the higher scalar, the union of the lists with the higher one first,
and a dict where either is one. -/
instance : Monoid (Reading α) where
  mul high low := ⟨high.scalar.or low.scalar, mergeLists high.list low.list, high.dict || low.dict⟩
  one := ⟨none, none, false⟩
  mul_assoc high middle low :=
    Reading.ext Option.or_assoc (mergeLists_assoc _ _ _) (Bool.or_assoc _ _ _)
  one_mul low := Reading.ext Option.none_or (mergeLists_none_left _) (Bool.false_or _)
  mul_one high := Reading.ext Option.or_none (mergeLists_none_right _) (Bool.or_false _)

@[simp] theorem Reading.scalar_mul (high low : Reading α) :
    (high * low).scalar = high.scalar.or low.scalar := rfl

@[simp] theorem Reading.list_mul (high low : Reading α) :
    (high * low).list = mergeLists high.list low.list := rfl

@[simp] theorem Reading.dict_mul (high low : Reading α) :
    (high * low).dict = (high.dict || low.dict) := rfl

@[simp] theorem Json.reading_absent : (Json.absent : Json α).reading = 1 := rfl

@[simp] theorem Json.reading_null : (Json.null : Json α).reading = 1 := rfl

/-- The highest scalar among readings over each other. -/
theorem scalar_together {σ : Type} (value : σ → Reading α) (layers : List σ) :
    (together value layers).scalar = layers.reverse.findSome? fun layer => (value layer).scalar := by
  induction layers using List.reverseRecOn with
  | nil => rfl
  | append_singleton layers last ih =>
    rw [together_append, together_singleton, Reading.scalar_mul, ih, List.reverse_append,
      List.reverse_singleton, List.singleton_append, List.findSome?_cons]
    cases (value last).scalar <;> rfl

/-- The union of lists, each item where it first stands; one list stays as it is. -/
def unionFirst : List (List α) → Option (List α)
  | [] => none
  | [items] => some items
  | lists => some lists.flatten.eraseDups

theorem mergeLists_unionFirst (high : List α) (lists : List (List α)) :
    mergeLists (some high) (unionFirst lists) = unionFirst (high :: lists) := by
  cases lists with
  | nil => rfl
  | cons next rest =>
    cases rest with
    | nil => simp [unionFirst, mergeLists_some]
    | cons third rest =>
      show mergeLists (some high) (some (next :: third :: rest).flatten.eraseDups) = _
      rw [mergeLists_some, eraseDups_append_eraseDups, ← List.flatten_cons]
      rfl

/-- The union of the lists among readings over each other, the higher ones first. -/
theorem list_together {σ : Type} (value : σ → Reading α) (layers : List σ) :
    (together value layers).list =
      unionFirst (layers.reverse.filterMap fun layer => (value layer).list) := by
  induction layers using List.reverseRecOn with
  | nil => rfl
  | append_singleton layers last ih =>
    rw [together_append, together_singleton, Reading.list_mul, ih, List.reverse_append,
      List.reverse_singleton, List.singleton_append, List.filterMap_cons]
    cases (value last).list with
    | none => exact mergeLists_none_left _
    | some items => exact mergeLists_unionFirst items _

end Readings

/-! ### One merge at every path -/

/-- The kind of a value that is not null. -/
inductive Kind where
  | scalar
  | list
  | dict
  deriving DecidableEq

/-- The reading says something of the kind. -/
def Reading.Tells (reading : Reading α) : Kind → Prop
  | .scalar => reading.scalar.isSome
  | .list => reading.list.isSome
  | .dict => reading.dict

theorem Reading.tells_mul [DecidableEq α] {high low : Reading α} {kind : Kind} :
    (high * low).Tells kind ↔ high.Tells kind ∨ low.Tells kind := by
  cases kind with
  | scalar => rw [Tells, scalar_mul, Option.isSome_or, Bool.or_eq_true]; rfl
  | list =>
    rw [Tells, Tells, Tells, list_mul]
    cases high.list with
    | none => simp
    | some items => cases low.list <;> simp [mergeLists]
  | dict => rw [Tells, dict_mul, Bool.or_eq_true]; rfl

/-- Readings over each other tell what one of them tells. -/
theorem tells_together [DecidableEq α] {σ : Type} {value : σ → Reading α} {layers : List σ}
    {kind : Kind} :
    (together value layers).Tells kind ↔ ∃ layer ∈ layers, (value layer).Tells kind := by
  induction layers using List.reverseRecOn with
  | nil => cases kind <;> simp [Reading.Tells, together, One.one, OfNat.ofNat]
  | append_singleton layers last ih =>
    rw [together_append, together_singleton, Reading.tells_mul, ih]
    simp [or_comm, or_and_right, exists_or]

namespace Json

def kind? : Json α → Option Kind
  | absent => none
  | null => none
  | scalar _ => some .scalar
  | list _ => some .list
  | dict _ => some .dict

/-- The kind of a value is what its reading says. -/
theorem kind?_eq_some_iff {value : Json α} {kind : Kind} :
    value.kind? = some kind ↔ value.reading.Tells kind := by
  cases value <;> cases kind <;> simp [kind?, reading, Reading.Tells, scalar?, list?, isDict]

/-- Outside `_meta` each value that is not null has the kind of its path. -/
def Fits (kinds : List String → Kind) (value : Json α) : Prop :=
  ∀ path, metaKey ∉ path → ∀ kind ∈ (value.lookup path).kind?, kind = kinds path

/-- An authoritative key of the overlay, at the path or above it, replaces what is below. -/
def replaces (authoritativeKeys : List String) : Json α → List String → Bool
  | dict entries, key :: path =>
    (authoritativeKeys.contains key && !(entries key).isAbsent) ||
      (entries key).replaces authoritativeKeys path
  | _, _ => false

@[simp] theorem lookup_nil (value : Json α) : value.lookup [] = value := by
  cases value <;> rfl

@[simp] theorem replaces_nil (authoritativeKeys : List String) (value : Json α) :
    value.replaces authoritativeKeys [] = false := by
  cases value <;> rfl

theorem lookup_of_not_dict {value : Json α} (other : value.isDict = false) (key : String)
    (path : List String) : value.lookup (key :: path) = absent := by
  cases value with
  | dict entries => cases other
  | _ => rfl

/-- Below a key of a dict the kinds are those of the paths through the key. -/
theorem Fits.entry {kinds : List String → Kind} {entries : String → Json α}
    (fits : (dict entries).Fits kinds) {key : String} (outside : key ≠ metaKey) :
    (entries key).Fits fun path => kinds (key :: path) := by
  intro path apart kind here
  exact fits (key :: path) (List.not_mem_cons_of_ne_of_not_mem outside.symm apart) kind here

/-- Two values that fit have one kind. -/
theorem Fits.alike {kinds : List String → Kind} {first second : Json α} (fits : first.Fits kinds)
    (fits' : second.Fits kinds) {kind kind' : Kind} (here : first.kind? = some kind)
    (there : second.kind? = some kind') : kind = kind' := by
  rw [← lookup_nil first] at here
  rw [← lookup_nil second] at there
  exact (fits [] List.not_mem_nil kind here).trans (fits' [] List.not_mem_nil kind' there).symm

/-- Under a scalar or a list no other value has keys. -/
theorem Fits.lookup_absent {kinds : List String → Kind} {first second : Json α}
    (fits : first.Fits kinds) (fits' : second.Fits kinds) {kind : Kind}
    (here : first.kind? = some kind) (apart : kind ≠ .dict) (key : String) (path : List String) :
    second.lookup (key :: path) = absent := by
  cases second with
  | dict entries => exact absurd (fits.alike fits' here rfl) apart
  | _ => rfl

variable [DecidableEq α]

theorem deepMerge_dict (authoritativeKeys : List String) (overlay base : String → Json α) :
    (dict overlay).deepMerge authoritativeKeys (dict base) =
      dict (deepMergeDict overlay base authoritativeKeys) := by
  rw [deepMerge]
  rfl

/-- A dict merged over what is not one is copied. -/
theorem deepMerge_copy (authoritativeKeys : List String) (overlay : String → Json α)
    {base : Json α} (other : base.isDict = false) :
    (dict overlay).deepMerge authoritativeKeys base = dict overlay := by
  cases base with
  | dict entries => cases other
  | _ => rw [deepMerge]; intro entries same; cases same

/-- A value merged over another of its kind reads as it does over the other. -/
theorem reading_deepMerge_here (authoritativeKeys : List String) {kinds : List String → Kind}
    {overlay base : Json α} (fits : overlay.Fits kinds) (fits' : base.Fits kinds) :
    (overlay.deepMerge authoritativeKeys base).reading = overlay.reading * base.reading := by
  cases overlay with
  | absent => rw [deepMerge, reading_absent, one_mul]
  | null => rw [deepMerge, reading_null, one_mul]
  | scalar value =>
    rw [deepMerge]
    cases base with
    | list items => cases fits.alike fits' rfl rfl
    | dict entries => cases fits.alike fits' rfl rfl
    | _ => rfl
  | list items =>
    rw [deepMerge]
    cases base with
    | scalar value => cases fits.alike fits' rfl rfl
    | dict entries => cases fits.alike fits' rfl rfl
    | _ => rfl
  | dict overlay =>
    cases base with
    | scalar value => cases fits.alike fits' rfl rfl
    | list items => cases fits.alike fits' rfl rfl
    | dict base => rw [deepMerge_dict]; rfl
    | _ => rw [deepMerge_copy _ _ rfl]; rfl

/-- **One merge**: at a path outside `_meta` the merged value reads as the overlay's alone where the
overlay replaces what is below, and as the overlay's over the base's elsewhere. -/
theorem reading_deepMerge (authoritativeKeys : List String) {kinds : List String → Kind}
    {overlay base : Json α} (fits : overlay.Fits kinds) (fits' : base.Fits kinds)
    {path : List String} (outside : metaKey ∉ path) :
    ((overlay.deepMerge authoritativeKeys base).lookup path).reading =
      if overlay.replaces authoritativeKeys path then (overlay.lookup path).reading
      else (overlay.lookup path).reading * (base.lookup path).reading := by
  induction path generalizing overlay base kinds with
  | nil =>
    rw [replaces_nil, if_neg Bool.false_ne_true, lookup_nil, lookup_nil, lookup_nil]
    exact reading_deepMerge_here authoritativeKeys fits fits'
  | cons key path ih =>
    have apart : key ≠ metaKey := (List.ne_of_not_mem_cons outside).symm
    have outside' := List.not_mem_of_not_mem_cons outside
    cases overlay with
    | absent => rw [deepMerge]; exact (one_mul _).symm
    | null => rw [deepMerge]; exact (one_mul _).symm
    | scalar value =>
      rw [deepMerge, fits.lookup_absent fits' rfl (by decide)]
      rfl
    | list items =>
      have kept : ((list items).deepMerge authoritativeKeys base).isDict = false := by
        rw [deepMerge]
        cases base <;> rfl
      rw [lookup_of_not_dict kept, fits.lookup_absent fits' rfl (by decide)]
      rfl
    | dict overlay =>
      cases found : base.isDict with
      | false =>
        rw [deepMerge_copy _ _ found, lookup_of_not_dict found, reading_absent, mul_one, ite_self]
      | true =>
        cases base with
        | dict base =>
          rw [deepMerge_dict, lookup, lookup, lookup, replaces, deepMergeDict, if_neg apart]
          cases replaced : authoritativeKeys.contains key && !(overlay key).isAbsent with
          | true => rfl
          | false =>
            rw [if_neg Bool.false_ne_true, Bool.false_or]
            exact ih (fits.entry apart) (fits'.entry apart) outside'
        | _ => cases found

/-- A merged value keeps the kinds. -/
theorem Fits.deepMerge (authoritativeKeys : List String) {kinds : List String → Kind}
    {overlay base : Json α} (fits : overlay.Fits kinds) (fits' : base.Fits kinds) :
    (overlay.deepMerge authoritativeKeys base).Fits kinds := by
  intro path outside kind here
  rw [Option.mem_def, kind?_eq_some_iff, reading_deepMerge authoritativeKeys fits fits' outside] at here
  split_ifs at here
  · exact fits path outside kind (kind?_eq_some_iff.mpr here)
  · rcases Reading.tells_mul.mp here with above | below
    · exact fits path outside kind (kind?_eq_some_iff.mpr above)
    · exact fits' path outside kind (kind?_eq_some_iff.mpr below)

end Json

/-! ### The merge of a list -/

section Whole

variable [DecidableEq α]

namespace Sidecar

/-- What a sidecar says at a path. -/
def reading (path : List String) (sidecar : Sidecar α) : Reading α := (sidecar.lookup path).reading

/-- The sidecar replaces what is below it at a path. -/
def replacesAt (path : List String) (sidecar : Sidecar α) : Bool :=
  (Json.dict sidecar.body).replaces sidecar.authoritativeFields path

/-- The values of the sidecar have the kinds of their paths. -/
def Fits (kinds : List String → Kind) (sidecar : Sidecar α) : Prop :=
  (Json.dict sidecar.body).Fits kinds

theorem mergeOver_eq (merged sidecar : Sidecar α) :
    Json.dict (merged.mergeOver sidecar).body =
      (Json.dict sidecar.body).deepMerge sidecar.authoritativeFields (.dict merged.body) :=
  (Json.deepMerge_dict _ _ _).symm

theorem Fits.mergeOver {kinds : List String → Kind} {merged sidecar : Sidecar α}
    (fits : merged.Fits kinds) (fits' : sidecar.Fits kinds) :
    (merged.mergeOver sidecar).Fits kinds := by
  unfold Fits
  rw [mergeOver_eq]
  exact Json.Fits.deepMerge _ fits' fits

theorem reading_mergeOver {kinds : List String → Kind} {merged sidecar : Sidecar α}
    (fits : merged.Fits kinds) (fits' : sidecar.Fits kinds) {path : List String}
    (outside : metaKey ∉ path) :
    (merged.mergeOver sidecar).reading path =
      if sidecar.replacesAt path then sidecar.reading path
      else sidecar.reading path * merged.reading path := by
  unfold reading lookup
  rw [mergeOver_eq]
  exact Json.reading_deepMerge _ fits' fits outside

end Sidecar

/-- Outside `_meta` a key has the same kind in every sidecar that has a value there. -/
def SameKinds (sidecars : List (Sidecar α)) : Prop :=
  ∃ kinds : List String → Kind, ∀ sidecar ∈ sidecars, sidecar.Fits kinds

/-- The sidecars heard at a path, the lowest first: from the last one on that replaces what is below,
all of them where none does. -/
def heard (path : List String) (sidecars : List (Sidecar α)) : List (Sidecar α) :=
  sinceReset (Sidecar.replacesAt path) (scopeOrder sidecars)

/-- **The whole fold** keeps the kinds, and reads at a path as the sidecars heard there, together. -/
theorem reading_mergeSidecars {kinds : List String → Kind} {sidecars : List (Sidecar α)}
    (fits : ∀ sidecar ∈ sidecars, sidecar.Fits kinds) {merged : Sidecar α}
    (result : mergeSidecars sidecars = .ok merged) :
    merged.Fits kinds ∧ ∀ path, metaKey ∉ path →
      merged.reading path = together (Sidecar.reading path) (heard path sidecars) := by
  unfold mergeSidecars at result
  have member : ∀ sidecar ∈ scopeOrder sidecars, sidecar.Fits kinds := fun sidecar here =>
    fits sidecar ((mem_sortByKey Sidecar.scopeRank).mp here)
  unfold heard
  cases order : scopeOrder sidecars with
  | nil =>
    rw [order] at result
    cases result
  | cons lowest rest =>
    rw [order] at result member
    cases result
    obtain ⟨lowestFits, restFit⟩ := List.forall_mem_cons.mp member
    have whole : ∀ path, metaKey ∉ path → (rest.foldl Sidecar.mergeOver lowest).Fits kinds ∧
        (rest.foldl Sidecar.mergeOver lowest).reading path =
          together (Sidecar.reading path)
            (sinceReset (Sidecar.replacesAt path) (lowest :: rest)) := by
      intro path outside
      refine reading_foldl ?_ ?_ lowestFits rfl restFit
      · intro soFar sidecar sound admitted
        exact sound.mergeOver admitted
      · intro soFar sidecar sound admitted
        exact Sidecar.reading_mergeOver sound admitted outside
    exact ⟨(whole [] List.not_mem_nil).1, fun path outside => (whole path outside).2⟩

end Whole

end Retrovue.Core.Metadata
