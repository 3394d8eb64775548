/-
**Scope precedence of merged sidecars** (`infra/metadata/sidecar_merge.py`).

* `present_or`, `present_below`, `present_replacing`: the keys that a merge keeps;
* `MarksAgree`: the sidecars of a part that have a key agree on whether it is authoritative;
  `replacesAt_merged`: their merge replaces at a path where one of them does;
* `mem_authoritativeFields`: the authoritative fields of the result are those of all the sidecars;
* `grouped`: a part of the sidecars in scope order may be merged first;
* `mergeSidecars_precedence`: scope precedence;
* `precedence_exceptions`: what an authoritative dict replaces is lost, and three more exceptions.
-/

import Retrovue.Core.Metadata.SidecarMerge

namespace Retrovue.Core.Metadata

open Retrovue.Foundation.Layering
open Retrovue.Foundation.Sorting

variable {α : Type}

/-! ### The keys that a merge keeps -/

namespace Json

/-- Something, null included, stands at the path. -/
def PresentAt (value : Json α) (path : List String) : Prop := (value.lookup path).isAbsent = false

theorem presentAt_cons {value : Json α} {key : String} {path : List String}
    (present : value.PresentAt (key :: path)) :
    ∃ entries, value = dict entries ∧ (entries key).PresentAt path := by
  cases value with
  | dict entries => exact ⟨entries, rfl, present⟩
  | _ => cases present

/-- A key that is there and authoritative replaces at every path through it. -/
theorem replaces_of_present {authoritativeKeys : List String} {value : Json α}
    {above : List String} {field : String} {path : List String}
    (marked : field ∈ authoritativeKeys) (present : value.PresentAt (above ++ [field]))
    (through : above ++ [field] <+: path) : value.replaces authoritativeKeys path = true := by
  induction above generalizing value path with
  | nil =>
    obtain ⟨rest, rfl⟩ := through
    obtain ⟨entries, rfl, here⟩ := presentAt_cons present
    rw [PresentAt, lookup_nil] at here
    show (_ || _) = true
    rw [here, List.contains_iff_mem.mpr marked]
    rfl
  | cons key above ih =>
    obtain ⟨rest, rfl⟩ := through
    obtain ⟨entries, rfl, here⟩ := presentAt_cons present
    show (_ || (entries key).replaces authoritativeKeys (above ++ [field] ++ rest)) = true
    rw [ih here (List.prefix_append _ _), Bool.or_true]

/-- Where a value replaces, one of its authoritative keys is at the path or above it. -/
theorem present_of_replaces {authoritativeKeys : List String} {value : Json α} {path : List String}
    (replaced : value.replaces authoritativeKeys path = true) :
    ∃ above field, above ++ [field] <+: path ∧ field ∈ authoritativeKeys ∧
      value.PresentAt (above ++ [field]) := by
  induction path generalizing value with
  | nil =>
    rw [replaces_nil] at replaced
    cases replaced
  | cons key path ih =>
    cases value with
    | dict entries =>
      rw [replaces, Bool.or_eq_true, Bool.and_eq_true, Bool.not_eq_true'] at replaced
      rcases replaced with ⟨marked, here⟩ | deeper
      · refine ⟨[], key, List.prefix_append [key] path, List.contains_iff_mem.mp marked, ?_⟩
        show ((entries key).lookup []).isAbsent = false
        rw [lookup_nil, here]
      · obtain ⟨above, field, through, marked, present⟩ := ih deeper
        exact ⟨key :: above, field, List.cons_prefix_cons.mpr ⟨rfl, through⟩, marked, present⟩
    | _ => cases replaced

/-- What is replaced at a path is replaced below it. -/
theorem replaces_of_prefix {authoritativeKeys : List String} {value : Json α}
    {path longer : List String} (through : path <+: longer)
    (replaced : value.replaces authoritativeKeys path = true) :
    value.replaces authoritativeKeys longer = true := by
  obtain ⟨above, field, reached, marked, present⟩ := present_of_replaces replaced
  exact replaces_of_present marked present (reached.trans through)

variable [DecidableEq α]

/-- A merge adds no key. -/
theorem present_or {authoritativeKeys : List String} {overlay base : Json α} {path : List String}
    (present : (overlay.deepMerge authoritativeKeys base).PresentAt path) :
    overlay.PresentAt path ∨ base.PresentAt path := by
  induction path generalizing overlay base with
  | nil =>
    cases overlay with
    | absent => exact Or.inr (by rwa [deepMerge] at present)
    | _ => exact Or.inl rfl
  | cons key path ih =>
    cases overlay with
    | absent => exact Or.inr (by rwa [deepMerge] at present)
    | null => exact Or.inr (by rwa [deepMerge] at present)
    | scalar value => exact Or.inl (by rwa [deepMerge] at present)
    | list items =>
      obtain ⟨entries, same, -⟩ := presentAt_cons present
      rw [deepMerge] at same
      cases base <;> cases same
    | dict overlay =>
      cases found : base.isDict with
      | false => exact Or.inl (by rwa [deepMerge_copy _ _ found] at present)
      | true =>
        cases base with
        | dict base =>
          rw [deepMerge_dict, PresentAt, lookup, deepMergeDict] at present
          split_ifs at present
          · exact Or.inr present
          · exact Or.inl present
          · exact ih present
        | _ => cases found

/-- What a base has stays where the overlay replaces nothing. -/
theorem present_below {authoritativeKeys : List String} {kinds : List String → Kind}
    {overlay base : Json α} (fits : overlay.Fits kinds) (fits' : base.Fits kinds)
    {path : List String} (outside : metaKey ∉ path)
    (kept : overlay.replaces authoritativeKeys path = false) (present : base.PresentAt path) :
    (overlay.deepMerge authoritativeKeys base).PresentAt path := by
  induction path generalizing overlay base kinds with
  | nil =>
    rw [PresentAt, lookup_nil] at present ⊢
    cases overlay with
    | dict overlay =>
      cases found : base.isDict with
      | false => rw [deepMerge_copy _ _ found]; rfl
      | true =>
        cases base with
        | dict base => rw [deepMerge_dict]; rfl
        | _ => cases found
    | list items => rw [deepMerge]; cases base <;> rfl
    | scalar value => rw [deepMerge]; rfl
    | _ => rwa [deepMerge]
  | cons key path ih =>
    have apart : key ≠ metaKey := (List.ne_of_not_mem_cons outside).symm
    have outside' := List.not_mem_of_not_mem_cons outside
    obtain ⟨base, rfl, here⟩ := presentAt_cons present
    cases overlay with
    | dict overlay =>
      rw [replaces, Bool.or_eq_false_iff] at kept
      rw [deepMerge_dict, PresentAt, lookup, deepMergeDict, if_neg apart, kept.1,
        if_neg Bool.false_ne_true]
      exact ih (fits.entry apart) (fits'.entry apart) outside' kept.2 here
    | list items => cases fits.alike fits' rfl rfl
    | scalar value => cases fits.alike fits' rfl rfl
    | _ => rwa [deepMerge]

/-- Where the overlay replaces, one of its authoritative keys is in the merged value. -/
theorem present_replacing {authoritativeKeys : List String} {overlay : Json α} (base : Json α)
    {path : List String} (outside : metaKey ∉ path)
    (replaced : overlay.replaces authoritativeKeys path = true) :
    ∃ above field, above ++ [field] <+: path ∧ field ∈ authoritativeKeys ∧
      (overlay.deepMerge authoritativeKeys base).PresentAt (above ++ [field]) := by
  induction path generalizing overlay base with
  | nil =>
    rw [replaces_nil] at replaced
    cases replaced
  | cons key path ih =>
    have apart : key ≠ metaKey := (List.ne_of_not_mem_cons outside).symm
    have outside' := List.not_mem_of_not_mem_cons outside
    cases overlay with
    | dict overlay =>
      cases found : base.isDict with
      | false =>
        rw [deepMerge_copy _ _ found]
        exact present_of_replaces replaced
      | true =>
        cases base with
        | dict base =>
          rw [deepMerge_dict]
          by_cases here : authoritativeKeys.contains key && !(overlay key).isAbsent
          · obtain ⟨marked, there⟩ := Bool.and_eq_true_iff.mp here
            refine ⟨[], key, List.prefix_append [key] path, List.contains_iff_mem.mp marked, ?_⟩
            show (Json.lookup (deepMergeDict _ _ _ key) []).isAbsent = false
            rw [lookup_nil, deepMergeDict, if_neg apart, if_pos here]
            exact (Bool.not_eq_true' _).mp there
          · rw [replaces, Bool.eq_false_of_not_eq_true here, Bool.false_or] at replaced
            obtain ⟨above, field, through, marked, present⟩ :=
              ih (base key) outside' replaced
            refine ⟨key :: above, field, List.cons_prefix_cons.mpr ⟨rfl, through⟩, marked, ?_⟩
            show (Json.lookup (deepMergeDict _ _ _ key) (above ++ [field])).isAbsent = false
            rw [deepMergeDict, if_neg apart, if_neg here]
            exact present
        | _ => cases found
    | _ => cases replaced

end Json

/-! ### Parts of the scope order -/

section Parts

/-- **The sidecars of a part agree on their marks**: those that have a key which one of them marks
authoritative all mark it. -/
def MarksAgree (part : List (Sidecar α)) : Prop :=
  ∀ sidecar ∈ part, ∀ other ∈ part, ∀ field ∈ other.authoritativeFields, ∀ above,
    metaKey ∉ above ++ [field] → (Json.dict sidecar.body).PresentAt (above ++ [field]) →
      field ∈ sidecar.authoritativeFields

/-- The scope order of sidecars that stand in scope order. -/
theorem scopeOrder_of_ascending {ordered : List (Sidecar α)}
    (ascending : Ascending Sidecar.scopeRank ordered) : scopeOrder ordered = ordered :=
  sortByKey_of_ascending Sidecar.scopeRank ascending

theorem mem_scopeOrder {sidecars : List (Sidecar α)} {sidecar : Sidecar α} :
    sidecar ∈ scopeOrder sidecars ↔ sidecar ∈ sidecars := mem_sortByKey Sidecar.scopeRank

/-! ### The final `_meta` -/

theorem unionAuthoritative_eq (ordered : List (Sidecar α)) :
    unionAuthoritative ordered = (ordered.flatMap Sidecar.authoritativeFields).eraseDups :=
  appendNew_nil _

theorem mem_unionAuthoritative {ordered : List (Sidecar α)} {field : String} :
    field ∈ unionAuthoritative ordered ↔ ∃ sidecar ∈ ordered, field ∈ sidecar.authoritativeFields := by
  rw [unionAuthoritative_eq, List.mem_eraseDups, List.mem_flatMap]

theorem fields_of_union_nil {ordered : List (Sidecar α)} (empty : unionAuthoritative ordered = [])
    {sidecar : Sidecar α} (member : sidecar ∈ ordered) : sidecar.authoritativeFields = [] := by
  refine List.eq_nil_iff_forall_not_mem.mpr fun field here => ?_
  have listed := mem_unionAuthoritative.mpr ⟨sidecar, member, here⟩
  rw [empty] at listed
  cases listed

/-- The union over a part may be taken first. -/
theorem unionAuthoritative_group {below part above : List (Sidecar α)} {whole : Sidecar α}
    (same : whole.authoritativeFields = unionAuthoritative part) :
    unionAuthoritative (below ++ whole :: above) = unionAuthoritative (below ++ part ++ above) := by
  rw [unionAuthoritative_eq, unionAuthoritative_eq, List.append_assoc, List.flatMap_append,
    List.flatMap_cons, List.flatMap_append, List.flatMap_append, same, unionAuthoritative_eq,
    ← eraseDups_append_eraseDups, eraseDups_eraseDups_append, eraseDups_append_eraseDups]

/-- A `_meta` with the union of the fields, where there are any. -/
def SidecarMeta.withUnion (sidecarMeta : SidecarMeta α) (fields : List String) : SidecarMeta α :=
  if fields = [] then sidecarMeta else { sidecarMeta with authoritativeFields := some fields }

theorem SidecarMeta.withUnion_scope (sidecarMeta : SidecarMeta α) (fields : List String) :
    (sidecarMeta.withUnion fields).scope = sidecarMeta.scope := by
  unfold withUnion
  split_ifs <;> rfl

theorem SidecarMeta.withUnion_isEmpty {sidecarMeta : SidecarMeta α}
    (given : sidecarMeta.isEmpty = false) (fields : List String) :
    (sidecarMeta.withUnion fields).isEmpty = false := by
  unfold withUnion
  split_ifs
  · exact given
  · unfold isEmpty
    simp

/-- A union over more fields takes the place of an earlier one. -/
theorem SidecarMeta.withUnion_withUnion (sidecarMeta : SidecarMeta α) {fields more : List String}
    (fewer : more = [] → fields = []) :
    (sidecarMeta.withUnion fields).withUnion more = sidecarMeta.withUnion more := by
  unfold withUnion
  by_cases empty : more = []
  · rw [if_pos empty, if_pos (fewer empty), if_pos empty]
  · rw [if_neg empty, if_neg empty]
    split_ifs <;> rfl

theorem finalMeta_eq (lowest : Sidecar α) (rest : List (Sidecar α)) :
    finalMeta lowest rest =
      if ((rest.getLastD lowest).metaOrEmpty.withUnion (unionAuthoritative (lowest :: rest))).isEmpty
      then lowest.meta?
      else some ((rest.getLastD lowest).metaOrEmpty.withUnion
        (unionAuthoritative (lowest :: rest))) := rfl

/-- The fields that the final `_meta` lists. -/
theorem finalMeta_fields (lowest : Sidecar α) (rest : List (Sidecar α)) :
    ((finalMeta lowest rest).getD {}).authoritativeFields.getD [] =
      unionAuthoritative (lowest :: rest) := by
  have highest : rest.getLastD lowest ∈ lowest :: rest := List.getLastD_mem_cons
  rw [finalMeta_eq]
  unfold SidecarMeta.withUnion
  by_cases empty : unionAuthoritative (lowest :: rest) = []
  · rw [if_pos empty, empty]
    split_ifs
    · exact fields_of_union_nil empty List.mem_cons_self
    · exact fields_of_union_nil empty highest
  · rw [if_neg empty, if_neg (by simp [SidecarMeta.isEmpty])]
    rfl

/-- The scope of the final `_meta` is that of one of the sidecars. -/
theorem finalMeta_scope (lowest : Sidecar α) (rest : List (Sidecar α)) :
    ∃ sidecar ∈ lowest :: rest,
      ((finalMeta lowest rest).getD {}).scope = sidecar.metaOrEmpty.scope := by
  rw [finalMeta_eq]
  split_ifs
  · exact ⟨lowest, List.mem_cons_self, rfl⟩
  · exact ⟨_, List.getLastD_mem_cons, SidecarMeta.withUnion_scope _ _⟩

/-- The final `_meta` is that of the highest sidecar, where this has one. -/
theorem finalMeta_of_highest {lowest highest : Sidecar α} {rest : List (Sidecar α)}
    (last : (lowest :: rest).getLast? = some highest)
    (given : highest.metaOrEmpty.isEmpty = false) :
    finalMeta lowest rest =
      some (highest.metaOrEmpty.withUnion (unionAuthoritative (lowest :: rest))) := by
  rw [List.getLast?_cons, Option.some.injEq, ← List.getLastD_eq_getLast?] at last
  rw [finalMeta_eq, last, SidecarMeta.withUnion_isEmpty given, if_neg Bool.false_ne_true]

theorem scopeRank_congr {first second : Sidecar α}
    (same : first.metaOrEmpty.scope = second.metaOrEmpty.scope) :
    first.scopeRank = second.scopeRank := by
  unfold Sidecar.scopeRank
  rw [same]

/-- A merged part stands in scope order where the part stood. -/
theorem ascending_group {low part high : List (Sidecar α)} {inner : Sidecar α}
    (ascending : Ascending Sidecar.scopeRank (low ++ part ++ high))
    (rank : ∃ sidecar ∈ part, inner.scopeRank = sidecar.scopeRank) :
    Ascending Sidecar.scopeRank (low ++ inner :: high) := by
  obtain ⟨sidecar, member, same⟩ := rank
  obtain ⟨lowPart, highs, across⟩ := List.pairwise_append.mp ascending
  obtain ⟨lows, -, under⟩ := List.pairwise_append.mp lowPart
  refine List.pairwise_append.mpr ⟨lows, List.pairwise_cons.mpr ⟨fun above here => ?_, highs⟩, ?_⟩
  · rw [same]
    exact across sidecar (List.mem_append_right _ member) above here
  · intro below here other there
    rcases List.mem_cons.mp there with rfl | later
    · rw [same]
      exact under below here sidecar member
    · exact across below (List.mem_append_left _ here) other later

variable [DecidableEq α]

/-- **What the merge of sidecars in scope order gives.** -/
theorem mergeSidecars_of_ascending {lowest : Sidecar α} {rest : List (Sidecar α)}
    (ascending : Ascending Sidecar.scopeRank (lowest :: rest)) :
    mergeSidecars (lowest :: rest) =
      .ok { rest.foldl Sidecar.mergeOver lowest with meta? := finalMeta lowest rest } := by
  unfold mergeSidecars
  rw [scopeOrder_of_ascending ascending]

/-! ### Replacing by a merged part -/

/-- The fold adds no key. -/
theorem present_of_fold {lowest : Sidecar α} {rest : List (Sidecar α)} {path : List String}
    (present : (Json.dict (rest.foldl Sidecar.mergeOver lowest).body).PresentAt path) :
    ∃ sidecar ∈ lowest :: rest, (Json.dict sidecar.body).PresentAt path := by
  induction rest using List.reverseRecOn with
  | nil => exact ⟨lowest, List.mem_cons_self, present⟩
  | append_singleton rest last ih =>
    rw [List.foldl_append, List.foldl_cons, List.foldl_nil, Sidecar.mergeOver_eq] at present
    rcases Json.present_or present with here | earlier
    · exact ⟨last, by simp, here⟩
    · obtain ⟨sidecar, member, there⟩ := ih earlier
      refine ⟨sidecar, ?_, there⟩
      rw [← List.cons_append]
      exact List.mem_append_left _ member

/-- The fold fits as its sidecars do. -/
theorem fits_fold {kinds : List String → Kind} {lowest : Sidecar α} {rest : List (Sidecar α)}
    (fits : ∀ sidecar ∈ lowest :: rest, sidecar.Fits kinds) :
    (rest.foldl Sidecar.mergeOver lowest).Fits kinds := by
  induction rest using List.reverseRecOn with
  | nil => exact fits lowest List.mem_cons_self
  | append_singleton rest last ih =>
    rw [List.foldl_append, List.foldl_cons, List.foldl_nil]
    rw [← List.cons_append] at fits
    refine Sidecar.Fits.mergeOver (ih fun sidecar member => ?_) ?_
    · exact fits sidecar (List.mem_append_left _ member)
    · exact fits last (List.mem_append_right _ (List.mem_singleton_self last))

/-- Where some sidecar replaces, a key that one of them marks authoritative is in the fold. -/
theorem present_of_any {kinds : List String → Kind} {lowest : Sidecar α}
    {rest : List (Sidecar α)} (fits : ∀ sidecar ∈ lowest :: rest, sidecar.Fits kinds)
    {path : List String} (outside : metaKey ∉ path)
    (replaced : (lowest :: rest).any (Sidecar.replacesAt path) = true) :
    ∃ above field, above ++ [field] <+: path ∧
      (∃ sidecar ∈ lowest :: rest, field ∈ sidecar.authoritativeFields) ∧
      (Json.dict (rest.foldl Sidecar.mergeOver lowest).body).PresentAt (above ++ [field]) := by
  induction rest using List.reverseRecOn with
  | nil =>
    rw [List.any_cons, List.any_nil, Bool.or_false] at replaced
    obtain ⟨above, field, through, marked, present⟩ := Json.present_of_replaces replaced
    exact ⟨above, field, through, ⟨lowest, List.mem_cons_self, marked⟩, present⟩
  | append_singleton rest last ih =>
    rw [← List.cons_append] at fits replaced
    have lastFits := fits last (List.mem_append_right _ (List.mem_singleton_self last))
    have earlierFit : ∀ sidecar ∈ lowest :: rest, sidecar.Fits kinds := fun sidecar member =>
      fits sidecar (List.mem_append_left _ member)
    rw [List.foldl_append, List.foldl_cons, List.foldl_nil, Sidecar.mergeOver_eq, ← List.cons_append]
    cases here : last.replacesAt path with
    | true =>
      obtain ⟨above, field, through, marked, present⟩ := Json.present_replacing _ outside here
      exact ⟨above, field, through, ⟨last, by simp, marked⟩, present⟩
    | false =>
      have earlier : (lowest :: rest).any (Sidecar.replacesAt path) = true := by
        simpa [here] using replaced
      obtain ⟨above, field, through, ⟨sidecar, member, marked⟩, present⟩ := ih earlierFit earlier
      refine ⟨above, field, through, ⟨sidecar, List.mem_append_left _ member, marked⟩, ?_⟩
      refine Json.present_below lastFits (fits_fold earlierFit) ?_ ?_ present
      · exact fun inside => outside (through.subset inside)
      · rw [← Bool.not_eq_true]
        intro there
        have whole : last.replacesAt path = true := Json.replaces_of_prefix through there
        rw [here] at whole
        cases whole

/-- **A merged part** replaces where one of its sidecars does, when these agree on their marks. -/
theorem replacesAt_merged {kinds : List String → Kind} {lowest : Sidecar α}
    {rest : List (Sidecar α)} (fits : ∀ sidecar ∈ lowest :: rest, sidecar.Fits kinds)
    (agree : MarksAgree (lowest :: rest)) {inner : Sidecar α}
    (body : inner.body = (rest.foldl Sidecar.mergeOver lowest).body)
    (fields : inner.authoritativeFields = unionAuthoritative (lowest :: rest)) {path : List String}
    (outside : metaKey ∉ path) :
    inner.replacesAt path = (lowest :: rest).any (Sidecar.replacesAt path) := by
  rw [Bool.eq_iff_iff]
  constructor
  · intro replaced
    obtain ⟨above, field, through, marked, present⟩ := Json.present_of_replaces replaced
    rw [fields] at marked
    rw [body] at present
    obtain ⟨other, among, marks⟩ := mem_unionAuthoritative.mp marked
    obtain ⟨sidecar, member, here⟩ := present_of_fold present
    have own := agree sidecar member other among field marks above
      (fun inside => outside (through.subset inside)) here
    exact List.any_eq_true.mpr ⟨sidecar, member, Json.replaces_of_present own here through⟩
  · intro replaced
    obtain ⟨above, field, through, marks, present⟩ := present_of_any fits outside replaced
    rw [← body] at present
    refine Json.replaces_of_present ?_ present through
    rw [fields]
    exact mem_unionAuthoritative.mpr marks

/-! ### Grouping -/

/-- **What the merge of sidecars in scope order is.** -/
structure Merges (ordered : List (Sidecar α)) (merged : Sidecar α) : Prop where
  result : mergeSidecars ordered = .ok merged
  fields : merged.authoritativeFields = unionAuthoritative ordered
  rank : ∃ sidecar ∈ ordered, merged.scopeRank = sidecar.scopeRank
  highestMeta : ∀ highest ∈ ordered.getLast?, highest.metaOrEmpty.isEmpty = false →
    merged.meta? = some (highest.metaOrEmpty.withUnion (unionAuthoritative ordered))
  replaces : ∀ kinds : List String → Kind, (∀ sidecar ∈ ordered, sidecar.Fits kinds) →
    MarksAgree ordered → ∀ path, metaKey ∉ path →
      merged.replacesAt path = ordered.any (Sidecar.replacesAt path)

theorem exists_merges {ordered : List (Sidecar α)}
    (ascending : Ascending Sidecar.scopeRank ordered) (given : ordered ≠ []) :
    ∃ merged, Merges ordered merged := by
  cases ordered with
  | nil => exact absurd rfl given
  | cons lowest rest =>
    refine ⟨_, mergeSidecars_of_ascending ascending, finalMeta_fields lowest rest, ?_, ?_, ?_⟩
    · obtain ⟨sidecar, member, same⟩ := finalMeta_scope lowest rest
      exact ⟨sidecar, member, scopeRank_congr same⟩
    · intro highest last nonempty
      exact finalMeta_of_highest last nonempty
    · intro kinds fits agree path outside
      apply replacesAt_merged fits agree
      · rfl
      · exact finalMeta_fields lowest rest
      · exact outside

/-- The merge of a list is that of its scope order. -/
theorem mergeSidecars_scopeOrder (sidecars : List (Sidecar α)) :
    mergeSidecars (scopeOrder sidecars) = mergeSidecars sidecars := by
  have ordered : scopeOrder (scopeOrder sidecars) = scopeOrder sidecars :=
    scopeOrder_of_ascending (sortByKey_pairwise Sidecar.scopeRank sidecars)
  unfold mergeSidecars
  rw [ordered]

/-- **Grouping**: a part of the sidecars in scope order may be merged first, the lowest part always and
another one when its sidecars agree on their marks. -/
theorem grouped {sidecars : List (Sidecar α)} (alike : SameKinds sidecars) {merged : Sidecar α}
    (result : mergeSidecars sidecars = .ok merged) {low part high : List (Sidecar α)}
    (order : scopeOrder sidecars = low ++ part ++ high) (given : part ≠ [])
    (agree : low = [] ∨ MarksAgree part) :
    ∃ inner outer, mergeSidecars part = .ok inner ∧
      mergeSidecars (low ++ inner :: high) = .ok outer ∧
      (∀ path, metaKey ∉ path → (outer.lookup path).reading = (merged.lookup path).reading) ∧
      outer.authoritativeFields = merged.authoritativeFields ∧
      ∀ highest ∈ (scopeOrder sidecars).getLast?, highest.metaOrEmpty.isEmpty = false →
        outer.meta? = merged.meta? := by
  obtain ⟨kinds, fits⟩ := alike
  have ascending : Ascending Sidecar.scopeRank (low ++ part ++ high) := by
    rw [← order]
    exact sortByKey_pairwise Sidecar.scopeRank sidecars
  have partAscending : Ascending Sidecar.scopeRank part :=
    (List.pairwise_append.mp (List.pairwise_append.mp ascending).1).2.1
  have fitsOrdered : ∀ sidecar ∈ low ++ part ++ high, sidecar.Fits kinds := by
    intro sidecar member
    rw [← order] at member
    exact fits sidecar (mem_scopeOrder.mp member)
  have fitsPart : ∀ sidecar ∈ part, sidecar.Fits kinds := fun sidecar member =>
    fitsOrdered sidecar (List.mem_append_left _ (List.mem_append_right _ member))
  obtain ⟨inner, innerMerges⟩ := exists_merges partAscending given
  obtain ⟨innerFits, innerReads⟩ := reading_mergeSidecars fitsPart innerMerges.result
  have outerAscending := ascending_group ascending innerMerges.rank
  have fitsOuter : ∀ sidecar ∈ low ++ inner :: high, sidecar.Fits kinds := by
    intro sidecar member
    rcases List.mem_append.mp member with below | above
    · exact fitsOrdered sidecar (List.mem_append_left _ (List.mem_append_left _ below))
    · rcases List.mem_cons.mp above with rfl | later
      · exact innerFits
      · exact fitsOrdered sidecar (List.mem_append_right _ later)
  obtain ⟨outer, outerMerges⟩ := exists_merges outerAscending (by simp)
  obtain ⟨-, outerReads⟩ := reading_mergeSidecars fitsOuter outerMerges.result
  -- the merge of the list is that of its scope order, the whole run of which is not empty
  obtain ⟨whole, wholeMerges⟩ := exists_merges ascending (by simp [given])
  have same : whole = merged := by
    have results := wholeMerges.result
    rw [← order, mergeSidecars_scopeOrder, result] at results
    exact (Except.ok.inj results).symm
  subst same
  obtain ⟨-, wholeReads⟩ := reading_mergeSidecars fitsOrdered wholeMerges.result
  refine ⟨inner, outer, innerMerges.result, outerMerges.result, ?_, ?_, ?_⟩
  · intro path outside
    refine (outerReads path outside).trans ?_
    refine Eq.trans ?_ (wholeReads path outside).symm
    have innerHeard := innerReads path outside
    unfold heard at innerHeard ⊢
    rw [scopeOrder_of_ascending partAscending] at innerHeard
    rw [scopeOrder_of_ascending outerAscending, scopeOrder_of_ascending ascending]
    exact together_group innerHeard
      (agree.imp_right fun agree => innerMerges.replaces kinds fitsPart agree path outside)
  · rw [outerMerges.fields, wholeMerges.fields, unionAuthoritative_group innerMerges.fields]
  · intro highest last nonempty
    rw [order] at last
    rw [wholeMerges.highestMeta highest last nonempty]
    cases high with
    | cons next later =>
      rw [← unionAuthoritative_group innerMerges.fields]
      refine outerMerges.highestMeta highest ?_ nonempty
      simpa using last
    | nil =>
      have partLast : part.getLast? = some highest := by
        rw [List.append_nil, Option.mem_def, List.getLast?_append_of_ne_nil _ given] at last
        exact last
      -- the merged part has the `_meta` of the highest sidecar, with the union over the part
      have innerMeta := innerMerges.highestMeta highest partLast nonempty
      have innerEq : inner.metaOrEmpty =
          highest.metaOrEmpty.withUnion (unionAuthoritative part) := by
        unfold Sidecar.metaOrEmpty
        rw [innerMeta]
        rfl
      have innerGiven : inner.metaOrEmpty.isEmpty = false := by
        rw [innerEq]
        exact SidecarMeta.withUnion_isEmpty nonempty _
      rw [outerMerges.highestMeta inner (by simp) innerGiven, innerEq,
        unionAuthoritative_group innerMerges.fields, SidecarMeta.withUnion_withUnion]
      intro empty
      refine List.eq_nil_iff_forall_not_mem.mpr fun field here => ?_
      obtain ⟨sidecar, member, marked⟩ := mem_unionAuthoritative.mp here
      have listed := mem_unionAuthoritative.mpr
        ⟨sidecar, List.mem_append_left [] (List.mem_append_right low member), marked⟩
      rw [empty] at listed
      cases listed

/-- The authoritative fields of the result are those of all the sidecars. -/
theorem mem_authoritativeFields {sidecars : List (Sidecar α)} {merged : Sidecar α}
    (result : mergeSidecars sidecars = .ok merged) {field : String} :
    field ∈ merged.authoritativeFields ↔
      ∃ sidecar ∈ sidecars, field ∈ sidecar.authoritativeFields := by
  unfold mergeSidecars at result
  cases order : scopeOrder sidecars with
  | nil =>
    rw [order] at result
    cases result
  | cons lowest rest =>
    rw [order] at result
    cases result
    have fields := finalMeta_fields lowest rest
    show field ∈ ((finalMeta lowest rest).getD {}).authoritativeFields.getD [] ↔ _
    rw [fields, mem_unionAuthoritative, ← order]
    simp only [mem_scopeOrder]

end Parts

/-! ### Scope precedence -/

section Precedence

variable [DecidableEq α]

/-- **Scope precedence.** In sidecars whose keys have one kind each, a merged sidecar says at every key
path outside `_meta` what the sidecars heard there say: the scalar of the highest of them that has one,
the union of their lists with the higher ones first, and a value of a kind exactly where one of them has
one. The order of sidecars of different scopes does not matter; a part of the scope order may be merged
first, the lowest always and another one where its sidecars agree on their marks; the authoritative
fields of the result are those of all the sidecars. -/
theorem mergeSidecars_precedence {sidecars : List (Sidecar α)} (given : sidecars ≠ [])
    (alike : SameKinds sidecars) :
    ∃ merged, mergeSidecars sidecars = .ok merged ∧
      (∀ path, metaKey ∉ path →
        (merged.lookup path).scalar? =
            (heard path sidecars).reverse.findSome? (fun sidecar => (sidecar.lookup path).scalar?) ∧
          (merged.lookup path).list? =
            unionFirst ((heard path sidecars).reverse.filterMap fun sidecar =>
              (sidecar.lookup path).list?) ∧
          ∀ kind, (merged.lookup path).kind? = some kind ↔
            ∃ sidecar ∈ heard path sidecars, (sidecar.lookup path).kind? = some kind) ∧
      (∀ others : List (Sidecar α),
        (∀ rank, (others.filter fun sidecar => sidecar.scopeRank = rank) =
          sidecars.filter fun sidecar => sidecar.scopeRank = rank) →
        mergeSidecars others = .ok merged) ∧
      (∀ low part high, scopeOrder sidecars = low ++ part ++ high → part ≠ [] →
        low = [] ∨ MarksAgree part →
        ∃ inner outer, mergeSidecars part = .ok inner ∧
          mergeSidecars (low ++ inner :: high) = .ok outer ∧
          (∀ path, metaKey ∉ path → (outer.lookup path).reading = (merged.lookup path).reading) ∧
          outer.authoritativeFields = merged.authoritativeFields ∧
          ∀ highest ∈ (scopeOrder sidecars).getLast?, highest.metaOrEmpty.isEmpty = false →
            outer.meta? = merged.meta?) ∧
      ∀ field, field ∈ merged.authoritativeFields ↔
        ∃ sidecar ∈ sidecars, field ∈ sidecar.authoritativeFields := by
  have ascending := sortByKey_pairwise Sidecar.scopeRank sidecars
  have ordered : scopeOrder sidecars ≠ [] := by
    intro empty
    obtain ⟨sidecar, member⟩ := List.exists_mem_of_ne_nil sidecars given
    rw [← mem_scopeOrder, empty] at member
    cases member
  obtain ⟨merged, merges⟩ := exists_merges ascending ordered
  have result : mergeSidecars sidecars = .ok merged :=
    (mergeSidecars_scopeOrder sidecars).symm.trans merges.result
  refine ⟨merged, result, ?_, ?_, ?_, ?_⟩
  · intro path outside
    obtain ⟨kinds, fits⟩ := alike
    have reads := (reading_mergeSidecars fits result).2 path outside
    refine ⟨?_, ?_, fun kind => ?_⟩
    · exact (congrArg Reading.scalar reads).trans (scalar_together _ _)
    · exact (congrArg Reading.list reads).trans (list_together _ _)
    · rw [Json.kind?_eq_some_iff]
      show (merged.reading path).Tells kind ↔ _
      rw [reads, tells_together]
      simp only [Json.kind?_eq_some_iff]
      rfl
  · intro others same
    rw [← result]
    unfold mergeSidecars scopeOrder
    rw [sortByKey_congr Sidecar.scopeRank same]
  · intro low part high order some_ agree
    exact grouped alike result order some_ agree
  · intro field
    exact mem_authoritativeFields result

end Precedence

/-! ### What an authoritative key replaces -/

section Replaced

/-- A dict of one entry. -/
def entry (key : String) (value : Json α) : String → Json α :=
  fun asked => if asked = key then value else .absent

theorem entry_metaKey {key : String} (apart : key ≠ metaKey) (value : Json α) :
    entry key value metaKey = .absent := if_neg apart.symm

/-- A sidecar of one key. -/
def sidecarOf (scope : String) (fields : List String) (key : String) (apart : key ≠ metaKey)
    (value : Json α) : Sidecar α where
  body := entry key value
  meta? := some { scope := some scope, authoritativeFields := some fields }
  metaApart := entry_metaKey apart value

theorem fits_entry {kinds : List String → Kind} {key : String} {value : Json α}
    (root : kinds [] = .dict) (below : value.Fits fun path => kinds (key :: path)) :
    (Json.dict (entry key value)).Fits kinds := by
  intro path outside kind here
  cases path with
  | nil =>
    cases here
    exact root.symm
  | cons asked path =>
    rw [Json.lookup, entry] at here
    split_ifs at here with same
    · subst same
      exact below path (List.not_mem_of_not_mem_cons outside) kind here
    · cases path <;> cases here

theorem fits_leaf {kinds : List String → Kind} {value : Json α} (leaf : value.isDict = false)
    (own : ∀ kind ∈ value.kind?, kind = kinds []) : value.Fits kinds := by
  intro path _ kind here
  cases path with
  | nil =>
    rw [Json.lookup_nil] at here
    exact own kind here
  | cons key path =>
    rw [Json.lookup_of_not_dict leaf] at here
    cases here

theorem genres_apart : "genres" ≠ metaKey := by decide

theorem title_apart : "title" ≠ metaKey := by decide

theorem rating_apart : "content_rating" ≠ metaKey := by decide

def collectionRating : Sidecar String :=
  sidecarOf "collection" [] "content_rating" rating_apart
    (.dict (entry "reason" (.scalar "violence")))

def fileRating : Sidecar String :=
  sidecarOf "file" ["content_rating"] "content_rating" rating_apart
    (.dict (entry "system" (.scalar "MPAA")))

def collectionGenres : Sidecar String :=
  sidecarOf "collection" [] "genres" genres_apart (.list ["drama", "drama"])

def seriesGenres : Sidecar String :=
  sidecarOf "series" [] "genres" genres_apart (.list ["comedy"])

def fileTitle : Sidecar String := sidecarOf "file" ["genres"] "title" title_apart .null

theorem ratings_sameKinds : SameKinds [collectionRating, fileRating] := by
  refine ⟨fun path => if path.length < 2 then .dict else .scalar, ?_⟩
  refine List.forall_mem_cons.mpr ⟨?_, List.forall_mem_singleton.mpr ?_⟩
  · exact fits_entry rfl (fits_entry rfl (fits_leaf rfl (by simp [Json.kind?])))
  · exact fits_entry rfl (fits_entry rfl (fits_leaf rfl (by simp [Json.kind?])))

theorem genres_sameKinds : SameKinds [collectionGenres, seriesGenres, fileTitle] := by
  refine ⟨fun path => if path.length < 1 then .dict else .list, ?_⟩
  refine List.forall_mem_cons.mpr ⟨?_, List.forall_mem_cons.mpr ⟨?_, List.forall_mem_singleton.mpr ?_⟩⟩
  · exact fits_entry rfl (fits_leaf rfl (by simp [Json.kind?]))
  · exact fits_entry rfl (fits_leaf rfl (by simp [Json.kind?]))
  · exact fits_entry rfl (fits_leaf rfl (by simp [Json.kind?]))

/-- Precedence for the ratings: the reason is not heard, and the system is. -/
theorem ratings_precedence :
    [collectionRating, fileRating] ≠ [] ∧ SameKinds [collectionRating, fileRating] ∧
      ∃ merged, mergeSidecars [collectionRating, fileRating] = .ok merged ∧
        ∀ field, field ∈ merged.authoritativeFields ↔
          ∃ sidecar ∈ [collectionRating, fileRating], field ∈ sidecar.authoritativeFields := by
  refine ⟨List.cons_ne_nil _ _, ratings_sameKinds, ?_⟩
  obtain ⟨merged, result, -, -, -, fields⟩ :=
    mergeSidecars_precedence (List.cons_ne_nil _ _) ratings_sameKinds
  exact ⟨merged, result, fields⟩

/-- **Four exceptions to plain precedence**: an authoritative dict loses the keys of the one below,
though nobody marks them; a list alone keeps its duplicates; a key that is null in every sidecar is lost;
and a sidecar that marks a key it lacks makes the merged part replace what the part alone did not. -/
theorem precedence_exceptions :
    (SameKinds [collectionRating, fileRating] ∧
      (collectionRating.lookup ["content_rating", "reason"]).scalar? = some "violence" ∧
      (∀ sidecar ∈ [collectionRating, fileRating], "reason" ∉ sidecar.authoritativeFields) ∧
      ∃ merged, mergeSidecars [collectionRating, fileRating] = .ok merged ∧
        (merged.lookup ["content_rating", "reason"]).isAbsent = true) ∧
    (∃ merged, mergeSidecars [collectionGenres] = .ok merged ∧
      (merged.lookup ["genres"]).list? = some ["drama", "drama"]) ∧
    SameKinds [collectionGenres, seriesGenres, fileTitle] ∧
    ∃ merged inner outer, mergeSidecars [collectionGenres, seriesGenres, fileTitle] = .ok merged ∧
      mergeSidecars [seriesGenres, fileTitle] = .ok inner ∧
      mergeSidecars [collectionGenres, inner] = .ok outer ∧
      (fileTitle.lookup ["title"]).isAbsent = false ∧
      (∀ sidecar ∈ [collectionGenres, seriesGenres, fileTitle],
        "title" ∉ sidecar.authoritativeFields) ∧
      (merged.lookup ["title"]).isAbsent = true ∧
      (merged.lookup ["genres"]).list? = some ["comedy", "drama"] ∧
      (outer.lookup ["genres"]).list? = some ["comedy"] := by
  refine ⟨⟨ratings_sameKinds, rfl, by decide, _, rfl, rfl⟩, ⟨_, rfl, rfl⟩, genres_sameKinds, ?_⟩
  exact ⟨_, _, _, rfl, rfl, rfl, rfl, by decide, rfl, rfl, rfl⟩

end Replaced

end Retrovue.Core.Metadata
