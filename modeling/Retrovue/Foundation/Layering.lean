/-
**Layers read together**: what a fold over layers leaves, when some layers start over.

* `sinceReset`: the layers from the last one that resets on; `sinceReset_append`: of two runs of
  layers after each other;
* `together`: the readings of layers, the last one first, in a monoid;
* `reading_foldl`: a fold that reads as its layer where that resets, and as the layer times what was
  there elsewhere, reads as the layers since the last reset together;
* `together_group`: a run of layers may be read as one;
* `appendNew`, `appendNew_appendNew`: unions of lists that keep the first of equal items;
* `eraseDups_append_eraseDups`, `eraseDups_eraseDups_append`: their parts may be unions already.
-/

import Mathlib

namespace Retrovue.Foundation.Layering

section Resets

variable {σ : Type*} (resets : σ → Bool)

/-- The layers from the last one that resets on, all of them when none does. -/
def sinceReset (layers : List σ) : List σ :=
  layers.foldl (fun kept layer => if resets layer then [layer] else kept ++ [layer]) []

@[simp] theorem sinceReset_nil : sinceReset resets ([] : List σ) = [] := rfl

theorem sinceReset_concat (layers : List σ) (last : σ) :
    sinceReset resets (layers ++ [last]) =
      if resets last then [last] else sinceReset resets layers ++ [last] := by
  unfold sinceReset
  rw [List.foldl_append]
  rfl

theorem sinceReset_append (below above : List σ) :
    sinceReset resets (below ++ above) =
      if above.any resets then sinceReset resets above else sinceReset resets below ++ above := by
  induction above using List.reverseRecOn with
  | nil => simp
  | append_singleton above last ih =>
    rw [← List.append_assoc, sinceReset_concat, sinceReset_concat, ih, List.any_append]
    cases here : resets last with
    | true => simp [here]
    | false =>
      cases earlier : above.any resets with
      | true => simp
      | false => simp [here]

theorem sinceReset_of_none {layers : List σ} (none_ : layers.any resets = false) :
    sinceReset resets layers = layers := by
  have joined := sinceReset_append resets [] layers
  rw [none_, List.nil_append] at joined
  exact joined

end Resets

section Together

variable {σ τ M : Type*} [Monoid M] {resets : σ → Bool} {value : σ → M}

/-- The readings of the layers multiplied, the last layer first. -/
def together (value : σ → M) (layers : List σ) : M := (layers.reverse.map value).prod

@[simp] theorem together_nil : together value ([] : List σ) = 1 := rfl

@[simp] theorem together_singleton (layer : σ) : together value [layer] = value layer := by
  simp [together]

theorem together_append (below above : List σ) :
    together value (below ++ above) = together value above * together value below := by
  unfold together
  rw [List.reverse_append, List.map_append, List.prod_append]

/-- **A fold over layers**: as long as each step reads as its layer alone where the layer resets, and
as the layer times what was there where it does not, the whole fold reads as the layers since the last
reset together. -/
theorem reading_foldl {step : τ → σ → τ} {reading : τ → M} {Sound : τ → Prop}
    {Admitted : σ → Prop}
    (keeps : ∀ t layer, Sound t → Admitted layer → Sound (step t layer))
    (reads : ∀ t layer, Sound t → Admitted layer →
      reading (step t layer) = if resets layer then value layer else value layer * reading t)
    {start : τ} {first : σ} (sound : Sound start) (same : reading start = value first)
    {rest : List σ} (admitted : ∀ layer ∈ rest, Admitted layer) :
    Sound (rest.foldl step start) ∧
      reading (rest.foldl step start) = together value (sinceReset resets (first :: rest)) := by
  induction rest using List.reverseRecOn with
  | nil =>
    have single : sinceReset resets [first] = [first] := by
      unfold sinceReset
      rw [List.foldl_cons, List.foldl_nil]
      exact ite_self _
    rw [single, together_singleton]
    exact ⟨sound, same⟩
  | append_singleton rest last ih =>
    obtain ⟨soundSoFar, soFar⟩ := ih fun layer member => admitted layer (List.mem_append_left _ member)
    have lastAdmitted := admitted last (List.mem_append_right _ (List.mem_singleton_self last))
    rw [List.foldl_append, List.foldl_cons, List.foldl_nil, ← List.cons_append, sinceReset_concat,
      reads _ last soundSoFar lastAdmitted, soFar]
    refine ⟨keeps _ last soundSoFar lastAdmitted, ?_⟩
    split_ifs
    · exact (together_singleton last).symm
    · rw [together_append, together_singleton]

/-- **Grouping**: one layer that reads as a run of layers may stand for the run, at the bottom, or
where it resets when some layer of the run does. -/
theorem together_group {below run above : List σ} {whole : σ}
    (same : value whole = together value (sinceReset resets run))
    (likewise : below = [] ∨ resets whole = run.any resets) :
    together value (sinceReset resets (below ++ whole :: above)) =
      together value (sinceReset resets (below ++ run ++ above)) := by
  have split : below ++ whole :: above = below ++ [whole] ++ above := by simp
  rw [split, sinceReset_append, sinceReset_append resets (below ++ run)]
  have first : together value (sinceReset resets (below ++ [whole])) =
      together value (sinceReset resets (below ++ run)) := by
    rcases likewise with rfl | likewise
    · rw [List.nil_append, List.nil_append, ← same, ← List.nil_append [whole], sinceReset_concat,
        sinceReset_nil, List.nil_append, ite_self, together_singleton]
    · rw [sinceReset_concat, sinceReset_append, likewise]
      cases started : run.any resets with
      | true => rw [if_pos rfl, if_pos rfl, together_singleton, same]
      | false =>
        rw [if_neg Bool.false_ne_true, if_neg Bool.false_ne_true, together_append, together_append,
          together_singleton, same, sinceReset_of_none resets started]
  cases above.any resets with
  | true => rfl
  | false =>
    rw [if_neg Bool.false_ne_true, if_neg Bool.false_ne_true, together_append, together_append, first]

end Together

section KeepFirst

variable {α : Type*} [DecidableEq α]

/-- `for item in items: if item not in merged: merged.append(item)` -/
def appendNew (merged items : List α) : List α :=
  items.foldl (fun merged item => if item ∈ merged then merged else merged ++ [item]) merged

theorem filter_eraseDups (keep : α → Bool) (items : List α) :
    (items.filter keep).eraseDups = items.eraseDups.filter keep := by
  induction hn : items.length using Nat.strong_induction_on generalizing items with
  | _ n ih =>
    cases items with
    | nil => rfl
    | cons item rest =>
      have shorter : (rest.filter fun other => !other == item).length < n := by
        rw [← hn, List.length_cons]
        exact Nat.lt_succ_of_le (List.length_filter_le _ _)
      have later := ih _ shorter (rest.filter fun other => !other == item) rfl
      rw [List.eraseDups_cons, List.filter_cons, List.filter_cons, ← later]
      cases kept : keep item with
      | true =>
        rw [if_pos rfl, if_pos rfl, List.eraseDups_cons, List.filter_filter, List.filter_filter]
        simp only [Bool.and_comm]
      | false =>
        rw [if_neg Bool.false_ne_true, if_neg Bool.false_ne_true, List.filter_filter]
        congr 1
        refine List.filter_congr fun other _ => ?_
        by_cases same : other = item
        · rw [same, kept]
          rfl
        · simp [same]

theorem appendNew_eq (merged items : List α) :
    appendNew merged items = merged ++ (items.filter fun item => decide (item ∉ merged)).eraseDups := by
  induction items generalizing merged with
  | nil => simp [appendNew]
  | cons item rest ih =>
    show appendNew (if item ∈ merged then merged else merged ++ [item]) rest = _
    rw [ih]
    by_cases present : item ∈ merged
    · rw [if_pos present, List.filter_cons_of_neg (by simpa using present)]
    · rw [if_neg present, List.filter_cons_of_pos (by simpa using present), List.eraseDups_cons,
        List.filter_filter, List.append_assoc, List.singleton_append]
      congr 3
      refine List.filter_congr fun other _ => ?_
      by_cases same : other = item
      · simp [same]
      · simp [same]

theorem appendNew_nil (items : List α) : appendNew [] items = items.eraseDups := by
  rw [appendNew_eq]
  simp

/-- One list after another, each item where it first stands. -/
theorem appendNew_appendNew (first second : List α) :
    appendNew (appendNew [] first) second = (first ++ second).eraseDups := by
  have joined : appendNew (appendNew [] first) second = appendNew [] (first ++ second) := by
    unfold appendNew
    rw [List.foldl_append]
  rw [joined, appendNew_nil]

@[simp] theorem eraseDups_eraseDups (items : List α) :
    items.eraseDups.eraseDups = items.eraseDups := by
  induction items with
  | nil => rfl
  | cons item rest ih =>
    rw [List.eraseDups_cons, filter_eraseDups, List.eraseDups_cons, List.filter_filter,
      filter_eraseDups, ih]
    simp only [Bool.and_self]

theorem eraseDups_append_eraseDups (first second : List α) :
    (first ++ second.eraseDups).eraseDups = (first ++ second).eraseDups := by
  rw [List.eraseDups_append, List.eraseDups_append, List.removeAll, List.removeAll,
    ← filter_eraseDups, eraseDups_eraseDups]

theorem eraseDups_eraseDups_append (first second : List α) :
    (first.eraseDups ++ second).eraseDups = (first ++ second).eraseDups := by
  rw [List.eraseDups_append, List.eraseDups_append, eraseDups_eraseDups]
  congr 2
  refine List.filter_congr fun item _ => ?_
  simp only [List.elem_eq_mem, List.mem_eraseDups]

end KeepFirst

end Retrovue.Foundation.Layering
