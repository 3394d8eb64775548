/-
**The layers of a day's schedule.**

`resolve_day_schedule` keys the blocks of every layer by their start and lays one dict of them over
the other. What comes out lists, for a start, what the highest layer that has it lists there:
exactly when that layer lists one block for it. Of several blocks of one layer that share a start,
or carry none, the dict keeps the last.

* `listed`, `highest`: the blocks that a list of definitions, and the layers, have for a start;
* `merged_eq`: the merged dict is an overlay of the blocks of all layers;
* `get_merged`: it holds the last block that the highest layer lists;
* `StartsSort`: the starts are dict keys that Python sorts.
-/

import Mathlib
import Retrovue.Core.Compiler.Schedule
import Retrovue.Foundation.Overlay
import Retrovue.Foundation.Fallible

namespace Retrovue.Core.Compiler

open Retrovue.Core.Schedule Retrovue.Foundation.Sorting Retrovue.Foundation.Overlay
open Retrovue.Foundation.Fallible

/-! ### Blocks by start -/

section Listed

/-- The start that a block definition is listed under. -/
def startOf : Value → Option Value
  | .dict entries => some (startKey entries)
  | _ => none

/-- The definition is a block of this start. -/
def startsAt (start blockDef : Value) : Bool :=
  match startOf blockDef with
  | some key => key.sameKey start
  | none => false

/-- The blocks that definitions have for a start. -/
def listed (start : Value) (blocks : List Value) : List Value := blocks.filter (startsAt start)

/-- The layers that apply on a date, lowest first. -/
def layersOf (schedule : Dict) (targetDate : Date) : List (List Value) :=
  (layerKeys (weekday targetDate)).map fun key => ((schedule.lookup key).map ensureList).getD []

/-- What the highest layer that has a start lists for it. -/
def highest (start : Value) : List (List Value) → List Value
  | [] => []
  | layer :: above =>
    if (highest start above).isEmpty then listed start layer else highest start above

/-- Every start has the blocks of the highest layer that has it, and there are no others. -/
def Layered (layers : List (List Value)) (blocks : List Value) : Prop :=
  (∀ blockDef ∈ blocks, (startOf blockDef).isSome) ∧
    ∀ start, listed start blocks = highest start layers

/-- The starts of definitions. -/
def starts (blocks : List Value) : List Value := blocks.filterMap startOf

/-- The values are keys of a dict, and they sort: they are one key, or all texts, all numbers or
all dates. -/
def StartsSort (keys : List Value) : Prop :=
  (∀ key ∈ keys, key.sameKey key) ∧
    ((∀ key ∈ keys, ∀ other ∈ keys, key.sameKey other) ∨
      (∀ key ∈ keys, key.keyText.isSome) ∨
      (∀ key ∈ keys, key.keyNumber.isSome) ∨ (∀ key ∈ keys, key.keyDate.isSome))

/-- The definitions keyed by their starts. -/
def keyed (blocks : List Value) : Layer :=
  blocks.filterMap fun blockDef => (startOf blockDef).map fun key => (key, blockDef)

theorem sameKey_iff {a b : Value} :
    a.sameKey b = true ↔ ∃ key, a.hashKey = some key ∧ b.hashKey = some key := by
  unfold Value.sameKey
  cases a.hashKey with
  | none => simp
  | some first =>
    cases b.hashKey with
    | none => simp
    | some second => simp [eq_comm]

theorem sameKeys : SameKeys Value.sameKey where
  symm := by
    intro a b same
    obtain ⟨key, first, second⟩ := sameKey_iff.mp same
    exact sameKey_iff.mpr ⟨key, second, first⟩
  trans := by
    intro a b c same next
    obtain ⟨key, first, second⟩ := sameKey_iff.mp same
    obtain ⟨key', second', third⟩ := sameKey_iff.mp next
    rw [second] at second'
    cases second'
    exact sameKey_iff.mpr ⟨key, first, third⟩

theorem hashKey_isSome {key : Value} : key.hashKey.isSome = true ↔ key.sameKey key = true := by
  rw [sameKey_iff, Option.isSome_iff_exists]
  simp

theorem hashKey_eq {a b : Value} (same : a.sameKey b = true) : a.hashKey = b.hashKey := by
  obtain ⟨key, first, second⟩ := sameKey_iff.mp same
  rw [first, second]

end Listed

/-! ### One layer -/

section OneLayer

theorem mem_keyed {blocks : List Value} {entry : Value × Value} :
    entry ∈ keyed blocks ↔ entry.2 ∈ blocks ∧ startOf entry.2 = some entry.1 := by
  unfold keyed
  rw [List.mem_filterMap]
  constructor
  · rintro ⟨blockDef, member, paired⟩
    obtain ⟨key, start, rfl⟩ := Option.map_eq_some_iff.mp paired
    exact ⟨member, start⟩
  · rintro ⟨member, start⟩
    exact ⟨entry.2, member, by rw [start]; rfl⟩

/-- The values of the entries under a key are the blocks listed for it. -/
theorem filter_keyed (start : Value) (blocks : List Value) :
    ((keyed blocks).filter fun entry => entry.1.sameKey start).map Prod.snd =
      listed start blocks := by
  induction blocks with
  | nil => rfl
  | cons blockDef rest ih =>
    unfold keyed listed startsAt at ih ⊢
    cases here : startOf blockDef with
    | none => simp [here, ih]
    | some key => cases same : key.sameKey start <;> simp [here, same, ih]

theorem latest_keyed (start : Value) (blocks : List Value) :
    latest Value.sameKey (keyed blocks) start = (listed start blocks).getLast? := by
  unfold latest
  rw [← List.getLast?_map, filter_keyed]

/-- One definition is entered where its start is a key, and leaves the dict where it has none. -/
theorem enter_iff {layer result : Layer} {blockDef : Value} :
    layer.enter blockDef = .ok result ↔
      (∀ key ∈ starts [blockDef], key.sameKey key = true) ∧
        result = overlay Value.sameKey layer (keyed [blockDef]) := by
  cases blockDef with
  | dict entries =>
    have one : starts [.dict entries] = [startKey entries] := rfl
    rw [one, List.forall_mem_singleton, ← hashKey_isSome]
    unfold Layer.enter
    dsimp only
    cases (startKey entries).hashKey with
    | none => simp
    | some key =>
      simp only [Except.ok.injEq, Option.isSome_some, true_and]
      exact eq_comm
  | null | bool _ | int _ | str _ | date _ | list _ =>
    constructor
    · rintro ⟨⟩
      exact ⟨List.forall_mem_nil _, rfl⟩
    · rintro ⟨-, rfl⟩
      rfl

theorem overlay_keyed_cons (layer : Layer) (blockDef : Value) (rest : List Value) :
    overlay Value.sameKey layer (keyed (blockDef :: rest)) =
      overlay Value.sameKey (overlay Value.sameKey layer (keyed [blockDef])) (keyed rest) := by
  unfold overlay keyed
  rw [← List.foldl_append, ← List.filterMap_append]
  rfl

/-- `_blocks_to_dict` over what it holds so far. -/
theorem foldlM_enter {blocks : List Value} {layer result : Layer} :
    blocks.foldlM Layer.enter layer = .ok result ↔
      (∀ key ∈ starts blocks, key.sameKey key = true) ∧
        result = overlay Value.sameKey layer (keyed blocks) := by
  induction blocks generalizing layer with
  | nil =>
    constructor
    · rintro ⟨⟩
      exact ⟨List.forall_mem_nil _, rfl⟩
    · rintro ⟨-, rfl⟩
      rfl
  | cons blockDef rest ih =>
    have split : starts (blockDef :: rest) = starts [blockDef] ++ starts rest := by
      unfold starts
      rw [← List.filterMap_append]
      rfl
    rw [List.foldlM_cons, bind_eq_ok, split, List.forall_mem_append, overlay_keyed_cons]
    constructor
    · rintro ⟨entered, first, others⟩
      obtain ⟨keys, rfl⟩ := enter_iff.mp first
      obtain ⟨moreKeys, whole⟩ := ih.mp others
      exact ⟨⟨keys, moreKeys⟩, whole⟩
    · rintro ⟨⟨keys, moreKeys⟩, whole⟩
      exact ⟨_, enter_iff.mpr ⟨keys, rfl⟩, ih.mpr ⟨moreKeys, whole⟩⟩

/-- **`_blocks_to_dict`** enters the definitions one over the other, where their starts are keys. -/
theorem blocksToDict_iff {blocks : List Value} {layer : Layer} :
    blocksToDict blocks = .ok layer ↔
      (∀ key ∈ starts blocks, key.sameKey key = true) ∧
        layer = overlay Value.sameKey [] (keyed blocks) :=
  foldlM_enter

end OneLayer

/-! ### The merged layers -/

section Merged

/-- The dict of all layers. -/
def merged (layers : List (List Value)) : Layer :=
  (layers.map fun blocks => overlay Value.sameKey [] (keyed blocks)).foldl Layer.update []

theorem mapM_blocksToDict {layers : List (List Value)} {dicts : List Layer} :
    layers.mapM blocksToDict = .ok dicts ↔
      (∀ key ∈ starts layers.flatten, key.sameKey key = true) ∧
        dicts = layers.map fun blocks => overlay Value.sameKey [] (keyed blocks) := by
  induction layers generalizing dicts with
  | nil =>
    constructor
    · rintro ⟨⟩
      exact ⟨List.forall_mem_nil _, rfl⟩
    · rintro ⟨-, rfl⟩
      rfl
  | cons blocks rest ih =>
    have split : starts (blocks :: rest).flatten = starts blocks ++ starts rest.flatten := by
      unfold starts
      rw [List.flatten_cons, List.filterMap_append]
    rw [List.mapM_cons, bind_eq_ok, split, List.forall_mem_append]
    constructor
    · rintro ⟨first, entered, more⟩
      obtain ⟨others, entered', whole⟩ := bind_eq_ok.mp more
      obtain ⟨keys, rfl⟩ := blocksToDict_iff.mp entered
      obtain ⟨moreKeys, rfl⟩ := ih.mp entered'
      cases whole
      exact ⟨⟨keys, moreKeys⟩, rfl⟩
    · rintro ⟨⟨keys, moreKeys⟩, rfl⟩
      refine ⟨_, blocksToDict_iff.mpr ⟨keys, rfl⟩, bind_eq_ok.mpr ⟨_, ih.mpr ⟨moreKeys, rfl⟩, rfl⟩⟩

/-- **The call is the merged dict, sorted.** -/
theorem resolveDaySchedule_iff {schedule : Dict} {targetDate : Date} {blocks : List Value} :
    resolveDaySchedule schedule targetDate = .ok blocks ↔
      (∀ key ∈ starts (layersOf schedule targetDate).flatten, key.sameKey key = true) ∧
        sortedLayer (merged (layersOf schedule targetDate)) = .ok blocks := by
  have called : resolveDaySchedule schedule targetDate =
      (layersOf schedule targetDate).mapM blocksToDict >>= fun dicts =>
        sortedLayer (dicts.foldl Layer.update []) := by
    unfold resolveDaySchedule layersOf
    rw [List.mapM_map]
    rfl
  rw [called, bind_eq_ok]
  constructor
  · rintro ⟨dicts, entered, sorted⟩
    obtain ⟨keys, rfl⟩ := mapM_blocksToDict.mp entered
    exact ⟨keys, sorted⟩
  · rintro ⟨keys, sorted⟩
    exact ⟨_, mapM_blocksToDict.mpr ⟨keys, rfl⟩, sorted⟩

variable {layers : List (List Value)}

theorem highest_cons (start : Value) (blocks : List Value) (above : List (List Value)) :
    highest start (blocks :: above) =
      if (highest start above).isEmpty then listed start blocks else highest start above := rfl

theorem highest_eq_nil_iff {start : Value} :
    highest start layers = [] ↔ ∀ blocks ∈ layers, listed start blocks = [] := by
  induction layers with
  | nil => simp [highest]
  | cons blocks above ih =>
    rw [List.forall_mem_cons, ← ih, highest_cons]
    cases highest start above <;> simp

theorem getLast?_highest (start : Value) (blocks : List Value) (above : List (List Value)) :
    (highest start (blocks :: above)).getLast? =
      (highest start above).getLast?.or (listed start blocks).getLast? := by
  rw [highest_cons]
  cases highest start above with
  | nil => rfl
  | cons blockDef rest =>
    rw [if_neg (by simp), List.getLast?_cons]
    rfl

theorem selves_keyed {blocks : List Value}
    (keys : ∀ key ∈ starts blocks, key.sameKey key = true) :
    ∀ entry ∈ keyed blocks, entry.1.sameKey entry.1 = true := by
  intro entry member
  obtain ⟨here, start⟩ := mem_keyed.mp member
  exact keys _ (List.mem_filterMap.mpr ⟨_, here, start⟩)

/-- What the dict of one layer has for a start. -/
theorem latest_dict {blocks : List Value} (keys : ∀ key ∈ starts blocks, key.sameKey key = true)
    (start : Value) :
    latest Value.sameKey (overlay Value.sameKey [] (keyed blocks)) start =
      (listed start blocks).getLast? := by
  rw [latest_of_distinct sameKeys (distinct_overlay List.Pairwise.nil _),
    get_overlay sameKeys _ _ (selves_keyed keys), latest_keyed, get_nil, Option.or_none]

/-- **The merged dict** holds the last block that the highest layer lists for the start. -/
theorem get_foldl_update (keys : ∀ key ∈ starts layers.flatten, key.sameKey key = true)
    (below : Layer) (start : Value) :
    get Value.sameKey
        ((layers.map fun blocks => overlay Value.sameKey [] (keyed blocks)).foldl Layer.update below)
        start =
      (highest start layers).getLast?.or (get Value.sameKey below start) := by
  induction layers generalizing below with
  | nil => rfl
  | cons blocks above ih =>
    have split : starts (blocks :: above).flatten = starts blocks ++ starts above.flatten := by
      unfold starts
      rw [List.flatten_cons, List.filterMap_append]
    rw [split, List.forall_mem_append] at keys
    have selves : ∀ entry ∈ overlay Value.sameKey [] (keyed blocks),
        entry.1.sameKey entry.1 = true := by
      refine @forall_overlay _ _ _ (fun (key _ : Value) => key.sameKey key = true) ?_ _ _
        (List.forall_mem_nil _) (selves_keyed keys.1)
      intro key other _ same _
      exact sameKeys.trans same (sameKeys.symm same)
    rw [List.map_cons, List.foldl_cons, ih keys.2, getLast?_highest, Option.or_assoc,
      ← latest_dict keys.1]
    exact congrArg _ (get_overlay sameKeys below _ selves start)

theorem get_merged (keys : ∀ key ∈ starts layers.flatten, key.sameKey key = true)
    (start : Value) :
    get Value.sameKey (merged layers) start = (highest start layers).getLast? := by
  unfold merged
  rw [get_foldl_update keys, get_nil, Option.or_none]

/-- What holds of every definition under its start, and under every value that is the same key,
holds of every entry of the merged dict. -/
theorem forall_merged {holds : Value → Value → Prop}
    (moved : ∀ key other value, key.sameKey other = true → holds key value → holds other value)
    (each : ∀ blocks ∈ layers, ∀ entry ∈ keyed blocks, holds entry.1 entry.2) (below : Layer)
    (old : ∀ entry ∈ below, holds entry.1 entry.2) :
    ∀ entry ∈ (layers.map fun blocks => overlay Value.sameKey [] (keyed blocks)).foldl
      Layer.update below, holds entry.1 entry.2 := by
  have moved' : ∀ key other value, other.sameKey key = true → holds key value → holds other value :=
    fun key other value same => moved key other value (sameKeys.symm same)
  induction layers generalizing below with
  | nil => exact old
  | cons blocks above ih =>
    obtain ⟨here, others⟩ := List.forall_mem_cons.mp each
    exact ih others _ (forall_overlay moved' old
      (forall_overlay moved' (List.forall_mem_nil _) here))

/-- Every entry of the merged dict is a block of the layers, under its start. -/
theorem mem_merged (keys : ∀ key ∈ starts layers.flatten, key.sameKey key = true)
    {entry : Value × Value} (member : entry ∈ merged layers) :
    entry.2 ∈ layers.flatten ∧ ∃ key, startOf entry.2 = some key ∧ key.sameKey entry.1 = true := by
  refine @forall_merged layers
    (fun key value => value ∈ layers.flatten ∧
      ∃ start, startOf value = some start ∧ start.sameKey key = true) ?_ ?_ []
    (List.forall_mem_nil _) entry member
  · rintro key other value same ⟨here, start, starting, equal⟩
    exact ⟨here, start, starting, sameKeys.trans equal same⟩
  · intro blocks among entry member
    obtain ⟨here, start⟩ := mem_keyed.mp member
    have inLayers : entry.2 ∈ layers.flatten := List.mem_flatten.mpr ⟨blocks, among, here⟩
    exact ⟨inLayers, _, start, keys _ (List.mem_filterMap.mpr ⟨_, inLayers, start⟩)⟩

theorem distinct_merged (layers : List (List Value)) :
    Distinct Value.sameKey (merged layers) := by
  have each : ∀ (dicts : List Layer) (below : Layer), Distinct Value.sameKey below →
      Distinct Value.sameKey (dicts.foldl Layer.update below) := by
    intro dicts
    induction dicts with
    | nil => exact fun below distinct => distinct
    | cons above rest ih => exact fun below distinct => ih _ (distinct_overlay distinct above)
  exact each _ _ List.Pairwise.nil

/-- The key of an entry is a start of the layers. -/
theorem start_of_merged (keys : ∀ key ∈ starts layers.flatten, key.sameKey key = true)
    {entry : Value × Value} (member : entry ∈ merged layers) :
    ∃ key ∈ starts layers.flatten, key.sameKey entry.1 = true := by
  obtain ⟨here, key, start, same⟩ := mem_merged keys member
  exact ⟨key, List.mem_filterMap.mpr ⟨_, here, start⟩, same⟩

/-- Every start of the layers has an entry. -/
theorem merged_of_start (keys : ∀ key ∈ starts layers.flatten, key.sameKey key = true)
    {key : Value} (start : key ∈ starts layers.flatten) :
    ∃ entry ∈ merged layers, entry.1.sameKey key = true := by
  obtain ⟨blockDef, among, starting⟩ := List.mem_filterMap.mp start
  obtain ⟨blocks, isLayer, here⟩ := List.mem_flatten.mp among
  by_contra absent
  push Not at absent
  have nothing : get Value.sameKey (merged layers) key = none := by
    refine get_eq_none_iff.mpr fun entry member => ?_
    exact Bool.eq_false_iff.mpr (absent entry member)
  rw [get_merged keys, List.getLast?_eq_none_iff, highest_eq_nil_iff] at nothing
  have self : startsAt key blockDef = true := by
    unfold startsAt
    rw [starting]
    exact keys key start
  have unlisted := nothing blocks isLayer
  unfold listed at unlisted
  exact List.filter_eq_nil_iff.mp unlisted blockDef here self

/-- The blocks of the merged dict for a start: the last one of the highest layer. -/
theorem listed_merged (keys : ∀ key ∈ starts layers.flatten, key.sameKey key = true)
    (start : Value) :
    listed start ((merged layers).map Prod.snd) = (highest start layers).getLast?.toList := by
  have underKey : ∀ entry ∈ merged layers, startsAt start entry.2 = entry.1.sameKey start := by
    intro entry member
    obtain ⟨-, key, starting, same⟩ := mem_merged keys member
    unfold startsAt
    rw [starting]
    exact sameKeys.congr_left same start
  unfold listed
  rw [List.filter_map, ← get_merged keys, ← filter_of_distinct sameKeys (distinct_merged layers)]
  exact congrArg _ (List.filter_congr underKey)

end Merged

/-! ### The sorted starts -/

section Sorted

variable {κ : Type} {kind : Value → Option κ} {entries : Layer}

theorem sortedAs_isSome [LinearOrder κ] :
    (sortedAs kind entries).isSome ↔ ∀ entry ∈ entries, (kind entry.1).isSome := by
  unfold sortedAs
  split_ifs with all
  · simpa using all
  · simpa using all

theorem sortedAs_perm [LinearOrder κ] {blocks : List Value} (sorted : sortedAs kind entries = some blocks) :
    blocks.Perm (entries.map Prod.snd) := by
  unfold sortedAs at sorted
  split_ifs at sorted
  cases sorted
  exact (sortByKey_perm _ entries).map _

/-- The sorted definitions are those of the dict. -/
theorem sortedLayer_perm {blocks : List Value} (sorted : sortedLayer entries = .ok blocks) :
    blocks.Perm (entries.map Prod.snd) := by
  unfold sortedLayer at sorted
  split at sorted
  · cases sorted
    exact .nil
  · cases sorted
    exact .refl _
  · split at sorted
    · cases sorted
      rename_i found
      rcases Option.or_eq_some_iff.mp found with texts | ⟨-, others⟩
      · exact sortedAs_perm texts
      · rcases Option.or_eq_some_iff.mp others with numbers | ⟨-, dates⟩
        · exact sortedAs_perm numbers
        · exact sortedAs_perm dates
    · cases sorted

/-- The keys sort: there is one at most, or they are of one kind. -/
theorem sortedLayer_ok :
    (∃ blocks, sortedLayer entries = .ok blocks) ↔
      entries.length ≤ 1 ∨ (∀ entry ∈ entries, entry.1.keyText.isSome) ∨
        (∀ entry ∈ entries, entry.1.keyNumber.isSome) ∨
        (∀ entry ∈ entries, entry.1.keyDate.isSome) := by
  match entries with
  | [] => exact ⟨fun _ => .inl (Nat.zero_le 1), fun _ => ⟨[], rfl⟩⟩
  | [entry] => exact ⟨fun _ => .inl le_rfl, fun _ => ⟨[entry.2], rfl⟩⟩
  | first :: second :: rest =>
    have several : ¬(first :: second :: rest).length ≤ 1 := by simp
    rw [or_iff_right several, ← sortedAs_isSome, ← sortedAs_isSome, ← sortedAs_isSome,
      ← Bool.or_eq_true, ← Bool.or_eq_true, ← Option.isSome_or, ← Option.isSome_or]
    unfold sortedLayer
    dsimp only
    cases (sortedAs Value.keyText (first :: second :: rest)).or
        ((sortedAs Value.keyNumber (first :: second :: rest)).or
          (sortedAs Value.keyDate (first :: second :: rest))) with
    | none => simp
    | some blocks => simp

/-- What the kind of a key says of the starts, it says of the dict's keys. -/
theorem forall_merged_kind {layers : List (List Value)}
    (keys : ∀ key ∈ starts layers.flatten, key.sameKey key = true)
    (ofHash : ∀ a b : Value, a.hashKey = b.hashKey → kind a = kind b) :
    (∀ entry ∈ merged layers, (kind entry.1).isSome) ↔
      ∀ key ∈ starts layers.flatten, (kind key).isSome := by
  constructor
  · intro all key start
    obtain ⟨entry, member, same⟩ := merged_of_start keys start
    rw [← ofHash _ _ (hashKey_eq same)]
    exact all entry member
  · intro all entry member
    obtain ⟨key, start, same⟩ := start_of_merged keys member
    rw [← ofHash _ _ (hashKey_eq same)]
    exact all key start

/-- There is one key exactly when all starts are the same key. -/
theorem merged_length_le_one {layers : List (List Value)}
    (keys : ∀ key ∈ starts layers.flatten, key.sameKey key = true) :
    (merged layers).length ≤ 1 ↔
      ∀ key ∈ starts layers.flatten, ∀ other ∈ starts layers.flatten, key.sameKey other := by
  constructor
  · intro one key start other otherStart
    obtain ⟨entry, member, same⟩ := merged_of_start keys start
    obtain ⟨entry', member', same'⟩ := merged_of_start keys otherStart
    match whole : merged layers with
    | [] =>
      rw [whole] at member
      cases member
    | [only] =>
      rw [whole, List.mem_singleton] at member member'
      rw [member] at same
      rw [member'] at same'
      exact sameKeys.trans (sameKeys.symm same) same'
    | first :: second :: rest =>
      rw [whole] at one
      simp at one
  · intro all
    match whole : merged layers with
    | [] => exact Nat.zero_le 1
    | [only] => exact le_rfl
    | first :: second :: rest =>
      have distinct := distinct_merged layers
      rw [whole] at distinct
      have apart := (List.pairwise_cons.mp distinct).1 second List.mem_cons_self
      have firstIn : first ∈ merged layers := by
        rw [whole]
        exact List.mem_cons_self
      have secondIn : second ∈ merged layers := by
        rw [whole]
        exact List.mem_cons_of_mem _ List.mem_cons_self
      obtain ⟨key, start, same⟩ := start_of_merged keys firstIn
      obtain ⟨key', start', same'⟩ := start_of_merged keys secondIn
      have equal := sameKeys.trans (sameKeys.symm same)
        (sameKeys.trans (all key start key' start') same')
      rw [equal] at apart
      cases apart

/-- The merged dict sorts exactly when the starts do. -/
theorem startsSort_iff {layers : List (List Value)} :
    StartsSort (starts layers.flatten) ↔
      (∀ key ∈ starts layers.flatten, key.sameKey key = true) ∧
        ∃ blocks, sortedLayer (merged layers) = .ok blocks := by
  unfold StartsSort
  refine and_congr_right fun keys => ?_
  rw [sortedLayer_ok, merged_length_le_one keys,
    forall_merged_kind keys fun a b same => by unfold Value.keyText; rw [same],
    forall_merged_kind keys fun a b same => by unfold Value.keyNumber; rw [same],
    forall_merged_kind keys fun a b same => by unfold Value.keyDate; rw [same]]

end Sorted

/-! ### The layered day -/

section Day

/-- Sorted from the dict, the blocks are those of the highest layers where none of these lists two
blocks for one start. -/
theorem layered_iff {layers : List (List Value)}
    (keys : ∀ key ∈ starts layers.flatten, key.sameKey key = true) {blocks : List Value}
    (perm : blocks.Perm ((merged layers).map Prod.snd)) :
    Layered layers blocks ↔ ∀ start, (highest start layers).length ≤ 1 := by
  have lists : ∀ start, (listed start blocks).Perm (highest start layers).getLast?.toList := by
    intro start
    rw [← listed_merged keys]
    exact perm.filter _
  constructor
  · rintro ⟨-, all⟩ start
    rw [← all start, (lists start).length_eq]
    cases (highest start layers).getLast? <;> simp
  · intro single
    refine ⟨fun blockDef member => ?_, fun start => ?_⟩
    · obtain ⟨entry, among, rfl⟩ := List.mem_map.mp (perm.mem_iff.mp member)
      obtain ⟨-, key, starting, -⟩ := mem_merged keys among
      rw [starting]
      rfl
    · have alone := lists start
      have most := single start
      match top : highest start layers with
      | [] =>
        rw [top] at alone
        exact alone.eq_nil
      | [blockDef] =>
        rw [top] at alone
        exact alone.eq_singleton
      | first :: second :: rest =>
        rw [top] at most
        simp at most

/-- **The layered merge**: the day has, for every start, the blocks of the highest layer that has
it, exactly when the starts sort and no such layer lists two blocks for one start. -/
theorem resolveDaySchedule_layered_iff (schedule : Dict) (targetDate : Date) :
    (∃ blocks, resolveDaySchedule schedule targetDate = .ok blocks ∧
        Layered (layersOf schedule targetDate) blocks) ↔
      StartsSort (starts (layersOf schedule targetDate).flatten) ∧
        ∀ start, (highest start (layersOf schedule targetDate)).length ≤ 1 := by
  rw [startsSort_iff]
  constructor
  · rintro ⟨blocks, returned, layered⟩
    obtain ⟨keys, sorted⟩ := resolveDaySchedule_iff.mp returned
    exact ⟨⟨keys, blocks, sorted⟩, (layered_iff keys (sortedLayer_perm sorted)).mp layered⟩
  · rintro ⟨⟨keys, blocks, sorted⟩, single⟩
    exact ⟨blocks, resolveDaySchedule_iff.mpr ⟨keys, sorted⟩,
      (layered_iff keys (sortedLayer_perm sorted)).mpr single⟩

/-- Two films that both start at eight in the evening. -/
def sharedStart : Dict :=
  [("all_day", .list [.dict [("start", .str "20:00"), ("title", .str "first")],
    .dict [("start", .str "20:00"), ("title", .str "second")]])]

/-- The day has the second film only. -/
theorem sharedStart_loses_block :
    ¬∃ blocks, resolveDaySchedule sharedStart 0 = .ok blocks ∧
      Layered (layersOf sharedStart 0) blocks := by
  rintro ⟨blocks, returned, -, layered⟩
  have value : resolveDaySchedule sharedStart 0 =
      .ok [.dict [("start", .str "20:00"), ("title", .str "second")]] := rfl
  rw [value] at returned
  cases returned
  have both := congrArg List.length (layered (.str "20:00"))
  have one : (listed (.str "20:00")
      [.dict [("start", .str "20:00"), ("title", .str "second")]]).length = 1 := rfl
  have two : (highest (.str "20:00") (layersOf sharedStart 0)).length = 2 := rfl
  rw [one, two] at both
  cases both

end Day

end Retrovue.Core.Compiler
