/-
**Dictionaries in insertion order**, as lists of entries.

* `set`: an entry under a key that is there replaces its value in place, any other goes to the end;
* `get`, `get_set`: reading a key back;
* `Distinct`, `distinct_set`: no two entries have the same key;
* `overlay`: entries set one after the other over a dictionary; `get_overlay`: the last entry set
  under a key is the one that is read, else what was below;
* `filter_of_distinct`: in a dictionary a key selects one entry at most.

Two keys are the same when a Boolean relation says so: symmetric, transitive, and reflexive on the
keys that are set.
-/

import Mathlib

namespace Retrovue.Foundation.Overlay

section Entries

variable {κ ν : Type*} (same : κ → κ → Bool)

/-- The relation says when two keys are the same. -/
structure SameKeys : Prop where
  symm : ∀ {a b : κ}, same a b = true → same b a = true
  trans : ∀ {a b c : κ}, same a b = true → same b c = true → same a c = true

/-- `entries[key] = value`. -/
def set (entries : List (κ × ν)) (key : κ) (value : ν) : List (κ × ν) :=
  if entries.any fun entry => same entry.1 key then
    entries.map fun entry => if same entry.1 key then (entry.1, value) else entry
  else entries ++ [(key, value)]

/-- `entries.get(key)`. -/
def get (entries : List (κ × ν)) (key : κ) : Option ν :=
  (entries.find? fun entry => same entry.1 key).map Prod.snd

/-- No two entries have the same key. -/
def Distinct (entries : List (κ × ν)) : Prop :=
  entries.Pairwise fun a b => same a.1 b.1 = false

/-- Entries set one after the other. -/
def overlay (below above : List (κ × ν)) : List (κ × ν) :=
  above.foldl (fun merged entry => set same merged entry.1 entry.2) below

/-- The value of the last entry under a key. -/
def latest (entries : List (κ × ν)) (key : κ) : Option ν :=
  ((entries.filter fun entry => same entry.1 key).getLast?).map Prod.snd

variable {same}

/-- The same keys are the same as the same keys. -/
theorem SameKeys.congr_left (keys : SameKeys same) {a b : κ} (equal : same a b = true) (c : κ) :
    same a c = same b c := by
  rw [Bool.eq_iff_iff]
  exact ⟨keys.trans (keys.symm equal), keys.trans equal⟩

@[simp] theorem get_nil (key : κ) : get same ([] : List (κ × ν)) key = none := rfl

theorem get_cons (entry : κ × ν) (rest : List (κ × ν)) (key : κ) :
    get same (entry :: rest) key = if same entry.1 key then some entry.2 else get same rest key := by
  unfold get
  cases found : same entry.1 key with
  | true => rw [List.find?_cons_of_pos (by exact found)]; rfl
  | false => rw [List.find?_cons_of_neg (by simp [found])]; rfl

theorem get_append (first second : List (κ × ν)) (key : κ) :
    get same (first ++ second) key = (get same first key).or (get same second key) := by
  unfold get
  rw [List.find?_append]
  cases first.find? fun entry => same entry.1 key with
  | none => rfl
  | some entry => rfl

theorem get_eq_none_iff {entries : List (κ × ν)} {key : κ} :
    get same entries key = none ↔ ∀ entry ∈ entries, same entry.1 key = false := by
  unfold get
  simp

/-- Replacing the value under a key. -/
theorem get_map (keys : SameKeys same) (key : κ) (value : ν) (other : κ) :
    ∀ entries : List (κ × ν),
      get same (entries.map fun entry => if same entry.1 key then (entry.1, value) else entry) other =
        if same key other then (get same entries other).map fun _ => value
        else get same entries other
  | [] => by simp
  | entry :: rest => by
    rw [List.map_cons, get_cons, get_cons, get_map keys key value other rest]
    cases here : same entry.1 key with
    | true =>
      rw [if_pos rfl]
      dsimp only
      rw [keys.congr_left here other]
      cases same key other <;> rfl
    | false =>
      rw [if_neg Bool.false_ne_true]
      cases asked : same key other with
      | false => rfl
      | true =>
        have apart : same entry.1 other = false := by
          rw [← Bool.not_eq_true]
          intro equal
          rw [keys.trans equal (keys.symm asked)] at here
          cases here
        rw [apart]
        rfl

/-- **Reading a key after an entry was set.** -/
theorem get_set (keys : SameKeys same) (entries : List (κ × ν)) {key : κ}
    (_self : same key key = true) (value : ν) (other : κ) :
    get same (set same entries key value) other =
      if same key other then some value else get same entries other := by
  unfold set
  split_ifs with present asked asked
  · -- the key is there
    rw [get_map keys, if_pos asked]
    obtain ⟨entry, member, equal⟩ := List.any_eq_true.mp present
    cases found : get same entries other with
    | some old => rfl
    | none =>
      have apart := get_eq_none_iff.mp found entry member
      rw [keys.trans equal asked] at apart
      cases apart
  · rw [get_map keys, if_neg asked]
  · -- the key is new
    have absent : get same entries other = none := by
      refine get_eq_none_iff.mpr fun entry member => ?_
      rw [← Bool.not_eq_true]
      intro equal
      exact present (List.any_eq_true.mpr ⟨entry, member, keys.trans equal (keys.symm asked)⟩)
    rw [get_append, absent, get_cons, if_pos asked]
    rfl
  · rw [get_append, get_cons, if_neg asked, get_nil, Option.or_none]

/-- Setting an entry keeps the keys apart. -/
theorem distinct_set {entries : List (κ × ν)} (distinct : Distinct same entries) (key : κ)
    (value : ν) : Distinct same (set same entries key value) := by
  unfold set Distinct
  split_ifs with present
  · refine List.pairwise_map.mpr (distinct.imp fun {a b} apart => ?_)
    have keyKept : ∀ entry : κ × ν,
        (if same entry.1 key then (entry.1, value) else entry).1 = entry.1 := by
      intro entry
      split_ifs <;> rfl
    rw [keyKept, keyKept]
    exact apart
  · refine List.pairwise_append.mpr ⟨distinct, List.pairwise_singleton _ _, ?_⟩
    intro entry member new isNew
    rw [List.mem_singleton.mp isNew, ← Bool.not_eq_true]
    intro equal
    exact present (List.any_eq_true.mpr ⟨entry, member, equal⟩)

/-- What holds of every entry holds after one more is set. -/
theorem forall_set {holds : κ → ν → Prop} {entries : List (κ × ν)}
    (all : ∀ entry ∈ entries, holds entry.1 entry.2) {key : κ} {value : ν} (here : holds key value)
    (moved : ∀ other, same other key = true → holds other value) :
    ∀ entry ∈ set same entries key value, holds entry.1 entry.2 := by
  intro entry member
  unfold set at member
  split_ifs at member with present
  · obtain ⟨old, among, rfl⟩ := List.mem_map.mp member
    split_ifs with equal
    · exact moved _ equal
    · exact all old among
  · rcases List.mem_append.mp member with among | new
    · exact all entry among
    · rw [List.mem_singleton.mp new]
      exact here

theorem distinct_overlay {below : List (κ × ν)} (distinct : Distinct same below)
    (above : List (κ × ν)) : Distinct same (overlay same below above) := by
  induction above generalizing below with
  | nil => exact distinct
  | cons entry rest ih => exact ih (distinct_set distinct entry.1 entry.2)

theorem forall_overlay {holds : κ → ν → Prop}
    (moved : ∀ key other value, same other key = true → holds key value → holds other value)
    {below above : List (κ × ν)} (old : ∀ entry ∈ below, holds entry.1 entry.2)
    (new : ∀ entry ∈ above, holds entry.1 entry.2) :
    ∀ entry ∈ overlay same below above, holds entry.1 entry.2 := by
  induction above generalizing below with
  | nil => exact old
  | cons entry rest ih =>
    obtain ⟨here, later⟩ := List.forall_mem_cons.mp new
    exact ih (forall_set old here fun other equal => moved _ other _ equal here) later

theorem latest_cons (entry : κ × ν) (rest : List (κ × ν)) (key : κ) :
    latest same (entry :: rest) key =
      (latest same rest key).or (if same entry.1 key then some entry.2 else none) := by
  unfold latest
  cases found : same entry.1 key with
  | false =>
    rw [List.filter_cons_of_neg (by simp [found])]
    simp
  | true =>
    rw [List.filter_cons_of_pos (by exact found), List.getLast?_cons]
    cases (rest.filter fun entry => same entry.1 key).getLast? with
    | none => rfl
    | some last => rfl

/-- **Reading an overlay**: the last entry set under the key, else what was below. -/
theorem get_overlay (keys : SameKeys same) (below above : List (κ × ν))
    (selves : ∀ entry ∈ above, same entry.1 entry.1 = true) (key : κ) :
    get same (overlay same below above) key = (latest same above key).or (get same below key) := by
  induction above generalizing below with
  | nil => rfl
  | cons entry rest ih =>
    obtain ⟨self, others⟩ := List.forall_mem_cons.mp selves
    show get same (overlay same (set same below entry.1 entry.2) rest) key = _
    rw [ih _ others, get_set keys below self, latest_cons, Option.or_assoc]
    cases same entry.1 key <;> rfl

/-- In a dictionary a key selects one entry at most, the one that is read. -/
theorem filter_of_distinct (keys : SameKeys same) {entries : List (κ × ν)}
    (distinct : Distinct same entries) (key : κ) :
    (entries.filter fun entry => same entry.1 key).map Prod.snd = (get same entries key).toList := by
  induction entries with
  | nil => rfl
  | cons entry rest ih =>
    obtain ⟨apart, rest'⟩ := List.pairwise_cons.mp distinct
    rw [get_cons]
    cases found : same entry.1 key with
    | false =>
      rw [List.filter_cons_of_neg (by simp [found]), ih rest']
      rfl
    | true =>
      have none_ : (rest.filter fun other => same other.1 key) = [] := by
        refine List.filter_eq_nil_iff.mpr fun other member equal => ?_
        have distinctKeys := apart other member
        rw [keys.trans found (keys.symm equal)] at distinctKeys
        cases distinctKeys
      rw [List.filter_cons_of_pos (by exact found), none_]
      rfl

/-- In a dictionary the last entry under a key is the one that is read. -/
theorem latest_of_distinct (keys : SameKeys same) {entries : List (κ × ν)}
    (distinct : Distinct same entries) (key : κ) :
    latest same entries key = get same entries key := by
  have selected := filter_of_distinct keys distinct key
  unfold latest
  rw [← List.getLast?_map, selected]
  cases get same entries key <;> rfl

end Entries

end Retrovue.Foundation.Overlay
