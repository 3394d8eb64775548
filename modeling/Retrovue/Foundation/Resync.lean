/-
**Frames of a fixed width in a stream with garbage.**

* `frames`: the frames of a whole stream. Each begins at the first item that may begin one, after the
  frame before it;
* `scan`: the same in a buffer, with what is left of it for later;
* `frames_append`: scanning a buffer and going on with the rest and more input loses nothing;
* `scanChunks`, `scanChunks_frames`: a stream read in chunks gives its frames, however it is cut.
-/

import Mathlib

namespace Retrovue.Foundation.Resync

section Frames

variable {α : Type*} (sync : α → Bool) (width : ℕ)

/-- What is left from the first item on that may begin a frame. -/
def synced (stream : List α) : List α := stream.dropWhile fun a => !sync a

theorem length_synced_le (stream : List α) : (synced sync stream).length ≤ stream.length :=
  (List.dropWhile_sublist _).length_le

/-- The frames of a stream. -/
def frames (stream : List α) : List (List α) :=
  if 0 < width ∧ width ≤ (synced sync stream).length then
    (synced sync stream).take width :: frames ((synced sync stream).drop width)
  else []
termination_by stream.length
decreasing_by
  have := length_synced_le sync stream
  simp only [List.length_drop]
  omega

/-- The frames of a buffer, and what is left of it: all of it when no frame can begin in it. -/
def scan (buffer : List α) : List (List α) × List α :=
  if 0 < width ∧ width ≤ buffer.length then
    if synced sync buffer = [] then ([], buffer)
    else if (synced sync buffer).length < width then ([], synced sync buffer)
    else
      let later := scan ((synced sync buffer).drop width)
      ((synced sync buffer).take width :: later.1, later.2)
  else ([], buffer)
termination_by buffer.length
decreasing_by
  have := length_synced_le sync buffer
  simp only [List.length_drop]
  omega

variable {sync width}

theorem synced_append {buffer : List α} (some_ : synced sync buffer ≠ []) (more : List α) :
    synced sync (buffer ++ more) = synced sync buffer ++ more := by
  rw [synced, List.dropWhile_append, if_neg]
  · rfl
  · simpa [synced] using some_

theorem synced_synced (stream : List α) : synced sync (synced sync stream) = synced sync stream :=
  List.dropWhile_idempotent (fun a => !sync a) stream

theorem frames_of_short {stream : List α} (short : (synced sync stream).length < width) :
    frames sync width stream = [] := by
  rw [frames, if_neg (by omega)]

theorem frames_synced (stream : List α) :
    frames sync width (synced sync stream) = frames sync width stream := by
  rw [frames, synced_synced, ← frames]

/-- **Scanning loses nothing**: the frames of a buffer and more input are those found, and those of
what was left and the input. -/
theorem frames_append (buffer more : List α) :
    frames sync width (buffer ++ more) =
      (scan sync width buffer).1 ++ frames sync width ((scan sync width buffer).2 ++ more) := by
  induction buffer using scan.induct sync width with
  | case1 buffer long empty => rw [scan, if_pos long, if_pos empty, List.nil_append]
  | case2 buffer long some_ short =>
    rw [scan, if_pos long, if_neg some_, if_pos short, List.nil_append,
      ← frames_synced (buffer ++ more), synced_append some_]
  | case3 buffer long some_ enough ih =>
    rw [scan, if_pos long, if_neg some_, if_neg enough]
    dsimp only
    have fits : width ≤ (synced sync buffer).length := not_lt.mp enough
    rw [frames, synced_append some_, if_pos ⟨long.1, by rw [List.length_append]; omega⟩,
      List.take_append_of_le_length fits, List.drop_append_of_le_length fits, ih, List.cons_append]
  | case4 buffer short => rw [scan, if_neg short, List.nil_append]

/-- What is left of a buffer has no frame. -/
theorem frames_left (buffer : List α) : frames sync width (scan sync width buffer).2 = [] := by
  induction buffer using scan.induct sync width with
  | case1 buffer long empty =>
    rw [scan, if_pos long, if_pos empty]
    exact frames_of_short (by rw [empty]; exact long.1)
  | case2 buffer long some_ short =>
    rw [scan, if_pos long, if_neg some_, if_pos short]
    exact frames_of_short (by rw [synced_synced]; exact short)
  | case3 buffer long some_ enough ih =>
    rw [scan, if_pos long, if_neg some_, if_neg enough]
    exact ih
  | case4 buffer short =>
    have le := length_synced_le sync buffer
    rw [scan, if_neg short]
    dsimp only
    rw [frames, if_neg (by omega)]

end Frames

section Chunks

variable {α : Type*} (sync : α → Bool) (width : ℕ)

/-- The frames of some chunks, each scanned with what the ones before it left. -/
def scanChunks : List α → List (List α) → List (List α) × List α
  | left, [] => ([], left)
  | left, chunk :: rest =>
    let here := scan sync width (left ++ chunk)
    let later := scanChunks here.2 rest
    (here.1 ++ later.1, later.2)

variable {sync width}

/-- The frames of a stream read in chunks, from what was left before it. -/
theorem scanChunks_left (chunks : List (List α)) (left : List α)
    (none_left : frames sync width left = []) :
    (scanChunks sync width left chunks).1 = frames sync width (left ++ chunks.flatten) := by
  induction chunks generalizing left with
  | nil => rw [List.flatten_nil, List.append_nil, none_left, scanChunks]
  | cons chunk rest ih =>
    rw [List.flatten_cons, ← List.append_assoc, frames_append, scanChunks]
    dsimp only
    rw [ih _ (frames_left _)]

/-- **A stream gives its frames however it is cut into chunks.** -/
theorem scanChunks_frames (chunks : List (List α)) :
    (scanChunks sync width [] chunks).1 = frames sync width chunks.flatten := by
  have none_left : frames sync width ([] : List α) = [] := by
    rw [frames, if_neg]
    simp only [synced, List.dropWhile_nil, List.length_nil]
    omega
  rw [scanChunks_left chunks [] none_left, List.nil_append]

end Chunks

end Retrovue.Foundation.Resync
