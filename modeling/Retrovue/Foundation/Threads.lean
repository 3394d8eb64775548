/-
**Threads in a list.**

A system with threads that come keeps them in a list, each at its place, and a step moves one of them.

* `exists_split`: the place of a thread splits the list, also after the thread has moved;
  `mem_set_self`: the thread that has moved is there;
* `flatMap_set`, `flatMap_set_perm`, `any_set`, `filter_set`: what all threads hold, whether one has a
  property, and those that have it, when one has moved;
* `flatMap_set_of_eq`, `filter_set_of_neg`: a move that changes neither.
-/

import Mathlib

namespace Retrovue.Foundation.Threads

section Moves

variable {α β : Type*} {threads : List α} {place : ℕ} {thread : α}

/-- **The place of a thread** splits the list, and its moves leave the others. -/
theorem exists_split (here : threads[place]? = some thread) :
    ∃ before after, threads = before ++ thread :: after ∧
      ∀ moved, threads.set place moved = before ++ moved :: after := by
  obtain ⟨inside, isThread⟩ := List.getElem?_eq_some_iff.mp here
  refine ⟨threads.take place, threads.drop (place + 1), ?_, fun moved => ?_⟩
  · rw [← isThread, List.cons_getElem_drop_succ, List.take_append_drop]
  · rw [List.set_eq_take_append_cons_drop, if_pos inside]

/-- The thread that has moved is there. -/
theorem mem_set_self (here : threads[place]? = some thread) (moved : α) :
    moved ∈ threads.set place moved :=
  List.mem_set (List.getElem?_eq_some_iff.mp here).1 moved

/-- What all threads hold, when one has moved. -/
theorem flatMap_set (holds : α → List β) (here : threads[place]? = some thread) :
    ∃ before after, threads.flatMap holds = before ++ (holds thread ++ after) ∧
      ∀ moved, (threads.set place moved).flatMap holds = before ++ (holds moved ++ after) := by
  obtain ⟨before, after, split, sets⟩ := exists_split here
  refine ⟨before.flatMap holds, after.flatMap holds, ?_, fun moved => ?_⟩
  · rw [split, List.flatMap_append, List.flatMap_cons]
  · rw [sets, List.flatMap_append, List.flatMap_cons]

/-- What all threads hold in some order, what the moving one holds first. -/
theorem flatMap_set_perm (holds : α → List β) (here : threads[place]? = some thread) :
    ∃ rest, (threads.flatMap holds).Perm (holds thread ++ rest) ∧
      ∀ moved, ((threads.set place moved).flatMap holds).Perm (holds moved ++ rest) := by
  obtain ⟨before, after, split, sets⟩ := flatMap_set holds here
  refine ⟨before ++ after, ?_, fun moved => ?_⟩
  · rw [split]
    exact List.perm_append_comm_assoc _ _ _
  · rw [sets]
    exact List.perm_append_comm_assoc _ _ _

theorem flatMap_set_of_eq {holds : α → List β} (here : threads[place]? = some thread) {moved : α}
    (same : holds moved = holds thread) :
    (threads.set place moved).flatMap holds = threads.flatMap holds := by
  obtain ⟨before, after, isAll, sets⟩ := flatMap_set holds here
  rw [sets, same, isAll]

/-- Whether some thread has a property, when one has moved. -/
theorem any_set (p : α → Bool) (here : threads[place]? = some thread) :
    ∃ others, threads.any p = (p thread || others) ∧
      ∀ moved, (threads.set place moved).any p = (p moved || others) := by
  obtain ⟨before, after, split, sets⟩ := exists_split here
  refine ⟨before.any p || after.any p, ?_, fun moved => ?_⟩
  · rw [split, List.any_append, List.any_cons, Bool.or_left_comm]
  · rw [sets, List.any_append, List.any_cons, Bool.or_left_comm]

/-- The threads with a property, when one has moved. -/
theorem filter_set (p : α → Bool) (here : threads[place]? = some thread) :
    ∃ before after, threads.filter p = before ++ ([thread].filter p ++ after) ∧
      ∀ moved, (threads.set place moved).filter p = before ++ ([moved].filter p ++ after) := by
  obtain ⟨before, after, split, sets⟩ := exists_split here
  refine ⟨before.filter p, after.filter p, ?_, fun moved => ?_⟩
  · rw [split, List.filter_append, List.append_cancel_left_eq, ← List.singleton_append,
      List.filter_append]
  · rw [sets, List.filter_append, List.append_cancel_left_eq, ← List.singleton_append,
      List.filter_append]

/-- A thread without the property that moves to a place without it. -/
theorem filter_set_of_neg {p : α → Bool} (here : threads[place]? = some thread) {moved : α}
    (before : p thread = false) (after : p moved = false) :
    (threads.set place moved).filter p = threads.filter p := by
  obtain ⟨first, last, isAll, sets⟩ := filter_set p here
  rw [sets, isAll]
  simp [before, after]

/-- The only thread with the property has moved. -/
theorem filter_set_of_singleton {p : α → Bool} (here : threads[place]? = some thread)
    (has : p thread = true) {only : α} (alone : threads.filter p = [only]) (moved : α) :
    only = thread ∧ (threads.set place moved).filter p = [moved].filter p := by
  obtain ⟨first, last, isAll, sets⟩ := filter_set p here
  rw [alone, List.filter_cons_of_pos has, List.filter_nil] at isAll
  have lengths := congrArg List.length isAll
  simp only [List.length_append, List.length_cons, List.length_nil] at lengths
  have noneBefore : first = [] := List.length_eq_zero_iff.mp (by omega)
  have noneAfter : last = [] := List.length_eq_zero_iff.mp (by omega)
  subst noneBefore noneAfter
  rw [List.nil_append, List.append_nil, List.singleton_inj] at isAll
  exact ⟨isAll, by rw [sets, List.nil_append, List.append_nil]⟩

/-- Where no thread has the property, one that moves to have it is the only one. -/
theorem filter_set_of_nil {p : α → Bool} (here : threads[place]? = some thread)
    (none : threads.filter p = []) (moved : α) :
    (threads.set place moved).filter p = [moved].filter p := by
  obtain ⟨first, last, isAll, sets⟩ := filter_set p here
  rw [none, eq_comm, List.append_eq_nil_iff, List.append_eq_nil_iff] at isAll
  rw [sets, isAll.1, isAll.2.2, List.nil_append, List.append_nil]

end Moves

end Retrovue.Foundation.Threads
