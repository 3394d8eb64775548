/-
**Splitting a whole into parts without losing a unit.**

* `shares`: quotient shares, the first ones one larger for the remainder; `lateShares`: the last ones;
* `sum_shares`, `sum_lateShares`: both add up to the whole;
* `gaps`, `sum_gaps`: the steps of a list of boundaries add up to its span.
-/

import Mathlib

namespace Retrovue.Foundation.Apportion

section Shares

/-- `parts` shares of `total`: the quotient, and one more for the first `total % parts`. -/
def shares (total : Int) (parts : Nat) : List Int :=
  (List.range parts).map fun i : Nat =>
    total / parts + if (i : Int) < total % parts then 1 else 0

/-- `parts` shares of `total`: the quotient, and one more for the last `total % parts`. -/
def lateShares (total : Int) (parts : Nat) : List Int :=
  (List.range parts).map fun i : Nat =>
    total / parts + if (parts : Int) - total % parts ≤ i then 1 else 0

@[simp] theorem length_shares (total : Int) (parts : Nat) : (shares total parts).length = parts := by
  simp [shares]

@[simp] theorem length_lateShares (total : Int) (parts : Nat) :
    (lateShares total parts).length = parts := by
  simp [lateShares]

theorem shares_nonneg {total : Int} (nonneg : 0 ≤ total) (parts : Nat) :
    ∀ share ∈ shares total parts, 0 ≤ share := by
  intro share member
  obtain ⟨i, -, rfl⟩ := List.mem_map.mp member
  have quotient : 0 ≤ total / parts := Int.ediv_nonneg nonneg (by omega)
  split <;> omega

/-- Shares with a bonus for some positions: the quotients and the number of bonuses. -/
theorem sum_bonus (quotient : Int) (bonus : Nat → Prop) [DecidablePred bonus] (parts : Nat) :
    ((List.range parts).map fun i => quotient + if bonus i then 1 else 0).sum =
      parts * quotient + ((List.range parts).countP fun i => decide (bonus i) : Nat) := by
  induction parts with
  | zero => simp
  | succ parts ih =>
    rw [List.range_succ, List.map_append, List.sum_append, ih, List.countP_append]
    by_cases paid : bonus parts
    · simp only [List.map_cons, List.map_nil, List.sum_cons, List.sum_nil, List.countP_singleton,
        paid, decide_true, if_true]
      push_cast
      ring
    · simp only [List.map_cons, List.map_nil, List.sum_cons, List.sum_nil, List.countP_singleton,
        paid, decide_false, if_false, Bool.false_eq_true]
      push_cast
      ring

theorem countP_range_lt (parts bound : Nat) (le : bound ≤ parts) :
    ((List.range parts).countP fun i => decide (i < bound)) = bound := by
  induction parts with
  | zero => simp; omega
  | succ parts ih =>
    rw [List.range_succ, List.countP_append, List.countP_singleton]
    rcases Nat.lt_or_ge parts bound with below | above
    · have full : bound = parts + 1 := by omega
      have all : (List.range parts).countP (fun i => decide (i < bound)) = parts := by
        rw [List.countP_eq_length.mpr, List.length_range]
        intro i member
        have small := List.mem_range.mp member
        simp only [decide_eq_true_eq]
        omega
      rw [all]
      simp [full]
    · rw [ih above]
      simp [Nat.not_lt.mpr above]

/-- **The shares add up to the whole.** -/
theorem sum_shares (total : Int) {parts : Nat} (some : 0 < parts) :
    (shares total parts).sum = total := by
  have rest := Int.emod_nonneg total (b := parts) (by omega)
  have small := Int.emod_lt_of_pos total (b := parts) (by omega)
  have whole := Int.mul_ediv_add_emod total parts
  unfold shares
  rw [sum_bonus]
  have counted : ((List.range parts).countP fun i : Nat => decide ((i : Int) < total % parts)) =
      (total % parts).toNat := by
    rw [← countP_range_lt parts (total % parts).toNat (by omega)]
    refine List.countP_congr fun i _ => ?_
    simp only [decide_eq_true_eq]
    omega
  rw [counted]
  omega

/-- **The late shares add up to the whole.** -/
theorem sum_lateShares (total : Int) {parts : Nat} (some : 0 < parts) :
    (lateShares total parts).sum = total := by
  have rest := Int.emod_nonneg total (b := parts) (by omega)
  have small := Int.emod_lt_of_pos total (b := parts) (by omega)
  have whole := Int.mul_ediv_add_emod total parts
  unfold lateShares
  rw [sum_bonus]
  have early := countP_range_lt parts (parts - (total % parts).toNat) (by omega)
  have split := List.length_eq_countP_add_countP
    (fun i => decide (i < parts - (total % parts).toNat)) (l := List.range parts)
  have counted : ((List.range parts).countP fun i : Nat =>
      decide ((parts : Int) - total % parts ≤ i)) = (total % parts).toNat := by
    have same : ((List.range parts).countP fun i : Nat =>
        decide ((parts : Int) - total % parts ≤ i)) =
        (List.range parts).countP fun i =>
          decide (¬ (decide (i < parts - (total % parts).toNat) = true)) := by
      refine List.countP_congr fun i _ => ?_
      simp only [decide_eq_true_eq]
      omega
    rw [same]
    rw [List.length_range, early] at split
    omega
  rw [counted]
  omega

end Shares

section Gaps

/-- The steps between consecutive boundaries. -/
def gaps : List Int → List Int
  | [] => []
  | [_] => []
  | a :: b :: rest => (b - a) :: gaps (b :: rest)

/-- **The steps add up to the span.** -/
theorem sum_gaps : ∀ (a : Int) (rest : List Int),
    (gaps (a :: rest)).sum = (a :: rest).getLast (List.cons_ne_nil a rest) - a
  | a, [] => by simp [gaps]
  | a, b :: rest => by
    rw [gaps, List.sum_cons, sum_gaps b rest, List.getLast_cons (List.cons_ne_nil b rest)]
    ring

end Gaps

end Retrovue.Foundation.Apportion
