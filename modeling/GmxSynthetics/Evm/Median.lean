import Mathlib.Data.Fintype.Card
import Mathlib.Order.Interval.Finset.Fin

/-!
# Medians of sorted values

A median stands in the middle of sorted values, so a minority of them cannot move it out of an
interval that holds the others.

* `mem_Icc_of_majority` — a value at or next to the middle lies where a strict majority lies;
* `average_mem_Icc` — and so does the average of two of them, rounded down;
* `card_filter_comp` — the majority may be counted by the owners of the values.
-/

namespace Evm.Median

open Finset

variable {α : Type} [LinearOrder α] {n : Nat} {values : Fin n → α} {a b : α}

/-- The values above a middle one are no strict majority. -/
theorem card_above_le {i : Fin n} (hhigh : n ≤ 2 * (i + 1)) {s : Finset (Fin n)}
    (hs : ∀ k ∈ s, i < k) : 2 * #s ≤ n := by
  have hsubset : s ⊆ Finset.Ioi i := by
    intro k hk
    exact Finset.mem_Ioi.mpr (hs k hk)
  have hcard := Finset.card_le_card hsubset
  rw [Fin.card_Ioi] at hcard
  omega

/-- The values below a middle one are no strict majority. -/
theorem card_below_le {i : Fin n} (hlow : 2 * i ≤ n) {s : Finset (Fin n)}
    (hs : ∀ k ∈ s, k < i) : 2 * #s ≤ n := by
  have hsubset : s ⊆ Finset.Iio i := by
    intro k hk
    exact Finset.mem_Iio.mpr (hs k hk)
  have hcard := Finset.card_le_card hsubset
  rw [Fin.card_Iio] at hcard
  omega

/-- A middle value lies in every interval that holds a strict majority of the values. -/
theorem mem_Icc_of_majority (hsorted : Monotone values) {i : Fin n} (hlow : 2 * i ≤ n)
    (hhigh : n ≤ 2 * (i + 1)) (hmajority : n < 2 * #{k | values k ∈ Set.Icc a b}) :
    values i ∈ Set.Icc a b := by
  constructor
  · by_contra hlt
    have hcard := card_above_le (s := {k | values k ∈ Set.Icc a b}) hhigh (by
      intro k hk
      have hmem := (Finset.mem_filter.mp hk).2
      by_contra hle
      exact hlt (hmem.1.trans (hsorted (not_lt.mp hle))))
    omega
  · by_contra hlt
    have hcard := card_below_le (s := {k | values k ∈ Set.Icc a b}) hlow (by
      intro k hk
      have hmem := (Finset.mem_filter.mp hk).2
      by_contra hle
      exact hlt ((hsorted (not_lt.mp hle)).trans hmem.2))
    omega

/-- A bijection from the owners to the values counts the same. -/
theorem card_filter_comp {σ : Fin n → Fin n} (hσ : Function.Bijective σ) (p : Fin n → Prop)
    [DecidablePred p] : #{j | p (σ j)} = #{k | p k} := by
  refine Finset.card_bijective σ hσ ?_
  intro j
  rw [Finset.mem_filter, Finset.mem_filter]
  simp

omit [LinearOrder α] in
theorem average_mem_Icc {a b x y : Nat} (hx : x ∈ Set.Icc a b) (hy : y ∈ Set.Icc a b) :
    (x + y) / 2 ∈ Set.Icc a b := by
  obtain ⟨hxa, hxb⟩ := hx
  obtain ⟨hya, hyb⟩ := hy
  constructor <;> omega

end Evm.Median
