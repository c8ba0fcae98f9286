import Mathlib.Algebra.BigOperators.Finprod
import Mathlib.Algebra.Order.BigOperators.Group.Finset

/-!
# Totals kept beside their parts

A contract that pays many accounts keeps the sum of what it owes in a variable of its own,
and moves it together with the amount of one account. Only finitely many accounts are owed
anything, so the sum is one over all of them.

* `Tally part total` — the total is the sum of the parts;
* `Tally.update` — one part and the total move by the same amount;
* `Tally.update_at`, `Tally.update_off` — the same where the parts are some of the values of a
  larger function;
* `Tally.le_total` — no part exceeds the total.
-/

namespace Evm

variable {ι M : Type}

/-- Finitely many parts are not zero, and the total is their sum. -/
structure Tally [AddCommMonoid M] (part : ι → M) (total : M) : Prop where
  finite : (Function.support part).Finite
  total_eq : total = ∑ᶠ i, part i

namespace Tally

/-- Nothing is owed to anybody. -/
theorem zero [AddCommMonoid M] : Tally (fun _ : ι => (0 : M)) 0 where
  finite := by
    rw [Function.support_fun_zero]
    exact Set.finite_empty
  total_eq := finsum_zero.symm

/-- A total that moves with one of its parts stays their sum. -/
theorem update [AddCommMonoid M] [IsCancelAdd M] [DecidableEq ι] {part : ι → M}
    {total total' : M} (h : Tally part total) (i : ι) {value : M}
    (hmove : total' + part i = total + value) : Tally (Function.update part i value) total' := by
  have hsubset : Function.support (Function.update part i value) ⊆
      ↑(insert i h.finite.toFinset) := by
    intro j hj
    rw [Function.mem_support, Function.update_apply] at hj
    rw [Finset.coe_insert, Set.Finite.coe_toFinset]
    by_cases hji : j = i
    · exact Set.mem_insert_iff.mpr (.inl hji)
    · rw [if_neg hji] at hj
      exact Set.mem_insert_of_mem _ hj
  constructor
  case finite => exact (Finset.finite_toSet _).subset hsubset
  case total_eq =>
    have hmem : i ∈ insert i h.finite.toFinset := Finset.mem_insert_self _ _
    have hpart : Function.support part ⊆ ↑(insert i h.finite.toFinset) := by
      rw [Finset.coe_insert, Set.Finite.coe_toFinset]
      exact Set.subset_insert _ _
    rw [finsum_eq_sum_of_support_subset _ hsubset, Finset.sum_update_of_mem hmem]
    have htotal := h.total_eq
    rw [finsum_eq_sum_of_support_subset _ hpart,
      Finset.sum_eq_add_sum_sdiff_singleton_of_mem hmem] at htotal
    apply add_right_cancel (b := part i)
    calc total' + part i = total + value := hmove
      _ = part i + ∑ j ∈ insert i h.finite.toFinset \ {i}, part j + value :=
        congrArg (· + value) htotal
      _ = value + ∑ j ∈ insert i h.finite.toFinset \ {i}, part j + part i := by
        rw [add_comm, add_comm (part i), ← add_assoc]

/-- The parts are the values of a function at the places `f`. -/
theorem update_at [AddCommMonoid M] [IsCancelAdd M] [DecidableEq ι] {κ : Type} [DecidableEq κ]
    {value : κ → M} {f : ι → κ} {total total' : M} (h : Tally (fun i => value (f i)) total)
    (hf : Function.Injective f) (i : ι) {new : M}
    (hmove : total' + value (f i) = total + new) :
    Tally (fun j => Function.update value (f i) new (f j)) total' := by
  have hpart : (fun j => Function.update value (f i) new (f j)) =
      Function.update (fun j => value (f j)) i new :=
    Function.update_comp_eq_of_injective value hf i new
  rw [hpart]
  exact h.update i hmove

/-- A value that is no part may change. -/
theorem update_off [AddCommMonoid M] {κ : Type} [DecidableEq κ] {value : κ → M} {f : ι → κ}
    {total : M} (h : Tally (fun i => value (f i)) total) {k : κ} {new : M} (hk : ∀ i, f i ≠ k) :
    Tally (fun j => Function.update value k new (f j)) total := by
  have hpart : (fun j => Function.update value k new (f j)) = fun j => value (f j) := by
    funext j
    exact Function.update_of_ne (hk j) _ _
  rw [hpart]
  exact h

/-- No part exceeds the total. -/
theorem le_total [AddCommMonoid M] [PartialOrder M] [CanonicallyOrderedAdd M]
    [IsOrderedAddMonoid M] {part : ι → M} {total : M} (h : Tally part total) (i : ι) :
    part i ≤ total := by
  rw [h.total_eq]
  exact single_le_finsum i h.finite fun j => zero_le

end Tally

end Evm
