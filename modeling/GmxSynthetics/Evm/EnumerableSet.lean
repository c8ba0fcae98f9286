import Mathlib.Tactic.Common
import Mathlib.Tactic.Abel
import Mathlib.Data.List.Nodup
import Mathlib.Algebra.BigOperators.Group.List.Basic

/-!
# Enumerable sets

The array behind `EnumerableSet`: `add` appends a value that is absent, `remove` moves
the last value into the freed slot and pops. The order of the array is therefore not
stable; what callers rely on is membership and sums over the values.

* `remove_perm_erase` — swap-and-pop is `List.erase` up to order;
* `sum_update` — an aggregate over the stored values when one value changes its weight;
* `sum_change` — the same when the value may also enter or leave, and absent values weigh
  nothing.
-/

namespace Evm.EnumerableSet

variable {α : Type} [DecidableEq α]

def add (values : List α) (value : α) : List α :=
  if value ∈ values then values else values ++ [value]

def remove (values : List α) (value : α) : List α :=
  match values.getLast? with
  | some lastValue =>
    if value ∈ values then (values.set (values.idxOf value) lastValue).dropLast else values
  | none => values

-- ---------------------------------------------------------------------------
-- Membership
-- ---------------------------------------------------------------------------

theorem mem_add {values : List α} {a b : α} : a ∈ add values b ↔ a ∈ values ∨ a = b := by
  unfold add
  split
  · rename_i h
    constructor
    · exact Or.inl
    · rintro (h' | rfl)
      · exact h'
      · exact h
  · simp

theorem nodup_add {values : List α} (h : values.Nodup) (a : α) : (add values a).Nodup := by
  unfold add
  split
  · exact h
  · rename_i ha
    rw [← List.concat_eq_append, List.nodup_concat]
    exact ⟨ha, h⟩

theorem remove_of_not_mem {values : List α} {a : α} (h : a ∉ values) :
    remove values a = values := by
  unfold remove
  split
  · rw [if_neg h]
  · rfl

theorem remove_perm_erase (values : List α) (a : α) : (remove values a).Perm (values.erase a) := by
  by_cases ha : a ∈ values
  · obtain ⟨l₁, l₂, hl₁, rfl, herase⟩ := List.exists_erase_eq ha
    rw [herase]
    have hidx : (l₁ ++ a :: l₂).idxOf a = l₁.length := by
      rw [List.idxOf_append_of_notMem hl₁, List.idxOf_cons_self, Nat.add_zero]
    rcases List.eq_nil_or_concat' l₂ with rfl | ⟨l₃, b, rfl⟩
    · simp [remove, hidx]
    · have hlast : (l₁ ++ a :: (l₃ ++ [b])).getLast? = some b := by
        rw [← List.cons_append, ← List.append_assoc, List.getLast?_concat]
      have hset : (l₁ ++ a :: (l₃ ++ [b])).set l₁.length b = (l₁ ++ b :: l₃) ++ [b] := by simp
      simp only [remove, hlast, if_pos ha, hidx, hset, List.dropLast_concat]
      have hmove : ([b] ++ l₃).Perm (l₃ ++ [b]) := List.perm_append_comm
      exact hmove.append_left l₁
  · rw [remove_of_not_mem ha, List.erase_of_not_mem ha]

theorem mem_remove {values : List α} (h : values.Nodup) {a b : α} :
    a ∈ remove values b ↔ a ∈ values ∧ a ≠ b := by
  rw [(remove_perm_erase values b).mem_iff, h.mem_erase_iff, and_comm]

theorem nodup_remove {values : List α} (h : values.Nodup) (a : α) : (remove values a).Nodup :=
  (remove_perm_erase values a).nodup_iff.mpr (h.erase a)

-- ---------------------------------------------------------------------------
-- Aggregates over the stored values
-- ---------------------------------------------------------------------------

variable {M : Type} [AddCommMonoid M]

omit [DecidableEq α] in
theorem sum_congr {values : List α} {f g : α → M} (h : ∀ x ∈ values, f x = g x) :
    (values.map f).sum = (values.map g).sum := by
  rw [List.map_congr_left h]

/-- Replacing the weight of one stored value. -/
theorem sum_update {values : List α} (hnodup : values.Nodup) {a : α} (h : a ∈ values) {f g : α → M}
    (hfg : ∀ x, x ≠ a → f x = g x) :
    (values.map g).sum + f a = (values.map f).sum + g a := by
  have hf := ((List.perm_cons_erase h).map f).sum_eq
  have hg := ((List.perm_cons_erase h).map g).sum_eq
  have hrest : ((values.erase a).map f).sum = ((values.erase a).map g).sum := by
    apply sum_congr
    intro x hx
    exact hfg x (hnodup.mem_erase_iff.mp hx).1
  rw [hf, hg, List.map_cons, List.map_cons, List.sum_cons, List.sum_cons, hrest]
  abel

/-- An aggregate is one weight and the aggregate over the others. -/
theorem sum_eq_add_erase (values : List α) {a : α} {f : α → M} (hf : a ∉ values → f a = 0) :
    (values.map f).sum = f a + ((values.erase a).map f).sum := by
  by_cases h : a ∈ values
  · rw [((List.perm_cons_erase h).map f).sum_eq, List.map_cons, List.sum_cons]
  · rw [hf h, zero_add, List.erase_of_not_mem h]

/-- When only one value enters, leaves or changes its weight, the aggregate moves by that value's
weight; a value that is absent weighs nothing. -/
theorem sum_change {values values' : List α} (hnodup : values.Nodup) (hnodup' : values'.Nodup)
    {a : α} (hmem : ∀ x, x ≠ a → (x ∈ values' ↔ x ∈ values)) {f g : α → M}
    (hfg : ∀ x ∈ values, x ≠ a → g x = f x) (hf : a ∉ values → f a = 0)
    (hg : a ∉ values' → g a = 0) : (values'.map g).sum + f a = (values.map f).sum + g a := by
  have hperm : (values'.erase a).Perm (values.erase a) := by
    rw [List.perm_ext_iff_of_nodup (hnodup'.erase a) (hnodup.erase a)]
    intro x
    rw [hnodup'.mem_erase_iff, hnodup.mem_erase_iff]
    constructor
    · rintro ⟨hx, hmem'⟩
      exact ⟨hx, (hmem x hx).mp hmem'⟩
    · rintro ⟨hx, hmem'⟩
      exact ⟨hx, (hmem x hx).mpr hmem'⟩
  have hrest : ((values'.erase a).map g).sum = ((values.erase a).map f).sum := by
    rw [(hperm.map g).sum_eq]
    apply sum_congr
    intro x hx
    obtain ⟨hne, hmem⟩ := hnodup.mem_erase_iff.mp hx
    exact hfg x hmem hne
  rw [sum_eq_add_erase values' hg, sum_eq_add_erase values hf, hrest]
  abel

end Evm.EnumerableSet
