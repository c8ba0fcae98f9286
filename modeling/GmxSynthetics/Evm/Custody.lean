import Mathlib.Algebra.Order.Group.Defs
import Mathlib.Tactic.Abel

/-!
# Custody

An account that holds assets for others, and the books of what it owes. Assets that come in raise
what is held, an entry in the books raises what is owed; the surplus is the difference.

* `Grows δ` — a step after which the surplus is larger by at least `δ`;
* `Grows.of_change` — what a step receives, and what it books;
* `Covered lent` — the account owes no more than it holds together with what it has lent out, and
  `Covered.grows` keeps it so.
-/

namespace Evm

/-- What an account holds, and what its books say it owes. -/
structure Custody (α : Type) where
  held : α
  owed : α

namespace Custody

variable {α : Type}

def surplus [Sub α] (c : Custody α) : α := c.held - c.owed

/-- From `c` to `c'` the surplus grows by at least `δ`. -/
def Grows [Sub α] [Add α] [LE α] (δ : α) (c c' : Custody α) : Prop := c.surplus + δ ≤ c'.surplus

/-- With what has been lent out, the account can pay all that it owes. -/
def Covered [Add α] [LE α] (lent : α) (c : Custody α) : Prop := c.owed ≤ c.held + lent

variable [AddCommGroup α] [PartialOrder α] {δ δ' lent lent' : α} {c c' c'' : Custody α}

theorem Grows.refl (c : Custody α) : Grows 0 c c := by
  unfold Grows
  rw [add_zero]

theorem Grows.mono [IsOrderedAddMonoid α] (h : Grows δ c c') (hle : δ' ≤ δ) : Grows δ' c c' :=
  (add_le_add (le_refl _) hle).trans h

theorem Grows.trans [IsOrderedAddMonoid α] (h : Grows δ c c') (h' : Grows δ' c' c'') :
    Grows (δ + δ') c c'' := by
  unfold Grows at *
  calc c.surplus + (δ + δ') = c.surplus + δ + δ' := (add_assoc _ _ _).symm
    _ ≤ c'.surplus + δ' := add_le_add h (le_refl _)
    _ ≤ c''.surplus := h'

/-- What is received and not booked is surplus. -/
theorem Grows.of_change [IsOrderedAddMonoid α] {received booked : α}
    (hheld : c.held + received ≤ c'.held) (howed : c'.owed = c.owed + booked) :
    Grows (received - booked) c c' := by
  unfold Grows surplus
  rw [howed]
  calc c.held - c.owed + (received - booked)
      = c.held + received - (c.owed + booked) := by abel
    _ ≤ c'.held - (c.owed + booked) := sub_le_sub_right hheld _

theorem covered_iff [IsOrderedAddMonoid α] : c.Covered lent ↔ 0 ≤ c.surplus + lent := by
  unfold Covered surplus
  rw [← sub_nonneg]
  constructor
  · intro h
    calc 0 ≤ c.held + lent - c.owed := h
      _ = c.held - c.owed + lent := by abel
  · intro h
    calc 0 ≤ c.held - c.owed + lent := h
      _ = c.held + lent - c.owed := by abel

/-- An account stays covered if it lends what a step costs it. -/
theorem Covered.grows [IsOrderedAddMonoid α] (h : c.Covered lent) (hgrows : Grows δ c c')
    (hlent : lent ≤ lent' + δ) : c'.Covered lent' := by
  rw [covered_iff] at h ⊢
  calc 0 ≤ c.surplus + lent := h
    _ ≤ c.surplus + (lent' + δ) := add_le_add (le_refl _) hlent
    _ = c.surplus + δ + lent' := by abel
    _ ≤ c'.surplus + lent' := add_le_add hgrows (le_refl _)

end Custody

end Evm
