import Mathlib.Tactic.Common

/-!
# Shares of a pool

The value of a pool is split into a supply of shares. A deposit is given new shares at the value
before it, a redemption is paid at the value after it, and both are rounded down. The two values
need not be measured alike: only their distance counts.

* `Fair` — shares that cost at least their part of the value, in one mint or in several;
* `redeem_le` — redeeming them pays no more than they cost, once the value has grown by no more
  than that;
* `split_le` — splitting a payout over two parts of a pool does not raise it.
-/

namespace Evm.Shares

/-- At the price of `value` for a supply of `supply`, the minted shares are worth at most what
was paid for them. -/
def Fair (value supply paid minted : Nat) : Prop := minted * value ≤ supply * paid

variable {value value' supply paid paid' minted minted' received cost : Nat}

/-- Shares that are rounded down are fair. Of a pool without value they are fair for nothing. -/
theorem Fair.floor (value supply paid : Nat) : Fair value supply paid (supply * paid / value) :=
  Nat.div_mul_le_self _ _

theorem Fair.of_worthless (supply paid minted : Nat) : Fair 0 supply paid minted := by
  show minted * 0 ≤ supply * paid
  rw [Nat.mul_zero]
  exact Nat.zero_le _

/-- Two fair mints at one price are one. -/
theorem Fair.add (h : Fair value supply paid minted) (h' : Fair value supply paid' minted') :
    Fair value supply (paid + paid') (minted + minted') := by
  show (minted + minted') * value ≤ supply * (paid + paid')
  rw [Nat.add_mul, Nat.mul_add]
  exact Nat.add_le_add h h'

/-- **No profit from a round trip.** Fair shares, redeemed alone after the value of the pool has
grown by no more than their cost, are paid no more than their cost. -/
theorem redeem_le (hfair : Fair value supply paid minted) (hgrown : value' ≤ value + received)
    (hpaid : paid ≤ cost) (hreceived : received ≤ cost) :
    minted * value' / (supply + minted) ≤ cost := by
  refine Nat.div_le_of_le_mul ?_
  calc minted * value' ≤ minted * (value + received) := Nat.mul_le_mul_left _ hgrown
    _ = minted * value + minted * received := Nat.mul_add _ _ _
    _ ≤ supply * paid + minted * received := Nat.add_le_add_right hfair _
    _ ≤ supply * cost + minted * cost :=
        Nat.add_le_add (Nat.mul_le_mul_left _ hpaid) (Nat.mul_le_mul_left _ hreceived)
    _ = (supply + minted) * cost := (Nat.add_mul _ _ _).symm

/-- Two parts of a payout, each rounded down, make up no more than the payout. -/
theorem split_le (payout part part' : Nat) :
    payout * part / (part + part') + payout * part' / (part + part') ≤ payout := by
  have hsum : payout * part + payout * part' = (part + part') * payout := by
    rw [← Nat.mul_add, Nat.mul_comm]
  exact Nat.le_trans Nat.div_add_div_le_add_div (Nat.div_le_of_le_mul (Nat.le_of_eq hsum))

end Evm.Shares
