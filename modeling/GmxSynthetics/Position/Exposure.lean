import GmxSynthetics.Position.Accounting
import Mathlib.Algebra.BigOperators.Group.Finset.Piecewise
import Mathlib.Algebra.BigOperators.Ring.Finset

/-!
# Exposure

What the open interest of all markets amounts to for one index token. Markets whose index
tokens have the same virtual id share one inventory, a signed number that every trade moves
by its size: down for longs and up for shorts.

* `Exposure.Balanced` — the inventory of an id is what the markets that share it are short
  of being balanced;
* `Exposure.Trade` — a position update, as it moves open interest and inventory;
* `Trade.balanced` — trades keep the balance of every id.
-/

namespace GmxSynthetics

/-- The part of the store that accounts for open interest and virtual inventory. -/
structure Exposure where
  markets : List Address
  market : Address → Market
  tokenId : Address → Nat
  openInterest : PositionGroup → Nat
  inventory : Nat → Int

namespace Exposure

variable (e : Exposure)

/-- The virtual id of a market's index token; zero when it has none. -/
def virtualId (market : Address) : Nat := e.tokenId (e.market market).indexToken

/-- The listed markets that share a virtual id. -/
def sharing (id : Nat) : Finset Address := e.markets.toFinset.filter fun m => e.virtualId m = id

/-- Open interest of a side over both collateral tokens. -/
def sideTotal (market : Address) (isLong : Bool) : Nat :=
  e.openInterest ⟨market, (e.market market).longToken, isLong⟩ +
    e.openInterest ⟨market, (e.market market).shortToken, isLong⟩

/-- Short less long open interest. -/
def imbalance (market : Address) : Int := e.sideTotal market false - e.sideTotal market true

/-- The inventory of an id is the imbalance of its markets. -/
def Balanced (id : Nat) : Prop := e.inventory id = ∑ m ∈ e.sharing id, e.imbalance m

/-- The side of an amount of open interest: longs take from the inventory, shorts add to it. -/
def signed (isLong : Bool) (delta : Int) : Int := if isLong then -delta else delta

/-- A position of the group grows or shrinks by an amount. -/
structure Trade (group : PositionGroup) (delta : Int) (e e' : Exposure) : Prop where
  markets : e'.markets = e.markets
  market : e'.market = e.market
  tokenId : e'.tokenId = e.tokenId
  listed : group.market ∈ e.markets
  isCollateral : group.collateralToken = (e.market group.market).longToken ∨
    group.collateralToken = (e.market group.market).shortToken
  openInterest : ∀ g, (e'.openInterest g : Int) = e.openInterest g + if g = group then delta else 0
  inventory : ∀ id ≠ 0, e'.inventory id =
    e.inventory id + if id = e.virtualId group.market then signed group.isLong delta else 0

namespace Trade

variable {e : Exposure} {e' : Exposure} {group : PositionGroup} {delta : Int}
  (h : Trade group delta e e')

include h

theorem virtualId : e'.virtualId = e.virtualId := by
  funext m
  unfold Exposure.virtualId
  rw [h.tokenId, h.market]

theorem sharing (id : Nat) : e'.sharing id = e.sharing id := by
  unfold Exposure.sharing
  rw [h.markets, h.virtualId]

/-- Only the side that is traded moves, as long as its two collateral tokens differ. -/
theorem sideTotal {market : Address}
    (hne : (e.market market).longToken ≠ (e.market market).shortToken) (isLong : Bool) :
    (e'.sideTotal market isLong : Int) = e.sideTotal market isLong +
      if market = group.market ∧ isLong = group.isLong then delta else 0 := by
  unfold Exposure.sideTotal
  rw [h.market]
  have hlong := h.openInterest ⟨market, (e.market market).longToken, isLong⟩
  have hshort := h.openInterest ⟨market, (e.market market).shortToken, isLong⟩
  obtain ⟨m, token, side⟩ := group
  simp only [PositionGroup.mk.injEq] at hlong hshort ⊢
  by_cases htraded : market = m ∧ isLong = side
  · obtain ⟨rfl, rfl⟩ := htraded
    have hcollateral : token = (e.market market).longToken ∨ token = (e.market market).shortToken :=
      h.isCollateral
    rcases hcollateral with htoken | htoken
    · simp only [true_and, and_true, if_true, htoken, hne.symm, if_false] at hlong hshort ⊢
      omega
    · simp only [true_and, and_true, if_true, htoken, hne, if_false] at hlong hshort ⊢
      omega
  · rw [if_neg fun hsame => htraded ⟨hsame.1, hsame.2.2⟩] at hlong hshort
    rw [if_neg htraded]
    omega

theorem imbalance {market : Address}
    (hne : (e.market market).longToken ≠ (e.market market).shortToken) :
    e'.imbalance market =
      e.imbalance market + if market = group.market then signed group.isLong delta else 0 := by
  unfold Exposure.imbalance
  rw [h.sideTotal hne, h.sideTotal hne]
  by_cases hmarket : market = group.market
  · simp only [hmarket, true_and, if_true, signed]
    cases group.isLong with
    | true =>
      simp only [Bool.false_eq_true, if_false, if_true]
      omega
    | false =>
      simp only [Bool.true_eq_false, Bool.false_eq_true, if_false, if_true]
      omega
  · simp only [hmarket, false_and, if_false, add_zero]

/-- **Trades keep the balance.** The inventory of an id moves with the imbalance of the one market
that is traded, when that market shares the id. -/
theorem balanced {id : Nat} (hid : id ≠ 0)
    (hne : ∀ m ∈ e.sharing id, (e.market m).longToken ≠ (e.market m).shortToken)
    (hbalanced : e.Balanced id) : e'.Balanced id := by
  have hshares : group.market ∈ e.sharing id ↔ id = e.virtualId group.market := by
    unfold Exposure.sharing
    rw [Finset.mem_filter, List.mem_toFinset]
    exact ⟨fun hmem => hmem.2.symm, fun hsame => ⟨h.listed, hsame.symm⟩⟩
  unfold Balanced
  calc e'.inventory id
      = e.inventory id + if id = e.virtualId group.market then signed group.isLong delta else 0 :=
        h.inventory id hid
    _ = (∑ m ∈ e.sharing id, e.imbalance m) +
          if id = e.virtualId group.market then signed group.isLong delta else 0 := by
        rw [hbalanced]
    _ = ∑ m ∈ e.sharing id, (e.imbalance m +
          if m = group.market then signed group.isLong delta else 0) := by
        rw [Finset.sum_add_distrib, Finset.sum_ite_eq' (e.sharing id) group.market]
        simp only [hshares]
    _ = ∑ m ∈ e'.sharing id, e'.imbalance m := by
        rw [h.sharing]
        exact Finset.sum_congr rfl fun m hm => (h.imbalance (hne m hm)).symm

end Trade

end Exposure

end GmxSynthetics
