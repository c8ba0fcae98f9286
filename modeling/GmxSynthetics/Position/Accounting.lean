import GmxSynthetics.Evm.Rounding
import GmxSynthetics.Market.Market
import GmxSynthetics.Position.Position
import Mathlib.Algebra.Order.BigOperators.Group.List
import Mathlib.Algebra.Order.Group.Nat

/-!
# What the aggregates account for

An abstract view of the positions of the protocol and of the aggregates that it keeps next to
them: open interest, open interest in tokens and collateral sum of each group of positions,
and the borrowing aggregate of each side of a market. Nothing here runs; the contracts are
shown to follow it elsewhere.

* `Accounting.Update` — what an increase or a decrease of one position does to all of them;
* `Accounting.Sound` — what the aggregates are the sums of: the open positions, and the sizes
  that removed positions have left behind;
* `Sound.update`, `Sound.step` — every update and every step keeps it.
-/

namespace GmxSynthetics

open Evm

-- ---------------------------------------------------------------------------
-- Groups of positions
-- ---------------------------------------------------------------------------

/-- The positions that share one entry of the open interest. -/
structure PositionGroup where
  market : Address
  collateralToken : Address
  isLong : Bool
  deriving DecidableEq, Repr

/-- The positions that share one cumulative borrowing factor. -/
structure MarketSide where
  market : Address
  isLong : Bool
  deriving DecidableEq, Repr

def PositionGroup.side (group : PositionGroup) : MarketSide := ⟨group.market, group.isLong⟩

/-- The key of an account's position in a group. -/
def PositionGroup.key (group : PositionGroup) (account : Address) : StoreKey :=
  PositionUtils.getPositionKey account group.market group.collateralToken group.isLong

theorem PositionGroup.key_inj {group group' : PositionGroup} {account account' : Address} :
    group.key account = group'.key account' ↔ group = group' ∧ account = account' := by
  cases group
  cases group'
  simp only [key, PositionUtils.getPositionKey, StoreKey.position.injEq, PositionGroup.mk.injEq]
  tauto

def Position.group (position : Position) : PositionGroup :=
  ⟨position.market, position.collateralToken, position.isLong⟩

/-- The contribution of a position to `totalBorrowing`. -/
def borrowed (sizeInUsd borrowingFactor : Nat) : Nat :=
  sizeInUsd * borrowingFactor / 10 ^ 30

/-- What a removed position has left in the aggregates of its group. -/
structure Residue where
  group : PositionGroup
  sizeInUsd : Nat
  borrowingFactor : Nat
  deriving DecidableEq, Repr

-- ---------------------------------------------------------------------------
-- The view
-- ---------------------------------------------------------------------------

/-- The open positions, the markets, and the aggregates. -/
structure Accounting where
  keys : List StoreKey
  position : StoreKey → Position
  market : Address → Market
  openInterest : PositionGroup → Nat
  openInterestInTokens : PositionGroup → Nat
  collateralSum : PositionGroup → Nat
  cumulativeBorrowingFactor : MarketSide → Nat
  totalBorrowing : MarketSide → Nat

namespace Accounting

/-- The open positions. -/
def positions (a : Accounting) : List Position := a.keys.map a.position

/-- A sum over the open positions with a property. -/
def sumOver (a : Accounting) (p : Position → Prop) [DecidablePred p] (f : Position → Nat) : Nat :=
  ((a.positions.filter (p ·)).map f).sum

/-- A market is listed under its own address and has the token as a collateral token. -/
def IsCollateral (a : Accounting) (group : PositionGroup) : Prop :=
  (a.market group.market).marketToken = group.market ∧ group.market ≠ 0 ∧
    (group.collateralToken = (a.market group.market).longToken ∨
      group.collateralToken = (a.market group.market).shortToken)

/-- One update of the position of an account in a group. The aggregates move from the size
before it to `nextSizeInUsd`, which is also the size of the position that is stored; a position
that is removed has no size, whatever `nextSizeInUsd` is. -/
structure Update (a a' : Accounting) (group : PositionGroup) (account : Address)
    (nextSizeInUsd : Nat) : Prop where
  account_ne : account ≠ 0
  isCollateral : a.IsCollateral group
  market : a'.market = a.market
  nodup : a.keys.Nodup → a'.keys.Nodup
  mem_keys : ∀ key ≠ group.key account, (key ∈ a'.keys ↔ key ∈ a.keys)
  position : ∀ key ∈ a.keys, key ≠ group.key account → a'.position key = a.position key
  absent : ∀ key ∉ a'.keys, a'.position key = Position.empty
  stored : group.key account ∈ a'.keys →
    (a'.position (group.key account)).group = group ∧
    (a'.position (group.key account)).account = account ∧
    (a'.position (group.key account)).sizeInUsd = nextSizeInUsd ∧
    (a'.position (group.key account)).borrowingFactor =
      a'.cumulativeBorrowingFactor group.side ∧
    0 < nextSizeInUsd ∧ 0 < (a'.position (group.key account)).sizeInTokens
  openInterest : ∀ g, a'.openInterest g +
      (if group = g then (a.position (group.key account)).sizeInUsd else 0) =
    a.openInterest g + if group = g then nextSizeInUsd else 0
  openInterestInTokens : ∀ g, a'.openInterestInTokens g +
      (if group = g then (a.position (group.key account)).sizeInTokens else 0) =
    a.openInterestInTokens g +
      if group = g then (a'.position (group.key account)).sizeInTokens else 0
  collateralSum : ∀ g, a'.collateralSum g +
      (if group = g then (a.position (group.key account)).collateralAmount else 0) =
    a.collateralSum g +
      if group = g then (a'.position (group.key account)).collateralAmount else 0
  cumulativeBorrowingFactor : ∀ side,
    a.cumulativeBorrowingFactor side ≤ a'.cumulativeBorrowingFactor side
  totalBorrowing : ∀ side, a'.totalBorrowing side +
      (if group.side = side then borrowed (a.position (group.key account)).sizeInUsd
        (a.position (group.key account)).borrowingFactor else 0) =
    a.totalBorrowing side +
      if group.side = side then borrowed nextSizeInUsd (a'.cumulativeBorrowingFactor side) else 0

/-- What the aggregates are the sums of. -/
structure Sound (a : Accounting) (residues : List Residue) : Prop where
  nodup : a.keys.Nodup
  absent : ∀ key ∉ a.keys, a.position key = Position.empty
  keyed : ∀ key ∈ a.keys, key = (a.position key).group.key (a.position key).account
  account_ne : ∀ key ∈ a.keys, (a.position key).account ≠ 0
  isCollateral : ∀ key ∈ a.keys, a.IsCollateral (a.position key).group
  sizeInUsd_pos : ∀ key ∈ a.keys, 0 < (a.position key).sizeInUsd
  sizeInTokens_pos : ∀ key ∈ a.keys, 0 < (a.position key).sizeInTokens
  borrowingFactor_le : ∀ key ∈ a.keys,
    (a.position key).borrowingFactor ≤ a.cumulativeBorrowingFactor (a.position key).group.side
  residue_isCollateral : ∀ residue ∈ residues, a.IsCollateral residue.group
  residue_le : ∀ residue ∈ residues,
    residue.borrowingFactor ≤ a.cumulativeBorrowingFactor residue.group.side
  openInterest : ∀ g, a.openInterest g = a.sumOver (·.group = g) (·.sizeInUsd) +
    (residues.map fun r => if r.group = g then r.sizeInUsd else 0).sum
  openInterestInTokens : ∀ g, a.openInterestInTokens g = a.sumOver (·.group = g) (·.sizeInTokens)
  collateralSum : ∀ g, a.collateralSum g = a.sumOver (·.group = g) (·.collateralAmount)
  totalBorrowing : ∀ side, a.totalBorrowing side =
    a.sumOver (·.group.side = side) (fun p => borrowed p.sizeInUsd p.borrowingFactor) +
      (residues.map fun r =>
        if r.group.side = side then borrowed r.sizeInUsd r.borrowingFactor else 0).sum

-- ---------------------------------------------------------------------------
-- Sums over the open positions
-- ---------------------------------------------------------------------------

/-- A sum over the open positions, with a weight for each key. -/
theorem sumOver_eq (a : Accounting) (p : Position → Prop) [DecidablePred p] (f : Position → Nat) :
    a.sumOver p f =
      (a.keys.map fun key => if p (a.position key) then f (a.position key) else 0).sum := by
  unfold sumOver positions
  induction a.keys with
  | nil => rfl
  | cons key keys ih =>
    by_cases hp : p (a.position key)
    · simp only [List.map_cons, List.filter_cons, hp, decide_true, if_true, List.sum_cons, ih]
    · simp only [List.map_cons, List.filter_cons, hp, decide_false, Bool.false_eq_true, if_false,
        List.sum_cons, ih, zero_add]

/-- A position is part of the sum. -/
theorem le_sumOver {a : Accounting} {p : Position → Prop} [DecidablePred p] (f : Position → Nat)
    {key : StoreKey} (hkey : key ∈ a.keys) (hp : p (a.position key)) :
    f (a.position key) ≤ a.sumOver p f := by
  have hmem : f (a.position key) ∈ (a.positions.filter (p ·)).map f := by
    refine List.mem_map_of_mem (List.mem_filter.mpr ⟨List.mem_map_of_mem hkey, ?_⟩)
    exact decide_eq_true hp
  exact List.single_le_sum (fun _ _ => Nat.zero_le _) _ hmem

section Update

variable {a a' : Accounting} {group : PositionGroup} {account : Address} {nextSizeInUsd : Nat}
  {residues : List Residue}

/-- The position that an update finds is one of the group, or none. -/
theorem Sound.position_cases (h : a.Sound residues) (group : PositionGroup) (account : Address) :
    a.position (group.key account) = Position.empty ∨
      (a.position (group.key account)).group = group := by
  by_cases hmem : group.key account ∈ a.keys
  · exact Or.inr (PositionGroup.key_inj.mp (h.keyed _ hmem)).1.symm
  · exact Or.inl (h.absent _ hmem)

/-- An update moves a sum over the open positions by the position that it updates. -/
theorem Update.sumOver (h : a.Update a' group account nextSizeInUsd) (hsound : a.Sound residues)
    (p : PositionGroup → Prop) [DecidablePred p] {f : Position → Nat}
    (hf : f Position.empty = 0) :
    a'.sumOver (fun q => p q.group) f +
        (if p group then f (a.position (group.key account)) else 0) =
      a.sumOver (fun q => p q.group) f +
        if p group then f (a'.position (group.key account)) else 0 := by
  have hweight : ∀ q : Position, q = Position.empty ∨ q.group = group →
      (if p q.group then f q else 0) = if p group then f q else 0 := by
    rintro q (rfl | hgroup)
    · simp only [hf, ite_self]
    · rw [hgroup]
  have hstored : a'.position (group.key account) = Position.empty ∨
      (a'.position (group.key account)).group = group := by
    by_cases hmem : group.key account ∈ a'.keys
    · exact Or.inr (h.stored hmem).1
    · exact Or.inl (h.absent _ hmem)
  have hchange := EnumerableSet.sum_change hsound.nodup (h.nodup hsound.nodup) h.mem_keys
    (f := fun key => if p (a.position key).group then f (a.position key) else 0)
    (g := fun key => if p (a'.position key).group then f (a'.position key) else 0)
    (fun key hmem hkey => by rw [h.position key hmem hkey])
    (fun hmem => by rw [hsound.absent _ hmem, hf, ite_self])
    (fun hmem => by rw [h.absent _ hmem, hf, ite_self])
  rw [hweight _ (hsound.position_cases group account), hweight _ hstored] at hchange
  rw [sumOver_eq, sumOver_eq]
  exact hchange

/-- What an update leaves behind: nothing when the position stays open. -/
def leftBehind (a' : Accounting) (group : PositionGroup) (account : Address)
    (nextSizeInUsd : Nat) : List Residue :=
  if group.key account ∈ a'.keys then []
  else [⟨group, nextSizeInUsd, a'.cumulativeBorrowingFactor group.side⟩]

/-- The stored size and what is left behind are the size that the aggregates count. -/
theorem Update.sum_leftBehind (h : a.Update a' group account nextSizeInUsd)
    (p : PositionGroup → Prop) [DecidablePred p] {f : Nat → Nat → Nat} (hf : ∀ n, f 0 n = 0) :
    (if p group then f (a'.position (group.key account)).sizeInUsd
        (a'.position (group.key account)).borrowingFactor else 0) +
      ((leftBehind a' group account nextSizeInUsd).map fun r =>
        if p r.group then f r.sizeInUsd r.borrowingFactor else 0).sum =
      if p group then f nextSizeInUsd (a'.cumulativeBorrowingFactor group.side) else 0 := by
  unfold leftBehind
  split_ifs with hp hmem hmem
  · obtain ⟨-, -, hsize, hfactor, -⟩ := h.stored hmem
    rw [hsize, hfactor, List.map_nil, List.sum_nil, add_zero]
  · rw [h.absent _ hmem]
    simp [Position.empty, hf, hp]
  · rfl
  · simp [hp]

/-- **Every update is accounted for.** -/
theorem Sound.update (hsound : a.Sound residues)
    (h : a.Update a' group account nextSizeInUsd) :
    a'.Sound (leftBehind a' group account nextSizeInUsd ++ residues) := by
  have hother : ∀ key ∈ a'.keys, key ≠ group.key account →
      key ∈ a.keys ∧ a'.position key = a.position key := by
    intro key hmem hkey
    have hkeys := (h.mem_keys key hkey).mp hmem
    exact ⟨hkeys, h.position key hkeys hkey⟩
  have hcollateral : ∀ g, a.IsCollateral g → a'.IsCollateral g := by
    intro g hg
    unfold IsCollateral at hg ⊢
    rwa [h.market]
  have hresidue : ∀ residue ∈ leftBehind a' group account nextSizeInUsd,
      residue = ⟨group, nextSizeInUsd, a'.cumulativeBorrowingFactor group.side⟩ := by
    intro residue hmem
    unfold leftBehind at hmem
    split_ifs at hmem
    · simp at hmem
    · exact List.mem_singleton.mp hmem
  constructor
  case nodup => exact h.nodup hsound.nodup
  case absent => exact h.absent
  case keyed =>
    intro key hmem
    by_cases hkey : key = group.key account
    · rw [hkey] at hmem ⊢
      obtain ⟨hgroup, haccount, -⟩ := h.stored hmem
      rw [hgroup, haccount]
    · obtain ⟨hkeys, hposition⟩ := hother key hmem hkey
      rw [hposition]
      exact hsound.keyed key hkeys
  case account_ne =>
    intro key hmem
    by_cases hkey : key = group.key account
    · rw [hkey] at hmem ⊢
      rw [(h.stored hmem).2.1]
      exact h.account_ne
    · obtain ⟨hkeys, hposition⟩ := hother key hmem hkey
      rw [hposition]
      exact hsound.account_ne key hkeys
  case isCollateral =>
    intro key hmem
    apply hcollateral
    by_cases hkey : key = group.key account
    · rw [hkey] at hmem ⊢
      rw [(h.stored hmem).1]
      exact h.isCollateral
    · obtain ⟨hkeys, hposition⟩ := hother key hmem hkey
      rw [hposition]
      exact hsound.isCollateral key hkeys
  case sizeInUsd_pos =>
    intro key hmem
    by_cases hkey : key = group.key account
    · rw [hkey] at hmem ⊢
      obtain ⟨-, -, hsize, -, hpos, -⟩ := h.stored hmem
      omega
    · obtain ⟨hkeys, hposition⟩ := hother key hmem hkey
      rw [hposition]
      exact hsound.sizeInUsd_pos key hkeys
  case sizeInTokens_pos =>
    intro key hmem
    by_cases hkey : key = group.key account
    · rw [hkey] at hmem ⊢
      exact (h.stored hmem).2.2.2.2.2
    · obtain ⟨hkeys, hposition⟩ := hother key hmem hkey
      rw [hposition]
      exact hsound.sizeInTokens_pos key hkeys
  case borrowingFactor_le =>
    intro key hmem
    by_cases hkey : key = group.key account
    · rw [hkey] at hmem ⊢
      obtain ⟨hgroup, -, -, hfactor, -⟩ := h.stored hmem
      rw [hgroup, hfactor]
    · obtain ⟨hkeys, hposition⟩ := hother key hmem hkey
      rw [hposition]
      exact (hsound.borrowingFactor_le key hkeys).trans (h.cumulativeBorrowingFactor _)
  case residue_isCollateral =>
    intro residue hmem
    apply hcollateral
    rcases List.mem_append.mp hmem with hmem | hmem
    · rw [hresidue residue hmem]
      exact h.isCollateral
    · exact hsound.residue_isCollateral residue hmem
  case residue_le =>
    intro residue hmem
    rcases List.mem_append.mp hmem with hmem | hmem
    · rw [hresidue residue hmem]
    · exact (hsound.residue_le residue hmem).trans (h.cumulativeBorrowingFactor _)
  case openInterest =>
    intro g
    have hmoved := h.openInterest g
    have hsum := h.sumOver hsound (· = g) (f := (·.sizeInUsd)) rfl
    have hleft := h.sum_leftBehind (· = g) (f := fun size _ => size) fun _ => rfl
    rw [List.map_append, List.sum_append]
    rw [hsound.openInterest g] at hmoved
    omega
  case openInterestInTokens =>
    intro g
    have hmoved := h.openInterestInTokens g
    have hsum := h.sumOver hsound (· = g) (f := (·.sizeInTokens)) rfl
    rw [hsound.openInterestInTokens g] at hmoved
    omega
  case collateralSum =>
    intro g
    have hmoved := h.collateralSum g
    have hsum := h.sumOver hsound (· = g) (f := (·.collateralAmount)) rfl
    rw [hsound.collateralSum g] at hmoved
    omega
  case totalBorrowing =>
    intro side
    have hmoved := h.totalBorrowing side
    have hsum := h.sumOver hsound (·.side = side)
      (f := fun p => borrowed p.sizeInUsd p.borrowingFactor) (by rfl)
    have hleft := h.sum_leftBehind (·.side = side) (f := borrowed)
      fun n => by simp [borrowed]
    rw [List.map_append, List.sum_append]
    rw [hsound.totalBorrowing side] at hmoved
    by_cases hside : group.side = side
    · subst hside
      simp only [if_true] at hmoved hsum hleft
      omega
    · simp only [hside, if_false] at hmoved hsum hleft
      omega

end Update

/-- A step of the view: nothing that is accounted for moves, or one position is updated. Only a
step that `leaves` size behind may remove a position before all of its size is closed. -/
inductive StepsTo (a a' : Accounting) (leaves : Prop) : Prop where
  | stays (h : a' = a)
  | updates {group : PositionGroup} {account : Address} {nextSizeInUsd : Nat}
      (h : a.Update a' group account nextSizeInUsd)
      (hleft : group.key account ∉ a'.keys → nextSizeInUsd = 0 ∨ leaves)

theorem StepsTo.mono {a a' : Accounting} {leaves leaves' : Prop} (h : a.StepsTo a' leaves)
    (hleaves : leaves → leaves') : a.StepsTo a' leaves' := by
  cases h with
  | stays h => exact .stays h
  | updates h hleft => exact .updates h fun hnone => (hleft hnone).imp_right hleaves

theorem Sound.step {a a' : Accounting} {residues : List Residue} {leaves : Prop}
    (hsound : a.Sound residues) (h : a.StepsTo a' leaves) :
    ∃ left, a'.Sound (left ++ residues) ∧ (¬ leaves → ∀ r ∈ left, r.sizeInUsd = 0) := by
  cases h with
  | stays h =>
    rw [h]
    exact ⟨[], hsound, fun _ r hr => absurd hr List.not_mem_nil⟩
  | @updates group account nextSizeInUsd h hleft =>
    refine ⟨_, hsound.update h, ?_⟩
    intro hleaves r hr
    unfold leftBehind at hr
    split_ifs at hr with hmem
    · exact absurd hr List.not_mem_nil
    · rw [List.mem_singleton.mp hr]
      exact (hleft hmem).resolve_right hleaves

/-- New markets touch nothing that is accounted for. -/
theorem Sound.extend {a a' : Accounting} {residues : List Residue} (hsound : a.Sound residues)
    (hmarket : ∀ key, key ≠ 0 → (a.market key).marketToken = key → a'.market key = a.market key)
    (h : a' = { a with market := a'.market }) : a'.Sound residues := by
  have hcollateral : ∀ g, a.IsCollateral g → a'.IsCollateral g := by
    intro g hg
    unfold IsCollateral at hg ⊢
    rwa [hmarket _ hg.2.1 hg.1]
  rw [h] at hcollateral ⊢
  exact { hsound with
    isCollateral := fun key hkey => hcollateral _ (hsound.isCollateral key hkey)
    residue_isCollateral := fun r hr => hcollateral _ (hsound.residue_isCollateral r hr) }

-- ---------------------------------------------------------------------------
-- Open interest and borrowing
-- ---------------------------------------------------------------------------

section Bounds

variable {a : Accounting} {residues : List Residue}

/-- Without residues the open interest is the sum of the open sizes. -/
theorem Sound.openInterest_eq (h : a.Sound residues) (hzero : ∀ r ∈ residues, r.sizeInUsd = 0)
    (g : PositionGroup) : a.openInterest g = a.sumOver (·.group = g) (·.sizeInUsd) := by
  have hnone : (residues.map fun r => if r.group = g then r.sizeInUsd else 0).sum = 0 := by
    apply List.sum_eq_zero
    intro x hx
    obtain ⟨r, hr, rfl⟩ := List.mem_map.mp hx
    rw [hzero r hr, ite_self]
  rw [h.openInterest g, hnone, add_zero]

/-- The sizes that the borrowing aggregate of a side has been charged for. -/
def chargedSize (a : Accounting) (residues : List Residue) (side : MarketSide) : Nat :=
  (a.keys.map fun key =>
    if (a.position key).group.side = side then (a.position key).sizeInUsd else 0).sum +
    (residues.map fun r => if r.group.side = side then r.sizeInUsd else 0).sum

/-- The borrowing aggregate of a side is covered by the charged sizes at any factor from the
cumulative one on. -/
theorem Sound.totalBorrowing_le (h : a.Sound residues) (side : MarketSide) {factor : Nat}
    (hfactor : a.cumulativeBorrowingFactor side ≤ factor) :
    a.totalBorrowing side ≤ a.chargedSize residues side * factor / 10 ^ 30 := by
  have hpositions := Rounding.sum_mul_div_le a.keys
    (fun key => if (a.position key).group.side = side then (a.position key).sizeInUsd else 0)
    (fun key => (a.position key).borrowingFactor) factor (10 ^ 30) (by
      intro key hkey
      split_ifs with hside
      · exact Nat.mul_le_mul_left _ ((hside ▸ h.borrowingFactor_le key hkey).trans hfactor)
      · simp)
  have hresidues := Rounding.sum_mul_div_le residues
    (fun r => if r.group.side = side then r.sizeInUsd else 0) (fun r => r.borrowingFactor)
    factor (10 ^ 30) (by
      intro r hr
      split_ifs with hside
      · exact Nat.mul_le_mul_left _ ((hside ▸ h.residue_le r hr).trans hfactor)
      · simp)
  have hweight : ∀ (p : Prop) [Decidable p] (size f : Nat),
      (if p then borrowed size f else 0) = (if p then size else 0) * f / 10 ^ 30 := by
    intro p _ size f
    split_ifs <;> simp [borrowed]
  rw [h.totalBorrowing side, sumOver_eq, chargedSize, Nat.add_mul]
  simp only [hweight]
  exact (Nat.add_le_add hpositions hresidues).trans Nat.div_add_div_le_add_div

/-- What a size counts for in the two groups of a side. -/
theorem group_add_group {g : PositionGroup} {market : Market} {side : MarketSide}
    (hlong : g.side = side → g.collateralToken = market.longToken ∨
      g.collateralToken = market.shortToken)
    (hmarket : market.longToken ≠ market.shortToken) (size : Nat) :
    (if g = ⟨side.market, market.longToken, side.isLong⟩ then size else 0) +
        (if g = ⟨side.market, market.shortToken, side.isLong⟩ then size else 0) =
      if g.side = side then size else 0 := by
  obtain ⟨m, c, l⟩ := g
  obtain ⟨m', l'⟩ := side
  simp only [PositionGroup.side, PositionGroup.mk.injEq, MarketSide.mk.injEq] at hlong ⊢
  by_cases hside : m = m' ∧ l = l'
  · obtain ⟨rfl, rfl⟩ := hside
    rcases hlong ⟨rfl, rfl⟩ with rfl | rfl
    · simp [hmarket]
    · simp [Ne.symm hmarket]
  · have hleft : ¬ (m = m' ∧ c = market.longToken ∧ l = l') := fun h => hside ⟨h.1, h.2.2⟩
    have hright : ¬ (m = m' ∧ c = market.shortToken ∧ l = l') := fun h => hside ⟨h.1, h.2.2⟩
    simp only [hside, hleft, hright, if_false]

/-- The open interest of a side counts the charged sizes. -/
theorem Sound.chargedSize_eq (h : a.Sound residues) (side : MarketSide)
    (hmarket : (a.market side.market).longToken ≠ (a.market side.market).shortToken) :
    a.chargedSize residues side =
      a.openInterest ⟨side.market, (a.market side.market).longToken, side.isLong⟩ +
        a.openInterest ⟨side.market, (a.market side.market).shortToken, side.isLong⟩ := by
  have hpositions : ∀ key ∈ a.keys, (a.position key).group.side = side →
      (a.position key).group.collateralToken = (a.market side.market).longToken ∨
        (a.position key).group.collateralToken = (a.market side.market).shortToken := by
    rintro key hkey rfl
    exact (h.isCollateral key hkey).2.2
  have hresidues : ∀ r ∈ residues, r.group.side = side →
      r.group.collateralToken = (a.market side.market).longToken ∨
        r.group.collateralToken = (a.market side.market).shortToken := by
    rintro r hr rfl
    exact (h.residue_isCollateral r hr).2.2
  rw [h.openInterest, h.openInterest, sumOver_eq, sumOver_eq, chargedSize,
    add_add_add_comm, ← List.sum_map_add, ← List.sum_map_add]
  congr 1
  · refine congrArg List.sum (List.map_congr_left fun key hkey => ?_)
    exact (group_add_group (hpositions key hkey) hmarket _).symm
  · refine congrArg List.sum (List.map_congr_left fun r hr => ?_)
    exact (group_add_group (hresidues r hr) hmarket _).symm

/-- The same in a market of one token, where the side has one group. -/
theorem Sound.chargedSize_eq_of_sameToken (h : a.Sound residues) (side : MarketSide)
    (hmarket : (a.market side.market).longToken = (a.market side.market).shortToken) :
    a.chargedSize residues side =
      a.openInterest ⟨side.market, (a.market side.market).longToken, side.isLong⟩ := by
  have hgroup : ∀ g : PositionGroup, a.IsCollateral g →
      (g.side = side ↔ g = ⟨side.market, (a.market side.market).longToken, side.isLong⟩) := by
    rintro ⟨m, c, l⟩ ⟨-, -, hcollateral⟩
    constructor
    · rintro rfl
      simp only [PositionGroup.side] at hmarket ⊢
      rw [← hmarket, or_self] at hcollateral
      rw [← hcollateral]
    · rintro hg
      obtain ⟨rfl, -, rfl⟩ := PositionGroup.mk.inj hg
      rfl
  rw [h.openInterest, sumOver_eq, chargedSize]
  congr 1
  · refine congrArg List.sum (List.map_congr_left fun key hkey => ?_)
    simp only [hgroup _ (h.isCollateral key hkey)]
  · refine congrArg List.sum (List.map_congr_left fun r hr => ?_)
    simp only [hgroup _ (h.residue_isCollateral r hr)]

end Bounds

end Accounting

end GmxSynthetics
