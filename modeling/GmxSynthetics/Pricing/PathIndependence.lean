import GmxSynthetics.Evm.PathCost
import GmxSynthetics.Pricing.ImpactRoundTrip

/-!
# Price impact of a trade in parts

A trade that is split into parts pays the impact of each part from the balance that the part
before it leaves. While the trade goes one way, the imbalance is valued at the positive factor as
long as it shrinks and at the negative factor once it grows, so every part pays what this value
loses, and the parts pay together what the whole trade pays.

* `Impact.potential_isPotential` — the value of the imbalance is a potential of the impact;
* `PositionPricingUtils.tradePriceImpactUsd`, `splitPriceImpactUsd` — a trade on one side of the
  open interest at once, and in parts;
* `SwapPricingUtils.poolPriceImpactUsd` — a move of the pool values;
* `priceImpact_pathIndependent` — the split does not matter.
-/

namespace GmxSynthetics

open Evm MarketUtils PositionPricingUtils

variable {env : Env}

-- ---------------------------------------------------------------------------
-- The value of the imbalance
-- ---------------------------------------------------------------------------

namespace Impact

/-- The two sides of a balance move from one pair of values to another. -/
def update (s t : Nat × Nat) : OpenInterestParams where
  longOpenInterest := s.1
  shortOpenInterest := s.2
  nextLongOpenInterest := t.1
  nextShortOpenInterest := t.2

/-- The first side gains on the second, or loses. -/
def Moves (isRising : Bool) (s t : Nat × Nat) : Prop :=
  if isRising then s.1 + t.2 ≤ t.1 + s.2 else t.1 + s.2 ≤ s.1 + t.2

instance (isRising : Bool) : IsPreorder (Nat × Nat) (Moves isRising) where
  refl s := by
    unfold Moves
    split <;> exact le_refl _
  trans s t u hst htu := by
    unfold Moves at *
    cases isRising with
    | true =>
      simp only [if_true] at *
      omega
    | false =>
      simp only [Bool.false_eq_true, if_false] at *
      omega

/-- The factor of a balance on the way: the positive one while the trade helps it. -/
def movingFactor (isRising : Bool) (factors : Nat × Nat) (s : Nat × Nat) : Nat :=
  if decide (s.1 ≤ s.2) = isRising then factors.1 else factors.2

/-- The value of the imbalance on the way. -/
def potential (env : Env) (isRising : Bool) (factors : Nat × Nat) (impactExponentFactor : Nat)
    (s : Nat × Nat) : Result Int := do
  let exponentValue ←
    Precision.applyExponentFactor env (Calc.diff s.1 s.2) impactExponentFactor
  pure (value exponentValue (movingFactor isRising factors s))

theorem movingFactor_of_helps {isRising : Bool} {factors s : Nat × Nat}
    (h : decide (s.1 ≤ s.2) = isRising) : movingFactor isRising factors s = factors.1 := if_pos h

theorem movingFactor_of_not_helps {isRising : Bool} {factors s : Nat × Nat}
    (h : decide (s.1 ≤ s.2) ≠ isRising) : movingFactor isRising factors s = factors.2 := if_neg h

/-- A trade that crosses over helps the balance before it, and not the one after it. -/
theorem helps_of_crossover {isRising : Bool} {s t : Nat × Nat} (hmoves : Moves isRising s t)
    (hcross : decide (s.1 ≤ s.2) ≠ decide (t.1 ≤ t.2)) : decide (s.1 ≤ s.2) = isRising := by
  unfold Moves at hmoves
  cases isRising with
  | true =>
    rw [if_pos rfl] at hmoves
    by_contra hnot
    have hs : ¬ s.1 ≤ s.2 := by simpa using hnot
    have ht : ¬ t.1 ≤ t.2 := by omega
    exact hcross (by rw [decide_eq_false hs, decide_eq_false ht])
  | false =>
    rw [if_neg Bool.false_ne_true] at hmoves
    by_contra hnot
    have hs : s.1 ≤ s.2 := by simpa using hnot
    have ht : t.1 ≤ t.2 := by omega
    exact hcross (by rw [decide_eq_true hs, decide_eq_true ht])

/-- A trade that stays on its side shrinks the imbalance if it helps, and else it does not. -/
theorem diff_le_of_sameSide {isRising : Bool} {s t : Nat × Nat} (hmoves : Moves isRising s t)
    (hsame : decide (s.1 ≤ s.2) = decide (t.1 ≤ t.2)) :
    if decide (s.1 ≤ s.2) = isRising then Calc.diff t.1 t.2 ≤ Calc.diff s.1 s.2
    else Calc.diff s.1 s.2 ≤ Calc.diff t.1 t.2 := by
  have hiff : s.1 ≤ s.2 ↔ t.1 ≤ t.2 := decide_eq_decide.mp hsame
  unfold Moves at hmoves
  unfold Calc.diff
  cases isRising with
  | true =>
    rw [if_pos rfl] at hmoves
    by_cases hs : s.1 ≤ s.2
    · rw [if_pos (decide_eq_true hs), if_neg (by omega), if_neg (by omega)]
      omega
    · rw [if_neg (by simpa using hs), if_pos (by omega), if_pos (by omega)]
      omega
  | false =>
    rw [if_neg Bool.false_ne_true] at hmoves
    by_cases hs : s.1 ≤ s.2
    · rw [if_neg (by simpa using hs), if_neg (by omega), if_neg (by omega)]
      omega
    · rw [if_pos (decide_eq_false hs), if_pos (by omega), if_pos (by omega)]
      omega

/-- An update on the way values the balance as the way does, before it and after it. -/
theorem value_impactFactors {isRising : Bool} {s t : Nat × Nat} {factors : Nat × Nat} {x y : Nat}
    (hmoves : Moves isRising s t) (hequal : Calc.diff s.1 s.2 = Calc.diff t.1 t.2 → x = y) :
    (value x (impactFactors factors (update s t)).1 : Int) -
        value y (impactFactors factors (update s t)).2 =
      value x (movingFactor isRising factors s) - value y (movingFactor isRising factors t) := by
  show (value x (if (decide (s.1 ≤ s.2) == decide (t.1 ≤ t.2)) = true then
      if Calc.diff t.1 t.2 < Calc.diff s.1 s.2 then (factors.1, factors.1)
      else (factors.2, factors.2) else factors).1 : Int) -
    value y (if (decide (s.1 ≤ s.2) == decide (t.1 ≤ t.2)) = true then
      if Calc.diff t.1 t.2 < Calc.diff s.1 s.2 then (factors.1, factors.1)
      else (factors.2, factors.2) else factors).2 = _
  by_cases hsame : decide (s.1 ≤ s.2) = decide (t.1 ≤ t.2)
  · rw [if_pos (beq_iff_eq.mpr hsame)]
    have hdiff := diff_le_of_sameSide hmoves hsame
    by_cases hhelps : decide (s.1 ≤ s.2) = isRising
    · rw [if_pos hhelps] at hdiff
      rw [movingFactor_of_helps hhelps, movingFactor_of_helps (hsame ▸ hhelps)]
      by_cases hless : Calc.diff t.1 t.2 < Calc.diff s.1 s.2
      · rw [if_pos hless]
      -- nothing has moved
      · obtain rfl := hequal (by omega)
        rw [if_neg hless, sub_self, sub_self]
    · rw [if_neg hhelps] at hdiff
      rw [movingFactor_of_not_helps hhelps, movingFactor_of_not_helps (hsame ▸ hhelps),
        if_neg (not_lt.mpr hdiff)]
  · rw [if_neg (by rwa [beq_iff_eq])]
    have hhelps := helps_of_crossover hmoves hsame
    rw [movingFactor_of_helps hhelps,
      movingFactor_of_not_helps (fun h => hsame (hhelps.trans h.symm))]

/-- **The value of the imbalance is a potential.** Along a way that does not turn, an update pays
what the value loses. -/
theorem potential_isPotential (hpow : env.PowMonotone) (isRising : Bool) (factors : Nat × Nat)
    (impactExponentFactor : Nat) :
    IsPotential (Moves isRising)
      (fun s t => updatePriceImpactUsd env factors impactExponentFactor (update s t))
      (potential env isRising factors impactExponentFactor) where
  step {s t c} hmoves h := by
    obtain ⟨x, y, hx, hy, rfl⟩ := updatePriceImpactUsd_eq_ok hpow h
    have hequal : Calc.diff s.1 s.2 = Calc.diff t.1 t.2 → x = y := by
      intro hdiff
      have hx' : Precision.applyExponentFactor env (Calc.diff s.1 s.2) impactExponentFactor =
        .ok x := hx
      rw [hdiff] at hx'
      exact Except.ok.inj (hx'.symm.trans hy)
    refine ⟨value x (movingFactor isRising factors s), value y (movingFactor isRising factors t),
      ?_, ?_, value_impactFactors hmoves hequal⟩
    · exact Result.bind_eq_ok.mpr ⟨x, hx, rfl⟩
    · exact Result.bind_eq_ok.mpr ⟨y, hy, rfl⟩

end Impact

-- ---------------------------------------------------------------------------
-- Open interest
-- ---------------------------------------------------------------------------

namespace PositionPricingUtils

variable (env) (dataStore : DataStore) (market : Market) (isLong : Bool)

/-- The impact of a trade on one side, from a long and a short open interest. -/
def tradePriceImpactUsd (openInterest : Nat × Nat) (usdDelta : Int) : Result Int := do
  let openInterestParams ←
    getNextOpenInterestParams { market, usdDelta, isLong } openInterest.1 openInterest.2
  _getPriceImpactUsd env dataStore market.marketToken openInterestParams

/-- The impacts of the parts of a trade, each from the open interest that the part before it
leaves, added up. -/
def splitPriceImpactUsd : Nat × Nat → List Int → Result Int
  | _, [] => pure 0
  | openInterest, usdDelta :: usdDeltas => do
    let openInterestParams ←
      getNextOpenInterestParams { market, usdDelta, isLong } openInterest.1 openInterest.2
    let first ← _getPriceImpactUsd env dataStore market.marketToken openInterestParams
    let rest ← splitPriceImpactUsd
      (openInterestParams.nextLongOpenInterest, openInterestParams.nextShortOpenInterest)
      usdDeltas
    pure (first + rest)

/-- The impact between two open interests. -/
def openInterestPriceImpactUsd (s t : Nat × Nat) : Result Int :=
  _getPriceImpactUsd env dataStore market.marketToken (Impact.update s t)

/-- What a trade makes of the open interest. -/
def IsTraded (usdDelta : Int) (s t : Nat × Nat) : Prop :=
  (t.1 : Int) = s.1 + (if isLong then usdDelta else 0) ∧
    (t.2 : Int) = s.2 + (if isLong then 0 else usdDelta)

variable {env dataStore market isLong}

/-- A trade is an update to what it makes of the open interest. -/
theorem getNextOpenInterestParams_eq_update {usdDelta : Int} {s : Nat × Nat}
    {p : OpenInterestParams}
    (h : getNextOpenInterestParams { market, usdDelta, isLong } s.1 s.2 = .ok p) :
    ∃ t, p = Impact.update s t ∧ IsTraded isLong usdDelta s t := by
  obtain ⟨hlong, hshort, hnextLong, hnextShort⟩ := getNextOpenInterestParams_eq_ok h
  obtain ⟨longOpenInterest, shortOpenInterest, nextLongOpenInterest, nextShortOpenInterest⟩ := p
  dsimp only at hlong hshort hnextLong hnextShort
  rw [hlong, hshort]
  exact ⟨(nextLongOpenInterest, nextShortOpenInterest), rfl, hnextLong, hnextShort⟩

theorem IsTraded.trans {usdDelta usdDelta' : Int} {s t u : Nat × Nat}
    (h : IsTraded isLong usdDelta s t) (h' : IsTraded isLong usdDelta' t u) :
    IsTraded isLong (usdDelta + usdDelta') s u := by
  obtain ⟨hlong, hshort⟩ := h
  obtain ⟨hlong', hshort'⟩ := h'
  unfold IsTraded
  cases isLong with
  | true =>
    simp only [if_true] at *
    omega
  | false =>
    simp only [Bool.false_eq_true, if_false] at *
    omega

theorem IsTraded.unique {usdDelta : Int} {s t t' : Nat × Nat} (h : IsTraded isLong usdDelta s t)
    (h' : IsTraded isLong usdDelta s t') : t = t' := by
  obtain ⟨hlong, hshort⟩ := h
  obtain ⟨hlong', hshort'⟩ := h'
  ext
  · omega
  · omega

/-- An increase of the long side and a decrease of the short side go the same way. -/
theorem IsTraded.moves {usdDelta : Int} {isIncrease : Bool} {s t : Nat × Nat}
    (hsign : if isIncrease then 0 ≤ usdDelta else usdDelta ≤ 0)
    (h : IsTraded isLong usdDelta s t) : Impact.Moves (isLong == isIncrease) s t := by
  obtain ⟨hlong, hshort⟩ := h
  cases isLong with
  | true =>
    simp only [if_true] at hlong hshort
    cases isIncrease with
    | true =>
      rw [if_pos rfl] at hsign
      show s.1 + t.2 ≤ t.1 + s.2
      omega
    | false =>
      rw [if_neg Bool.false_ne_true] at hsign
      show t.1 + s.2 ≤ s.1 + t.2
      omega
  | false =>
    simp only [Bool.false_eq_true, if_false] at hlong hshort
    cases isIncrease with
    | true =>
      rw [if_pos rfl] at hsign
      show t.1 + s.2 ≤ s.1 + t.2
      omega
    | false =>
      rw [if_neg Bool.false_ne_true] at hsign
      show s.1 + t.2 ≤ t.1 + s.2
      omega

/-- The parts of a trade are a path of the open interest, to what the whole trade makes of it. -/
theorem splitPriceImpactUsd_eq_ok {isIncrease : Bool} {usdDeltas : List Int}
    (hsign : ∀ usdDelta ∈ usdDeltas, if isIncrease then 0 ≤ usdDelta else usdDelta ≤ 0)
    {s : Nat × Nat} {total : Int}
    (h : splitPriceImpactUsd env dataStore market isLong s usdDeltas = .ok total) :
    ∃ path, List.IsChain (Impact.Moves (isLong == isIncrease)) (s :: path) ∧
      pathCost (openInterestPriceImpactUsd env dataStore market) s path = .ok total ∧
      IsTraded isLong usdDeltas.sum s (path.getLastD s) := by
  induction usdDeltas generalizing s total with
  | nil =>
    refine ⟨[], List.isChain_singleton s, h, ?_, ?_⟩
    · cases isLong <;> simp
    · cases isLong <;> simp
  | cons usdDelta usdDeltas ih =>
    simp only [splitPriceImpactUsd, Result.bind_eq_ok, Result.pure_eq_ok] at h
    obtain ⟨p, hp, first, hfirst, rest, hrest, rfl⟩ := h
    obtain ⟨t, rfl, htraded⟩ := getNextOpenInterestParams_eq_update hp
    obtain ⟨path, hchain, hpath, hlast⟩ :=
      ih (fun usdDelta hmem => hsign usdDelta (List.mem_cons_of_mem _ hmem)) hrest
    refine ⟨t :: path, List.isChain_cons_cons.mpr ⟨?_, hchain⟩, ?_, ?_⟩
    · exact htraded.moves (hsign usdDelta List.mem_cons_self)
    · exact Result.bind_eq_ok.mpr ⟨first, hfirst, Result.bind_eq_ok.mpr ⟨rest, hpath, rfl⟩⟩
    · rw [List.sum_cons, List.getLastD_cons]
      exact htraded.trans hlast

theorem splitPriceImpactUsd_eq_whole (hpow : env.PowMonotone) {isIncrease : Bool}
    {usdDeltas : List Int}
    (hsign : ∀ usdDelta ∈ usdDeltas, if isIncrease then 0 ≤ usdDelta else usdDelta ≤ 0)
    {openInterest : Nat × Nat} {total whole : Int}
    (hparts : splitPriceImpactUsd env dataStore market isLong openInterest usdDeltas = .ok total)
    (hwhole : tradePriceImpactUsd env dataStore market isLong openInterest usdDeltas.sum =
      .ok whole) : total = whole := by
  obtain ⟨path, hchain, hpath, hlast⟩ := splitPriceImpactUsd_eq_ok hsign hparts
  obtain ⟨p, hp, hwhole⟩ := Result.bind_eq_ok.mp hwhole
  obtain ⟨t, rfl, htraded⟩ := getNextOpenInterestParams_eq_update hp
  obtain rfl := htraded.unique hlast
  exact (Impact.potential_isPotential hpow _ _ _).pathCost_eq hchain hpath hwhole

end PositionPricingUtils

-- ---------------------------------------------------------------------------
-- Pools
-- ---------------------------------------------------------------------------

/-- The impact between two pairs of pool values. -/
def SwapPricingUtils.poolPriceImpactUsd (env : Env) (dataStore : DataStore) (market : Market)
    (pools nextPools : Nat × Nat) : Result Int :=
  _getPriceImpactUsd env dataStore market
    { poolUsdForTokenA := pools.1
      poolUsdForTokenB := pools.2
      nextPoolUsdForTokenA := nextPools.1
      nextPoolUsdForTokenB := nextPools.2 }

theorem SwapPricingUtils.poolPriceImpactUsd_eq (env : Env) (dataStore : DataStore)
    (market : Market) :
    poolPriceImpactUsd env dataStore market = fun pools nextPools =>
      updatePriceImpactUsd env (getAdjustedSwapImpactFactors dataStore market.marketToken)
        (dataStore.getUint (Keys.swapImpactExponentFactorKey market.marketToken))
        (Impact.update pools nextPools) := rfl

/-- **A split trade pays the same impact.** The parts of a trade in one direction on one side of
the open interest pay together what the trade pays at once, whatever the open interest, the
factors and the exponent, and wherever the parts end. So do pool values that move in one
direction. -/
theorem priceImpact_pathIndependent (hpow : env.PowMonotone) :
    (∀ (dataStore : DataStore) (market : Market) (isLong : Bool) (openInterest : Nat × Nat)
      (usdDeltas : List Int) (total whole : Int),
      ((∀ usdDelta ∈ usdDeltas, 0 ≤ usdDelta) ∨ ∀ usdDelta ∈ usdDeltas, usdDelta ≤ 0) →
      splitPriceImpactUsd env dataStore market isLong openInterest usdDeltas = .ok total →
      tradePriceImpactUsd env dataStore market isLong openInterest usdDeltas.sum = .ok whole →
      total = whole) ∧
    ∀ (dataStore : DataStore) (market : Market) (isRising : Bool) (pools : Nat × Nat)
      (path : List (Nat × Nat)) (total whole : Int),
      List.IsChain (Impact.Moves isRising) (pools :: path) →
      pathCost (SwapPricingUtils.poolPriceImpactUsd env dataStore market) pools path =
        .ok total →
      SwapPricingUtils.poolPriceImpactUsd env dataStore market pools (path.getLastD pools) =
        .ok whole →
      total = whole := by
  constructor
  · rintro dataStore market isLong openInterest usdDeltas total whole (hsign | hsign) hparts hwhole
    · exact @splitPriceImpactUsd_eq_whole _ _ _ _ hpow true _ hsign _ _ _ hparts hwhole
    · exact @splitPriceImpactUsd_eq_whole _ _ _ _ hpow false _ hsign _ _ _ hparts hwhole
  · intro dataStore market isRising pools path total whole hchain hpath hwhole
    rw [SwapPricingUtils.poolPriceImpactUsd_eq] at hpath hwhole
    exact (Impact.potential_isPotential hpow isRising _ _).pathCost_eq hchain hpath hwhole

/-- A long trade in three parts, of which the second ends in balance. -/
theorem priceImpact_pathIndependent_impactStore :
    let env := { Env.plain 1 fun _ => ⟨0, 0⟩ with pow := wholePow }
    ∃ total,
      splitPriceImpactUsd env impactStore ⟨1, 2, 3, 4⟩ true (0, 2048 * 10 ^ 30)
        [1024 * 10 ^ 30, 1024 * 10 ^ 30, 1024 * 10 ^ 30] = .ok total ∧
      tradePriceImpactUsd env impactStore ⟨1, 2, 3, 4⟩ true (0, 2048 * 10 ^ 30)
        (3072 * 10 ^ 30) = .ok total := by
  intro env
  obtain ⟨total, hparts, -⟩ := (by decide +kernel : Evm.Result.Satisfies
    (splitPriceImpactUsd env impactStore ⟨1, 2, 3, 4⟩ true (0, 2048 * 10 ^ 30)
      [1024 * 10 ^ 30, 1024 * 10 ^ 30, 1024 * 10 ^ 30]) fun _ => True).exists
  obtain ⟨whole, hwhole, -⟩ := (by decide +kernel : Evm.Result.Satisfies
    (tradePriceImpactUsd env impactStore ⟨1, 2, 3, 4⟩ true (0, 2048 * 10 ^ 30) (3072 * 10 ^ 30))
    fun _ => True).exists
  have hsign : ∀ usdDelta ∈ ([1024 * 10 ^ 30, 1024 * 10 ^ 30, 1024 * 10 ^ 30] : List Int),
      0 ≤ usdDelta := by decide
  obtain ⟨hsplit, -⟩ := priceImpact_pathIndependent wholePow_monotone
  obtain rfl := hsplit impactStore ⟨1, 2, 3, 4⟩ true (0, 2048 * 10 ^ 30) _ total whole
    (Or.inl hsign) hparts hwhole
  exact ⟨total, hparts, hwhole⟩

end GmxSynthetics
