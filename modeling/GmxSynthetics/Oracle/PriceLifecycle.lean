import GmxSynthetics.Evm.Machine
import GmxSynthetics.Oracle.SignedPrices

/-!
# The life of a price

The oracle under calls of `setPrices` and `clearAllPrices`. A price feed whose answer is too small
for its multiplier yields the price zero, which the oracle takes for an empty one although it
lists the token. While no feed does so, prices and listed tokens agree.

* `Consistent` — a token has a price exactly when it is listed;
* `setPrices_adds`, `clearAllPrices_spec` — what the two calls do;
* `lifecycle_consistent` — every run without such a feed;
* `lifecycle_zeroFeedPrice` — a run with one.
-/

namespace GmxSynthetics

open Evm OracleUtils

namespace Oracle

variable {env : OracleEnv} {dataStore : DataStore} {params : SetPricesParams}
  {oracle oracle' : Oracle} {token : Address}

/-- Only listed tokens have a price. -/
structure Tracked (oracle : Oracle) : Prop where
  nodup : oracle.tokensWithPrices.Nodup
  unlisted : ∀ token ∉ oracle.tokensWithPrices, oracle.primaryPrices token = ⟨0, 0⟩

/-- Listed tokens have a price, the others have none. -/
structure Consistent (oracle : Oracle) : Prop extends oracle.Tracked where
  listed : ∀ token ∈ oracle.tokensWithPrices,
    0 < (oracle.primaryPrices token).min ∧
      (oracle.primaryPrices token).min ≤ (oracle.primaryPrices token).max

/-- An oracle without prices. -/
theorem consistent_empty : Oracle.empty.Consistent where
  nodup := List.nodup_nil
  unlisted _ _ := rfl
  listed _ hmem := absurd hmem List.not_mem_nil

/-- A token has a price exactly when it is listed. -/
theorem Consistent.isEmpty_iff (h : oracle.Consistent) (token : Address) :
    (oracle.primaryPrices token).isEmpty = true ↔ token ∉ oracle.tokensWithPrices := by
  constructor
  · intro hempty hmem
    obtain ⟨hpos, hle⟩ := h.listed token hmem
    exact isEmpty_of_pos hpos hle hempty
  · intro hmem
    rw [h.unlisted token hmem]
    rfl

-- ---------------------------------------------------------------------------
-- Setting prices
-- ---------------------------------------------------------------------------

/-- The tokens with prices are those of before, and the one that is set. -/
theorem mem_setPrice {price : Price} {other : Address} :
    other ∈ (oracle.setPrice token price).tokensWithPrices ↔
      other ∈ oracle.tokensWithPrices ∨ other = token :=
  EnumerableSet.mem_add

theorem setPrice_self {price : Price} : (oracle.setPrice token price).primaryPrices token = price :=
  Function.update_self _ _ _

/-- The other prices stay. -/
theorem setPrice_of_ne {price : Price} {other : Address} (h : other ≠ token) :
    (oracle.setPrice token price).primaryPrices other = oracle.primaryPrices other :=
  Function.update_of_ne h _ _

/-- A price that is positive and ordered keeps the list and the prices in step. -/
theorem Consistent.setPrice (h : oracle.Consistent) {price : Price} (hpos : 0 < price.min)
    (hle : price.min ≤ price.max) : (oracle.setPrice token price).Consistent := by
  refine ⟨⟨EnumerableSet.nodup_add h.nodup token, ?_⟩, ?_⟩
  · intro other hmem
    rw [mem_setPrice, not_or] at hmem
    rw [setPrice_of_ne hmem.2]
    exact h.unlisted other hmem.1
  · intro other hmem
    by_cases hother : other = token
    · rw [hother, setPrice_self]
      exact ⟨hpos, hle⟩
    · rw [setPrice_of_ne hother]
      exact h.listed other ((mem_setPrice.mp hmem).resolve_right hother)

/-- The tokens have been given prices, each once. -/
structure Adds (tokens : List Address) (oracle oracle' : Oracle) : Prop where
  consistent : oracle'.Consistent
  nodup : tokens.Nodup
  fresh : ∀ token ∈ tokens, token ∉ oracle.tokensWithPrices
  listed : ∀ token, token ∈ oracle'.tokensWithPrices ↔
    token ∈ oracle.tokensWithPrices ∨ token ∈ tokens

/-- Nothing added. -/
theorem Adds.nil (h : oracle.Consistent) : Adds [] oracle oracle :=
  ⟨h, List.nodup_nil, fun _ hmem => absurd hmem List.not_mem_nil, by simp⟩

/-- One token and then the rest, none of which had a price. -/
theorem Adds.cons {tokens : List Address} {price : Price} (h : oracle.Consistent)
    (hempty : (oracle.primaryPrices token).isEmpty = true)
    (hadds : Adds tokens (oracle.setPrice token price) oracle') :
    Adds (token :: tokens) oracle oracle' := by
  constructor
  case consistent => exact hadds.consistent
  case nodup =>
    refine List.nodup_cons.mpr ⟨fun hmem => ?_, hadds.nodup⟩
    exact hadds.fresh token hmem (mem_setPrice.mpr (Or.inr rfl))
  case fresh =>
    intro other hmem
    rcases List.mem_cons.mp hmem with rfl | hmem
    · exact (h.isEmpty_iff other).mp hempty
    · exact fun hlisted => hadds.fresh other hmem (mem_setPrice.mpr (Or.inl hlisted))
  case listed =>
    intro other
    rw [hadds.listed, mem_setPrice, List.mem_cons, or_assoc]

/-- What is added in two goes. -/
theorem Adds.append {oracle'' : Oracle} {tokens tokens' : List Address}
    (h : Adds tokens oracle oracle') (h' : Adds tokens' oracle' oracle'') :
    Adds (tokens ++ tokens') oracle oracle'' := by
  constructor
  case consistent => exact h'.consistent
  case nodup =>
    refine List.nodup_append.mpr ⟨h.nodup, h'.nodup, ?_⟩
    rintro token hmem _ hmem' rfl
    exact h'.fresh token hmem' ((h.listed token).mpr (Or.inr hmem))
  case fresh =>
    intro token hmem
    rcases List.mem_append.mp hmem with hmem | hmem
    · exact h.fresh token hmem
    · exact fun hlisted => h'.fresh token hmem ((h.listed token).mpr (Or.inl hlisted))
  case listed =>
    intro token
    rw [h'.listed, h.listed, List.mem_append, or_assoc]

-- ---------------------------------------------------------------------------
-- Price feeds
-- ---------------------------------------------------------------------------

/-- The answer of the price feed of a token, scaled by its multiplier. -/
def feedAnswer (env : OracleEnv) (dataStore : DataStore) (token : Address) : Nat :=
  (env.latestRoundData (dataStore.getAddress (Keys.priceFeedKey token))).1.toNat *
    dataStore.getUint (Keys.priceFeedMultiplierKey token)

/-- A price from a feed is the adjusted answer of the feed. -/
theorem _getPriceFeedPrice_eq_ok {result : Bool × Nat}
    (h : _getPriceFeedPrice env dataStore token = .ok result) (hfeed : ¬ result.1 = false) :
    result.2 = feedAnswer env dataStore token / Precision.FLOAT_PRECISION := by
  unfold _getPriceFeedPrice at h
  dsimp only at h
  split at h
  · rw [← Result.pure_eq_ok.mp h] at hfeed
    exact absurd rfl hfeed
  · simp only [Result.bind_eq_ok, toUint256_eq_ok, getPriceFeedMultiplier, mul_eq_ok, div_eq_ok,
      Result.pure_eq_ok] at h
    obtain ⟨_, -, _, -, answer, hanswer, _, ⟨_, -, rfl⟩, _, ⟨-, rfl⟩, _, ⟨-, rfl⟩, rfl⟩ := h
    unfold feedAnswer
    rw [← hanswer, Int.toNat_natCast]

/-- It is positive where the answer is not cut off to zero. -/
theorem feedPrice_min {price : Nat} (hpos : 0 < price) :
    0 < (feedPrice dataStore token price).min := by
  unfold feedPrice
  dsimp only
  split
  · dsimp only
    split <;> omega
  · exact hpos

/-- It is in order. -/
theorem feedPrice_le {price : Nat} :
    (feedPrice dataStore token price).min ≤ (feedPrice dataStore token price).max := by
  unfold feedPrice
  dsimp only
  split
  · dsimp only
    split <;> omega
  · exact le_rfl

/-- The prices from feeds are added, where none is cut off to zero. -/
theorem _setPricesFromPriceFeeds_adds {tokens : List Address} (hconsistent : oracle.Consistent)
    (hfeeds : ∀ token ∈ tokens, Precision.FLOAT_PRECISION ≤ feedAnswer env dataStore token)
    (h : _setPricesFromPriceFeeds env dataStore tokens oracle = .ok oracle') :
    Adds tokens oracle oracle' := by
  induction tokens generalizing oracle with
  | nil =>
    obtain rfl := Result.pure_eq_ok.mp h
    exact Adds.nil hconsistent
  | cons token tokens ih =>
    simp only [_setPricesFromPriceFeeds, Result.bind_eq_ok, revertIf, Result.revertIf_eq_ok,
      not_not] at h
    obtain ⟨_, hempty, ⟨hasPriceFeed, price⟩, hprice, _, hhas, h⟩ := h
    have heq := _getPriceFeedPrice_eq_ok hprice hhas
    have hpos : 0 < price := by
      have hle := hfeeds token List.mem_cons_self
      dsimp only at heq
      rw [heq]
      exact Nat.div_pos hle (by decide)
    refine Adds.cons hconsistent hempty (ih ?_ (fun other hmem => ?_) h)
    · exact hconsistent.setPrice (feedPrice_min hpos) feedPrice_le
    · exact hfeeds other (List.mem_cons_of_mem _ hmem)

-- ---------------------------------------------------------------------------
-- Calls
-- ---------------------------------------------------------------------------

/-- Signed prices are added, one token after the other. -/
theorem setPricesFrom_adds {signers tokens : List Address} {prevMinOracleBlockNumber i : Nat}
    (hconsistent : oracle.Consistent)
    (h : setPricesFrom env dataStore signers params prevMinOracleBlockNumber i tokens oracle =
      .ok oracle') : Adds tokens oracle oracle' := by
  induction tokens generalizing prevMinOracleBlockNumber i oracle with
  | nil =>
    obtain rfl := Result.pure_eq_ok.mp h
    exact Adds.nil hconsistent
  | cons token tokens ih =>
    simp only [setPricesFrom, Result.bind_eq_ok] at h
    obtain ⟨info, hinfo, _, -, _, -, price, hprice, hrest⟩ := h
    obtain ⟨hempty, hpos, hle, -⟩ := getMedianPrice_spec hprice
    rw [getReportInfo_token hinfo] at hempty
    exact Adds.cons hconsistent hempty (ih (hconsistent.setPrice hpos hle) hrest)

/-- No feed of the call answers less than the smallest price. -/
def FeedsPositive (env : OracleEnv) (dataStore : DataStore) (params : SetPricesParams) : Prop :=
  ∀ token ∈ params.priceFeedTokens, Precision.FLOAT_PRECISION ≤ feedAnswer env dataStore token

/-- So are both kinds by a call. -/
theorem setPrices_adds (hconsistent : oracle.Consistent)
    (hfeeds : FeedsPositive env dataStore params)
    (h : setPrices env dataStore params oracle = .ok oracle') :
    Adds (params.priceFeedTokens ++ params.tokens) oracle oracle' := by
  simp only [setPrices, Result.bind_eq_ok] at h
  obtain ⟨_, -, oracle₁, hfeed, h⟩ := h
  have hadds := _setPricesFromPriceFeeds_adds hconsistent hfeeds hfeed
  split at h
  · rename_i hempty
    rw [List.length_eq_zero_iff.mp hempty, List.append_nil, ← Result.pure_eq_ok.mp h]
    exact hadds
  · obtain ⟨signers, -, h⟩ := Result.bind_eq_ok.mp h
    exact hadds.append (setPricesFrom_adds hadds.consistent h)

/-- Clearing a price keeps the list in step. -/
theorem Tracked.clearPrice (h : oracle.Tracked) (token : Address) :
    (oracle.clearPrice token).Tracked := by
  constructor
  case nodup => exact EnumerableSet.nodup_remove h.nodup token
  case unlisted =>
    intro other hmem
    by_cases hother : other = token
    · rw [hother]
      exact Function.update_self _ _ _
    · have hsame : (oracle.clearPrice token).primaryPrices other = oracle.primaryPrices other :=
        Function.update_of_ne hother _ _
      rw [hsame]
      apply h.unlisted
      intro hlisted
      exact hmem ((EnumerableSet.mem_remove h.nodup).mpr ⟨hlisted, hother⟩)

/-- It takes one token off the list. -/
theorem length_clearPrice (hmem : token ∈ oracle.tokensWithPrices) :
    (oracle.clearPrice token).tokensWithPrices.length + 1 = oracle.tokensWithPrices.length := by
  have hperm := EnumerableSet.remove_perm_erase oracle.tokensWithPrices token
  have hlength : (oracle.clearPrice token).tokensWithPrices.length =
      (oracle.tokensWithPrices.erase token).length := hperm.length_eq
  have hpos := List.length_pos_of_mem hmem
  rw [hlength, List.length_erase_of_mem hmem]
  omega

/-- The loop empties the list: each of its iterations finds a token and removes it. -/
theorem clearPrices_spec {length : Nat} (h : oracle.Tracked)
    (hlength : oracle.tokensWithPrices.length = length) :
    ∃ oracle', clearPrices length oracle = .ok oracle' ∧ oracle'.Tracked ∧
      oracle'.tokensWithPrices = [] := by
  induction length generalizing oracle with
  | zero => exact ⟨oracle, rfl, h, List.length_eq_zero_iff.mp hlength⟩
  | succ length ih =>
    have hpos : 0 < oracle.tokensWithPrices.length := by omega
    have hget := List.getElem?_eq_getElem hpos
    have hmem : oracle.tokensWithPrices[0] ∈ oracle.tokensWithPrices := List.getElem_mem hpos
    have hnext := length_clearPrice hmem
    obtain ⟨oracle', hrun, hspec⟩ := ih (h.clearPrice oracle.tokensWithPrices[0]) (by omega)
    refine ⟨oracle', ?_, hspec⟩
    exact Result.bind_eq_ok.mpr ⟨_, Array.read_eq_ok.mpr hget, hrun⟩

/-- No price survives `clearAllPrices`. -/
theorem clearAllPrices_spec (h : oracle.Tracked) :
    ∃ oracle', clearAllPrices oracle = .ok oracle' ∧ oracle'.tokensWithPrices = [] ∧
      ∀ token, oracle'.primaryPrices token = ⟨0, 0⟩ := by
  obtain ⟨oracle', hrun, htracked, hnil⟩ := clearPrices_spec h rfl
  refine ⟨oracle', hrun, hnil, fun token => htracked.unlisted token ?_⟩
  rw [hnil]
  exact List.not_mem_nil

/-- Without tokens and prices all is in step. -/
theorem consistent_of_empty (hlist : oracle.tokensWithPrices = [])
    (hprices : ∀ token, oracle.primaryPrices token = ⟨0, 0⟩) : oracle.Consistent where
  nodup := hlist ▸ List.nodup_nil
  unlisted _ _ := hprices _
  listed _ hmem := absurd (hlist ▸ hmem) List.not_mem_nil

-- ---------------------------------------------------------------------------
-- Runs
-- ---------------------------------------------------------------------------

/-- A call of the controller. -/
inductive Call where
  | setPrices (env : OracleEnv) (dataStore : DataStore) (params : SetPricesParams)
  | clearAllPrices

def Call.run : Call → Oracle → Result Oracle
  | setPrices env dataStore params, oracle => Oracle.setPrices env dataStore params oracle
  | clearAllPrices, oracle => Oracle.clearAllPrices oracle

/-- The oracle from its deployment on, under calls that succeed. -/
def lifecycle : Machine Oracle Call where
  init oracle := oracle = .empty
  next call oracle oracle' := call.run oracle = .ok oracle'

/-- The call meets no price feed whose price is rounded down to zero. -/
def Call.FeedsPositive : Call → Prop
  | setPrices env dataStore params => Oracle.FeedsPositive env dataStore params
  | clearAllPrices => True

/-- Either call keeps the list and the prices in step. -/
theorem Call.run_consistent {call : Call} (hconsistent : oracle.Consistent)
    (hfeeds : call.FeedsPositive) (h : call.run oracle = .ok oracle') : oracle'.Consistent := by
  cases call with
  | setPrices env dataStore params => exact (setPrices_adds hconsistent hfeeds h).consistent
  | clearAllPrices =>
    obtain ⟨oracle'', hrun, hnil, hprices⟩ := clearAllPrices_spec hconsistent.toTracked
    obtain rfl := Except.ok.inj (hrun.symm.trans h)
    exact consistent_of_empty hnil hprices

/-- So every run does whose feeds are not cut off to zero. -/
theorem consistent_of_reachable
    (h : lifecycle.ReachableIf (fun call _ => call.FeedsPositive) oracle) : oracle.Consistent := by
  refine h.invariant ?_ ?_
  · rintro _ rfl
    exact consistent_empty
  · intro call oracle oracle' _ hfeeds hnext hconsistent
    exact Call.run_consistent hconsistent hfeeds hnext

/-- **No price outlives its execution.** While no call meets a price feed whose price is rounded
down to zero: a token has a price exactly when it is listed; a price that is stored is positive,
with the min price at most the max price; a call does not accept a token twice; and clearing
leaves no price. -/
theorem lifecycle_consistent
    (h : lifecycle.ReachableIf (fun call _ => call.FeedsPositive) oracle) :
    (∀ token, ¬ (oracle.primaryPrices token).isEmpty = true ↔ token ∈ oracle.tokensWithPrices) ∧
    (∀ token, oracle.primaryPrices token ≠ ⟨0, 0⟩ → 0 < (oracle.primaryPrices token).min ∧
      (oracle.primaryPrices token).min ≤ (oracle.primaryPrices token).max) ∧
    (∀ env dataStore params oracle', FeedsPositive env dataStore params →
      setPrices env dataStore params oracle = .ok oracle' →
      (params.priceFeedTokens ++ params.tokens).Nodup) ∧
    ∃ oracle', clearAllPrices oracle = .ok oracle' ∧
      ∀ token, oracle'.primaryPrices token = ⟨0, 0⟩ := by
  have hconsistent := consistent_of_reachable h
  refine ⟨fun token => ?_, fun token hprice => ?_, ?_, ?_⟩
  · rw [hconsistent.isEmpty_iff, not_not]
  · apply hconsistent.listed
    by_contra hmem
    exact hprice (hconsistent.unlisted token hmem)
  · intro env dataStore params oracle' hfeeds hrun
    exact (setPrices_adds hconsistent hfeeds hrun).nodup
  · obtain ⟨oracle', hrun, -, hprices⟩ := clearAllPrices_spec hconsistent.toTracked
    exact ⟨oracle', hrun, hprices⟩

/-- Token `7` has a feed that answers 1, with the given multiplier. -/
def feedStore (multiplier : Nat) : DataStore :=
  (DataStore.empty.setAddress (Keys.priceFeedKey 7) 70).setUint (Keys.priceFeedMultiplierKey 7)
    multiplier

def feedEnv : OracleEnv := { sampleEnv with latestRoundData := fun _ => (1, 100) }

def feedParams (priceFeedTokens : List Address) : SetPricesParams :=
  { sampleParams with tokens := [], priceFeedTokens := priceFeedTokens }

/-- A feed is read into the oracle. -/
theorem lifecycle_consistent_feed :
    ∃ oracle, lifecycle.Reachable oracle ∧ oracle.primaryPrices 7 = ⟨1, 1⟩ ∧
      7 ∈ oracle.tokensWithPrices := by
  have hrun : (setPrices feedEnv (feedStore Precision.FLOAT_PRECISION) (feedParams [7])
      .empty).Satisfies fun oracle => oracle.primaryPrices 7 = ⟨1, 1⟩ := by
    decide +kernel
  obtain ⟨oracle, h, hprice⟩ := hrun.exists
  have hfeeds : FeedsPositive feedEnv (feedStore Precision.FLOAT_PRECISION) (feedParams [7]) := by
    intro token hmem
    rw [List.mem_singleton.mp hmem]
    decide +kernel
  have hreach : lifecycle.ReachableIf (fun call _ => call.FeedsPositive) oracle :=
    .step (.init rfl) (i := .setPrices _ _ _) hfeeds h
  refine ⟨oracle, hreach.reachable, hprice, ?_⟩
  rw [← (lifecycle_consistent hreach).1 7, hprice]
  decide

/-- A feed that answers 1 with the multiplier 1: the token is accepted twice, is listed, and has
an empty price. -/
theorem lifecycle_zeroFeedPrice :
    ∃ oracle, lifecycle.Reachable oracle ∧
      setPrices feedEnv (feedStore 1) (feedParams [7, 7]) .empty = .ok oracle ∧
      7 ∈ oracle.tokensWithPrices ∧ (oracle.primaryPrices 7).isEmpty = true := by
  have hrun : (setPrices feedEnv (feedStore 1) (feedParams [7, 7]) .empty).Satisfies fun oracle =>
      7 ∈ oracle.tokensWithPrices ∧ (oracle.primaryPrices 7).isEmpty = true := by
    decide +kernel
  obtain ⟨oracle, h, hspec⟩ := hrun.exists
  exact ⟨oracle, .step (.init rfl) (i := .setPrices _ _ _) trivial h, h, hspec⟩

end Oracle

end GmxSynthetics
