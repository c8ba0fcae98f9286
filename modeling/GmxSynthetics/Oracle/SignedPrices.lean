import GmxSynthetics.Oracle.Oracle

/-!
# Signed prices

What a successful `setPrices` says about the prices it stores for the tokens it has reports of.
Each signer owns one slot of the sorted min prices and one of the sorted max prices, and signed
exactly the two prices in them; the stored prices are medians.

* `getSigners_spec` — the signers are distinct and registered;
* `getSignerPrices_spec`, `validateSigners_spec` — the slots and who signed them;
* `setPrices_signed` — no minority of the signers moves a stored price.
-/

namespace GmxSynthetics

open Evm OracleUtils

namespace Oracle

variable {env : OracleEnv} {dataStore : DataStore} {params : SetPricesParams}
  {oracle oracle' : Oracle} {token : Address}

-- ---------------------------------------------------------------------------
-- Signers
-- ---------------------------------------------------------------------------

/-- The signers are drawn one by one, none of them twice. -/
theorem getSignersFrom_spec {signerInfo count i : Nat} {mask : Uint256Mask.Mask}
    {signers : List Address} (h : getSignersFrom env signerInfo count i mask = .ok signers) :
    signers.length = count ∧ signers.Nodup ∧ ∀ signer ∈ signers, signer ≠ 0 ∧
      ∃ index, ¬ mask.Taken index ∧ env.oracleStore.getSigner index = .ok signer := by
  induction count generalizing i mask signers with
  | zero =>
    obtain rfl := Result.pure_eq_ok.mp h
    exact ⟨rfl, List.nodup_nil, fun signer hmem => absurd hmem List.not_mem_nil⟩
  | succ count ih =>
    simp only [getSignersFrom, Result.bind_eq_ok, revertIf, Result.revertIf_eq_ok,
      Result.pure_eq_ok] at h
    obtain ⟨-, -, mask', hmask, signer, hsigner, -, hne, signers', hrest, rfl⟩ := h
    obtain ⟨hfree, htaken⟩ := Uint256Mask.validateUniqueAndSetIndex_eq_ok hmask
    obtain ⟨hlength, hnodup, hspec⟩ := ih hrest
    refine ⟨congrArg (· + 1) hlength, List.nodup_cons.mpr ⟨?_, hnodup⟩, ?_⟩
    · intro hmem
      obtain ⟨-, index, hindex, hget⟩ := hspec signer hmem
      have heq := OracleStore.getSigner_inj hget hsigner
      exact hindex ((htaken index).mpr (Or.inr heq))
    · intro other hmem
      rcases List.mem_cons.mp hmem with rfl | hmem
      · exact ⟨hne, _, hfree, hsigner⟩
      · obtain ⟨hother, index, hindex, hget⟩ := hspec other hmem
        exact ⟨hother, index, fun ht => hindex ((htaken index).mpr (Or.inl ht)), hget⟩

/-- They are signers of the store. -/
theorem getSigners_spec {signers : List Address}
    (h : getSigners env dataStore params = .ok signers) :
    signers.Nodup ∧ ∀ signer ∈ signers, signer ∈ env.oracleStore.signers := by
  simp only [getSigners, Result.bind_eq_ok, revertIf, Result.revertIf_eq_ok] at h
  obtain ⟨-, -, -, -, h⟩ := h
  obtain ⟨-, hnodup, hspec⟩ := getSignersFrom_spec h
  refine ⟨hnodup, fun signer hmem => ?_⟩
  obtain ⟨-, index, -, hget⟩ := hspec signer hmem
  exact OracleStore.mem_of_getSigner hget

-- ---------------------------------------------------------------------------
-- Slots
-- ---------------------------------------------------------------------------

/-- A price that is not below the last of sorted prices may be put behind them. -/
theorem isChain_snoc {prices : List Nat} {price : Nat} (hsorted : prices.IsChain (· ≤ ·))
    (hlast : ∀ prevPrice, prices.getLast? = some prevPrice → prevPrice ≤ price) :
    (prices ++ [price]).IsChain (· ≤ ·) := by
  rw [List.isChain_append]
  refine ⟨hsorted, List.isChain_singleton _, ?_⟩
  intro prevPrice hprev next hnext
  simp only [List.head?_cons, Option.mem_some_iff] at hnext
  exact hnext ▸ hlast prevPrice hprev

/-- The slots of the first `j` prices. -/
structure Slots (compactedPrices : List Nat) (signersLength i j : Nat) (prices : List Nat) :
    Prop where
  length : prices.length = j
  sorted : prices.IsChain (· ≤ ·)
  price : ∀ k price, prices[k]? = some price →
    getUncompactedPrice compactedPrices (i * signersLength + k) = .ok price

/-- One more price, not below the last. -/
theorem Slots.snoc {compactedPrices : List Nat} {signersLength i j price : Nat}
    {prices : List Nat} (h : Slots compactedPrices signersLength i j prices)
    (hlast : ∀ prevPrice, prices.getLast? = some prevPrice → prevPrice ≤ price)
    (hprice : getUncompactedPrice compactedPrices (i * signersLength + j) = .ok price) :
    Slots compactedPrices signersLength i (j + 1) (prices ++ [price]) := by
  constructor
  case length => rw [List.length_append, h.length, List.length_singleton]
  case sorted => exact isChain_snoc h.sorted hlast
  case price =>
    intro k other hk
    rw [List.getElem?_append] at hk
    split at hk
    · exact h.price k other hk
    · rename_i hlt
      rw [List.getElem?_singleton] at hk
      split at hk
      · rename_i hzero
        have hkj : k = j := by
          have := h.length
          omega
        rw [hkj, ← Option.some.inj hk]
        exact hprice
      · exact absurd hk (by simp)

/-- A price that passes the check is not below the last. -/
theorem validateSorted_eq_ok {error : Nat → Nat → Errors} {prices : List Nat} {price : Nat}
    {u : Unit} (h : validateSorted error prices price = .ok u) {prevPrice : Nat}
    (hprev : prices.getLast? = some prevPrice) : prevPrice ≤ price := by
  unfold validateSorted at h
  rw [hprev] at h
  exact not_lt.mp (Result.revertIf_eq_ok.mp h)

/-- The prices of a token are read from its slots, in order. -/
theorem getSignerPrices_spec {signersLength i j : Nat} {minPrices maxPrices : List Nat}
    (h : getSignerPrices params signersLength i token j = .ok (minPrices, maxPrices)) :
    Slots params.compactedMinPrices signersLength i j minPrices ∧
      Slots params.compactedMaxPrices signersLength i j maxPrices := by
  induction j generalizing minPrices maxPrices with
  | zero =>
    obtain ⟨rfl, rfl⟩ := Prod.mk.inj (Result.pure_eq_ok.mp h)
    constructor <;> exact ⟨rfl, List.isChain_nil, by simp⟩
  | succ j ih =>
    simp only [getSignerPrices, Result.bind_eq_ok, add_eq_ok, mul_eq_ok, Result.pure_eq_ok,
      Prod.mk.injEq] at h
    obtain ⟨⟨prevMinPrices, prevMaxPrices⟩, hprev, _, ⟨-, rfl⟩, _, ⟨-, rfl⟩, minPrice, hmin,
      maxPrice, hmax, _, hminSorted, _, hmaxSorted, rfl, rfl⟩ := h
    obtain ⟨hmins, hmaxs⟩ := ih hprev
    constructor
    · exact hmins.snoc (fun _ hlast => validateSorted_eq_ok hminSorted hlast) hmin
    · exact hmaxs.snoc (fun _ hlast => validateSorted_eq_ok hmaxSorted hlast) hmax

/-- Signer `j` signed the report with the prices in its two slots. -/
structure Signed (env : OracleEnv) (params : SetPricesParams) (signersLength i j : Nat)
    (info : ReportInfo) (minPrices maxPrices : List Nat) (signer : Address)
    (minSlot maxSlot : Nat) : Prop where
  minSlot_eq : getUncompactedPriceIndex params.compactedMinPricesIndexes (i * signersLength + j) =
    .ok minSlot
  maxSlot_eq : getUncompactedPriceIndex params.compactedMaxPricesIndexes (i * signersLength + j) =
    .ok maxSlot
  recovered : ∃ minPrice maxPrice signature, minPrices[minSlot]? = some minPrice ∧
    maxPrices[maxSlot]? = some maxPrice ∧ minPrice ≤ maxPrice ∧
    params.signatures[i * signersLength + j]? = some signature ∧
    env.recover ⟨_getSalt env, { info with minPrice := minPrice, maxPrice := maxPrice }⟩ signature =
      .ok signer

namespace Signed

variable {signersLength i j : Nat} {info : ReportInfo} {minPrices maxPrices : List Nat}
  {signer : Address} {minSlot maxSlot : Nat}
  (h : Signed env params signersLength i j info minPrices maxPrices signer minSlot maxSlot)

include h

/-- A minimum price that is used is one of those given. -/
theorem minSlot_lt : minSlot < minPrices.length := by
  obtain ⟨_, _, _, hprice, -⟩ := h.recovered
  exact (List.getElem?_eq_some_iff.mp hprice).1

/-- So is a maximum price. -/
theorem maxSlot_lt : maxSlot < maxPrices.length := by
  obtain ⟨_, _, _, -, hprice, -⟩ := h.recovered
  exact (List.getElem?_eq_some_iff.mp hprice).1

end Signed

/-- The slots of the signers from `j` on: no two signers share one. -/
theorem validateSigners_spec {signersLength i j : Nat} {info : ReportInfo}
    {minPrices maxPrices : List Nat} {signers : List Address}
    {minMask maxMask : Uint256Mask.Mask} {u : Unit}
    (h : validateSigners env params signersLength i info minPrices maxPrices j signers minMask
      maxMask = .ok u) :
    ∃ minSlots maxSlots : List Nat,
      minSlots.length = signers.length ∧ maxSlots.length = signers.length ∧
      minMask.Free minSlots ∧ maxMask.Free maxSlots ∧
      ∀ k signer, signers[k]? = some signer → ∃ minSlot maxSlot,
        minSlots[k]? = some minSlot ∧ maxSlots[k]? = some maxSlot ∧
        Signed env params signersLength i (j + k) info minPrices maxPrices signer minSlot
          maxSlot := by
  induction signers generalizing j minMask maxMask with
  | nil => exact ⟨[], [], rfl, rfl, minMask.free_nil, maxMask.free_nil, by simp⟩
  | cons signer signers ih =>
    simp only [validateSigners, Result.bind_eq_ok, add_eq_ok, mul_eq_ok, revertIf,
      Result.revertIf_eq_ok, Array.read_eq_ok, validateSigner_eq_ok, not_lt, gt_iff_lt] at h
    obtain ⟨_, ⟨-, rfl⟩, _, ⟨-, rfl⟩, minSlot, hminSlot, maxSlot, hmaxSlot, -, -, -, -, -, -,
      minMask', hminMask, maxMask', hmaxMask, minPrice, hminPrice, maxPrice, hmaxPrice, -, hle,
      signature, hsignature, -, hrecover, hrest⟩ := h
    obtain ⟨minSlots, maxSlots, hminLength, hmaxLength, hminFree, hmaxFree, hsigned⟩ := ih hrest
    refine ⟨minSlot :: minSlots, maxSlot :: maxSlots, congrArg (· + 1) hminLength,
      congrArg (· + 1) hmaxLength, hminFree.cons hminMask, hmaxFree.cons hmaxMask, ?_⟩
    intro k other hsigner
    cases k with
    | zero =>
      obtain rfl := Option.some.inj hsigner
      exact ⟨minSlot, maxSlot, rfl, rfl, hminSlot, hmaxSlot, minPrice, maxPrice, signature,
        hminPrice, hmaxPrice, hle, hsignature, hrecover⟩
    | succ k =>
      have hk : j + (k + 1) = j + 1 + k := by omega
      rw [hk]
      exact hsigned k other hsigner

-- ---------------------------------------------------------------------------
-- Reports
-- ---------------------------------------------------------------------------

/-- What the signers of a token submitted: the prices by slot, and the slots by signer. -/
structure Report (signersLength : Nat) where
  info : ReportInfo
  minPrices : Fin signersLength → Nat
  maxPrices : Fin signersLength → Nat
  minSlot : Fin signersLength → Fin signersLength
  maxSlot : Fin signersLength → Fin signersLength

namespace Report

variable {signersLength : Nat} (report : Report signersLength)

/-- The min price that a signer signed. -/
def signedMinPrice (j : Fin signersLength) : Nat := report.minPrices (report.minSlot j)

/-- The max price that a signer signed. -/
def signedMaxPrice (j : Fin signersLength) : Nat := report.maxPrices (report.maxSlot j)

/-- The report that a signer signed. -/
def signedInfo (j : Fin signersLength) : ReportInfo :=
  { report.info with
    minPrice := report.signedMinPrice j
    maxPrice := report.signedMaxPrice j }

/-- The report on token `i` is the submitted one, and each signer has signed it. -/
structure Accepted (env : OracleEnv) (dataStore : DataStore) (params : SetPricesParams)
    (signers : List Address) (i : Nat) (token : Address) (report : Report signers.length) :
    Prop where
  info : ∃ prevMinOracleBlockNumber,
    getReportInfo env dataStore params prevMinOracleBlockNumber i token = .ok report.info
  minPrices : ∀ k : Fin signers.length, getUncompactedPrice params.compactedMinPrices
    (i * signers.length + k) = .ok (report.minPrices k)
  maxPrices : ∀ k : Fin signers.length, getUncompactedPrice params.compactedMaxPrices
    (i * signers.length + k) = .ok (report.maxPrices k)
  minSorted : Monotone report.minPrices
  maxSorted : Monotone report.maxPrices
  minSlot : ∀ j : Fin signers.length, getUncompactedPriceIndex params.compactedMinPricesIndexes
    (i * signers.length + j) = .ok (report.minSlot j : Nat)
  maxSlot : ∀ j : Fin signers.length, getUncompactedPriceIndex params.compactedMaxPricesIndexes
    (i * signers.length + j) = .ok (report.maxSlot j : Nat)
  minBijective : Function.Bijective report.minSlot
  maxBijective : Function.Bijective report.maxSlot
  signed : ∀ j : Fin signers.length, ∃ signature,
    params.signatures[i * signers.length + j]? = some signature ∧
    env.recover ⟨_getSalt env, report.signedInfo j⟩ signature = .ok (signers.get j)

end Report

/-- A list of a length is a function on its indices. -/
theorem exists_ofFn {α : Type} {values : List α} {n : Nat} (h : values.length = n) :
    ∃ f : Fin n → α, List.ofFn f = values := by
  subst h
  exact ⟨values.get, List.ofFn_get values⟩

theorem getElem?_ofFn_fin {α : Type} {n : Nat} (f : Fin n → α) (k : Fin n) :
    (List.ofFn f)[(k : Nat)]? = some (f k) := by
  rw [List.getElem?_ofFn, dif_pos k.isLt]

/-- So are the prices read from slots. -/
theorem Slots.exists_ofFn {compactedPrices : List Nat} {signersLength i : Nat}
    {prices : List Nat} (h : Slots compactedPrices signersLength i signersLength prices) :
    ∃ f : Fin signersLength → Nat, List.ofFn f = prices ∧ Monotone f ∧
      ∀ k : Fin signersLength,
        getUncompactedPrice compactedPrices (i * signersLength + k) = .ok (f k) := by
  obtain ⟨f, rfl⟩ := Oracle.exists_ofFn h.length
  refine ⟨f, rfl, ?_, fun k => h.price k (f k) (getElem?_ofFn_fin f k)⟩
  have hpairwise := List.pairwise_ofFn.mp h.sorted.pairwise
  intro k k' hle
  rcases hle.eq_or_lt with rfl | hlt
  · exact le_rfl
  · exact hpairwise hlt

/-- Distinct slots below `n`, one for each of `n` signers, are a bijection. -/
theorem exists_bijective {n : Nat} {slots : List Nat} (hlength : slots.length = n)
    (hnodup : slots.Nodup) (hlt : ∀ j < n, ∃ slot, slots[j]? = some slot ∧ slot < n) :
    ∃ σ : Fin n → Fin n, Function.Bijective σ ∧
      ∀ j : Fin n, slots[(j : Nat)]? = some (σ j : Nat) := by
  obtain ⟨f, rfl⟩ := exists_ofFn hlength
  have hbound : ∀ j, f j < n := by
    intro j
    obtain ⟨slot, hslot, hlt⟩ := hlt j j.isLt
    rw [getElem?_ofFn_fin] at hslot
    exact Option.some.inj hslot ▸ hlt
  refine ⟨fun j => ⟨f j, hbound j⟩, ?_, fun j => getElem?_ofFn_fin f j⟩
  apply Finite.injective_iff_bijective.mp
  intro j j' hslot
  exact List.nodup_ofFn.mp hnodup (Fin.mk.inj hslot)

/-- An iteration that succeeds has a report that each signer has signed. -/
theorem exists_accepted {signers : List Address} {i prevMinOracleBlockNumber : Nat}
    {info : ReportInfo} {minPrices maxPrices : List Nat} {u : Unit}
    (hinfo : getReportInfo env dataStore params prevMinOracleBlockNumber i token = .ok info)
    (hprices : getSignerPrices params signers.length i token signers.length =
      .ok (minPrices, maxPrices))
    (hsigners : validateSigners env params signers.length i info minPrices maxPrices 0 signers
      .empty .empty = .ok u) :
    ∃ report : Report signers.length, report.info = info ∧
      List.ofFn report.minPrices = minPrices ∧ List.ofFn report.maxPrices = maxPrices ∧
      report.Accepted env dataStore params signers i token := by
  obtain ⟨hmin, hmax⟩ := getSignerPrices_spec hprices
  obtain ⟨minSlots, maxSlots, hminLength, hmaxLength, hminFree, hmaxFree, hsigned⟩ :=
    validateSigners_spec hsigners
  obtain ⟨fmin, rfl, hminMono, hminPrice⟩ := hmin.exists_ofFn
  obtain ⟨fmax, rfl, hmaxMono, hmaxPrice⟩ := hmax.exists_ofFn
  have hslots : ∀ k : Fin signers.length, ∃ minSlot maxSlot,
      minSlots[(k : Nat)]? = some minSlot ∧ maxSlots[(k : Nat)]? = some maxSlot ∧
      Signed env params signers.length i k info (List.ofFn fmin) (List.ofFn fmax) (signers.get k)
        minSlot maxSlot := by
    intro k
    have := hsigned k _ (List.getElem?_eq_getElem k.isLt)
    rwa [Nat.zero_add] at this
  obtain ⟨minSlot, hminBijective, hminSlot⟩ := exists_bijective hminLength hminFree.1 fun k hk => by
    obtain ⟨minSlot, _, hget, -, hs⟩ := hslots ⟨k, hk⟩
    have hlt := hs.minSlot_lt
    rw [List.length_ofFn] at hlt
    exact ⟨minSlot, hget, hlt⟩
  obtain ⟨maxSlot, hmaxBijective, hmaxSlot⟩ := exists_bijective hmaxLength hmaxFree.1 fun k hk => by
    obtain ⟨_, maxSlot, -, hget, hs⟩ := hslots ⟨k, hk⟩
    have hlt := hs.maxSlot_lt
    rw [List.length_ofFn] at hlt
    exact ⟨maxSlot, hget, hlt⟩
  have hsignedAt : ∀ j : Fin signers.length, Signed env params signers.length i j info
      (List.ofFn fmin) (List.ofFn fmax) (signers.get j) (minSlot j) (maxSlot j) := by
    intro j
    obtain ⟨minOther, maxOther, hmin, hmax, hs⟩ := hslots j
    rw [hminSlot] at hmin
    rw [hmaxSlot] at hmax
    rw [Option.some.inj hmin, Option.some.inj hmax]
    exact hs
  refine ⟨⟨info, fmin, fmax, minSlot, maxSlot⟩, rfl, rfl, rfl, ?_⟩
  constructor
  case info => exact ⟨_, hinfo⟩
  case minPrices => exact hminPrice
  case maxPrices => exact hmaxPrice
  case minSorted => exact hminMono
  case maxSorted => exact hmaxMono
  case minSlot => exact fun j => (hsignedAt j).minSlot_eq
  case maxSlot => exact fun j => (hsignedAt j).maxSlot_eq
  case minBijective => exact hminBijective
  case maxBijective => exact hmaxBijective
  case signed =>
    intro j
    obtain ⟨minPrice, maxPrice, signature, hmin, hmax, -, hsignature, hrecover⟩ :=
      (hsignedAt j).recovered
    rw [getElem?_ofFn_fin] at hmin hmax
    obtain rfl := Option.some.inj hmin
    obtain rfl := Option.some.inj hmax
    exact ⟨signature, hsignature, hrecover⟩

-- ---------------------------------------------------------------------------
-- Stored prices
-- ---------------------------------------------------------------------------

/-- A positive price is not empty. -/
theorem isEmpty_of_pos {price : Price} (hmin : 0 < price.min) (hle : price.min ≤ price.max) :
    ¬ price.isEmpty = true := by
  simp only [Price.isEmpty, Bool.or_eq_true, beq_iff_eq]
  omega

/-- The stored prices are the medians, in the unit of the token. -/
theorem getMedianPrice_spec {info : ReportInfo} {minPrices maxPrices : List Nat} {price : Price}
    (h : getMedianPrice env dataStore oracle info minPrices maxPrices = .ok price) :
    (oracle.primaryPrices info.token).isEmpty = true ∧ 0 < price.min ∧ price.min ≤ price.max ∧
      (∃ median, Array.getMedian minPrices = .ok median ∧ price.min = median * info.precision) ∧
      ∃ median, Array.getMedian maxPrices = .ok median ∧ price.max = median * info.precision := by
  simp only [getMedianPrice, Result.bind_eq_ok, mul_eq_ok, revertIf, Result.revertIf_eq_ok,
    Result.pure_eq_ok, not_not, not_or, gt_iff_lt, not_lt] at h
  obtain ⟨medianMin, hmin, _, ⟨-, rfl⟩, medianMax, hmax, _, ⟨-, rfl⟩, -, -, -, ⟨hpos, -⟩, -, hle,
    -, hempty, rfl⟩ := h
  exact ⟨hempty, Nat.pos_of_ne_zero hpos, hle, ⟨medianMin, hmin, rfl⟩, medianMax, hmax, rfl⟩

/-- A report is about the token it is read for. -/
theorem getReportInfo_token {prevMinOracleBlockNumber i : Nat} {info : ReportInfo}
    (h : getReportInfo env dataStore params prevMinOracleBlockNumber i token = .ok info) :
    info.token = token := by
  simp only [getReportInfo, Result.bind_eq_ok, Result.pure_eq_ok] at h
  obtain ⟨_, -, _, -, _, -, _, -, _, -, _, -, _, -, _, -, _, -, _, -, _, -, rfl⟩ := h
  rfl

/-- The price of a token that the iterations set stays: a token is not set twice. -/
theorem setPricesFrom_keeps {signers : List Address} {prevMinOracleBlockNumber i : Nat}
    {tokens : List Address}
    (h : setPricesFrom env dataStore signers params prevMinOracleBlockNumber i tokens oracle =
      .ok oracle') (hset : ¬ (oracle.primaryPrices token).isEmpty = true) :
    oracle'.primaryPrices token = oracle.primaryPrices token := by
  induction tokens generalizing prevMinOracleBlockNumber i oracle with
  | nil => rw [← Result.pure_eq_ok.mp h]
  | cons other tokens ih =>
    simp only [setPricesFrom, Result.bind_eq_ok] at h
    obtain ⟨info, hinfo, _, -, _, -, price, hprice, hrest⟩ := h
    have hother := getReportInfo_token hinfo
    obtain ⟨hempty, -⟩ := getMedianPrice_spec hprice
    rw [hother] at hempty
    have hne : token ≠ other := by
      rintro rfl
      exact hset hempty
    have hsame : (oracle.setPrice other price).primaryPrices token = oracle.primaryPrices token :=
      Function.update_of_ne hne _ _
    rw [← hsame]
    exact ih hrest (hsame ▸ hset)

/-- Where a strict majority of the signers signed prices in an interval, the stored price is in
the interval, in the unit of the token. -/
def HeldBy {n : Nat} (signedPrice : Fin n → Nat) (precision price : Nat) : Prop :=
  ∀ a b, n < 2 * (Finset.univ.filter fun j => signedPrice j ∈ Set.Icc a b).card →
    ∃ median ∈ Set.Icc a b, price = median * precision

/-- The median is held by a slot with at least half on either side. -/
theorem heldBy_of_median {n median : Nat} (precision : Nat) {prices : Fin n → Nat}
    {slot : Fin n → Fin n} (hmedian : Array.getMedian (List.ofFn prices) = .ok median)
    (hsorted : Monotone prices)
    (hbijective : Function.Bijective slot) :
    HeldBy (fun j => prices (slot j)) precision (median * precision) := by
  intro a b hmajority
  rw [Median.card_filter_comp hbijective fun k => prices k ∈ Set.Icc a b] at hmajority
  exact ⟨median, Array.getMedian_mem_Icc hmedian hsorted hmajority, rfl⟩

/-- What the signers of a token signed, and how it bounds the stored price. -/
structure SignedPrice (env : OracleEnv) (dataStore : DataStore) (params : SetPricesParams)
    (signers : List Address) (i : Nat) (token : Address) (price : Price)
    (report : Report signers.length) : Prop where
  accepted : report.Accepted env dataStore params signers i token
  token : report.info.token = token
  pos : 0 < price.min
  le : price.min ≤ price.max
  min : HeldBy report.signedMinPrice report.info.precision price.min
  max : HeldBy report.signedMaxPrice report.info.precision price.max

/-- Every price that is set is the median of what the signers signed. -/
theorem setPricesFrom_spec {signers : List Address} {prevMinOracleBlockNumber i : Nat}
    {tokens : List Address}
    (h : setPricesFrom env dataStore signers params prevMinOracleBlockNumber i tokens oracle =
      .ok oracle') {k : Nat} (htoken : tokens[k]? = some token) :
    ∃ report, SignedPrice env dataStore params signers (i + k) token
      (oracle'.primaryPrices token) report := by
  induction tokens generalizing prevMinOracleBlockNumber i oracle k with
  | nil => simp at htoken
  | cons first tokens ih =>
    simp only [setPricesFrom, Result.bind_eq_ok] at h
    obtain ⟨info, hinfo, ⟨minPrices, maxPrices⟩, hprices, _, hsigners, price, hprice, hrest⟩ := h
    cases k with
    | succ k =>
      have hk : i + (k + 1) = i + 1 + k := by omega
      rw [hk]
      exact ih hrest htoken
    | zero =>
      obtain rfl := Option.some.inj htoken
      obtain ⟨report, rfl, rfl, rfl, haccepted⟩ := exists_accepted hinfo hprices hsigners
      obtain ⟨-, hpos, hle, ⟨medianMin, hmin, hminEq⟩, medianMax, hmax, hmaxEq⟩ :=
        getMedianPrice_spec hprice
      have hself : (oracle.setPrice first price).primaryPrices first = price :=
        Function.update_self _ _ _
      have hstored : oracle'.primaryPrices first = price := by
        rw [setPricesFrom_keeps hrest, hself]
        rw [hself]
        exact isEmpty_of_pos hpos hle
      rw [hstored, Nat.add_zero]
      refine ⟨report, haccepted, getReportInfo_token hinfo, hpos, hle, ?_, ?_⟩
      · rw [hminEq]
        have hheld := heldBy_of_median report.info.precision hmin haccepted.minSorted
          haccepted.minBijective
        exact hheld
      · rw [hmaxEq]
        have hheld := heldBy_of_median report.info.precision hmax haccepted.maxSorted
          haccepted.maxBijective
        exact hheld

/-- **No minority of the signers sets a price.** The signers of a call that succeeds are distinct
and registered. For each token with a report, each signer owns one min and one max price of it and
signed those two with the rest of the report; a stored price lies where the prices of a strict
majority lie; and it is positive, with the min price at most the max price. -/
theorem setPrices_signed (h : setPrices env dataStore params oracle = .ok oracle') {i : Nat}
    (htoken : params.tokens[i]? = some token) :
    ∃ signers, getSigners env dataStore params = .ok signers ∧ signers.Nodup ∧
      (∀ signer ∈ signers, signer ∈ env.oracleStore.signers) ∧
      ∃ report, SignedPrice env dataStore params signers i token (oracle'.primaryPrices token)
        report := by
  simp only [setPrices, Result.bind_eq_ok] at h
  obtain ⟨-, -, oracleAfterFeeds, -, h⟩ := h
  split at h
  · rename_i hempty
    rw [List.length_eq_zero_iff.mp hempty] at htoken
    simp at htoken
  · obtain ⟨signers, hsigners, h⟩ := Result.bind_eq_ok.mp h
    obtain ⟨hnodup, hregistered⟩ := getSigners_spec hsigners
    refine ⟨signers, hsigners, hnodup, hregistered, ?_⟩
    have := setPricesFrom_spec h htoken
    rwa [Nat.zero_add] at this

/-- Three signers; a signature names its signer and the two prices it is good for. -/
def sampleEnv : OracleEnv where
  timestamp := 100
  blockNumber := 10
  getBlockHash _ := 77
  chainId := 1
  oracleStore := ((OracleStore.empty.addSigner 11).addSigner 12).addSigner 13
  latestRoundData _ := (0, 0)
  recover digest signature :=
    match signature with
    | [signer, minPrice, maxPrice] =>
      if digest.info.minPrice = minPrice.toNat ∧ digest.info.maxPrice = maxPrice.toNat then
        .ok signer.toNat
      else .ok 0
    | _ => .error (.message "ECDSA: invalid signature length")

/-- Reports on token `7` with two decimals: the signers 11, 12 and 13 signed the min prices 6, 5
and 9, in the slots 1, 0 and 2. -/
def sampleParams : SetPricesParams where
  signerInfo := 3 + 0 <<< 16 + 1 <<< 32 + 2 <<< 48
  tokens := [7]
  compactedMinOracleBlockNumbers := [10]
  compactedMaxOracleBlockNumbers := [10]
  compactedOracleTimestamps := [100]
  compactedDecimals := [2]
  compactedMinPrices := [5 + 6 <<< 32 + 9 <<< 64]
  compactedMinPricesIndexes := [1 + 0 <<< 8 + 2 <<< 16]
  compactedMaxPrices := [6 + 7 <<< 32 + 10 <<< 64]
  compactedMaxPricesIndexes := [1 + 0 <<< 8 + 2 <<< 16]
  signatures := [[11, 6, 7], [12, 5, 6], [13, 9, 10]]
  priceFeedTokens := []

/-- The medians are those of 5, 6, 9 and 6, 7, 10. -/
theorem setPrices_signed_sample :
    ∃ oracle', setPrices sampleEnv .empty sampleParams .empty = .ok oracle' ∧
      oracle'.primaryPrices 7 = ⟨600, 700⟩ ∧
      ∃ signers report, SignedPrice sampleEnv .empty sampleParams signers 0 7
        (oracle'.primaryPrices 7) report := by
  have hrun : (setPrices sampleEnv .empty sampleParams .empty).Satisfies fun oracle' =>
      oracle'.primaryPrices 7 = ⟨600, 700⟩ := by
    decide +kernel
  obtain ⟨oracle', h, hprice⟩ := hrun.exists
  have htoken : sampleParams.tokens[0]? = some 7 := rfl
  obtain ⟨signers, -, -, -, report, hsigned⟩ := setPrices_signed h htoken
  exact ⟨oracle', h, hprice, signers, report, hsigned⟩

end Oracle

end GmxSynthetics
