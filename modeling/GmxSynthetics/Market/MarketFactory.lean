import GmxSynthetics.Data.Footprint
import GmxSynthetics.Market.Market

/-!
# Creating markets

`MarketFactory.sol` and the writing half of `MarketStoreUtils.sol`. A market is listed under
the address of its market token, a contract that is deployed with it, and is never changed
or taken off the list afterwards.
-/

namespace GmxSynthetics

open Evm

namespace MarketStoreUtils

def set (dataStore : DataStore) (key : Address) (salt : Key) (market : Market) : DataStore :=
  let dataStore := dataStore.addAddress (.base .MARKET_LIST) key
  let dataStore := dataStore.setAddress salt key
  let dataStore := dataStore.setAddress (.marketField key .MARKET_TOKEN) market.marketToken
  let dataStore := dataStore.setAddress (.marketField key .INDEX_TOKEN) market.indexToken
  let dataStore := dataStore.setAddress (.marketField key .LONG_TOKEN) market.longToken
  dataStore.setAddress (.marketField key .SHORT_TOKEN) market.shortToken

end MarketStoreUtils

/-- `createMarket`; `marketToken` is the address at which the market token is deployed. -/
def MarketFactory.createMarket (marketToken indexToken longToken shortToken : Address)
    (marketType : Nat) : Tx Market := do
  let salt := Keys.marketSaltHash indexToken longToken shortToken marketType
  let existingMarketAddress ← readStore (·.getAddress salt)
  revertIf (existingMarketAddress ≠ 0) (.MarketAlreadyExists salt existingMarketAddress)
  let market : Market := { marketToken, indexToken, longToken, shortToken }
  writeStore (MarketStoreUtils.set · marketToken salt market)
  pure market

-- ---------------------------------------------------------------------------
-- The market list
-- ---------------------------------------------------------------------------

namespace MarketStoreUtils

variable {dataStore dataStore' : DataStore}

theorem get_of_not_mem {key : Address} (h : key ∉ dataStore.addressSets (.base .MARKET_LIST)) :
    get dataStore key = ⟨0, 0, 0, 0⟩ := by
  unfold get DataStore.containsAddress
  rw [if_neg (by simpa using h)]

/-- An enabled market is listed. -/
theorem mem_of_marketToken_ne {key : Address} (h : (get dataStore key).marketToken ≠ 0) :
    key ∈ dataStore.addressSets (.base .MARKET_LIST) := by
  by_contra hmem
  rw [get_of_not_mem hmem] at h
  exact h rfl

theorem get_congr {key : Address}
    (hlist : dataStore'.containsAddress (.base .MARKET_LIST) key =
      dataStore.containsAddress (.base .MARKET_LIST) key)
    (hfields : ∀ f, dataStore'.getAddress (.marketField key f) =
      dataStore.getAddress (.marketField key f)) : get dataStore' key = get dataStore key := by
  simp only [get, hlist, hfields]

/-- What leaves the list and the fields alone leaves every market. -/
theorem get_sameOff {slots : List Slot} {w w' : World} (h : World.SameOff slots w w')
    (hlist : Slot.constant .MARKET_LIST ∉ slots) (hmarket : Slot.market ∉ slots)
    (key : Address) : get w'.dataStore key = get w.dataStore key := by
  apply get_congr
  · simp only [DataStore.containsAddress, h.addressSet _ hlist (.base .MARKET_LIST) rfl]
  · intro f
    exact h.address _ hmarket _ rfl

theorem get_set_self (key : Address) (salt : Key) (market : Market) :
    get (set dataStore key salt market) key = market := by
  simp [get, set, DataStore.containsAddress, DataStore.addAddress, DataStore.setAddress,
    DataStore.getAddress, EnumerableSet.mem_add]

theorem get_set_of_ne {key key' : Address} (h : key' ≠ key) (salt : Key) (market : Market)
    (hsalt : ∀ f, salt ≠ .marketField key' f) :
    get (set dataStore key salt market) key' = get dataStore key' := by
  apply get_congr
  · simp [set, DataStore.containsAddress, DataStore.addAddress, DataStore.setAddress,
      EnumerableSet.mem_add, h]
  · intro f
    simp [set, DataStore.addAddress, DataStore.setAddress, DataStore.getAddress, h,
      (hsalt f).symm]

end MarketStoreUtils

/-- Which markets are enabled depends on their records and flags only. -/
theorem MarketUtils.getEnabledMarket_congr {slots : List Slot} {w w' : World}
    (hsame : World.SameOff slots w w')
    (hslots : Slot.constant .MARKET_LIST ∉ slots ∧ Slot.market ∉ slots ∧
      Slot.constant .IS_MARKET_DISABLED ∉ slots) (marketAddress : Address) :
    getEnabledMarket w'.dataStore marketAddress = getEnabledMarket w.dataStore marketAddress := by
  obtain ⟨hlist, hmarket, hdisabled⟩ := hslots
  have hflag := hsame.bool _ hdisabled
    (Keys.isMarketDisabledKey (MarketStoreUtils.get w.dataStore marketAddress).marketToken) rfl
  unfold getEnabledMarket validateEnabledMarket
  dsimp only
  rw [MarketStoreUtils.get_sameOff hsame hlist hmarket, hflag]

/-- So does which paths can be walked. -/
theorem MarketUtils.getEnabledMarkets_congr {slots : List Slot} {w w' : World}
    (hsame : World.SameOff slots w w')
    (hslots : Slot.constant .MARKET_LIST ∉ slots ∧ Slot.market ∉ slots ∧
      Slot.constant .IS_MARKET_DISABLED ∉ slots) (swapPath : List Address) :
    getEnabledMarkets w'.dataStore swapPath = getEnabledMarkets w.dataStore swapPath := by
  have hmarkets : getEnabledMarket w'.dataStore = getEnabledMarket w.dataStore :=
    funext (getEnabledMarket_congr hsame hslots)
  unfold getEnabledMarkets
  rw [hmarkets]

/-- A market that is stored is stored under its own address. -/
def MarketsKeyed (dataStore : DataStore) : Prop :=
  ∀ key, (MarketStoreUtils.get dataStore key).marketToken ≠ 0 →
    (MarketStoreUtils.get dataStore key).marketToken = key

theorem MarketsKeyed.of_market_eq {dataStore dataStore' : DataStore}
    (hkeyed : MarketsKeyed dataStore)
    (h : MarketStoreUtils.get dataStore' = MarketStoreUtils.get dataStore) :
    MarketsKeyed dataStore' := by
  unfold MarketsKeyed
  rw [h]
  exact hkeyed

/-- No market is stored with the address as its market token. -/
def NoMarket (account : Address) (dataStore : DataStore) : Prop :=
  ∀ key, (MarketStoreUtils.get dataStore key).marketToken ≠ account

theorem NoMarket.of_market_eq {account : Address} {dataStore dataStore' : DataStore}
    (hnone : NoMarket account dataStore)
    (h : MarketStoreUtils.get dataStore' = MarketStoreUtils.get dataStore) :
    NoMarket account dataStore' := by
  unfold NoMarket
  rw [h]
  exact hnone

theorem MarketUtils.validateEnabledMarket_eq_ok {dataStore : DataStore} {market : Market}
    {u : Unit} (h : validateEnabledMarket dataStore market = .ok u) : market.marketToken ≠ 0 := by
  simp only [validateEnabledMarket, Result.bind_eq_ok, Result.revertIf_eq_ok] at h
  obtain ⟨_, hmarket, -⟩ := h
  exact hmarket

/-- An enabled market is the stored one. -/
theorem MarketUtils.getEnabledMarket_eq_ok {dataStore : DataStore} {marketAddress : Address}
    {market : Market} (h : getEnabledMarket dataStore marketAddress = .ok market) :
    market = MarketStoreUtils.get dataStore marketAddress ∧ market.marketToken ≠ 0 := by
  simp only [getEnabledMarket, Result.bind_eq_ok, Result.pure_eq_ok] at h
  obtain ⟨_, hmarket, rfl⟩ := h
  exact ⟨rfl, validateEnabledMarket_eq_ok hmarket⟩

theorem MarketUtils.validatePositionMarket_eq_ok {dataStore : DataStore} {market : Market}
    {u : Unit} (h : validatePositionMarket dataStore market = .ok u) :
    market.marketToken ≠ 0 := by
  simp only [validatePositionMarket, Result.bind_eq_ok] at h
  obtain ⟨_, hmarket, -⟩ := h
  exact validateEnabledMarket_eq_ok hmarket

/-- A market that is created is stored under its own address. -/
theorem MarketFactory.createMarket_eq_ok {marketToken indexToken longToken shortToken : Address}
    {marketType : Nat} {market : Market} {w w' : World}
    (h : createMarket marketToken indexToken longToken shortToken marketType w = .ok (market, w')) :
    market = ⟨marketToken, indexToken, longToken, shortToken⟩ ∧
      w' = { w with
        dataStore := MarketStoreUtils.set w.dataStore marketToken
          (Keys.marketSaltHash indexToken longToken shortToken marketType) market } := by
  simp only [createMarket, ↓readStore_bind_eq_ok, ↓Tx.lift_bind_eq_ok, ↓writeStore_bind_eq_ok,
    Tx.pure_eq_ok] at h
  obtain ⟨_, -, rfl, rfl⟩ := h
  exact ⟨rfl, rfl⟩

theorem MarketFactory.createMarket_writes {slots : List Slot}
    (hlist : Slot.constant .MARKET_LIST ∈ slots) (hsalt : Slot.constant .MARKET_SALT ∈ slots)
    (hmarket : Slot.market ∈ slots)
    (marketToken indexToken longToken shortToken : Address) (marketType : Nat) :
    Writes slots (createMarket marketToken indexToken longToken shortToken marketType) :=
  (Writes.readStore _).bind fun _ => (Writes.lift _).bind fun _ =>
    (Writes.writeStore (.comp (.addAddress hlist _) <| .comp (.setAddress hsalt _) <|
      .comp (.setAddress hmarket _) <| .comp (.setAddress hmarket _) <|
      .comp (.setAddress hmarket _) (.setAddress hmarket _))).bind fun _ => .pure _

end GmxSynthetics
