import GmxSynthetics.Utils.Array

/-!
# OracleUtils and OracleStore

`OracleUtils.sol`: the report that oracle signers sign, and the packed arrays in which a keeper
submits it. `OracleStore.sol`: the set of signers.

The hash that a signer signs is taken to be collision free: a digest *is* what gets hashed.
-/

namespace GmxSynthetics

open Evm

-- ---------------------------------------------------------------------------
-- OracleStore.sol
-- ---------------------------------------------------------------------------

/-- The registered signers. -/
structure OracleStore where
  signers : List Address
  nodup : signers.Nodup

namespace OracleStore

def empty : OracleStore := ⟨[], List.nodup_nil⟩

def addSigner (oracleStore : OracleStore) (account : Address) : OracleStore :=
  ⟨EnumerableSet.add oracleStore.signers account, EnumerableSet.nodup_add oracleStore.nodup account⟩

def getSigner (oracleStore : OracleStore) (index : Nat) : Result Address :=
  Array.read oracleStore.signers index

/-- A signer stands under one index only. -/
theorem getSigner_inj {oracleStore : OracleStore} {i j : Nat} {account : Address}
    (hi : oracleStore.getSigner i = .ok account) (hj : oracleStore.getSigner j = .ok account) :
    i = j := by
  rw [getSigner, Array.read_eq_ok] at hi hj
  have hlt := (List.getElem?_eq_some_iff.mp hi).1
  exact (List.getElem?_inj hlt oracleStore.nodup).mp (hi.trans hj.symm)

theorem mem_of_getSigner {oracleStore : OracleStore} {i : Nat} {account : Address}
    (h : oracleStore.getSigner i = .ok account) : account ∈ oracleStore.signers := by
  rw [getSigner, Array.read_eq_ok] at h
  exact List.mem_of_getElem? h

end OracleStore

-- ---------------------------------------------------------------------------
-- Reports
-- ---------------------------------------------------------------------------

namespace OracleUtils

structure SetPricesParams where
  signerInfo : Nat
  tokens : List Address
  compactedMinOracleBlockNumbers : List Nat
  compactedMaxOracleBlockNumbers : List Nat
  compactedOracleTimestamps : List Nat
  compactedDecimals : List Nat
  compactedMinPrices : List Nat
  compactedMinPricesIndexes : List Nat
  compactedMaxPrices : List Nat
  compactedMaxPricesIndexes : List Nat
  signatures : List Bytes
  priceFeedTokens : List Address
  deriving DecidableEq, Repr

structure ReportInfo where
  minOracleBlockNumber : Nat
  maxOracleBlockNumber : Nat
  oracleTimestamp : Nat
  blockHash : Nat
  token : Address
  tokenOracleType : Nat
  precision : Nat
  minPrice : Nat
  maxPrice : Nat
  deriving DecidableEq, Repr

/-- `keccak256(abi.encode(block.chainid, "xget-oracle-v1"))`. -/
structure Salt where
  chainId : Nat
  name : String
  deriving DecidableEq, Repr

/-- `ECDSA.toEthSignedMessageHash(keccak256(abi.encode(salt, …)))`. -/
structure Digest where
  salt : Salt
  info : ReportInfo
  deriving DecidableEq, Repr

def COMPACTED_PRICE_BIT_LENGTH : Nat := 32

def COMPACTED_PRICE_BITMASK : Nat := Bits.BITMASK_32

def COMPACTED_PRECISION_BIT_LENGTH : Nat := 8

def COMPACTED_PRECISION_BITMASK : Nat := Bits.BITMASK_8

def COMPACTED_BLOCK_NUMBER_BIT_LENGTH : Nat := 64

def COMPACTED_BLOCK_NUMBER_BITMASK : Nat := Bits.BITMASK_64

def COMPACTED_TIMESTAMP_BIT_LENGTH : Nat := 64

def COMPACTED_TIMESTAMP_BITMASK : Nat := Bits.BITMASK_64

def COMPACTED_PRICE_INDEX_BIT_LENGTH : Nat := 8

def COMPACTED_PRICE_INDEX_BITMASK : Nat := Bits.BITMASK_8

def getUncompactedPrice (compactedPrices : List Nat) (index : Nat) : Result Nat := do
  let price ← Array.getUncompactedValue compactedPrices index COMPACTED_PRICE_BIT_LENGTH
    COMPACTED_PRICE_BITMASK "getUncompactedPrice"
  revertIf (price = 0) (.EmptyCompactedPrice index)
  pure price

def getUncompactedDecimal (compactedDecimals : List Nat) (index : Nat) : Result Nat :=
  Array.getUncompactedValue compactedDecimals index COMPACTED_PRECISION_BIT_LENGTH
    COMPACTED_PRECISION_BITMASK "getUncompactedDecimal"

def getUncompactedPriceIndex (compactedPriceIndexes : List Nat) (index : Nat) : Result Nat :=
  Array.getUncompactedValue compactedPriceIndexes index COMPACTED_PRICE_INDEX_BIT_LENGTH
    COMPACTED_PRICE_INDEX_BITMASK "getUncompactedPriceIndex"

def getUncompactedOracleBlockNumber (compactedOracleBlockNumbers : List Nat) (index : Nat) :
    Result Nat := do
  let blockNumber ← Array.getUncompactedValue compactedOracleBlockNumbers index
    COMPACTED_BLOCK_NUMBER_BIT_LENGTH COMPACTED_BLOCK_NUMBER_BITMASK
    "getUncompactedOracleBlockNumber"
  revertIf (blockNumber = 0) (.EmptyCompactedBlockNumber index)
  pure blockNumber

def getUncompactedOracleTimestamp (compactedOracleTimestamps : List Nat) (index : Nat) :
    Result Nat := do
  let timestamp ← Array.getUncompactedValue compactedOracleTimestamps index
    COMPACTED_TIMESTAMP_BIT_LENGTH COMPACTED_TIMESTAMP_BITMASK "getUncompactedOracleTimestamp"
  revertIf (timestamp = 0) (.EmptyCompactedTimestamp index)
  pure timestamp

/-- `recover` is `ECDSA.recover`, a third-party library. -/
def validateSigner (recover : Digest → Bytes → Result Address) (salt : Salt) (info : ReportInfo)
    (signature : Bytes) (expectedSigner : Address) : Result Unit := do
  let recoveredSigner ← recover ⟨salt, info⟩ signature
  revertIf (recoveredSigner ≠ expectedSigner) (.InvalidSignature recoveredSigner expectedSigner)

theorem validateSigner_eq_ok {recover : Digest → Bytes → Result Address} {salt : Salt}
    {info : ReportInfo} {signature : Bytes} {expectedSigner : Address} {u : Unit} :
    validateSigner recover salt info signature expectedSigner = .ok u ↔
      recover ⟨salt, info⟩ signature = .ok expectedSigner := by
  simp only [validateSigner, Result.bind_eq_ok, revertIf, Result.revertIf_eq_ok, not_not]
  constructor
  · rintro ⟨_, h, rfl⟩
    exact h
  · intro h
    exact ⟨_, h, rfl⟩

end OracleUtils

end GmxSynthetics
