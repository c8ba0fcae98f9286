import GmxSynthetics.Evm.Arithmetic
import GmxSynthetics.Evm.Transaction
import GmxSynthetics.Evm.EnumerableSet
import GmxSynthetics.Evm.Custody
import GmxSynthetics.Data.Keys
import GmxSynthetics.Data.Errors
import GmxSynthetics.Data.DataStore
import GmxSynthetics.Market.Market
import GmxSynthetics.Market.Borrowing
import GmxSynthetics.Market.Funding
import GmxSynthetics.Market.PoolValue
import GmxSynthetics.Market.PoolValueSpread
import GmxSynthetics.Market.Ledger
import GmxSynthetics.Bank.Bank
import GmxSynthetics.Position.Position
import GmxSynthetics.Pricing.SwapPricing
import GmxSynthetics.Pricing.PositionPricing
import GmxSynthetics.Swap.SwapUtils
import GmxSynthetics.Order.Order
import GmxSynthetics.Position.PositionUtils
import GmxSynthetics.Position.IncreasePosition
import GmxSynthetics.Position.DecreaseCollateral
import GmxSynthetics.Position.DecreasePosition
import GmxSynthetics.Order.OrderStore
import GmxSynthetics.Deposit.DepositStore
import GmxSynthetics.Withdrawal.WithdrawalStore
import GmxSynthetics.Exchange.RequestUtils
import GmxSynthetics.Gas.GasUtils
import GmxSynthetics.Order.ProcessOrder
import GmxSynthetics.Order.OrderUtils
import GmxSynthetics.Deposit.DepositUtils
import GmxSynthetics.Withdrawal.WithdrawalUtils
import GmxSynthetics.Exchange.Handlers
import GmxSynthetics.Data.Footprint
import GmxSynthetics.Data.RecordStore
import GmxSynthetics.Market.LedgerFootprint
import GmxSynthetics.Bank.BankFootprint
import GmxSynthetics.Swap.SwapFootprint
import GmxSynthetics.Position.UpdateRuns
import GmxSynthetics.Position.PositionFootprint
import GmxSynthetics.Market.Book
import GmxSynthetics.Swap.SwapBook
import GmxSynthetics.Position.PositionBook
import GmxSynthetics.Position.Conservation
import GmxSynthetics.Position.ForceClose
import GmxSynthetics.Position.FundingSettlement
import GmxSynthetics.Evm.Machine
import GmxSynthetics.Evm.Median
import GmxSynthetics.Market.MarketFactory
import GmxSynthetics.Position.Accounting
import GmxSynthetics.Position.PositionStore
import GmxSynthetics.Position.AggregateShift
import GmxSynthetics.Position.PositionAccounting
import GmxSynthetics.Exchange.RequestStores
import GmxSynthetics.Exchange.RecordStores
import GmxSynthetics.Oracle.OracleUtils
import GmxSynthetics.Oracle.Oracle
import GmxSynthetics.Oracle.SignedPrices
import GmxSynthetics.Oracle.PriceLifecycle
import GmxSynthetics.Config.Config
import GmxSynthetics.Config.ConfigReach
import GmxSynthetics.Pricing.ImpactRoundTrip
import GmxSynthetics.Position.Exposure
import GmxSynthetics.Position.VirtualInventory
import GmxSynthetics.Evm.Tally
import GmxSynthetics.Market.Claims
import GmxSynthetics.Market.ClaimBatches
import GmxSynthetics.Market.MarketCustody
import GmxSynthetics.Market.ClaimCustody
import GmxSynthetics.Market.ClaimAccounts
import GmxSynthetics.Position.FundingSolvency
import GmxSynthetics.Exchange.RequestRuns
import GmxSynthetics.Exchange.RequestFootprint
import GmxSynthetics.Swap.SwapPath
import GmxSynthetics.Swap.SwapCustody
import GmxSynthetics.Exchange.RequestBook
import GmxSynthetics.Order.OrderFootprint
import GmxSynthetics.Exchange.RequestLifecycle
import GmxSynthetics.Order.OrderAccounting
import GmxSynthetics.Evm.Escrow
import GmxSynthetics.Bank.VaultBalance
import GmxSynthetics.Exchange.VaultFlow
import GmxSynthetics.Bank.Receipts
import GmxSynthetics.Bank.Delivery
import GmxSynthetics.Exchange.RequestCustody
import GmxSynthetics.Exchange.VaultEscrow
import GmxSynthetics.Exchange.RequestSettlement
import GmxSynthetics.Evm.Raises
import GmxSynthetics.Evm.Underflow
import GmxSynthetics.Evm.PackedEncoding
import GmxSynthetics.Evm.Pending
import GmxSynthetics.Swap.SwapOutput
import GmxSynthetics.Position.WithdrawnCollateralSwap
import GmxSynthetics.Order.ExecutionPrice
import GmxSynthetics.Reader.ReaderUtils
import GmxSynthetics.Reader.ExecutionPrice
import GmxSynthetics.Reader.SwapAmountOut
import GmxSynthetics.Reader.PositionInfo
import GmxSynthetics.Position.EntryPrice
import GmxSynthetics.Position.CappedImpact
import GmxSynthetics.Position.ImpactPnl
import GmxSynthetics.Config.Timelock
import GmxSynthetics.Config.TimelockSafety
import GmxSynthetics.Config.Governance
import GmxSynthetics.Exchange.Exchange
import GmxSynthetics.Exchange.ExchangeFootprint
import GmxSynthetics.Exchange.ExchangeSettlement
import GmxSynthetics.Exchange.VaultSafety
import GmxSynthetics.Position.DecreaseSums
import GmxSynthetics.Exchange.ExchangeAccounting
import GmxSynthetics.Exchange.OpenPositions
import GmxSynthetics.Position.PositionCustody
import GmxSynthetics.Order.OrderRuns
import GmxSynthetics.Order.OrderCustody
import GmxSynthetics.Swap.SwapDelivery
import GmxSynthetics.Order.OrderProceeds
import GmxSynthetics.Exchange.CallCustody
import GmxSynthetics.Exchange.MarketSolvency
import GmxSynthetics.Exchange.RequestAuthority
import GmxSynthetics.Exchange.PositionAuthority
import GmxSynthetics.Exchange.OrderTerms
import GmxSynthetics.Exchange.ForcedCloses
import GmxSynthetics.Exchange.LiquidityTerms
import GmxSynthetics.Router.Router
import GmxSynthetics.Exchange.Cancellation
import GmxSynthetics.Evm.Shares
import GmxSynthetics.Market.PoolValueGrowth
import GmxSynthetics.Bank.MarketTokenSupply
import GmxSynthetics.Exchange.RoundTrip
import GmxSynthetics.Exchange.WithdrawalProceeds
import GmxSynthetics.Position.Underflows
import GmxSynthetics.Exchange.WithdrawalCap
import GmxSynthetics.Market.FundingAccumulators
import GmxSynthetics.Utils.EnumerableValues
import GmxSynthetics.Evm.Lanes
import GmxSynthetics.Oracle.CompactedValues
import GmxSynthetics.Pricing.FeeDecomposition
import GmxSynthetics.Position.ExecutionPriceSafety
import GmxSynthetics.Exchange.ImpactPools
import GmxSynthetics.Evm.PathCost
import GmxSynthetics.Pricing.PathIndependence
import GmxSynthetics.Position.SplitClose
import GmxSynthetics.Router.RouterRuns
