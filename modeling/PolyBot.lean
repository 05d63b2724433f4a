import PolyBot.Dex.FeeBounds
import PolyBot.Dex.Volatility
import PolyBot.Dex.Volume
import PolyBot.Dex.SparseRun
import PolyBot.Dex.AfterState
import PolyBot.Dex.InputCurve
import PolyBot.Dex.Delivery
import PolyBot.Dex.FusedCurve
import PolyBot.Dex.StaticRun
import PolyBot.MarketData.CanonicalOrder
import PolyBot.Wallet.Replay
import PolyBot.Wallet.Agreement
import PolyBot.Trade.Balance
import PolyBot.Trade.Replay
import PolyBot.Trade.Mailbox
import PolyBot.Inventory.Barrier
import PolyBot.Portfolio.Allocator
import PolyBot.Strategy.Scheduler
import PolyBot.Opportunity.Runtime
import PolyBot.Binance.Depth
import PolyBot.Rebalance.Saga
import PolyBot.Rebalance.Active
import PolyBot.Rebalance.Replay
import PolyBot.Rebalance.WithdrawalStep
import PolyBot.Bridge.Quote
import PolyBot.Bridge.HexText
import PolyBot.Opportunity.CostHistory
