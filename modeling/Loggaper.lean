import Loggaper.Lib.Transition
import Loggaper.Lib.KeyedMap
import Loggaper.Lib.Interact
import Loggaper.Helper
import Loggaper.Autobuy.Broker
import Loggaper.Autobuy.ExitEngine
import Loggaper.Autobuy.Positions
import Loggaper.Scoring.StrategyController
import Loggaper.Autobuy.WalletRegistry
import Loggaper.Autobuy.CurveQuarantine
import Loggaper.Autobuy.PostExitTracker
import Loggaper.Manager.Config
import Loggaper.Manager.Tick
import Loggaper.Manager.Stages
import Loggaper.Manager.TickFrames
import Loggaper.Manager.TickSpec
import Loggaper.Manager.Actor
import Loggaper.Manager.System
import Loggaper.Manager.Turns
import Loggaper.Abstract.Desk
import Loggaper.Manager.Refines
import Loggaper.Manager.Buys
import Loggaper.Manager.Rows
import Loggaper.Manager.Holdings
import Loggaper.Manager.SellFlags
import Loggaper.Solana.Node
import Loggaper.Solana.BondingCurve
import Loggaper.Solana.JupiterSell
import Loggaper.Solana.PumpBrocker
import Loggaper.Solana.Buy
import Loggaper.Solana.Sell
import Loggaper.Solana.Questions
import Loggaper.Solana.Purchases
import Loggaper.Solana.Sales
import Loggaper.Solana.JupiterSales
import Loggaper.Solana.CurveSales
import Loggaper.Solana.FullExits
import Loggaper.Feed.Pump
import Loggaper.Launchpads.Pump.Pool
import Loggaper.Launchpads.Pump.MarketCap
import Loggaper.Pipeline.ScoreBuy
import Loggaper.Manager.OperatorCap
import Loggaper.Manager.TradeBudget
import Loggaper.Solana.SlippageFloor
import Loggaper.Lib.ConstantProduct
import Loggaper.Solana.CurveClamp
import Loggaper.Lib.Accounts
import Loggaper.Trading.Swarm
import Loggaper.Launchpads.Pump.Launchpad
import Loggaper.Launchpads.Pump.History
import Loggaper.Launchpads.Pump.Ledger
import Loggaper.Launchpads.Pump.Traders
import Loggaper.Scoring.Features
import Loggaper.Scoring.EarlyTape
import Loggaper.Pipelines.Pump
import Loggaper.Pipelines.Forwarding
import Loggaper.Manager.ExitPrice
import Loggaper.Manager.RowChange
import Loggaper.Manager.Noted
import Loggaper.Manager.Closings
import Loggaper.Manager.Outcomes
import Loggaper.Lib.Tally
import Loggaper.Lib.Streak
import Loggaper.Manager.StopLoss
import Loggaper.Scoring.DevRanker
import Loggaper.Scoring.SmartMoney
import Loggaper.Setup.Waiter
import Loggaper.Pipeline.FreshWatchlist
import Loggaper.Lib.Value
import Loggaper.Server.PutWallets
import Loggaper.Persistence.WriteQueue
import Loggaper.Scoring.Config
import Loggaper.Learning.Merge
import Loggaper.Learning.Engine
import Loggaper.Scoring.TokenFeatures
import Loggaper.Scoring.LivePosition
import Loggaper.Manager.LiveTape
import Loggaper.Scoring.ScoreEngine
import Loggaper.Scoring.FreshLane
import Loggaper.Pipeline.Continuation
import Loggaper.Lib.Median
import Loggaper.Autobuy.ExitFilter
import Loggaper.Scoring.Pauses
import Loggaper.Manager.TimeKill
import Loggaper.Manager.RowHistory
import Loggaper.Manager.EntryFloor
import Loggaper.Manager.MomentumDecay
import Loggaper.Manager.Flush
import Loggaper.Manager.DecayBaseline
import Loggaper.Manager.ProfitFloor
import Loggaper.Manager.Protection
import Loggaper.Manager.Ladder
import Loggaper.Manager.LiveRates
import Loggaper.Scoring.ScoreItems
import Loggaper.Scoring.GateEvidence
import Loggaper.Scoring.BuyerVelocity
import Loggaper.Scoring.ScoreMono
import Loggaper.Pipeline.ScoringWindow
import Loggaper.Pipeline.DemandGate
import Loggaper.Trading.CostBasis
import Loggaper.Lib.Search
import Loggaper.Lib.Decimal
import Loggaper.Autobuy.DevBlacklist
import Loggaper.Lib.Lines
import Loggaper.Server.RewriteMode
import Loggaper.Server.ModeSection
import Loggaper.Server.Chart
import Loggaper.Solana.JupiterChunks
import Loggaper.Lib.Recent
import Loggaper.Feed.SelfDedup
import Loggaper.AmountText
import Loggaper.Lib.Codec
import Loggaper.Sips.RawInstruction
import Loggaper.Sips.Instructions
import Loggaper.Lib.TextSlice
import Loggaper.Lib.Json
import Loggaper.Solana.JupiterPrice
import Loggaper.Persistence.TapeTimes
import Loggaper.Feed.LogsFeed
import Loggaper.Lib.Base64
import Loggaper.Feed.EventLog
import Loggaper.Feed.Delivery
import Loggaper.Feed.CrossDedup
import Loggaper.Feed.Health
import Loggaper.Pipeline.EntryGates
import Loggaper.Scoring.Standing
import Loggaper.Pipeline.Entry
import Loggaper.Pipeline.Admission
import Loggaper.Lib.WriteBack
import Loggaper.Scoring.Registries
import Loggaper.Feed.Metrics
import Loggaper.Lib.Ledger
import Loggaper.Manager.Cash
import Loggaper.Autobuy.BrokerMock
import Loggaper.Manager.Demo
import Loggaper.Lib.ReadThrough
import Loggaper.Persistence.CreatorStats
import Loggaper.Manager.CloseReason
import Loggaper.Manager.DevBans
import Loggaper.Setup.Recorder
import Loggaper.Lib.Extremes
import Loggaper.Autobuy.PostExitTracking
import Loggaper.Dashboard.History
