import PredictATrade.Lib.Runs
import PredictATrade.Lib.Table
import PredictATrade.Lib.Decimal
import PredictATrade.Lib.Grid
import PredictATrade.Lib.Binary64
import PredictATrade.Lib.Number
import PredictATrade.Lib.Attempt
import PredictATrade.Lib.Calendar
import PredictATrade.Control.Schema
import PredictATrade.Control.CommissionEngine
import PredictATrade.Control.Credit
import PredictATrade.Control.CreditComplete
import PredictATrade.Control.Lifecycle
import PredictATrade.Control.Payouts
import PredictATrade.Control.System
import PredictATrade.Control.Reservation
import PredictATrade.Control.Refinement
import PredictATrade.Control.AtMostOnce
import PredictATrade.Control.Withdrawable
import PredictATrade.Control.Reconcile
import PredictATrade.Control.Frames
import PredictATrade.Control.Reversals
import PredictATrade.Control.Conservation
import PredictATrade.Realtime.Types
import PredictATrade.Realtime.Features
import PredictATrade.Realtime.Gates
import PredictATrade.Realtime.Engine
import PredictATrade.Realtime.Executable
import PredictATrade.Realtime.Recovery
import PredictATrade.Realtime.Advanced
import PredictATrade.DeviceAuth.Schema
import PredictATrade.DeviceAuth.Service
import PredictATrade.DeviceAuth.Finality
import PredictATrade.DeviceAuth.Leases
import PredictATrade.DeviceAuth.Nonces
import PredictATrade.Billing.Nowpayments
import PredictATrade.Billing.Settlement
import PredictATrade.Billing.AtLeastOnce
import PredictATrade.Billing.Stripe
import PredictATrade.Billing.Periods
import PredictATrade.Realtime.Polarity
import PredictATrade.Realtime.MarketState
import PredictATrade.Realtime.Scoring
import PredictATrade.Realtime.Geometry
import PredictATrade.Realtime.EntryGate
import PredictATrade.Realtime.Strategies
import PredictATrade.Realtime.Veto
import PredictATrade.Realtime.TradeResults
import PredictATrade.Realtime.Isolation
import PredictATrade.Realtime.Restart
import PredictATrade.Realtime.Permission
import PredictATrade.Realtime.DailyLimit
import PredictATrade.Lib.Lookup
import PredictATrade.Lib.Paths
import PredictATrade.Realtime.Scopes
import PredictATrade.Realtime.GateWalk
import PredictATrade.Realtime.CapitalGates
import PredictATrade.Realtime.Profitability
import PredictATrade.Realtime.PositionCaps
import PredictATrade.Auth.Schema
import PredictATrade.Auth.Service
import PredictATrade.Auth.Sessions
import PredictATrade.Auth.SessionSteps
import PredictATrade.Auth.Sweeps
import PredictATrade.Auth.Families
import PredictATrade.Auth.Minting
import PredictATrade.Auth.Tokens
import PredictATrade.Auth.Events
import PredictATrade.Auth.OneTime
import PredictATrade.Auth.Spared
import PredictATrade.Auth.Credentials
import PredictATrade.Auth.Throttle
import PredictATrade.Oco.Group
import PredictATrade.Oco.Lifecycle
import PredictATrade.Oco.Fills
import PredictATrade.DeviceAuth.TokenFlow
import PredictATrade.DeviceAuth.TokenFamilies
import PredictATrade.Lib.Sql
import PredictATrade.EdgePoll.Queue
import PredictATrade.EdgePoll.Delivery
import PredictATrade.EdgePoll.Entitlement
import PredictATrade.MarketData.Aggregator
import PredictATrade.MarketData.Exactness
import PredictATrade.DeviceAuth.Slots
import PredictATrade.DeviceAuth.DeviceLimit
import PredictATrade.DeviceAuth.SlotLocks
import PredictATrade.DeviceAuth.Revocation
import PredictATrade.DeviceAuth.Provisioning
import PredictATrade.Billing.Coverage
import PredictATrade.Billing.Notifications
import PredictATrade.Billing.ExactlyOnce
import PredictATrade.Liquidity.Engine
import PredictATrade.Liquidity.Lifecycle
import PredictATrade.Liquidity.Duplicates
import PredictATrade.Realtime.Hedging
import PredictATrade.Realtime.Reconciliation
import PredictATrade.Realtime.Delivery
import PredictATrade.Realtime.Anchors
import PredictATrade.Backtest.TradeTracker
import PredictATrade.Realtime.LivePreview
import PredictATrade.Billing.Subscriptions
import PredictATrade.Licensing.Terminals
import PredictATrade.Lib.Windows
import PredictATrade.Realtime.Regimes
import PredictATrade.Lib.Smoothing
import PredictATrade.Realtime.Indicators
import PredictATrade.Research.Portfolio
import PredictATrade.Research.Accounting
import PredictATrade.Research.SessionCalendar
import PredictATrade.Research.Quality
import PredictATrade.Research.Alignment
import PredictATrade.Research.Engine
import PredictATrade.Research.Lookahead
import PredictATrade.Realtime.Swings
import PredictATrade.Research.RiskGates
import PredictATrade.Lib.Interpolation
import PredictATrade.Calibration.Loader
import PredictATrade.Calibration.Validated
import PredictATrade.Lib.Json
import PredictATrade.Calibration.Parity
import PredictATrade.Liquidity.Ingest
import PredictATrade.Lib.Isoformat
import PredictATrade.Research.PtbIndicators
import PredictATrade.Research.PtbStrategy
import PredictATrade.Research.Replay
import PredictATrade.Control.Rejections
import PredictATrade.Realtime.EdgeValidation
import PredictATrade.Lib.Largest
import PredictATrade.Billing.Underpayment
import PredictATrade.Control.Ordinals
import PredictATrade.Lib.Capping
import PredictATrade.Realtime.MoreEvidence
import PredictATrade.Realtime.Synthesis
import PredictATrade.Realtime.Sizing
import PredictATrade.Realtime.StopCaps
import PredictATrade.Realtime.Breaks
import PredictATrade.Realtime.Mirror
import PredictATrade.Realtime.GeometryRun
import PredictATrade.Realtime.PlainGeometry
import PredictATrade.Realtime.SoundGeometry
import PredictATrade.Backtest.StopDiscipline
import PredictATrade.Backtest.Exits
import PredictATrade.Liquidity.Contribution
import PredictATrade.Lib.WeightedMean
import PredictATrade.Igs.Engine
import PredictATrade.Igs.ImpactScore
import PredictATrade.Realtime.StopProposals
import PredictATrade.Realtime.MarginCap
import PredictATrade.Realtime.PositionSize
import PredictATrade.Realtime.HaltExpiry
import PredictATrade.Realtime.Reanchoring
import PredictATrade.Lib.MapOrder
import PredictATrade.MarketData.ExternalFeed
import PredictATrade.DeviceAuth.Recognition
import PredictATrade.Research.Trades
import PredictATrade.Research.Costs
import PredictATrade.Research.RMultiples
import PredictATrade.Research.Attainable
import PredictATrade.Research.FilterContribution
import PredictATrade.Research.ExactAlignment
import PredictATrade.Research.WalkForward
import PredictATrade.Lib.Isotonic
import PredictATrade.Calibration.IsotonicFit
import PredictATrade.Realtime.IndicatorProcess
import PredictATrade.Realtime.IndicatorRanges
import PredictATrade.Lib.LeastSquares
import PredictATrade.Realtime.SameBar
import PredictATrade.Realtime.ParabolicSar
import PredictATrade.Realtime.SessionRanges
import PredictATrade.Realtime.PoolLevels
import PredictATrade.Realtime.PullbackRecovery
import PredictATrade.CrossMarket.OutcomeResolver
import PredictATrade.Realtime.CapitalTiers
import PredictATrade.Lib.Ring
import PredictATrade.Realtime.RollingStats
import PredictATrade.Calibration.Pava
import PredictATrade.Realtime.GateOrder
import PredictATrade.Lib.Median
import PredictATrade.Liquidity.RollingMedian
import PredictATrade.Lib.Tickets
import PredictATrade.Gateway.Hub
import PredictATrade.Gateway.Streams
