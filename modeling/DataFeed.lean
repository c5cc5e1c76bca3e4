import DataFeed.L2.TopOfBook
import DataFeed.Venue.SnapshotFirst
import DataFeed.Frontend.Convergence
import DataFeed.Frontend.GapDetection
import DataFeed.Venue.Recorder
import DataFeed.Venue.L2Manager
import DataFeed.Venue.ManagerStep
import DataFeed.Foundation.KeyedView
import DataFeed.Venue.SubscriptionTable
import DataFeed.Venue.StreamLaw
import DataFeed.Venue.Connections
import DataFeed.Venue.ReceiverStreams
import DataFeed.Venue.Resubscribing
import DataFeed.Venue.LifeCycle
import DataFeed.Venue.FailedChange
import DataFeed.Foundation.Codec
import DataFeed.L2.Serialize
import DataFeed.Foundation.Crc
import DataFeed.Core.Decimal
import DataFeed.Core.Json
import DataFeed.Core.UnixTime
import DataFeed.Coinbase.L2Decoder
import DataFeed.Foundation.Continuity
import DataFeed.Coinbase.Continuity
import DataFeed.Frontend.Answers
import DataFeed.Frontend.Outbox
import DataFeed.Frontend.Registration
import DataFeed.Frontend.WatchedStream
import DataFeed.Frontend.StatusProtocol
import DataFeed.Crypto.Crc32
import DataFeed.Foundation.DecimalText
import DataFeed.Core.Scaling
import DataFeed.Kraken.Checksum
import DataFeed.Kraken.L2Decoder
import DataFeed.Venue.ExactLevels
import DataFeed.Venue.Linearization
import DataFeed.Foundation.Protobuf
import DataFeed.Frontend.Envelope
import DataFeed.Core.Spsc
import DataFeed.Venue.Router
import DataFeed.Core.Document
import DataFeed.Kraken.RestLookup
import DataFeed.Kraken.BookFrame
import DataFeed.Coinbase.EventFrame
import DataFeed.L2.Partition
import DataFeed.Foundation.Disk
import DataFeed.Venue.Recorders
import DataFeed.Foundation.JsonText
import DataFeed.Venue.BookRequests
import DataFeed.Venue.Changing
import DataFeed.Venue.Progress
import DataFeed.Frontend.Backend
import DataFeed.Venue.Undisturbed
import DataFeed.Frontend.StopWatch
import DataFeed.Frontend.CommandCodes
import DataFeed.L2.BookLaws
import DataFeed.Core.PlainDecimal
import DataFeed.Coinbase.Increments
import DataFeed.Core.Calendar
import DataFeed.Core.IsoTime
import DataFeed.Core.IsoParsing
import DataFeed.Core.IsoAcceptance
import DataFeed.Crypto.Base64
import DataFeed.Venue.Supervisor
import DataFeed.Timing.Aggregator
import DataFeed.Timing.Accounting
import DataFeed.Frontend.BestFirst
import DataFeed.Foundation.Gate
import DataFeed.Venue.Exchange
import DataFeed.Venue.OwnAnswers
import DataFeed.Foundation.Locking
import DataFeed.Venue.WaitOrder
import DataFeed.Foundation.ProtobufMessage
import DataFeed.Frontend.MarketData
import DataFeed.Frontend.Delivery
import DataFeed.Foundation.Potential
import DataFeed.Frontend.Server
import DataFeed.Frontend.Shutdown
import DataFeed.Venue.PairsCache
import DataFeed.Coinbase.Products
import DataFeed.L2.SelfDescribing
import DataFeed.Foundation.Simulation
import DataFeed.Net.Connection
import DataFeed.Net.Transcript
import DataFeed.Venue.FeedContract
import DataFeed.Venue.FeedOwner
import DataFeed.Frontend.Lifetime
import DataFeed.Venue.Once
import DataFeed.Frontend.Endpoint
