import MarketFeed.Board
import MarketFeed.CommandLine
import MarketFeed.Config.Account
import MarketFeed.Config.EnvFile
import MarketFeed.Config.Environment
import MarketFeed.Config.Stream
import MarketFeed.Decimal.Basic
import MarketFeed.Decimal.Reader
import MarketFeed.Digest.Hmac
import MarketFeed.Digest.Sha256
import MarketFeed.Error
import MarketFeed.Feed
import MarketFeed.Frame
import MarketFeed.Http.Charset
import MarketFeed.Http.Client
import MarketFeed.Http.Head
import MarketFeed.Http.Host
import MarketFeed.Http.Loopback
import MarketFeed.Http.Percent
import MarketFeed.Http.Reply
import MarketFeed.Http.Request
import MarketFeed.Http.Status
import MarketFeed.Http.Url
import MarketFeed.Json.Basic
import MarketFeed.Json.Parser
import MarketFeed.Json.Printer
import MarketFeed.Json.Token
import MarketFeed.LocalWatch
import MarketFeed.Log
import MarketFeed.Main
import MarketFeed.Market.AccountBalance
import MarketFeed.Market.BalanceDetail
import MarketFeed.Market.Bar
import MarketFeed.Market.Candle
import MarketFeed.Market.FundingRate
import MarketFeed.Market.Instrument
import MarketFeed.Market.InstrumentType
import MarketFeed.Market.Position
import MarketFeed.Market.ServerTime
import MarketFeed.Market.Subscription
import MarketFeed.Market.Ticker
import MarketFeed.Message
import MarketFeed.Number.Binary64
import MarketFeed.Number.Integer
import MarketFeed.Number.Shortest
import MarketFeed.Proofs.Json.Quote
import MarketFeed.Proofs.Message.Request
import MarketFeed.Proofs.Session.Book
import MarketFeed.Proofs.Session.Scene
import MarketFeed.Proofs.Session.Delivery
import MarketFeed.Proofs.Session.Step
import MarketFeed.Proofs.Trace
import MarketFeed.Record.Basic
import MarketFeed.Record.Codec
import MarketFeed.Record.Mismatch
import MarketFeed.Rest.Dialogue
import MarketFeed.Rest.Envelope
import MarketFeed.Rest.History
import MarketFeed.Rest.Market
import MarketFeed.Rest.Signature
import MarketFeed.Session.Basic
import MarketFeed.Session.Book
import MarketFeed.Session.Heartbeat
import MarketFeed.Session.Phase
import MarketFeed.Session.Rehearsal
import MarketFeed.Session.Run
import MarketFeed.Session.Task
import MarketFeed.Setup
import MarketFeed.Text.Alphanumeric
import MarketFeed.Text.Base64
import MarketFeed.Text.Blank
import MarketFeed.Text.Hex
import MarketFeed.Text.Printable
import MarketFeed.Text.Quoted
import MarketFeed.Text.Ranges
import MarketFeed.Text.Split
import MarketFeed.Text.UpperCase
import MarketFeed.Text.Utf8
import MarketFeed.Time.Calendar
import MarketFeed.Time.Span
import MarketFeed.Transport.Address
import MarketFeed.Transport.Basic
import MarketFeed.Transport.LocalNetwork
import MarketFeed.Transport.Memory
import MarketFeed.Transport.Network
import MarketFeed.Watch
import MarketFeed.WebSocket.Socket
import MarketFeed.WebSocket.Upgrade
import MarketFeed.WebSocket.Wire
import MarketFeed.Proofs.Session.Errand
import MarketFeed.Proofs.Session.Requests
import MarketFeed.Proofs.Rest.Archive
import MarketFeed.Proofs.Rest.Dialogue
import MarketFeed.Proofs.Rest.History
import MarketFeed.Proofs.Rest.Market
import MarketFeed.Proofs.Http.Origin
import MarketFeed.Proofs.Http.Path
import MarketFeed.Proofs.Http.Sent
import MarketFeed.Proofs.Rest.Signature
import MarketFeed.Proofs.Feed.Invariant
import MarketFeed.Proofs.Feed.Notes
import MarketFeed.Proofs.Feed.OneSession
import MarketFeed.Proofs.Feed.Run
import MarketFeed.Proofs.Watch.Entries
import MarketFeed.Proofs.Watch.Latest
import MarketFeed.Proofs.Session.Idle
import MarketFeed.Proofs.Session.Refusal
import MarketFeed.Proofs.Session.Overlap
import MarketFeed.Proofs.Json.RoundTrip
import MarketFeed.Proofs.Message.RoundTrip
import MarketFeed.Proofs.Session.Membership
import MarketFeed.Proofs.Session.Passage
import MarketFeed.Proofs.Session.Course
import MarketFeed.Proofs.Session.Lasting
import MarketFeed.Proofs.Session.StateGraph
import MarketFeed.Proofs.Session.Retirement
import MarketFeed.Proofs.Rest.Instruments
import MarketFeed.Proofs.Session.Receiver
import MarketFeed.Proofs.Number.Integer
import MarketFeed.Proofs.Json.Fields
import MarketFeed.Proofs.Rest.Method
import MarketFeed.Proofs.Rest.Exchange
import MarketFeed.Proofs.Rest.Families
import MarketFeed.Proofs.Rest.Credentials
import MarketFeed.Proofs.Rest.Paging
import MarketFeed.Proofs.Rest.AnyServer
import MarketFeed.Proofs.Session.Traffic
import MarketFeed.Proofs.Json.Grammar
import MarketFeed.Proofs.Json.Derivation
import MarketFeed.Proofs.Message.Classes
import MarketFeed.Proofs.Session.Silence
import MarketFeed.Proofs.Transport.Operation
import MarketFeed.Proofs.Transport.Handover
import MarketFeed.Proofs.Number.Digits
import MarketFeed.Proofs.Decimal.Reader
import MarketFeed.Proofs.Decimal.Text
import MarketFeed.Proofs.Record.Written
import MarketFeed.Proofs.Record.Decimals
import MarketFeed.Proofs.Time.Calendar
import MarketFeed.Proofs.Time.Text
import MarketFeed.Proofs.Rest.Timestamp
import MarketFeed.Proofs.Record.Absent
