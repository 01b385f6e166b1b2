import TorrentSearch.Cache.Entry
import TorrentSearch.Cache.Error
import TorrentSearch.Cache.Lookup
import TorrentSearch.Cache.Saved
import TorrentSearch.Cache.Store
import TorrentSearch.Cbor.Decode
import TorrentSearch.Cbor.Item
import TorrentSearch.Command.Arguments
import TorrentSearch.Command.Folder
import TorrentSearch.Command.Run
import TorrentSearch.Config.Basic
import TorrentSearch.Config.Environment
import TorrentSearch.Config.Error
import TorrentSearch.Config.Load
import TorrentSearch.Config.Overlay
import TorrentSearch.Config.Settings
import TorrentSearch.Config.Validate
import TorrentSearch.Counters
import TorrentSearch.Counters.Exposition
import TorrentSearch.Federation.Basic
import TorrentSearch.Federation.Error
import TorrentSearch.Federation.Merge
import TorrentSearch.Http.Charset
import TorrentSearch.Http.MediaType
import TorrentSearch.Http.Network
import TorrentSearch.Json.Parse
import TorrentSearch.Json.Value
import TorrentSearch.Magnet
import TorrentSearch.Main
import TorrentSearch.Markup.Builder
import TorrentSearch.Markup.Document
import TorrentSearch.Markup.EntityTable
import TorrentSearch.Markup.Formatting
import TorrentSearch.Markup.Lexer
import TorrentSearch.Markup.OpenElements
import TorrentSearch.Markup.Page
import TorrentSearch.Markup.Query
import TorrentSearch.Markup.Rules.Body
import TorrentSearch.Markup.Rules.Choice
import TorrentSearch.Markup.Rules.Foreign
import TorrentSearch.Markup.Rules.Head
import TorrentSearch.Markup.Rules.Page
import TorrentSearch.Markup.Rules.Table
import TorrentSearch.Markup.Token
import TorrentSearch.Page.Detail
import TorrentSearch.Page.Link
import TorrentSearch.Page.Results
import TorrentSearch.Page.SkipReason
import TorrentSearch.Proofs.Cache.Accounting
import TorrentSearch.Proofs.Cache.Eviction
import TorrentSearch.Proofs.Cache.Freshness
import TorrentSearch.Proofs.Cache.History
import TorrentSearch.Proofs.Cache.KeptEntries
import TorrentSearch.Proofs.Cache.Persistence
import TorrentSearch.Proofs.Cache.RecencyList
import TorrentSearch.Proofs.Cache.Residence
import TorrentSearch.Proofs.Cache.Truncation
import TorrentSearch.Proofs.Cache.WrittenEntry
import TorrentSearch.Proofs.Cbor.Extent
import TorrentSearch.Proofs.Cbor.Written
import TorrentSearch.Proofs.Command.SavedCache
import TorrentSearch.Proofs.Command.WrittenFile
import TorrentSearch.Proofs.Config.CacheBudget
import TorrentSearch.Proofs.Config.Overlay
import TorrentSearch.Proofs.Config.Variables
import TorrentSearch.Proofs.Federation.Accounts
import TorrentSearch.Proofs.Federation.Answer
import TorrentSearch.Proofs.Federation.Arrivals
import TorrentSearch.Proofs.Federation.Asking
import TorrentSearch.Proofs.Federation.Background
import TorrentSearch.Proofs.Federation.Company
import TorrentSearch.Proofs.Federation.CompletionOrder
import TorrentSearch.Proofs.Federation.Conservation
import TorrentSearch.Proofs.Federation.Gauges
import TorrentSearch.Proofs.Federation.Grace
import TorrentSearch.Proofs.Federation.KeptAnswers
import TorrentSearch.Proofs.Federation.Lifetime
import TorrentSearch.Proofs.Federation.Merge
import TorrentSearch.Proofs.Federation.Reload
import TorrentSearch.Proofs.Federation.SameTorrent
import TorrentSearch.Proofs.Federation.Session
import TorrentSearch.Proofs.Federation.Settled
import TorrentSearch.Proofs.Federation.Sites
import TorrentSearch.Proofs.Federation.Stages
import TorrentSearch.Proofs.Json.OneLine
import TorrentSearch.Proofs.Markup.Growth
import TorrentSearch.Proofs.Markup.Written
import TorrentSearch.Proofs.Page.DetailPage
import TorrentSearch.Proofs.Page.ResultPage
import TorrentSearch.Proofs.Search.Alone
import TorrentSearch.Proofs.Search.Company
import TorrentSearch.Proofs.Search.Course
import TorrentSearch.Proofs.Search.Dues
import TorrentSearch.Proofs.Search.Duration
import TorrentSearch.Proofs.Search.Ledger
import TorrentSearch.Proofs.Search.Locks
import TorrentSearch.Proofs.Search.Moments
import TorrentSearch.Proofs.Search.Paths
import TorrentSearch.Proofs.Search.Progress
import TorrentSearch.Proofs.Search.Queue
import TorrentSearch.Proofs.Search.Safety
import TorrentSearch.Proofs.Search.Sparing
import TorrentSearch.Proofs.Search.Turn
import TorrentSearch.Proofs.Search.Uncounted
import TorrentSearch.Proofs.Source.Attempts
import TorrentSearch.Proofs.Source.Captures
import TorrentSearch.Proofs.Source.CarriedHash
import TorrentSearch.Proofs.Source.CheckPaths
import TorrentSearch.Proofs.Source.Checks
import TorrentSearch.Proofs.Source.Delays
import TorrentSearch.Proofs.Source.DetailPages
import TorrentSearch.Proofs.Source.EscapedLinks
import TorrentSearch.Proofs.Source.Filling
import TorrentSearch.Proofs.Source.Links
import TorrentSearch.Proofs.Source.Remembered
import TorrentSearch.Proofs.Source.Requests
import TorrentSearch.Proofs.Source.SearchUrl
import TorrentSearch.Proofs.Source.Spelling
import TorrentSearch.Proofs.Source.StubRecord
import TorrentSearch.Proofs.Source.Timeless
import TorrentSearch.Proofs.Source.Unanswered
import TorrentSearch.Proofs.Source.Uncounted
import TorrentSearch.Proofs.Source.Visits
import TorrentSearch.Proofs.Source.WellFormed
import TorrentSearch.Proofs.Text.Decimal
import TorrentSearch.Proofs.Text.Normalization
import TorrentSearch.Proofs.Text.Occurrences
import TorrentSearch.Proofs.Text.Percent
import TorrentSearch.Proofs.Text.Splitting
import TorrentSearch.Proofs.Time.Calendar
import TorrentSearch.Proofs.Time.Rfc3339
import TorrentSearch.Proofs.Url.Authority
import TorrentSearch.Proofs.Url.Paths
import TorrentSearch.Proofs.Url.Reading
import TorrentSearch.Quality
import TorrentSearch.Report
import TorrentSearch.Sample
import TorrentSearch.Search.Orderly
import TorrentSearch.Search.Pool
import TorrentSearch.Search.Shared
import TorrentSearch.Search.Work
import TorrentSearch.Source.Basic
import TorrentSearch.Source.Client
import TorrentSearch.Source.Error
import TorrentSearch.Source.Ibit
import TorrentSearch.Source.Stub
import TorrentSearch.Source.Yts
import TorrentSearch.Text.Ascii
import TorrentSearch.Text.Blank
import TorrentSearch.Text.Normalization
import TorrentSearch.Text.NormalizationTable
import TorrentSearch.Text.Percent
import TorrentSearch.Text.Printable
import TorrentSearch.Text.Punycode
import TorrentSearch.Text.Quoted
import TorrentSearch.Text.RangeTable
import TorrentSearch.Text.Search
import TorrentSearch.Text.SingleByte
import TorrentSearch.Text.Utf8
import TorrentSearch.Time.Calendar
import TorrentSearch.Time.Instant
import TorrentSearch.Time.Rfc3339
import TorrentSearch.Toml.Document
import TorrentSearch.Toml.Scalar
import TorrentSearch.Toml.Tree
import TorrentSearch.Toml.Value
import TorrentSearch.Torrent
import TorrentSearch.Url.Basic
import TorrentSearch.Url.Error
import TorrentSearch.Url.Host
import TorrentSearch.Url.HostName
import TorrentSearch.Url.MappingTable
import TorrentSearch.Url.Parse
import TorrentSearch.Url.TraitTable
