import TopChoice.Lib.Machine
import TopChoice.Lib.Threads
import TopChoice.Lib.Expiring
import TopChoice.Lib.FixedWindow
import TopChoice.Lib.Memo
import TopChoice.Lib.Table
import TopChoice.Lib.Elastic
import TopChoice.Lib.FirstLeast
import TopChoice.Lib.Splitting
import TopChoice.Lib.Paging
import TopChoice.Lib.Calendar
import TopChoice.Lib.Backtrack
import TopChoice.Lib.Dictionary
import TopChoice.Lib.Csv
import TopChoice.Lib.Fallible
import TopChoice.Common.AppException
import TopChoice.Common.Text
import TopChoice.Common.Pagination
import TopChoice.Common.CacheService
import TopChoice.Auth.Store
import TopChoice.Auth.TokenService
import TopChoice.Auth.AuthService
import TopChoice.Auth.Sessions
import TopChoice.Auth.WellFormed
import TopChoice.Auth.Commands
import TopChoice.Auth.Lifecycle
import TopChoice.Auth.Demotion
import TopChoice.Auth.Outage
import TopChoice.Auth.Interleaving
import TopChoice.Auth.SingleUse
import TopChoice.Auth.Coherence
import TopChoice.Auth.RevokeAll
import TopChoice.Auth.PasswordReset
import TopChoice.Auth.SignIn
import TopChoice.Auth.SignedInRightly
import TopChoice.Listing.Property
import TopChoice.Listing.Mirror
import TopChoice.Listing.MirrorAgreement
import TopChoice.Listing.MirroredWrite
import TopChoice.Listing.PropertyDto
import TopChoice.Listing.PropertiesService
import TopChoice.Listing.ReadYourWrites
import TopChoice.Listing.PropertyCount
import TopChoice.Listing.FailedUpdate
import TopChoice.Favorites.FavoritesService
import TopChoice.Catalog.Store
import TopChoice.Catalog.CompoundsService
import TopChoice.Catalog.ProjectsCount
import TopChoice.Leads.LeadsService
import TopChoice.Leads.Pipeline
import TopChoice.Leads.LeadCounter
import TopChoice.Lists.Endpoints
import TopChoice.Lists.PageVisits
import TopChoice.Search.Source
import TopChoice.Search.IndexManager
import TopChoice.Search.Indexer
import TopChoice.Search.HookReach
import TopChoice.Search.FullReindex
import TopChoice.Search.ZeroDowntime
import TopChoice.Search.Rebuild
import TopChoice.Search.RebuildOrder
import TopChoice.Search.RebuildSteps
import TopChoice.Search.RebuildAgreement
import TopChoice.Search.QueryBuilder
import TopChoice.Search.Facets
import TopChoice.Search.SearchPages
import TopChoice.Search.PyValue
import TopChoice.Search.Transformer
import TopChoice.Search.ResultMapper
import TopChoice.Search.WrittenListings
import TopChoice.Search.ListingSurvival
import TopChoice.Rag.PyText
import TopChoice.Rag.Chunker
import TopChoice.Rag.Loaders
import TopChoice.Rag.IngestionPipeline
import TopChoice.Rag.IngestConvergence
import TopChoice.Rag.Pruning
import TopChoice.Rag.ThreadMemory
import TopChoice.Rag.PyFloat
import TopChoice.Rag.Filters
import TopChoice.Rag.BuyerProfile
import TopChoice.Rag.ModelReply
import TopChoice.Rag.Prompts
import TopChoice.Lib.Effects
import TopChoice.Lib.StateGraph
import TopChoice.Rag.TurnState
import TopChoice.Rag.Tools
import TopChoice.Rag.Nodes
import TopChoice.Rag.ChatAgent
import TopChoice.Rag.Executors
import TopChoice.Rag.ModelOutput
import TopChoice.Rag.Confirmation
import TopChoice.Rag.StreamedTurn
import TopChoice.Rag.EventStream
import TopChoice.Rag.RateLimit
import TopChoice.Reports.TimeRange
import TopChoice.Reports.LeadRepository
import TopChoice.Reports.PropertyRepository
import TopChoice.Reports.DayRanges
import TopChoice.Reports.RateLimiter
import TopChoice.Web.Tabs
import TopChoice.Web.ApiClient
import TopChoice.Web.FavoritesStore
import TopChoice.Web.ChatStream
import TopChoice.Web.SearchFilters
import TopChoice.Web.FiltersStore
import TopChoice.Lib.History
import TopChoice.Web.SingleFlight
import TopChoice.Lib.FormUrlEncoded
import TopChoice.Lib.Shortlist
import TopChoice.Lib.SortedSet
import TopChoice.Search.SlidingWindow
import TopChoice.Search.ClientIdentifier
import TopChoice.Lib.Reservations
import TopChoice.SavedSearches.SavedSearchesService
import TopChoice.Lib.HalfUp
import TopChoice.Lib.Grouping
import TopChoice.Lib.Annuity
import TopChoice.Reports.Finance
import TopChoice.Reports.Mortgage
import TopChoice.Reports.Balloon
import TopChoice.Reports.ChargedPrice
import TopChoice.Lib.Windows
import TopChoice.Rag.PyWords
import TopChoice.Rag.ChunkWindows
import TopChoice.Rag.Tokens
import TopChoice.Rag.ChunkBudget
import TopChoice.Listing.PatchedFields
import TopChoice.Listing.DerivedPrices
import TopChoice.Listing.SlugLookup
import TopChoice.Listing.ReferenceNumbers
import TopChoice.Common.UniqueSlug
import TopChoice.Search.PartialReindex
import TopChoice.Lib.FirstOfEach
import TopChoice.Search.Suggestions
import TopChoice.Lib.Ranks
import TopChoice.Rag.Fusion
import TopChoice.Lib.Jsonb
import TopChoice.Rag.FilterSql
import TopChoice.Lib.FirstWay
import TopChoice.Rag.NearestFloat
import TopChoice.Rag.PriceCues
import TopChoice.Rag.StatedMaximum
import TopChoice.Rag.AmountReaders
import TopChoice.Rag.Rerank
import TopChoice.Rag.HeadingTitles
import TopChoice.Rag.StubMerge
import TopChoice.Search.MapSearch
import TopChoice.Reports.MarketFacets
import TopChoice.Reports.MarketReport
import TopChoice.Web.NormalisedLinks
import TopChoice.Lib.Thinned
import TopChoice.Web.BlankEntries
import TopChoice.Web.ChatPanel
import TopChoice.Lib.OrderedHash
import TopChoice.Reports.JsonCodec
import TopChoice.Reports.Exports
import TopChoice.Reports.ReportCache
import TopChoice.Lib.PosixPath
import TopChoice.Uploads.LocalDriver
import TopChoice.Uploads.UploadsService
import TopChoice.Lib.OpenFiles
import TopChoice.Uploads.Transfers
import TopChoice.Lib.Locality
import TopChoice.Rag.ConfinedTurn
import TopChoice.Rag.ChatStore
import TopChoice.Rag.ChatRoutes
import TopChoice.Rag.ChatPrivacy
import TopChoice.Rag.GuestTokens
import TopChoice.Rag.HybridSearch
