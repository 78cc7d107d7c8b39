import Forum.Serialization.MessagePages
import Forum.Serialization.Pages
import Forum.Repository.MessageIndexes
import Forum.Entities.MessageIndexEffects
import Forum.Entities.MessageIndexes
import Forum.Serialization.HiddenContent
import Forum.Repository.PrivilegeEscalation
import Forum.Repository.Attachments
import Forum.Authorization.AnonymousOwnership
import Forum.Authorization.DefaultAuthorization
import Forum.Authorization.PrivilegeResolution
import Forum.Authorization.GrantedPrivilegeStore
import Forum.Authorization.Throttling
import Forum.Authorization.MessageCountBonus
import Forum.Repository.Lookups
import Forum.Repository.Cascade
import Forum.Repository.CategoryRequests
import Forum.Repository.ContentRequests
import Forum.Repository.Quotes
import Forum.Entities.Texts
import Forum.Search.ForumSearchUpdatePlugin
import Forum.Search.IndexedStore
import Forum.Search.SearchIndex
import Forum.Http.ChunkedRequests
import Forum.Http.ParserBounds
import Forum.Http.HttpConnection
import Forum.Library.Changes
import Forum.Library.Ascii
import Forum.Library.JsonText
import Forum.FastJsonWriter.ReadBack
import Forum.Persistence.EventFiles
import Forum.Persistence.CountersRestored
import Forum.Persistence.Counters
import Forum.Persistence.ImportSafety
import Forum.Persistence.ImporterReads
import Forum.Persistence.RecordedEvents
import Forum.Persistence.EventRoundTrip
import Forum.Persistence.EventObserver
import Forum.Persistence.EventImporter
import Forum.Persistence.EventFile
import Forum.Library.Memory
import Forum.Persistence.EventCollector
import Forum.Repository.Authors
import Forum.Repository.Votes
import Forum.Entities.PlacementRelations
import Forum.Entities.ThreadIndexEffects
import Forum.ServiceEndpoints.AuthStore
import Forum.Http.ConnectionTimeouts
import Forum.Repository.LastSeen
import Forum.Repository.ThreadVisits
import Forum.Http.LeasedBuffers
import Forum.Http.BufferSimulation
import Forum.Library.Decimal
import Forum.Library.HttpMessage
import Forum.Http.HttpResponseBuilder
import Forum.Http.HttpRouter
import Forum.Http.RequestTargets
import Forum.Http.Cookies
import Forum.Http.BufferLeases
import Forum.Helpers.CircularBuffer
import Forum.Library.Hexadecimal
import Forum.Helpers.IpAddress
import Forum.Helpers.UuidString
import Forum.Helpers.UuidExtraction
import Forum.Library.Grouping
import Forum.Http.Trie
import Forum.Library.BinarySearch
import Forum.Entities.SortedVector
import Forum.Library.BlockOwnership
import Forum.FastJsonWriter.StringContainer
import Forum.FastJsonWriter.PreparedStrings
import Forum.Helpers.SortKeys
import Forum.ServiceEndpoints.AbstractEndpoint
import Forum.Entities.PlacementDeletion
import Forum.Entities.ThreadCollections
import Forum.Repository.PlacementSteps
import Forum.Repository.ThreadIndexes
import Forum.Entities.MessageCounts
import Forum.Repository.MessageCounts
