import SocketServer.Library.Runs
import SocketServer.Library.Settling
import SocketServer.Library.Refinement
import SocketServer.Library.GoChannel
import SocketServer.Library.Checks
import SocketServer.Library.JsMap
import SocketServer.Library.Text
import SocketServer.Library.ByteLength
import SocketServer.Library.Base64
import SocketServer.Library.JsNumber
import SocketServer.Library.Double
import SocketServer.Library.ShortestDecimal
import SocketServer.Library.Decimal
import SocketServer.Library.Json
import SocketServer.Library.JsonText
import SocketServer.Library.JsonTree
import SocketServer.Library.GoJson
import SocketServer.Library.GoStrings
import SocketServer.Library.Ascii
import SocketServer.Library.Uri
import SocketServer.Library.Rendering
import SocketServer.Library.Exposition
import SocketServer.Library.ItemSet
import SocketServer.Library.LiveCopies
import SocketServer.Chat.Hub
import SocketServer.Chat.HubTable
import SocketServer.Chat.Mailbox
import SocketServer.Chat.MailboxInvariant
import SocketServer.Chat.Delivery
import SocketServer.Chat.Eviction
import SocketServer.Chat.EventForwarding
import SocketServer.Chat.Tickets
import SocketServer.Chat.Origins
import SocketServer.Chat.Settling
import SocketServer.Chat.AtRest
import SocketServer.Chat.Handlers
import SocketServer.Chat.IssuedTickets
import SocketServer.Chat.Server
import SocketServer.Chat.Publications
import SocketServer.Chat.RequestLog
import SocketServer.Collaboration.Config
import SocketServer.Collaboration.Environments
import SocketServer.Collaboration.Runtime
import SocketServer.Collaboration.Storage
import SocketServer.Collaboration.Auth
import SocketServer.Collaboration.Server
import SocketServer.Collaboration.RoomIdentity
import SocketServer.Collaboration.BoundedReading
import SocketServer.Collaboration.StorageRoundTrip
import SocketServer.Collaboration.StatePaths
import SocketServer.Collaboration.ResourceLimits
import SocketServer.Collaboration.SyncAdmission
import SocketServer.Collaboration.Documents
import SocketServer.Collaboration.PersistableDocuments
import SocketServer.Collaboration.Initialization
import SocketServer.Collaboration.RoomLifecycle
import SocketServer.Collaboration.DeletedRooms
import SocketServer.Collaboration.CanonicalState
import SocketServer.Collaboration.TicketForm
import SocketServer.Collaboration.RoomSpelling
import SocketServer.Collaboration.InboundQueue
import SocketServer.Collaboration.Backpressure
import SocketServer.Collaboration.SlowSessions
import SocketServer.Collaboration.LargestMessages
import SocketServer.Collaboration.InMemoryLifecycle
import SocketServer.Collaboration.WriteBack
import SocketServer.Collaboration.Observability
import SocketServer.Collaboration.IdentityTables
import SocketServer.Collaboration.Reconnections
import SocketServer.Collaboration.RequestHook
import SocketServer.Collaboration.Health
import SocketServer.Collaboration.Metrics
import SocketServer.Collaboration.EditingService
import SocketServer.Collaboration.Presence
import SocketServer.Collaboration.Persistence
import SocketServer.Collaboration.CapacityExercise
import SocketServer.Collaboration.StateAuthority
import SocketServer.Services.TicketSeparation
import SocketServer.Services.SharedVariables
import SocketServer.Services.SignatureAgreement
