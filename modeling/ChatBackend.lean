import ChatBackend.ReadCommitted.Solo
import ChatBackend.Store.Sequence
import ChatBackend.Store.Page
import ChatBackend.Store.Watermark
import ChatBackend.Store.Revocation
import ChatBackend.Store.RefreshTokens
import ChatBackend.Store.Logins
import ChatBackend.Store.Prekeys
import ChatBackend.Effects
import ChatBackend.Websocket.Json
import ChatBackend.Websocket.Requests
import ChatBackend.Service.ChatService
import ChatBackend.Service.Retries
import ChatBackend.Paging
import ChatBackend.Service.CatchUp
import ChatBackend.BigEndian
import ChatBackend.Streaming
import ChatBackend.Websocket.Frame
import ChatBackend.Websocket.Segmentation
import ChatBackend.Websocket.Application
import ChatBackend.Websocket.Dispatcher
import ChatBackend.Websocket.SessionIdentity
import ChatBackend.Websocket.Results
import ChatBackend.Websocket.Handler
import ChatBackend.Websocket.Worker
import ChatBackend.Websocket.Life
import ChatBackend.Websocket.Refinement
import ChatBackend.Traces
import ChatBackend.Websocket.Business
import ChatBackend.Websocket.Batch
import ChatBackend.Websocket.Output
import ChatBackend.Websocket.CloseReply
import ChatBackend.Websocket.Events
import ChatBackend.Websocket.Separable
import ChatBackend.Websocket.Closure
import ChatBackend.Websocket.Addressing
import ChatBackend.Websocket.Directory
import ChatBackend.Http.HttpParse
import ChatBackend.Http.HttpMessage
import ChatBackend.Http.HttpSession
import ChatBackend.Databases.DatabaseConnection
import ChatBackend.Databases.DatabasePool
import ChatBackend.Service.ConnectionLoss
import ChatBackend.Base64
import ChatBackend.Service.Packets
import ChatBackend.Descriptors
import ChatBackend.Server.ThreadPool
import ChatBackend.Server.Shutdown
import ChatBackend.Store.FriendRequests
import ChatBackend.Store.Friendships
import ChatBackend.Service.Statuses
import ChatBackend.Databases.Maintenance
import ChatBackend.Budget
import ChatBackend.Websocket.JsonText
import ChatBackend.Service.SyncPage
import ChatBackend.ReadCommitted.Since
import ChatBackend.Store.ArrayLiteral
import ChatBackend.Store.Acknowledging
import ChatBackend.Service.Acknowledgments
import ChatBackend.ReadCommitted.Emits
import ChatBackend.Http.HttpResponse
import ChatBackend.Handler.ChatHandler
import ChatBackend.Store.KeyBundles
import ChatBackend.Service.KeyBundles
import ChatBackend.Websocket.UuidText
import ChatBackend.Service.Boundaries
import ChatBackend.Store.Rotation
import ChatBackend.Websocket.TaskQueue
import ChatBackend.Service.ServiceThreadPool
import ChatBackend.JsonReader
import ChatBackend.Common.Logger
import ChatBackend.Websocket.Interest
import ChatBackend.Websocket.Bookkeeping
import ChatBackend.Http.Exchange
import ChatBackend.Websocket.Leftovers
import ChatBackend.Trimming
import ChatBackend.Store.Accounts
import ChatBackend.Service.Credentials
import ChatBackend.Handler.UserHandler
import ChatBackend.Heartbeat
import ChatBackend.Websocket.Pulse
import ChatBackend.Websocket.Heartbeat
import ChatBackend.ReadCommitted.Dated
import ChatBackend.Store.Provenance
import ChatBackend.Effects.Threads
import ChatBackend.Auth.AccessTokenService
import ChatBackend.Handler.Router
import ChatBackend.ReadCommitted.Callers
import ChatBackend.Store.Devices
import ChatBackend.Handler.ServerCall
import ChatBackend.Handler.Services
import ChatBackend.Handler.KeyHandlers
import ChatBackend.Handler.AccountHandlers
import ChatBackend.Auth.Grounds
import ChatBackend.Auth.Obedience
import ChatBackend.Auth.HttpServer
import ChatBackend.Auth.Passwords
import ChatBackend.Auth.ProtectedCalls
import ChatBackend.Auth.Responses
import ChatBackend.Conversation
import ChatBackend.Service.Conversations
