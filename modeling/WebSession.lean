import WebSession.Aes
import WebSession.Base64Url
import WebSession.Binary64
import WebSession.Binary64.Shortest
import WebSession.Bytes
import WebSession.Bytes.Lossy
import WebSession.Cookie
import WebSession.Cookie.Jar
import WebSession.CounterMode
import WebSession.Encoder
import WebSession.Error
import WebSession.Fields
import WebSession.Http
import WebSession.Http.Form
import WebSession.Http.MediaType
import WebSession.Json
import WebSession.Json.Number
import WebSession.Json.Reader
import WebSession.Json.Text
import WebSession.Main
import WebSession.MessagePack
import WebSession.Numeral
import WebSession.Percent
import WebSession.Plan
import WebSession.Proofs.Base64Url
import WebSession.Proofs.Bytes
import WebSession.Proofs.Cookie
import WebSession.Proofs.Cookie.RoundTrip
import WebSession.Proofs.Cookie.Setting
import WebSession.Proofs.CounterMode
import WebSession.Proofs.CounterMode.BothWays
import WebSession.Proofs.Encoder
import WebSession.Proofs.Encoder.Authenticity
import WebSession.Proofs.Encoder.KeyBinding
import WebSession.Proofs.Encoder.RoundTrip
import WebSession.Proofs.Encoder.Size
import WebSession.Proofs.Fields
import WebSession.Proofs.Json
import WebSession.Proofs.MessagePack
import WebSession.Proofs.Numeral
import WebSession.Proofs.Percent
import WebSession.Proofs.Plan
import WebSession.Proofs.Plan.Alike
import WebSession.Proofs.Plan.Coupled
import WebSession.Proofs.Plan.Interleaving
import WebSession.Proofs.Plan.Makes
import WebSession.Proofs.Plan.Unfailing
import WebSession.Proofs.Records
import WebSession.Proofs.Records.Conditions
import WebSession.Proofs.Records.Expiry
import WebSession.Proofs.Records.ForeignFiles
import WebSession.Proofs.Records.Others
import WebSession.Proofs.Records.PlainMap
import WebSession.Proofs.Records.Server
import WebSession.Proofs.Records.Slot
import WebSession.Proofs.Records.Sweep
import WebSession.Proofs.RequestSessions
import WebSession.Proofs.RequestSessions.Binding
import WebSession.Proofs.RequestSessions.CookieTrip
import WebSession.Proofs.RequestSessions.FlashMessages
import WebSession.Proofs.RequestSessions.SaveOrder
import WebSession.Proofs.RequestSessions.SavedTexts
import WebSession.Proofs.RequestSessions.Uses
import WebSession.Proofs.Serialized
import WebSession.Proofs.Serialized.Length
import WebSession.Proofs.Serialized.PrefixCode
import WebSession.Proofs.Service
import WebSession.Proofs.Service.Actions
import WebSession.Proofs.Service.AfterLoad
import WebSession.Proofs.Service.Client
import WebSession.Proofs.Service.Composing
import WebSession.Proofs.Service.Concurrency
import WebSession.Proofs.Service.Ids
import WebSession.Proofs.Service.Isolation
import WebSession.Proofs.Service.Locality
import WebSession.Proofs.Service.Logout
import WebSession.Proofs.Service.Nesting
import WebSession.Proofs.Service.Operations
import WebSession.Proofs.Service.Refinement
import WebSession.Proofs.Service.SameAnswer
import WebSession.Proofs.Service.SessionMap
import WebSession.Proofs.Service.SetCookie
import WebSession.Proofs.Service.Steps
import WebSession.Proofs.Service.UnreadCookie
import WebSession.Proofs.SessionFactory
import WebSession.Proofs.SessionFactory.InPlace
import WebSession.Proofs.SessionFactory.KeyMigration
import WebSession.Proofs.SessionFactory.KeyRotation
import WebSession.Proofs.SessionFactory.SameKeys
import WebSession.Proofs.SessionId
import WebSession.Proofs.SessionId.Spelling
import WebSession.Proofs.SessionStore
import WebSession.Proofs.SessionStore.AllOrNothing
import WebSession.Proofs.SessionStore.Calls
import WebSession.Proofs.SessionStore.Concurrency
import WebSession.Proofs.SessionStore.CookieSize
import WebSession.Proofs.SessionStore.Fate
import WebSession.Proofs.SessionStore.Faults
import WebSession.Proofs.SessionStore.Initializing
import WebSession.Proofs.SessionStore.Lifetime
import WebSession.Proofs.SessionStore.Mark
import WebSession.Proofs.SessionStore.Operations
import WebSession.Proofs.SessionStore.RecordOrigin
import WebSession.Proofs.SessionStore.Reload
import WebSession.Proofs.SessionStore.SameReading
import WebSession.Proofs.SessionStore.SameText
import WebSession.Proofs.SessionStore.SavedText
import WebSession.Proofs.SessionStore.Secrecy
import WebSession.Proofs.SessionStore.Serving
import WebSession.Proofs.Startup
import WebSession.Proofs.Startup.CurrentKeys
import WebSession.Proofs.Value.Json
import WebSession.Proofs.World
import WebSession.Range
import WebSession.Records
import WebSession.Records.Directory
import WebSession.Records.Memory
import WebSession.Records.Redis
import WebSession.RequestSessions
import WebSession.Serialized
import WebSession.Service
import WebSession.Service.Failure
import WebSession.Service.Input
import WebSession.SessionConfig
import WebSession.SessionData
import WebSession.SessionFactory
import WebSession.SessionId
import WebSession.SessionStore
import WebSession.Sha256
import WebSession.Startup
import WebSession.Startup.Arguments
import WebSession.Startup.Duration
import WebSession.Startup.Secret
import WebSession.Startup.ServerAddress
import WebSession.Value
import WebSession.Value.Json
import WebSession.World
