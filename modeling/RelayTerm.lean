import RelayTerm.Lib.Runs
import RelayTerm.Lib.Registry
import RelayTerm.Lib.Log
import RelayTerm.Lib.Tiling
import RelayTerm.Lib.ReadCommitted
import RelayTerm.Lib.Number
import RelayTerm.Lib.Table
import RelayTerm.Lib.Window
import RelayTerm.Lib.Clocked
import RelayTerm.Lib.Paging
import RelayTerm.Lib.Links
import RelayTerm.Lib.Transaction
import RelayTerm.Lib.Search
import RelayTerm.Lib.SessionLock
import RelayTerm.Lib.Trim
import RelayTerm.Lib.Distinct
import RelayTerm.Lib.Channel
import RelayTerm.Lib.Base64
import RelayTerm.Lib.Queue
import RelayTerm.Core.Types
import RelayTerm.Session.Store
import RelayTerm.Session.Tasks
import RelayTerm.Session.Steps
import RelayTerm.Session.Closed
import RelayTerm.Session.Runtimes
import RelayTerm.Session.Detach
import RelayTerm.Session.Alone
import RelayTerm.Session.Sockets
import RelayTerm.Session.Create
import RelayTerm.Session.Requests
import RelayTerm.Session.Quota
import RelayTerm.Session.Handles
import RelayTerm.Session.Births
import RelayTerm.Session.Agreement
import RelayTerm.Session.Liveness
import RelayTerm.Session.Audit
import RelayTerm.Session.Foreign
import RelayTerm.Session.Custody
import RelayTerm.Session.Tape
import RelayTerm.Session.Sealed
import RelayTerm.Stream.Replay
import RelayTerm.Stream.Window
import RelayTerm.Stream.Socket
import RelayTerm.Stream.Steps
import RelayTerm.Stream.Delivery
import RelayTerm.Stream.Client
import RelayTerm.Stream.Bookmark
import RelayTerm.Wire.Binary
import RelayTerm.Stream.Terminal
import RelayTerm.Stream.Transport
import RelayTerm.Stream.Connect
import RelayTerm.Recording.Writer
import RelayTerm.Recording.Drain
import RelayTerm.Recording.Timeline
import RelayTerm.Recording.Coverage
import RelayTerm.Recording.Config
import RelayTerm.Recording.Storable
import RelayTerm.Recording.Resize
import RelayTerm.Recording.Sealing
import RelayTerm.Recording.Viewer
import RelayTerm.HostKey.Entries
import RelayTerm.HostKey.Requests
import RelayTerm.HostKey.Steps
import RelayTerm.HostKey.Pins
import RelayTerm.HostKey.Revocation
import RelayTerm.HostKey.Replace
import RelayTerm.Ssh.Connect
import RelayTerm.Ssh.Trust
import RelayTerm.Ssh.Bridge
import RelayTerm.Ssh.Typing
import RelayTerm.Ssh.Printing
import RelayTerm.Stream.Pipe
import RelayTerm.Stream.Render
import RelayTerm.Recording.Playback
import RelayTerm.Auth.Identifier
import RelayTerm.Auth.Throttle
import RelayTerm.Auth.Logins
import RelayTerm.Auth.Cleanup
import RelayTerm.Auth.Limiter
import RelayTerm.Account.Rows
import RelayTerm.Account.Requests
import RelayTerm.Account.Steps
import RelayTerm.Account.Revocation
import RelayTerm.Account.FirstUser
import RelayTerm.Account.Reports
import RelayTerm.Account.Eviction
import RelayTerm.Account.Retry
import RelayTerm.Account.Cookie
import RelayTerm.Account.Issued
import RelayTerm.Account.Origin
import RelayTerm.Inventory.Rows
import RelayTerm.Inventory.Requests
import RelayTerm.Inventory.Steps
import RelayTerm.Inventory.Tenants
import RelayTerm.Inventory.History
import RelayTerm.Inventory.Approval
import RelayTerm.Vault.Envelope
import RelayTerm.Vault.Identity
import RelayTerm.Vault.Stored
import RelayTerm.Retention.Purge
import RelayTerm.Retention.Steps
import RelayTerm.Retention.Eligible
import RelayTerm.Retention.Once
import RelayTerm.Retention.Sweep
import RelayTerm.Retention.Lock
import RelayTerm.Startup.Reconcile
import RelayTerm.Startup.Orphans
import RelayTerm.Config.Redact
import RelayTerm.Web.ActiveSession
import RelayTerm.Web.TagFilter
import RelayTerm.Wire.Control
import RelayTerm.Web.Paste
import RelayTerm.Web.ProductionTerminal
