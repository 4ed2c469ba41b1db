import ExpiringCache.Cache
import ExpiringCache.Config
import ExpiringCache.Disk.Basic
import ExpiringCache.Disk.IoError
import ExpiringCache.Disk.SystemError
import ExpiringCache.Entry
import ExpiringCache.Error
import ExpiringCache.Janitor.Basic
import ExpiringCache.Janitor.Schedule
import ExpiringCache.Log.Event
import ExpiringCache.Log.Filter
import ExpiringCache.Log.Filter.Parser
import ExpiringCache.Log.Line
import ExpiringCache.Main
import ExpiringCache.Payload
import ExpiringCache.Service
import ExpiringCache.Session
import ExpiringCache.Snapshot.Canonical
import ExpiringCache.Snapshot.CodecError
import ExpiringCache.Snapshot.Format
import ExpiringCache.Snapshot.Persistence
import ExpiringCache.Snapshot.Policy
import ExpiringCache.Stats
import ExpiringCache.Store
import ExpiringCache.Store.Request
import ExpiringCache.Table
import ExpiringCache.Text.Alphanumeric
import ExpiringCache.Text.Blank
import ExpiringCache.Text.CodePoints
import ExpiringCache.Text.FixedPoint
import ExpiringCache.Text.Numeral
import ExpiringCache.Text.Pattern
import ExpiringCache.Text.Quoted
import ExpiringCache.Text.Unprintable
import ExpiringCache.Text.Utf8
import ExpiringCache.Time.Clock
import ExpiringCache.Time.Duration
import ExpiringCache.Time.Instant
import ExpiringCache.Proofs.Readings
import ExpiringCache.Proofs.Store.Operations
import ExpiringCache.Proofs.Store.History
import ExpiringCache.Proofs.Disk
import ExpiringCache.Proofs.Snapshot.Grammar
import ExpiringCache.Proofs.Snapshot.Reload
import ExpiringCache.Proofs.Snapshot.RoundTrip
import ExpiringCache.Proofs.Snapshot.Cut
import ExpiringCache.Proofs.Janitor.Beats
import ExpiringCache.Proofs.Janitor.Jump
import ExpiringCache.Proofs.Cache.Stations
import ExpiringCache.Proofs.Store.Expiry
import ExpiringCache.Proofs.Session.Wake
import ExpiringCache.Proofs.Session.Steps
import ExpiringCache.Proofs.Session.Tending
import ExpiringCache.Proofs.Session.Staleness
import ExpiringCache.Proofs.Session.Reach
import ExpiringCache.Proofs.Session.Jump
import ExpiringCache.Proofs.Cache.Course
import ExpiringCache.Proofs.Store.Counts
import ExpiringCache.Proofs.Cache.Accounts
import ExpiringCache.Proofs.Cache.Unseen
import ExpiringCache.Proofs.Store.Independent
import ExpiringCache.Proofs.Store.Interleaving
import ExpiringCache.Proofs.Cache.Callers
import ExpiringCache.Proofs.Store.InFlight
import ExpiringCache.Proofs.Service.Projection
import ExpiringCache.Proofs.Janitor.Life
import ExpiringCache.Proofs.Session.Roll
import ExpiringCache.Proofs.Session.RollCall
import ExpiringCache.Proofs.Cache.Untended
import ExpiringCache.Proofs.Session.Settled
import ExpiringCache.Proofs.Session.Invariant
import ExpiringCache.Proofs.Session.Stopped
import ExpiringCache.Proofs.Store.Purge
import ExpiringCache.Proofs.Snapshot.Order
import ExpiringCache.Proofs.Store.Eviction
import ExpiringCache.Proofs.Janitor.Grid
import ExpiringCache.Proofs.Session.Running
import ExpiringCache.Proofs.Session.Punctual
import ExpiringCache.Proofs.Config
import ExpiringCache.Proofs.Store.Deadline
import ExpiringCache.Proofs.Text.Numeral
import ExpiringCache.Proofs.Snapshot.Walk
