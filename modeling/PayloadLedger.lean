import PayloadLedger.CommandLine.Run
import PayloadLedger.Engine.TaskLog
import PayloadLedger.Ledger
import PayloadLedger.Main
import PayloadLedger.Proofs.Engine.ErrorLine
import PayloadLedger.Proofs.Engine.Restating
import PayloadLedger.Proofs.Engine.TaskLog
import PayloadLedger.Proofs.Key.RoundTrip
import PayloadLedger.Proofs.Ledger.Announce
import PayloadLedger.Proofs.Ledger.Happenings
import PayloadLedger.Proofs.Ledger.Interleaving
import PayloadLedger.Proofs.Ledger.Redelivery
import PayloadLedger.Proofs.Ledger.Resolution
import PayloadLedger.Proofs.Ledger.Sinks
import PayloadLedger.Proofs.Ledger.Triggers
import PayloadLedger.Proofs.Log.Buckets
import PayloadLedger.Proofs.Log.Hour
import PayloadLedger.Proofs.Log.Modes
import PayloadLedger.Proofs.Notice.Attributes
import PayloadLedger.Proofs.Notice.RoundTrip
import PayloadLedger.Proofs.Query.Cursor
import PayloadLedger.Proofs.Query.Token
import PayloadLedger.Proofs.Query.Window
import PayloadLedger.Proofs.Store.Accepted
import PayloadLedger.Proofs.Store.Chronology
import PayloadLedger.Proofs.Store.Claiming
import PayloadLedger.Proofs.Store.Counting
import PayloadLedger.Proofs.Store.Gathering
import PayloadLedger.Proofs.Store.History
import PayloadLedger.Proofs.Store.Isolation
import PayloadLedger.Proofs.Store.Lookups
import PayloadLedger.Proofs.Store.Naming
import PayloadLedger.Proofs.Store.Once
import PayloadLedger.Proofs.Store.Readers
import PayloadLedger.Proofs.Store.Walk
import PayloadLedger.Proofs.Time.Span
import PayloadLedger.Settings
import PayloadLedger.Proofs.Store.Selecting
