import BrokerVault.Bytes
import BrokerVault.Cipher.Aes
import BrokerVault.Cipher.Base64
import BrokerVault.Cipher.Error
import BrokerVault.Cipher.Gcm
import BrokerVault.Cipher.Key
import BrokerVault.Cipher.Seed
import BrokerVault.Cipher.Sha256
import BrokerVault.Cipher.Suite
import BrokerVault.CommandLine.Arguments
import BrokerVault.CommandLine.Commands
import BrokerVault.CommandLine.Directory
import BrokerVault.CommandLine.Environment
import BrokerVault.CommandLine.Failure
import BrokerVault.CommandLine.Machine
import BrokerVault.CommandLine.Network
import BrokerVault.Database.Basic
import BrokerVault.Database.Credentials
import BrokerVault.Database.Document
import BrokerVault.Database.Records
import BrokerVault.Database.Reencryption
import BrokerVault.Database.Table
import BrokerVault.Database.Timestamp
import BrokerVault.Database.Vault
import BrokerVault.Double.Basic
import BrokerVault.Double.Shortest
import BrokerVault.Encryptor.Basic
import BrokerVault.Encryptor.Column
import BrokerVault.Json.Basic
import BrokerVault.Json.Container
import BrokerVault.Json.Cursor
import BrokerVault.Json.Error
import BrokerVault.Json.Number
import BrokerVault.Json.Printer
import BrokerVault.Json.Reader
import BrokerVault.Json.Shape
import BrokerVault.Json.Skip
import BrokerVault.Json.String
import BrokerVault.Main
import BrokerVault.NameMap
import BrokerVault.Password.Basic
import BrokerVault.Password.Reader
import BrokerVault.Password.Validation
import BrokerVault.Proofs.Completion
import BrokerVault.Proofs.Credentials
import BrokerVault.Proofs.Derivation
import BrokerVault.Proofs.Enrolment
import BrokerVault.Proofs.Failure
import BrokerVault.Proofs.Foresight.Agreement
import BrokerVault.Proofs.Foresight.Twins
import BrokerVault.Proofs.History.Documents
import BrokerVault.Proofs.History.Lossless
import BrokerVault.Proofs.History.Reversal
import BrokerVault.Proofs.History.Setups
import BrokerVault.Proofs.History.Trust
import BrokerVault.Proofs.Json.Agreement
import BrokerVault.Proofs.Json.Numerals
import BrokerVault.Proofs.Json.Shapes
import BrokerVault.Proofs.Json.Strings
import BrokerVault.Proofs.Json.Values
import BrokerVault.Proofs.Ledger.Avoidance
import BrokerVault.Proofs.Ledger.Journal
import BrokerVault.Proofs.Ledger.Store
import BrokerVault.Proofs.Ledger.Working
import BrokerVault.Proofs.Paging
import BrokerVault.Proofs.Passwords
import BrokerVault.Proofs.Phases
import BrokerVault.Proofs.Policy
import BrokerVault.Proofs.Primaries
import BrokerVault.Proofs.Promotion
import BrokerVault.Proofs.Readability
import BrokerVault.Proofs.Reconciliation
import BrokerVault.Proofs.Removal
import BrokerVault.Proofs.Repetition.Recall
import BrokerVault.Proofs.Repetition.Retry
import BrokerVault.Proofs.Repetition.Settling
import BrokerVault.Proofs.Restart.Convergence
import BrokerVault.Proofs.Restart.Midway
import BrokerVault.Proofs.Restart.Separation
import BrokerVault.Proofs.Restart.Turning
import BrokerVault.Proofs.Restart.Uninterrupted
import BrokerVault.Proofs.Rewriting.Batches
import BrokerVault.Proofs.Rewriting.Cut
import BrokerVault.Proofs.Rewriting.Precheck
import BrokerVault.Proofs.Rewriting.Rows
import BrokerVault.Proofs.Rotation
import BrokerVault.Proofs.Runs
import BrokerVault.Proofs.Sealing.Base64
import BrokerVault.Proofs.Sealing.Columns
import BrokerVault.Proofs.Sealing.Flavours
import BrokerVault.Proofs.Sealing.Gcm
import BrokerVault.Proofs.Sealing.Leaves
import BrokerVault.Proofs.Sealing.RoundTrip
import BrokerVault.Proofs.Sources
import BrokerVault.Proofs.Tables
import BrokerVault.Proofs.Texts
import BrokerVault.Proofs.Upgrade.Accounting
import BrokerVault.Proofs.Upgrade.Reporting
import BrokerVault.Proofs.Upgrade.Sharing
import BrokerVault.Proofs.Upgrade.Shifts
import BrokerVault.Proofs.Validation
import BrokerVault.Proofs.Verification
import BrokerVault.Reconciliation
import BrokerVault.Settings
import BrokerVault.Setup
import BrokerVault.Text.Blank
import BrokerVault.Text.Composed
import BrokerVault.Text.Hidden
import BrokerVault.Text.Mark
import BrokerVault.Text.Quoted
import BrokerVault.Text.Split
import BrokerVault.Text.Utf8
import BrokerVault.Upgrade.Bulk
import BrokerVault.Upgrade.Client
import BrokerVault.Upgrade.Elapsed
import BrokerVault.Upgrade.Error
import BrokerVault.Upgrade.Exchange
import BrokerVault.Upgrade.Platform
import BrokerVault.Upgrade.Pool
import BrokerVault.Upgrade.Rehearsal
import BrokerVault.Upgrade.Report
import BrokerVault.Upgrade.Shift
import BrokerVault.Upgrade.Validation
import BrokerVault.Upgrade.Version
import BrokerVault.Upgrade.Wire
import BrokerVault.Url.Address
import BrokerVault.Url.Basic
import BrokerVault.Url.Domain
import BrokerVault.Url.Domain.Direction
import BrokerVault.Url.Domain.Joining
import BrokerVault.Url.Domain.Meaning
import BrokerVault.Url.Host
import BrokerVault.Url.Percent
import BrokerVault.Url.Punycode
import BrokerVault.Url.Reader
import BrokerVault.Proofs.Json.RoundTrip
import BrokerVault.Proofs.Upgrade.Polling
import BrokerVault.Proofs.Storage
