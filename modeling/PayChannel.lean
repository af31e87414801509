import PayChannel.Account
import PayChannel.Api.Json
import PayChannel.Api.Requests
import PayChannel.Api.Responses
import PayChannel.Ascii
import PayChannel.Bytes
import PayChannel.Channel
import PayChannel.Client.Calls
import PayChannel.Client.Embedded
import PayChannel.Client.Retry
import PayChannel.Client.Shared
import PayChannel.Client.Transport
import PayChannel.Crypto.Blake2b
import PayChannel.Crypto.Ed25519
import PayChannel.Crypto.Edwards
import PayChannel.Crypto.Scheme
import PayChannel.Crypto.Sha512
import PayChannel.Decimal
import PayChannel.Hex
import PayChannel.Http.MediaType
import PayChannel.Http.Message
import PayChannel.Json.Kind
import PayChannel.Json.Number
import PayChannel.Json.Record
import PayChannel.Json.Scan
import PayChannel.Json.Skip
import PayChannel.Ledger
import PayChannel.Ledger.BalanceSheet
import PayChannel.Ledger.Reserved
import PayChannel.Main
import PayChannel.Net.Address
import PayChannel.Net.Endpoint
import PayChannel.Node.Command
import PayChannel.Node.Config
import PayChannel.Node.Disk
import PayChannel.Node.Fault
import PayChannel.Node.FileTree
import PayChannel.Node.Files
import PayChannel.Node.KeyFile
import PayChannel.Node.Path
import PayChannel.Node.Run
import PayChannel.Node.Server
import PayChannel.Node.Usage
import PayChannel.Proofs.Client.Agreement
import PayChannel.Proofs.Client.Fundings
import PayChannel.Proofs.Client.Outcomes
import PayChannel.Proofs.Client.Retries
import PayChannel.Proofs.Client.Timestamps
import PayChannel.Proofs.Json.Extent
import PayChannel.Proofs.Json.Objects
import PayChannel.Proofs.Json.Records
import PayChannel.Proofs.Json.RoundTrip
import PayChannel.Proofs.Json.Values
import PayChannel.Proofs.Layouts
import PayChannel.Proofs.Ledger.Issuance
import PayChannel.Proofs.Net.Endpoints
import PayChannel.Proofs.Node.Configs
import PayChannel.Proofs.Node.KeyFiles
import PayChannel.Proofs.Node.Storage
import PayChannel.Proofs.Registry.Acceptance
import PayChannel.Proofs.Registry.Batches
import PayChannel.Proofs.Registry.Bookkeeping
import PayChannel.Proofs.Registry.Conservation
import PayChannel.Proofs.Registry.Consistency
import PayChannel.Proofs.Registry.Emission
import PayChannel.Proofs.Registry.Entitlement
import PayChannel.Proofs.Registry.Expiry
import PayChannel.Proofs.Registry.Filing
import PayChannel.Proofs.Registry.Freezing
import PayChannel.Proofs.Registry.Generations
import PayChannel.Proofs.Registry.Holdings
import PayChannel.Proofs.Registry.Independence
import PayChannel.Proofs.Registry.Locking
import PayChannel.Proofs.Registry.Netting
import PayChannel.Proofs.Registry.Notes
import PayChannel.Proofs.Registry.Refusals
import PayChannel.Proofs.Registry.Reopening
import PayChannel.Proofs.Registry.Repetition
import PayChannel.Proofs.Registry.Replica
import PayChannel.Proofs.Registry.Run
import PayChannel.Proofs.Registry.Statistics
import PayChannel.Proofs.Registry.Sweeping
import PayChannel.Proofs.Registry.Writes
import PayChannel.Proofs.Service.Admission
import PayChannel.Proofs.Service.Answers
import PayChannel.Proofs.Service.Authority
import PayChannel.Proofs.Service.Domains
import PayChannel.Proofs.Service.Overlap
import PayChannel.Proofs.Service.Paths
import PayChannel.Proofs.Service.Recall
import PayChannel.Proofs.Service.Redirect
import PayChannel.Proofs.Service.Statuses
import PayChannel.Proofs.Service.Succession
import PayChannel.Proofs.Spelling
import PayChannel.Proofs.Table.Total
import PayChannel.Proofs.Text
import PayChannel.Proofs.Toml.Documents
import PayChannel.Proofs.Toml.Lines
import PayChannel.Refusal
import PayChannel.Registry.Basic
import PayChannel.Registry.Operations
import PayChannel.Service.Auth
import PayChannel.Service.BlockClock
import PayChannel.Service.Denial
import PayChannel.Service.Handler
import PayChannel.Service.Replay
import PayChannel.Service.Route
import PayChannel.Table
import PayChannel.Timer
import PayChannel.Toml.Document
import PayChannel.Toml.Line
import PayChannel.Toml.Scalar
import PayChannel.Toml.Text
import PayChannel.Toml.Value
import PayChannel.Utf8
import PayChannel.Voucher
import PayChannel.Word
