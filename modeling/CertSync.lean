import CertSync.Acm.Client
import CertSync.Acm.Request
import CertSync.Acm.Response
import CertSync.Acm.Service
import CertSync.Config.Environment
import CertSync.Config.LogLevel
import CertSync.Drift.Issuance
import CertSync.Hook.Export
import CertSync.Hook.Import
import CertSync.Hook.Tags
import CertSync.Hook.World
import CertSync.Json.Printer
import CertSync.Json.Reader
import CertSync.Key.Decryption
import CertSync.Metrics
import CertSync.Proofs.Acm.Answer
import CertSync.Proofs.Acm.Service
import CertSync.Proofs.Bytes.Base64
import CertSync.Proofs.Bytes.Basic
import CertSync.Proofs.Config.Setting
import CertSync.Proofs.Crypto.Aes
import CertSync.Proofs.Der.Canonical
import CertSync.Proofs.Der.Element
import CertSync.Proofs.Der.Number
import CertSync.Proofs.Drift.Comparison
import CertSync.Proofs.Drift.FirstIssuance
import CertSync.Proofs.Drift.Label
import CertSync.Proofs.Drift.Observation
import CertSync.Proofs.Drift.Segment
import CertSync.Proofs.Export.Aliasing
import CertSync.Proofs.Export.Course
import CertSync.Proofs.Export.DefaultKey
import CertSync.Proofs.Export.Delivery
import CertSync.Proofs.Export.Footprint
import CertSync.Proofs.Export.Isolation
import CertSync.Proofs.Export.Replay
import CertSync.Proofs.Export.Run
import CertSync.Proofs.Import.Course
import CertSync.Proofs.Import.Repetition
import CertSync.Proofs.Import.Run
import CertSync.Proofs.Import.Synced
import CertSync.Proofs.Json.Field
import CertSync.Proofs.Json.Lexer
import CertSync.Proofs.Json.Number
import CertSync.Proofs.Json.Record
import CertSync.Proofs.Json.RoundTrip
import CertSync.Proofs.Json.Shape
import CertSync.Proofs.Json.Word
import CertSync.Proofs.Key.Armour
import CertSync.Proofs.Key.Clear
import CertSync.Proofs.Key.Container
import CertSync.Proofs.Key.Document
import CertSync.Proofs.Key.Elliptic
import CertSync.Proofs.Key.Expectation
import CertSync.Proofs.Key.NormalForm
import CertSync.Proofs.Key.Refusal
import CertSync.Proofs.Key.Rsa
import CertSync.Proofs.Key.Sealed
import CertSync.Proofs.Metrics.Family
import CertSync.Proofs.Metrics.History
import CertSync.Proofs.Metrics.Text
import CertSync.Proofs.Operation.Accounting
import CertSync.Proofs.Operation.Basic
import CertSync.Proofs.Operation.Blame
import CertSync.Proofs.Operation.Emptiness
import CertSync.Proofs.Operation.Fault
import CertSync.Proofs.Operation.Naming
import CertSync.Proofs.Operation.Secrecy
import CertSync.Proofs.Operation.Stability
import CertSync.Proofs.Operation.Truncation
import CertSync.Proofs.Resource.Emptiness
import CertSync.Proofs.Resource.Record
import CertSync.Proofs.Resource.RoundTrip
import CertSync.Proofs.Resource.Shape
import CertSync.Proofs.SecretStore.Access
import CertSync.Proofs.SecretStore.Answer
import CertSync.Proofs.SecretStore.Concurrency
import CertSync.Proofs.SecretStore.ReadBack
import CertSync.Proofs.SecretStore.Server
import CertSync.Proofs.SecretStore.Write
import CertSync.Proofs.Session.Composition
import CertSync.Proofs.Session.Confinement
import CertSync.Proofs.Session.Encounter
import CertSync.Proofs.Session.Ledger
import CertSync.Proofs.Session.Memory
import CertSync.Proofs.Session.Mirror
import CertSync.Proofs.Session.Mishap
import CertSync.Proofs.Session.Moment
import CertSync.Proofs.Session.Proceed
import CertSync.Proofs.Session.Prompt
import CertSync.Proofs.Session.Record
import CertSync.Proofs.Session.Replay
import CertSync.Proofs.Session.Run
import CertSync.Proofs.Session.Steady
import CertSync.Proofs.Session.Trace
import CertSync.Proofs.Sharing.Memory
import CertSync.Proofs.Sharing.Surroundings
import CertSync.Proofs.Sharing.Turns
import CertSync.Proofs.Tag.Convergence
import CertSync.Proofs.Tag.Diff
import CertSync.Proofs.Tag.Doubt
import CertSync.Proofs.Tag.History
import CertSync.Proofs.Tag.Lookup
import CertSync.Proofs.Tag.Minimality
import CertSync.Proofs.Tag.Observation
import CertSync.Proofs.Tag.Service
import CertSync.Proofs.Text.Decimal
import CertSync.Proofs.Time.Layout
import CertSync.Proofs.Time.RoundTrip
import CertSync.Proofs.Traversal
import CertSync.Proofs.Validation.Preflight
import CertSync.Proofs.Validation.Verdict
import CertSync.Resource.Printer
import CertSync.Resource.Reader
import CertSync.SecretStore.Access
import CertSync.Validation
