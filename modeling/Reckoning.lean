import Reckoning.Stored.Character
import Reckoning.Stored.Config
import Reckoning.Stored.Record
import Reckoning.Generator
import Reckoning.Seed
import Reckoning.Content.Builtin
import Reckoning.Content.Loader
import Reckoning.Content.Source
import Reckoning.Stored.Definition
import Reckoning.Ledger.Any
import Reckoning.Ledger.Export
import Reckoning.Ledger.Query
import Reckoning.Engine.State
import Reckoning.Ron.Reader
import Reckoning.Ron.Printer
import Reckoning.Json.Reader
import Reckoning.Json.Printer
import Reckoning.Text.Identifier
import Reckoning.Proofs.Attempt.Addends
import Reckoning.Proofs.Content.Limits
import Reckoning.Proofs.Content.Valid
import Reckoning.Proofs.PositiveSum
import Reckoning.Proofs.Engine.Issuance
import Reckoning.Proofs.Attempt.Consequences
import Reckoning.Proofs.Attempt.Bounds
import Reckoning.Proofs.Attempt.ExactAxes
import Reckoning.Proofs.Engine.Run
import Reckoning.Proofs.Ledger.Chronicle
import Reckoning.Proofs.Engine.History
import Reckoning.Proofs.Engine.Issued
import Reckoning.Proofs.Engine.Replay
import Reckoning.Proofs.Ledger.Scans
import Reckoning.Proofs.Content.Accounting
import Reckoning.Proofs.Content.Strictness
import Reckoning.Proofs.Content.FirstComers
import Reckoning.Proofs.Ledger.Queries
import Reckoning.Proofs.Ledger.Restart
import Reckoning.Proofs.Seed
import Reckoning.Proofs.Ledger.Opening
import Reckoning.Proofs.Engine.Registry
import Reckoning.Proofs.Engine.Refusals
import Reckoning.Proofs.Engine.Known
import Reckoning.Proofs.Engine.Retries
import Reckoning.Proofs.Stored.Character
import Reckoning.Proofs.Attempt.Outcome
import Reckoning.Proofs.Attempt.Factors
import Reckoning.Proofs.Attempt.Repeats
import Reckoning.Proofs.Ledger.Rows
import Reckoning.Proofs.Ledger.Audit
import Reckoning.Proofs.Engine.GeneratedSeeds
import Reckoning.Proofs.Engine.Forging
import Reckoning.Proofs.Engine.ItemNumbers
import Reckoning.Proofs.Engine.Rolling
import Reckoning.Proofs.Engine.Sampling
import Reckoning.Proofs.Attempt.Luck
import Reckoning.Proofs.Shuffle
import Reckoning.Proofs.Stirring
