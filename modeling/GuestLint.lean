import GuestLint.Path.Lexical
import GuestLint.Bytes.Encoding
import GuestLint.Bytes.Block
import GuestLint.Number.Notation
import GuestLint.Number.Reader
import GuestLint.Text.Template
import GuestLint.Json.Document
import GuestLint.Json.Parser
import GuestLint.Url.FilePath
import GuestLint.Virtual.Snapshot
import GuestLint.Virtual.Resolution
import GuestLint.Stream.Ledger
import GuestLint.Stream.Channel
import GuestLint.Diagnostics.Captured
import GuestLint.Modules.Source
import GuestLint.Modules.Require
import GuestLint.Guest.Engine
import GuestLint.Guest.Capture
import GuestLint.Lint.Listing
import GuestLint.Lint.FileConfig
import GuestLint.Lint.Run
import GuestLint.Main
import GuestLint.Proofs.Dialogue
import GuestLint.Proofs.Guest.Machine
import GuestLint.Proofs.Stream.Ledger
import GuestLint.Proofs.Builtin.StreamFailure
import GuestLint.Proofs.Builtin.StreamOrder
import GuestLint.Proofs.Guest.Loading
import GuestLint.Proofs.Builtin.Buffers
import GuestLint.Proofs.Lint.Waiting
import GuestLint.Proofs.Lint.Report
import GuestLint.Proofs.Virtual.Resolution
import GuestLint.Proofs.Builtin.StreamAccount
import GuestLint.Proofs.Guest.Nesting
import GuestLint.Proofs.Lint.Excerpt
import GuestLint.Proofs.Virtual.Consistency
import GuestLint.Proofs.Virtual.Confinement
import GuestLint.Proofs.Lint.Outcome
import GuestLint.Proofs.Lint.Installing
import GuestLint.Proofs.Path.Relative
import GuestLint.Proofs.Builtin.Urls
import GuestLint.Proofs.Builtin.Files
import GuestLint.Proofs.Virtual.Snapshot
import GuestLint.Proofs.Path.Meaning
import GuestLint.Proofs.Path.Joining
import GuestLint.Proofs.Path.Pieces
import GuestLint.Proofs.Virtual.Inserts
import GuestLint.Proofs.Virtual.Inspection
import GuestLint.Proofs.Bytes.Foreign
import GuestLint.Proofs.Diagnostics.Stack
import GuestLint.Proofs.Builtin.StreamReasons
import GuestLint.Proofs.Number.Notation
import GuestLint.Proofs.Text.Template
import GuestLint.Proofs.Builtin.Messages
import GuestLint.Proofs.Bytes.Block
import GuestLint.Proofs.Builtin.Writes
import GuestLint.Proofs.Builtin.Joining
import GuestLint.Proofs.Bytes.Hex
import GuestLint.Proofs.Lint.Listing
import GuestLint.Proofs.Lint.Deadline
