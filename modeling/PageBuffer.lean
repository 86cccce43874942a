import PageBuffer.Building
import PageBuffer.Bytes.LittleEndian
import PageBuffer.Cache
import PageBuffer.Error
import PageBuffer.Fallible
import PageBuffer.Hash
import PageBuffer.History
import PageBuffer.Json.Blank
import PageBuffer.Json.Fault
import PageBuffer.Json.Grammar
import PageBuffer.Json.Magnitude
import PageBuffer.Json.Number
import PageBuffer.Json.Quoted
import PageBuffer.Json.Scalar
import PageBuffer.Json.Value
import PageBuffer.Log
import PageBuffer.Pool.Basic
import PageBuffer.Pool.Run
import PageBuffer.Proofs.Json.Number
import PageBuffer.Proofs.Json.Quoted
import PageBuffer.Proofs.Json.Scalar
import PageBuffer.Proofs.Json.Value
import PageBuffer.Proofs.Keyed
import PageBuffer.Proofs.LittleEndian
import PageBuffer.Proofs.Pool.Branches
import PageBuffer.Proofs.Pool.Coherence
import PageBuffer.Proofs.Pool.Failing
import PageBuffer.Proofs.Pool.Frequency
import PageBuffer.Proofs.Pool.Holding
import PageBuffer.Proofs.Pool.InStep
import PageBuffer.Proofs.Pool.Pinning
import PageBuffer.Proofs.Pool.Recency
import PageBuffer.Proofs.Pool.Refinement
import PageBuffer.Proofs.Pool.Residents
import PageBuffer.Proofs.Pool.Scan
import PageBuffer.Proofs.Pool.Seating
import PageBuffer.Proofs.Pool.Steps
import PageBuffer.Proofs.Replacer.Draining
import PageBuffer.Proofs.Replacer.Idle
import PageBuffer.Proofs.Replacer.Keeping
import PageBuffer.Proofs.Replacer.Omission
import PageBuffer.Proofs.Replacer.Order
import PageBuffer.Proofs.Replacer.Protection
import PageBuffer.Proofs.Replacer.Ranking
import PageBuffer.Proofs.Replacer.Refinement
import PageBuffer.Proofs.Replacer.Stamping
import PageBuffer.Proofs.Replacer.Steps
import PageBuffer.Proofs.Settings.Environment
import PageBuffer.Proofs.Settings.Json
import PageBuffer.Proofs.Settings.Overlay
import PageBuffer.Proofs.Settings.RoundTrip
import PageBuffer.Proofs.Simulation
import PageBuffer.Proofs.Table.Audit
import PageBuffer.Proofs.Table.Bucket
import PageBuffer.Proofs.Table.Directory
import PageBuffer.Proofs.Table.Growth
import PageBuffer.Proofs.Table.History
import PageBuffer.Proofs.Table.Insertion
import PageBuffer.Proofs.Table.Interleaving
import PageBuffer.Proofs.Table.Likeness
import PageBuffer.Proofs.Table.Lookup
import PageBuffer.Proofs.Table.Parting
import PageBuffer.Proofs.Table.Patterns
import PageBuffer.Proofs.Table.Refinement
import PageBuffer.Proofs.Table.Rounds
import PageBuffer.Proofs.Table.Routing
import PageBuffer.Proofs.Table.Safety
import PageBuffer.Proofs.Table.Shape
import PageBuffer.Proofs.Table.Structure
import PageBuffer.Proofs.Table.Updates
import PageBuffer.Proofs.Text.Numeral
import PageBuffer.Proofs.Text.Quoting
import PageBuffer.Proofs.Text.Trimming
import PageBuffer.Replacer.Basic
import PageBuffer.Replacer.Chronicle
import PageBuffer.Replacer.Run
import PageBuffer.Run
import PageBuffer.Settings.Basic
import PageBuffer.Settings.Binary
import PageBuffer.Settings.Environment
import PageBuffer.Settings.Field
import PageBuffer.Settings.Grammar
import PageBuffer.Settings.Json
import PageBuffer.Shared
import PageBuffer.Table.Audit
import PageBuffer.Table.Basic
import PageBuffer.Table.Bucket
import PageBuffer.Table.Contents
import PageBuffer.Table.Event
import PageBuffer.Table.Fault
import PageBuffer.Table.Run
import PageBuffer.Text.Blank
import PageBuffer.Text.Extending
import PageBuffer.Text.Ignorable
import PageBuffer.Text.Numeral
import PageBuffer.Text.Quoted
import PageBuffer.Text.Ranges
import PageBuffer.Text.Unprintable
import PageBuffer.Threads
