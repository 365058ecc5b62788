import VersionedText.Analysis
import VersionedText.Binary64
import VersionedText.Binary64.Shortest
import VersionedText.ByteOrderMark
import VersionedText.ChangeRange
import VersionedText.CharacterSet
import VersionedText.Document
import VersionedText.Editor
import VersionedText.Editor.Capability
import VersionedText.Editor.Request
import VersionedText.Editor.Shape
import VersionedText.Editor.WorkspaceEdit
import VersionedText.Entries
import VersionedText.FileOperation
import VersionedText.FileTree
import VersionedText.Hexadecimal
import VersionedText.History
import VersionedText.Json
import VersionedText.Json.Decoder
import VersionedText.Json.Number
import VersionedText.Json.Printer
import VersionedText.Json.Reader
import VersionedText.Json.Record
import VersionedText.LineTable
import VersionedText.LineTable.Place
import VersionedText.LineTable.Update
import VersionedText.Method
import VersionedText.Offset
import VersionedText.Project
import VersionedText.Quotation
import VersionedText.Quotation.Invisible
import VersionedText.Refusal
import VersionedText.Rpc
import VersionedText.Session
import VersionedText.Settings
import VersionedText.Settings.Discovery
import VersionedText.Snapshot
import VersionedText.Span
import VersionedText.Text
import VersionedText.Toml
import VersionedText.Toml.Numeral
import VersionedText.Toml.Quoted
import VersionedText.Toml.Reader
import VersionedText.Uri
import VersionedText.Uri.Authority
import VersionedText.Uri.Domain
import VersionedText.Uri.Domain.Composition
import VersionedText.Uri.Domain.Label
import VersionedText.Uri.Domain.Mapping
import VersionedText.Uri.Domain.Punycode
import VersionedText.Uri.Domain.Spelled
import VersionedText.Uri.FilePath
import VersionedText.Uri.Host
import VersionedText.Uri.Host.Ipv4
import VersionedText.Uri.Host.Ipv6
import VersionedText.Uri.ParseError
import VersionedText.Uri.Path
import VersionedText.Uri.Percent
import VersionedText.Uri.Pieces
import VersionedText.Uri.Scheme
import VersionedText.Wire
import VersionedText.Proofs.Cut
import VersionedText.Proofs.Explanation
import VersionedText.Proofs.Recount
import VersionedText.Proofs.Revision
import VersionedText.Proofs.Watch
import VersionedText.Proofs.Calls
import VersionedText.Proofs.OpenFiles
import VersionedText.Proofs.FileMap
import VersionedText.Proofs.Reach
import VersionedText.Proofs.LineBreaks
import VersionedText.Proofs.Rescan
import VersionedText.Proofs.Bookkeeping
import VersionedText.Proofs.Window
import VersionedText.Proofs.Fading
import VersionedText.Proofs.Hull
import VersionedText.Proofs.FileEntries
import VersionedText.Proofs.Reopening
import VersionedText.Proofs.InPlace
import VersionedText.Proofs.Upkeep
import VersionedText.Proofs.Isolation
import VersionedText.Proofs.Batches
import VersionedText.Proofs.Lines
import VersionedText.Proofs.Places
import VersionedText.Proofs.EditorEdits
import VersionedText.Proofs.Splitting
import VersionedText.Proofs.Columns
import VersionedText.Proofs.Positions
import VersionedText.Proofs.Bracketing
import VersionedText.Proofs.Limits
import VersionedText.Proofs.Chaining
import VersionedText.Proofs.Bounds
import VersionedText.Proofs.Validation
import VersionedText.Proofs.Concatenation
import VersionedText.Proofs.FilePaths
import VersionedText.Proofs.NearestSettings
import VersionedText.Proofs.Readings
import VersionedText.Proofs.Spellings
import VersionedText.Proofs.RoundTrips
