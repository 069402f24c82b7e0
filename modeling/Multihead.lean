import Multihead.Arrangement
import Multihead.Arrangement.Call
import Multihead.ArrangementError
import Multihead.BoundingBox
import Multihead.Catalog
import Multihead.Command
import Multihead.CommandLine.Draft
import Multihead.CommandLine.Read
import Multihead.Display
import Multihead.Display.Json
import Multihead.DisplaySource
import Multihead.Edit
import Multihead.Environment
import Multihead.Failure
import Multihead.FilePath
import Multihead.FileSystem
import Multihead.FullscreenMode
import Multihead.Host
import Multihead.Json.Number
import Multihead.Json.Reader
import Multihead.Json.Record
import Multihead.Json.Scalar
import Multihead.Json.Skip
import Multihead.Json.Text
import Multihead.Json.Value
import Multihead.Layout
import Multihead.Layout.File
import Multihead.Layout.Json
import Multihead.Log.Directive
import Multihead.Log.Filter
import Multihead.Log.Line
import Multihead.Log.Record
import Multihead.Machine
import Multihead.Main
import Multihead.Program
import Multihead.Rect
import Multihead.Rect.Json
import Multihead.Report
import Multihead.Requirement
import Multihead.Selection
import Multihead.SelectionText
import Multihead.Session
import Multihead.Settings
import Multihead.Settings.File
import Multihead.Settings.Json
import Multihead.SortedSet
import Multihead.Text.Alphanumeric
import Multihead.Text.Blank
import Multihead.Text.CharRange
import Multihead.Text.Decimal
import Multihead.Text.GraphemeExtend
import Multihead.Text.Hexadecimal
import Multihead.Text.Pattern
import Multihead.Text.Printable
import Multihead.Text.Quoted
import Multihead.Proofs.Catalog
import Multihead.Proofs.Catalog.Entries
import Multihead.Proofs.Catalog.StableSort
import Multihead.Proofs.DesktopBounds
import Multihead.Proofs.Layout
import Multihead.Proofs.DisplaySource
import Multihead.Proofs.Limits
import Multihead.Proofs.BoundingBox
import Multihead.Proofs.Rect
import Multihead.Proofs.Pixels
import Multihead.Proofs.Requirement
import Multihead.Proofs.Requirement.Enclosed
import Multihead.Proofs.Requirement.Monotone
import Multihead.Proofs.Requirement.Pixels
import Multihead.Proofs.Translation
import Multihead.Proofs.Text.DigitRun
import Multihead.Proofs.Text.Decimal
import Multihead.Proofs.SelectionText.Grammar
import Multihead.Proofs.SelectionText.RoundTrip
import Multihead.Proofs.SelectionText.Canonical
import Multihead.Proofs.SelectionText.Refusal
import Multihead.Proofs.Selection
import Multihead.Proofs.Arrangement.EnumerationOrder
import Multihead.Proofs.Arrangement.FrameBuffer
import Multihead.Proofs.Arrangement.PlatformIndices
import Multihead.Proofs.Arrangement.Primary
import Multihead.Proofs.Arrangement.Extent
import Multihead.Proofs.Arrangement.Queries
import Multihead.Proofs.Arrangement.Replay
import Multihead.Proofs.Arrangement.Restore
import Multihead.Proofs.Arrangement.RestoreReport
import Multihead.Proofs.Json.Spelling
import Multihead.Proofs.Json.Number
import Multihead.Proofs.Json.Grammar
import Multihead.Proofs.Json.Members
import Multihead.Proofs.Json.Reading
import Multihead.Proofs.Json.Rearranged
import Multihead.Proofs.Settings.Json
import Multihead.Proofs.FileSystem
import Multihead.Proofs.FileSystem.Changes
import Multihead.Proofs.Machine
import Multihead.Proofs.FileSystem.Alike
import Multihead.Proofs.Machine.Alike
import Multihead.Proofs.Settings.File
import Multihead.Proofs.Layout.Json
import Multihead.Proofs.Persistence
import Multihead.Proofs.Session
import Multihead.Proofs.Session.Alike
import Multihead.Proofs.CommandLine.Verbose
import Multihead.Proofs.Program
import Multihead.Proofs.Program.RejectedSettings
import Multihead.Proofs.Edit
import Multihead.Proofs.Program.Edits
import Multihead.Proofs.Program.Normalized
import Multihead.Proofs.Program.Verbosity
import Multihead.Proofs.Settings.Rearranged
import Multihead.Proofs.Arrangement.Request
