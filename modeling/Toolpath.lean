import Toolpath.Axis
import Toolpath.Command
import Toolpath.CommandLine.Help
import Toolpath.CommandLine.Options
import Toolpath.CommandLine.Run
import Toolpath.Files.Path
import Toolpath.Files.Tree
import Toolpath.Geometry
import Toolpath.Geometry.Record
import Toolpath.Layer
import Toolpath.Loader
import Toolpath.Log
import Toolpath.Machine
import Toolpath.Main
import Toolpath.Number.Binary
import Toolpath.Number.Decimal
import Toolpath.Number.Numeral
import Toolpath.Number.Quantity
import Toolpath.Number.Shortest
import Toolpath.Number.Written
import Toolpath.Preview
import Toolpath.Preview.Frame
import Toolpath.Preview.Image
import Toolpath.Preview.Png
import Toolpath.Preview.Surface
import Toolpath.Proofs.Account
import Toolpath.Proofs.Acquisition
import Toolpath.Proofs.Agreement
import Toolpath.Proofs.Balance
import Toolpath.Proofs.Bounds
import Toolpath.Proofs.Box
import Toolpath.Proofs.Chunks
import Toolpath.Proofs.Comments
import Toolpath.Proofs.Composition
import Toolpath.Proofs.Configuration
import Toolpath.Proofs.Current
import Toolpath.Proofs.Decoding
import Toolpath.Proofs.Deletion
import Toolpath.Proofs.Delivery
import Toolpath.Proofs.Drawability
import Toolpath.Proofs.Drawing
import Toolpath.Proofs.Escape
import Toolpath.Proofs.Export
import Toolpath.Proofs.Extent
import Toolpath.Proofs.Forms
import Toolpath.Proofs.History
import Toolpath.Proofs.Independence
import Toolpath.Proofs.Json
import Toolpath.Proofs.Layering
import Toolpath.Proofs.Lines
import Toolpath.Proofs.Literals
import Toolpath.Proofs.Longest
import Toolpath.Proofs.Margins
import Toolpath.Proofs.Markers
import Toolpath.Proofs.Modes
import Toolpath.Proofs.Motion
import Toolpath.Proofs.Nearest
import Toolpath.Proofs.Overflow
import Toolpath.Proofs.Packing
import Toolpath.Proofs.Parameters
import Toolpath.Proofs.Paths
import Toolpath.Proofs.Placement
import Toolpath.Proofs.Previewing
import Toolpath.Proofs.Recovery
import Toolpath.Proofs.Rendering
import Toolpath.Proofs.Restriction
import Toolpath.Proofs.Rounding
import Toolpath.Proofs.Rows
import Toolpath.Proofs.Selection
import Toolpath.Proofs.ShortestText
import Toolpath.Proofs.Spelling
import Toolpath.Proofs.Summary
import Toolpath.Proofs.Tokens
import Toolpath.Proofs.Turning
import Toolpath.Proofs.Undefined
import Toolpath.Proofs.Whole
import Toolpath.Proofs.Words
import Toolpath.Proofs.Writing
import Toolpath.Segment
import Toolpath.Settings
import Toolpath.Source
import Toolpath.Text.Blank
import Toolpath.Text.Case
import Toolpath.Text.Digit
import Toolpath.Text.Line
import Toolpath.Text.Printable
import Toolpath.Text.Quoted
import Toolpath.Text.Range
import Toolpath.Text.Utf8
import Toolpath.Version
import Toolpath.Vertex
