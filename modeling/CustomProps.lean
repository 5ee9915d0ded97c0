import CustomProps.Text.Basic
import CustomProps.Text.Utf8
import CustomProps.Text.Blank
import CustomProps.Text.Hex
import CustomProps.Unicode.CodeRange
import CustomProps.Unicode.FoldingTable
import CustomProps.Unicode.Folding
import CustomProps.Unicode.CompositionTable
import CustomProps.Unicode.Composition
import CustomProps.Unicode.Direction
import CustomProps.Unicode.Joining
import CustomProps.Unicode.Mark
import CustomProps.Domain.Punycode
import CustomProps.Domain.Label
import CustomProps.Domain.Name
import CustomProps.Position
import CustomProps.Protocol.Basic
import CustomProps.Protocol.Capabilities
import CustomProps.Protocol.Requests
import CustomProps.Region
import CustomProps.Path
import CustomProps.Uri.Address
import CustomProps.Uri.Basic
import CustomProps.Uri.Parse
import CustomProps.Uri.File
import CustomProps.Uri.Host
import CustomProps.Declaration.Basic
import CustomProps.Declaration.Match
import CustomProps.Declaration.LineCounter
import CustomProps.Declaration.Registry
import CustomProps.Declaration.Extract
import CustomProps.Json.Basic
import CustomProps.Json.Parse
import CustomProps.Json.Print
import CustomProps.Json.Shape
import CustomProps.Source
import CustomProps.Index
import CustomProps.Token
import CustomProps.Completion.Insertion
import CustomProps.Color.Basic
import CustomProps.Color.Numeral
import CustomProps.Color.Keyword
import CustomProps.Color.Function
import CustomProps.Color.Literal
import CustomProps.Swatch.Base64
import CustomProps.Swatch.Basic
import CustomProps.Completion.Item
import CustomProps.Settings.Basic
import CustomProps.Settings.CommandLine
import CustomProps.Settings.Client
import CustomProps.Glob.Pattern
import CustomProps.Glob.Expression
import CustomProps.Glob.Kind
import CustomProps.Glob.Match
import CustomProps.Glob.Set
import CustomProps.Workspace.Disk
import CustomProps.Workspace.SourceFilter
import CustomProps.Workspace.Discovery
import CustomProps.Workspace.Scan
import CustomProps.Server.State
import CustomProps.Server.Sync
import CustomProps.Server.Rescan
import CustomProps.Server.Answer
import CustomProps.Server.Wire
import CustomProps.Server.Step
import CustomProps.Server.Rpc
import CustomProps.Main
import CustomProps.Proofs.Lines
import CustomProps.Proofs.Change
import CustomProps.Proofs.Utf8
import CustomProps.Proofs.Region
import CustomProps.Proofs.Extract
import CustomProps.Proofs.Step
import CustomProps.Proofs.Documents
import CustomProps.Proofs.Sync
import CustomProps.Proofs.FileUri
import CustomProps.Proofs.Store
import CustomProps.Proofs.Grammar
import CustomProps.Proofs.Cursor
import CustomProps.Proofs.GlobLanguage
import CustomProps.Proofs.Discovery
import CustomProps.Proofs.Places
import CustomProps.Proofs.Rescan
import CustomProps.Proofs.Admission
import CustomProps.Proofs.OpenSources
import CustomProps.Proofs.EditSession
import CustomProps.Proofs.Firsts
import CustomProps.Proofs.Written
import CustomProps.Proofs.Concatenation
import CustomProps.Proofs.Comment
import CustomProps.Proofs.Sheet
import CustomProps.Proofs.Answers
import CustomProps.Proofs.Priority
import CustomProps.Proofs.NameInLine
import CustomProps.Proofs.NameAlphabet
import CustomProps.Proofs.Acceptance
import CustomProps.Proofs.OwnDeclaration
import CustomProps.Proofs.Slices
import CustomProps.Proofs.Layers
import CustomProps.Proofs.LineEnds
import CustomProps.Proofs.InPlace
import CustomProps.Proofs.Columns
import CustomProps.Proofs.EditRange
import CustomProps.Proofs.Segments
import CustomProps.Proofs.Runs
import CustomProps.Proofs.TypedName
import CustomProps.Proofs.WalkOrder
import CustomProps.Proofs.FlagGroups
import CustomProps.Proofs.LineColumns
import CustomProps.Proofs.HexColor
import CustomProps.Proofs.Base64
import CustomProps.Proofs.Utf8Read
import CustomProps.Proofs.Markup
import CustomProps.Proofs.Preview
import CustomProps.Proofs.LineCounter
import CustomProps.Proofs.Registry
