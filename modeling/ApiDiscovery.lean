import ApiDiscovery.Compression.Bits
import ApiDiscovery.Compression.Deflate
import ApiDiscovery.Compression.Frame
import ApiDiscovery.Compression.PrefixCode
import ApiDiscovery.Discovery.Document
import ApiDiscovery.Discovery.Fault
import ApiDiscovery.Discovery.File
import ApiDiscovery.Discovery.Method
import ApiDiscovery.Discovery.Parameter
import ApiDiscovery.Discovery.Resource
import ApiDiscovery.Discovery.Service
import ApiDiscovery.Discovery.Shape
import ApiDiscovery.Discovery.Tree
import ApiDiscovery.Files.Path
import ApiDiscovery.Files.Store
import ApiDiscovery.Files.Tree
import ApiDiscovery.Json.Double
import ApiDiscovery.Json.Layout
import ApiDiscovery.Json.Reader
import ApiDiscovery.Json.Value
import ApiDiscovery.Json.Writer
import ApiDiscovery.Log
import ApiDiscovery.Main
import ApiDiscovery.Naming.Allocator
import ApiDiscovery.Naming.Identifier
import ApiDiscovery.Ordered
import ApiDiscovery.Pattern.Escape
import ApiDiscovery.Pattern.Fault
import ApiDiscovery.Pattern.Fold
import ApiDiscovery.Pattern.FoldTable
import ApiDiscovery.Pattern.Matcher
import ApiDiscovery.Pattern.Memory
import ApiDiscovery.Pattern.Opening
import ApiDiscovery.Pattern.Parser
import ApiDiscovery.Pattern.Search
import ApiDiscovery.Pattern.Step
import ApiDiscovery.Pattern.Syntax
import ApiDiscovery.Pattern.Token
import ApiDiscovery.Pattern.Width
import ApiDiscovery.Program.Arguments
import ApiDiscovery.Program.Help
import ApiDiscovery.Program.Option
import ApiDiscovery.Program.Output
import ApiDiscovery.Program.Run
import ApiDiscovery.Program.Settings
import ApiDiscovery.Proofs.Json.Number
import ApiDiscovery.Proofs.Naming.Allocator
import ApiDiscovery.Proofs.Naming.Words
import ApiDiscovery.Proofs.Ordered
import ApiDiscovery.Proofs.Outcome
import ApiDiscovery.Proofs.Request.Address
import ApiDiscovery.Proofs.Request.Confinement
import ApiDiscovery.Proofs.Request.Query
import ApiDiscovery.Proofs.Request.Segments
import ApiDiscovery.Proofs.Request.Validation
import ApiDiscovery.Proofs.Source.Class
import ApiDiscovery.Proofs.Text.Cutting
import ApiDiscovery.Proofs.Text.Utf8
import ApiDiscovery.Proofs.Uri.Directory
import ApiDiscovery.Proofs.Uri.Host
import ApiDiscovery.Proofs.Uri.Percent
import ApiDiscovery.Proofs.Uri.Query
import ApiDiscovery.Proofs.Uri.Reference
import ApiDiscovery.Proofs.Uri.Resolve
import ApiDiscovery.Proofs.Uri.Template
import ApiDiscovery.Proofs.Uri.Url
import ApiDiscovery.Request.Authenticator
import ApiDiscovery.Request.Client
import ApiDiscovery.Request.Draft
import ApiDiscovery.Request.Fault
import ApiDiscovery.Request.Header
import ApiDiscovery.Request.Redirect
import ApiDiscovery.Request.ReturnType
import ApiDiscovery.Request.ServiceClient
import ApiDiscovery.Request.Session
import ApiDiscovery.Schema.Argument
import ApiDiscovery.Schema.Markup
import ApiDiscovery.Schema.Reference
import ApiDiscovery.Schema.ValueType
import ApiDiscovery.Source.Accessor
import ApiDiscovery.Source.Class
import ApiDiscovery.Source.Decoration
import ApiDiscovery.Source.Docstring
import ApiDiscovery.Source.Fault
import ApiDiscovery.Source.Method
import ApiDiscovery.Source.Module
import ApiDiscovery.Source.Writer
import ApiDiscovery.Text.Base64
import ApiDiscovery.Text.Blank
import ApiDiscovery.Text.Case
import ApiDiscovery.Text.CaseTable
import ApiDiscovery.Text.CharacterNames
import ApiDiscovery.Text.CodeRanges
import ApiDiscovery.Text.Composed
import ApiDiscovery.Text.CompositionTable
import ApiDiscovery.Text.Digit
import ApiDiscovery.Text.IdentifierTable
import ApiDiscovery.Text.Integer
import ApiDiscovery.Text.Lines
import ApiDiscovery.Text.Names.Alchemical
import ApiDiscovery.Text.Names.Anatolian
import ApiDiscovery.Text.Names.Ancient
import ApiDiscovery.Text.Names.Brahmic
import ApiDiscovery.Text.Names.Cuneiform
import ApiDiscovery.Text.Names.Dingbat
import ApiDiscovery.Text.Names.EastAsian
import ApiDiscovery.Text.Names.Enclosed
import ApiDiscovery.Text.Names.European
import ApiDiscovery.Text.Names.Further
import ApiDiscovery.Text.Names.Indic
import ApiDiscovery.Text.Names.Notation
import ApiDiscovery.Text.Names.Phonetic
import ApiDiscovery.Text.Names.Pictograph
import ApiDiscovery.Text.Names.Presentation
import ApiDiscovery.Text.Names.Regional
import ApiDiscovery.Text.Names.Semitic
import ApiDiscovery.Text.Names.Syllabary
import ApiDiscovery.Text.Names.Symbol
import ApiDiscovery.Text.Names.Tile
import ApiDiscovery.Text.Pieces
import ApiDiscovery.Text.PrintTable
import ApiDiscovery.Text.Quoted
import ApiDiscovery.Text.Utf8
import ApiDiscovery.Text.WordTable
import ApiDiscovery.Uri.Address
import ApiDiscovery.Uri.AuthorityFault
import ApiDiscovery.Uri.HostLabel
import ApiDiscovery.Uri.LabelTable
import ApiDiscovery.Uri.Path
import ApiDiscovery.Uri.Percent
import ApiDiscovery.Uri.Punycode
import ApiDiscovery.Uri.Query
import ApiDiscovery.Uri.Reference
import ApiDiscovery.Uri.Resolve
import ApiDiscovery.Uri.Template
import ApiDiscovery.Uri.Url
import ApiDiscovery.Proofs.Source.Accessor
import ApiDiscovery.Proofs.Json.Keys
import ApiDiscovery.Proofs.Discovery.Read
import ApiDiscovery.Proofs.Discovery.Tree
import ApiDiscovery.Proofs.Source.Method
import ApiDiscovery.Proofs.Source.Decoration
import ApiDiscovery.Proofs.Source.Module
import ApiDiscovery.Proofs.Source.Mirror
import ApiDiscovery.Proofs.Source.Inheritance
import ApiDiscovery.Proofs.Schema.Argument
import ApiDiscovery.Proofs.Source.Agreement
import ApiDiscovery.Proofs.Source.Header
import ApiDiscovery.Proofs.Request.Session
import ApiDiscovery.Proofs.Discovery.Layouts
import ApiDiscovery.Proofs.Source.Layouts
import ApiDiscovery.Proofs.Json.Double
import ApiDiscovery.Proofs.Literal.Reader
import ApiDiscovery.Proofs.Literal.Number
import ApiDiscovery.Proofs.Literal.Scan
import ApiDiscovery.Proofs.Literal.Value
import ApiDiscovery.Proofs.Literal.Layout
import ApiDiscovery.Proofs.Source.Embedded
import ApiDiscovery.Proofs.Discovery.Lookup
import ApiDiscovery.Proofs.Files.Tree
import ApiDiscovery.Proofs.Program.Run
import ApiDiscovery.Proofs.Request.Parameters
import ApiDiscovery.Proofs.Text.Integer
import ApiDiscovery.Proofs.Uri.Reread
import ApiDiscovery.Proofs.Request.Credentials
import ApiDiscovery.Proofs.Schema.Order
import ApiDiscovery.Proofs.Source.Signature
import ApiDiscovery.Proofs.Source.Edit
import ApiDiscovery.Proofs.Discovery.Shape
import ApiDiscovery.Proofs.Program.Report
import ApiDiscovery.Proofs.Uri.Expansion
import ApiDiscovery.Proofs.Source.ArgumentName
import ApiDiscovery.Proofs.Schema.Walk
import ApiDiscovery.Proofs.Literal.Triple
import ApiDiscovery.Proofs.Naming.LeastNumber
import ApiDiscovery.Proofs.Naming.Validity
import ApiDiscovery.Proofs.Source.IndentedDocstring
import ApiDiscovery.Proofs.Text.Spacing
import ApiDiscovery.Proofs.Schema.Markup
import ApiDiscovery.Proofs.Source.Siblings
