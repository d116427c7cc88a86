import Scaffold.BigQuery.Document
import Scaffold.BigQuery.Routes
import Scaffold.CommandLine
import Scaffold.Config
import Scaffold.Config.Yaml
import Scaffold.Decimal.Shortest
import Scaffold.Discovery.Document
import Scaffold.Discovery.Load
import Scaffold.Discovery.Reader
import Scaffold.Discovery.Writer
import Scaffold.Emit
import Scaffold.Error
import Scaffold.Event
import Scaffold.Generation
import Scaffold.Handler.Descriptor
import Scaffold.Json.Failure
import Scaffold.Json.Lexer
import Scaffold.Json.Number
import Scaffold.Json.Reader
import Scaffold.Json.Skip
import Scaffold.Json.Text
import Scaffold.Json.Token
import Scaffold.Json.Value
import Scaffold.Layout
import Scaffold.Main
import Scaffold.Output
import Scaffold.Route.Dispatch
import Scaffold.Route.Request
import Scaffold.Route.Response
import Scaffold.Route.Template
import Scaffold.SortedMap
import Scaffold.Source.Format
import Scaffold.Source.Header
import Scaffold.Source.Literal
import Scaffold.Source.Reader.Attributes
import Scaffold.Source.Reader.Basic
import Scaffold.Source.Reader.Items
import Scaffold.Source.Reader.Types
import Scaffold.Source.Syntax
import Scaffold.Source.Token
import Scaffold.Source.Token.Lexer
import Scaffold.Source.Writer.Attributes
import Scaffold.Source.Writer.Basic
import Scaffold.Source.Writer.Items
import Scaffold.Source.Writer.Types
import Scaffold.Store.Basic
import Scaffold.Store.Edit
import Scaffold.Store.Fault
import Scaffold.Template
import Scaffold.Text.Blank
import Scaffold.Text.CharSet
import Scaffold.Text.Identifier
import Scaffold.Text.Printable
import Scaffold.Text.Quoted
import Scaffold.Text.Split
import Scaffold.Text.Uppercase
import Scaffold.Text.Utf8
import Scaffold.Yaml.Character
import Scaffold.Yaml.Node
import Scaffold.Yaml.Node.Reader
import Scaffold.Yaml.Scalar.Block
import Scaffold.Yaml.Scalar.Gap
import Scaffold.Yaml.Scalar.Meaning
import Scaffold.Yaml.Scalar.Plain
import Scaffold.Yaml.Scalar.Quoted
import Scaffold.Yaml.Token
import Scaffold.Yaml.Token.Lexer
import Scaffold.Yaml.Token.Property
import Scaffold.Yaml.Writer
import Scaffold.Proofs.Route.Template
import Scaffold.Proofs.Route.Answer
import Scaffold.Proofs.Text.Utf8
import Scaffold.Proofs.Json.Tree
import Scaffold.Proofs.Json.Lexer
import Scaffold.Proofs.Json.Skip
import Scaffold.Proofs.Json.Text
import Scaffold.Proofs.Json.Reader
import Scaffold.Proofs.Json.Record
import Scaffold.Proofs.Discovery.Decode
import Scaffold.Proofs.Source.Lexeme
import Scaffold.Proofs.Emit.Tree
import Scaffold.Proofs.Layout
import Scaffold.Proofs.Emit.Parse
import Scaffold.Proofs.Emit.Pieces
import Scaffold.Proofs.Text.Blank
import Scaffold.Proofs.Emit.Rendered
import Scaffold.Proofs.Config
import Scaffold.Proofs.Source.Format
import Scaffold.Proofs.Emit.ReadBack
import Scaffold.Proofs.Discovery.Methods
import Scaffold.Proofs.Text.ByteOrder
import Scaffold.Proofs.Handler.Enumeration
import Scaffold.Proofs.Store.Walk
import Scaffold.Proofs.Output
import Scaffold.Proofs.Generation
import Scaffold.Proofs.Emit.Parts
import Scaffold.Proofs.Source.Solid
import Scaffold.Proofs.Source.Anchor.Basic
import Scaffold.Proofs.Source.Anchor.Types
import Scaffold.Proofs.Source.Anchor.Items
import Scaffold.Proofs.Source.Progress
import Scaffold.Proofs.Source.Anchor.Elements
import Scaffold.Proofs.Source.Anchor.Name
import Scaffold.Proofs.Emit.Frame
import Scaffold.Proofs.Emit.Refusal
import Scaffold.Proofs.Generation.Kept
import Scaffold.Proofs.CommandLine
import Scaffold.Proofs.Generation.Names
import Scaffold.Proofs.Json.Unique
import Scaffold.Proofs.Json.Rewriting
import Scaffold.Proofs.Discovery.Names
import Scaffold.Proofs.Discovery.Rewriting
import Scaffold.Proofs.Generation.Content
import Scaffold.Proofs.Handler.Written
import Scaffold.Proofs.Route.Choice
import Scaffold.Proofs.Route.Brace
import Scaffold.Proofs.Route.Score
import Scaffold.Proofs.Route.Specific
import Scaffold.Proofs.Json.Written
import Scaffold.Proofs.Discovery.RoundTrip
import Scaffold.Proofs.Route.Maximum
import Scaffold.Proofs.Emit.Fixpoint
import Scaffold.Proofs.Source.Line.Literal
import Scaffold.Proofs.Source.Line.Token
import Scaffold.Proofs.Source.Line.Lexeme
import Scaffold.Proofs.Text.Escape
import Scaffold.Proofs.Emit.Quotation
import Scaffold.Proofs.Source.Header
import Scaffold.Proofs.Json.Extent
import Scaffold.Proofs.Discovery.Extent
import Scaffold.Proofs.Json.Nulls
import Scaffold.Proofs.Discovery.Nulls
import Scaffold.Proofs.Route.Body
import Scaffold.Proofs.Handler.Culprit
import Scaffold.Proofs.Source.Header.Scan
import Scaffold.Proofs.Route.Slice
import Scaffold.Proofs.Yaml.Character
import Scaffold.Proofs.Yaml.Scalar.Plain
import Scaffold.Proofs.Yaml.Scalar.Quoted
import Scaffold.Proofs.Yaml.Scalar.Block
import Scaffold.Proofs.Yaml.Writer
import Scaffold.Proofs.Yaml.Token.Lexer
import Scaffold.Proofs.Yaml.Node.Reader
import Scaffold.Proofs.Store.Scratch
import Scaffold.Proofs.Store.Put
import Scaffold.Proofs.Config.Saved
import Scaffold.Proofs.Emit.Import
