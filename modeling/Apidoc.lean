import Apidoc.Command.Backup
import Apidoc.Command.Catalogue
import Apidoc.Command.Display
import Apidoc.Command.Generate
import Apidoc.Command.Line
import Apidoc.Command.Program
import Apidoc.Command.Run
import Apidoc.Command.Select
import Apidoc.Command.Usage
import Apidoc.Component.Basic
import Apidoc.Component.Identity
import Apidoc.Component.Index
import Apidoc.Component.Reader
import Apidoc.Component.Signature
import Apidoc.Component.Visibility
import Apidoc.Config
import Apidoc.Console.Event
import Apidoc.Console.Layout
import Apidoc.Console.Style
import Apidoc.Contents.Build
import Apidoc.Contents.Entry
import Apidoc.Contents.Outline
import Apidoc.Contents.Title
import Apidoc.Data.Json.Reader
import Apidoc.Data.Json.Writer
import Apidoc.Data.Ordered
import Apidoc.Data.Value
import Apidoc.Data.Yaml.Node
import Apidoc.Data.Yaml.Reader
import Apidoc.Data.Yaml.Scalar
import Apidoc.Data.Yaml.Token
import Apidoc.Data.Yaml.Writer
import Apidoc.Describe.Agent
import Apidoc.Describe.Prompt
import Apidoc.Digest
import Apidoc.Fault
import Apidoc.Main
import Apidoc.Number.Binary64
import Apidoc.Number.Decimal
import Apidoc.Page.Fragment
import Apidoc.Page.Frame
import Apidoc.Page.Index
import Apidoc.Page.Module
import Apidoc.Page.Script
import Apidoc.Page.Search
import Apidoc.Page.Site
import Apidoc.Page.Style
import Apidoc.Repository.Action
import Apidoc.Repository.Disk
import Apidoc.Repository.Glob
import Apidoc.Repository.Path
import Apidoc.Repository.Survey
import Apidoc.Selection.Basic
import Apidoc.Selection.Chooser
import Apidoc.Selection.Store
import Apidoc.Syntax.Expr
import Apidoc.Syntax.Grammar.Basic
import Apidoc.Syntax.Grammar.Circle
import Apidoc.Syntax.Grammar.Expression
import Apidoc.Syntax.Grammar.Literal
import Apidoc.Syntax.Grammar.Pattern
import Apidoc.Syntax.Grammar.Statement
import Apidoc.Syntax.Lexer
import Apidoc.Syntax.Printer
import Apidoc.Syntax.Token
import Apidoc.Text.Case
import Apidoc.Text.CharName
import Apidoc.Text.Class
import Apidoc.Text.Lines
import Apidoc.Text.Normal
import Apidoc.Text.Quoted
import Apidoc.Text.Ranges
import Apidoc.Text.Similar
import Apidoc.Text.Split
import Apidoc.Text.Table.Case
import Apidoc.Text.Table.CharName
import Apidoc.Text.Table.Digit
import Apidoc.Text.Table.Emoji
import Apidoc.Text.Table.Identifier
import Apidoc.Text.Table.Normal
import Apidoc.Text.Table.Printable
import Apidoc.Text.Table.Width
import Apidoc.Text.Utf8
import Apidoc.Proofs.Page.Tags
import Apidoc.Proofs.Page.Frame
import Apidoc.Proofs.Page.Index
import Apidoc.Proofs.Page.Module
import Apidoc.Proofs.Repository.Written
import Apidoc.Proofs.Site.Files
import Apidoc.Proofs.Site.Links
import Apidoc.Proofs.Text.Points
import Apidoc.Proofs.Data.Json
import Apidoc.Proofs.Site.Search
import Apidoc.Proofs.Site.Exclusion
import Apidoc.Proofs.Syntax.Reading
import Apidoc.Proofs.Syntax.TokenLines
import Apidoc.Proofs.Syntax.StatementLines
import Apidoc.Proofs.Component.Keys
import Apidoc.Proofs.Data.Yaml.Quoted
import Apidoc.Proofs.Data.Yaml.Plain
import Apidoc.Proofs.Data.Yaml.Scan
import Apidoc.Proofs.Data.Yaml.Blocks
import Apidoc.Proofs.Data.Yaml.Clean
import Apidoc.Proofs.Data.Yaml.Document
import Apidoc.Proofs.Repository.Folders
import Apidoc.Proofs.Selection.Choices
import Apidoc.Proofs.Selection.Saving
import Apidoc.Proofs.Selection.Backup
import Apidoc.Proofs.Selection.Dictionary
import Apidoc.Proofs.Repository.Survey
import Apidoc.Proofs.Site.PageNames
import Apidoc.Proofs.Result
import Apidoc.Proofs.Data.Json.Values
import Apidoc.Proofs.Repository.Gains
import Apidoc.Proofs.Selection.Failure
import Apidoc.Proofs.Site.Defaults
import Apidoc.Proofs.Repository.Outcome
import Apidoc.Proofs.Repository.Rewriting
import Apidoc.Proofs.Site.Rewriting
import Apidoc.Proofs.Command.Program
import Apidoc.Proofs.Command.Regeneration
import Apidoc.Proofs.Page.Shape
import Apidoc.Proofs.Site.Shape
import Apidoc.Proofs.Command.Session
import Apidoc.Proofs.Data.Yaml.Keys
import Apidoc.Proofs.Data.Yaml.Lines
import Apidoc.Proofs.Data.Yaml.Numeral
import Apidoc.Proofs.Data.Yaml.Mapping
import Apidoc.Proofs.Data.Yaml.Values
import Apidoc.Proofs.Data.Yaml.Whole
import Apidoc.Proofs.Page.Export
import Apidoc.Proofs.Selection.Exported
import Apidoc.Proofs.Page.Described
import Apidoc.Proofs.Data.Json.Apart
import Apidoc.Proofs.Site.Described
import Apidoc.Proofs.Command.Keyless
import Apidoc.Proofs.Repository.Filters
import Apidoc.Proofs.Selection.Descriptions
import Apidoc.Proofs.Site.Leftovers
import Apidoc.Proofs.Site.Members
import Apidoc.Proofs.Component.Privacy
import Apidoc.Proofs.Selection.Choosing
import Apidoc.Proofs.Selection.Updating
import Apidoc.Proofs.Command.Autosave
import Apidoc.Proofs.Contents.Pruning
import Apidoc.Proofs.Contents.Structure
import Apidoc.Proofs.Data.Yaml.Overlong
import Apidoc.Proofs.Text.Words
import Apidoc.Proofs.Selection.Ignoring
import Apidoc.Proofs.Selection.Merging
import Apidoc.Proofs.Data.Json.Pieces
import Apidoc.Proofs.Describe.Exchange
import Apidoc.Proofs.Describe.Replies
import Apidoc.Proofs.Describe.Fences
import Apidoc.Proofs.Describe.Batches
import Apidoc.Proofs.Describe.Coverage
import Apidoc.Proofs.Describe.Recovery
import Apidoc.Proofs.Describe.Unwrapping
import Apidoc.Proofs.Page.Accounts
import Apidoc.Proofs.Site.Accounts
import Apidoc.Proofs.Command.Describing
import Apidoc.Proofs.Component.Exports
import Apidoc.Proofs.Component.Parameters
import Apidoc.Proofs.Text.Normal
import Apidoc.Proofs.Site.Anchors
import Apidoc.Proofs.Selection.References
