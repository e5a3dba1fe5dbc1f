import Portfolio.Calendar
import Portfolio.CommandLine.Arguments
import Portfolio.CommandLine.Help
import Portfolio.CommandLine.Perform
import Portfolio.CommandLine.Run
import Portfolio.Config.Basic
import Portfolio.Config.Codec
import Portfolio.Config.Text
import Portfolio.Console
import Portfolio.Content.Basic
import Portfolio.Design.Basic
import Portfolio.Document.Codec
import Portfolio.Document.Failure
import Portfolio.Document.Shape
import Portfolio.File
import Portfolio.Hash.Sha256
import Portfolio.Json.Parser
import Portfolio.Json.Printer
import Portfolio.Main
import Portfolio.Markdown
import Portfolio.Markdown.Basic
import Portfolio.Markdown.Character
import Portfolio.Markdown.Emphasis
import Portfolio.Markdown.Entity
import Portfolio.Markdown.Folding
import Portfolio.Markdown.Html
import Portfolio.Markdown.Inline
import Portfolio.Markdown.Leaf
import Portfolio.Markdown.Line
import Portfolio.Markdown.Link
import Portfolio.Markdown.Outline
import Portfolio.Markdown.Parser
import Portfolio.Markdown.Start
import Portfolio.Markdown.Tag
import Portfolio.Naming
import Portfolio.Number.Basic
import Portfolio.Number.Double
import Portfolio.Number.Shortest
import Portfolio.Panel.Blueprint
import Portfolio.Panel.Field
import Portfolio.Panel.Layout
import Portfolio.Panel.Note
import Portfolio.Record.Basic
import Portfolio.Record.Page
import Portfolio.Record.Value
import Portfolio.Scaffold
import Portfolio.Schema.Basic
import Portfolio.Schema.Codec
import Portfolio.Site.Generate
import Portfolio.Site.Manifest
import Portfolio.Site.Parts
import Portfolio.SortedMap
import Portfolio.Storage.Basic
import Portfolio.Storage.Disk
import Portfolio.Storage.Memory
import Portfolio.Template.Field
import Portfolio.Template.Markup
import Portfolio.Template.Page
import Portfolio.Template.Shared
import Portfolio.Text.Blank
import Portfolio.Text.Line
import Portfolio.Text.Numeral
import Portfolio.Text.Printable
import Portfolio.Theme.Css
import Portfolio.Theme.Sheets
import Portfolio.Theme.Tokens
import Portfolio.Toml.Basic
import Portfolio.Toml.Parser
import Portfolio.Toml.Scalar
import Portfolio.Toml.Tree
import Portfolio.Validation.Basic
import Portfolio.Validation.Finding
import Portfolio.Value
import Portfolio.Yaml.Printer
import Portfolio.Yaml.Scalar
import Portfolio.Proofs.Validation.Acceptance
import Portfolio.Proofs.Validation.Findings
import Portfolio.Proofs.Validation.Reordering
import Portfolio.Proofs.Naming.Spelling
import Portfolio.Proofs.Naming.Joined
import Portfolio.Proofs.Naming.Canonical
import Portfolio.Proofs.Record.Reading
import Portfolio.Proofs.Record.Slug
import Portfolio.Proofs.Record.Allocation
import Portfolio.Proofs.Storage.Path
import Portfolio.Proofs.Record.Folder
import Portfolio.Proofs.Template.Trail
import Portfolio.Proofs.Site.Place
import Portfolio.Proofs.SortedMap
import Portfolio.Proofs.Storage.Batch
import Portfolio.Proofs.Storage.Schedule
import Portfolio.Proofs.Storage.Disk
import Portfolio.Proofs.Storage.Order
import Portfolio.Proofs.Site.Build
import Portfolio.Proofs.Site.Accounting
import Portfolio.Proofs.Site.Generation
import Portfolio.Proofs.Site.Digest
import Portfolio.Proofs.Value
import Portfolio.Proofs.Panel.Distinct
import Portfolio.Proofs.Panel.Layout
import Portfolio.Proofs.Site.Forms
import Portfolio.Proofs.Schema.Nesting
import Portfolio.Proofs.Panel.Nesting
import Portfolio.Proofs.Template.Nesting
import Portfolio.Proofs.Panel.Gap
import Portfolio.Proofs.Validation.Origin
import Portfolio.Proofs.Validation.Gap
import Portfolio.Proofs.Validation.Depth
import Portfolio.Proofs.Site.Nesting
import Portfolio.Proofs.Template.Island
import Portfolio.Proofs.Template.Markup
import Portfolio.Proofs.Template.FreeText
import Portfolio.Proofs.Template.Call
import Portfolio.Proofs.Template.Shared
import Portfolio.Proofs.Site.Snippets
import Portfolio.Proofs.Template.Block
import Portfolio.Proofs.Template.Guard
import Portfolio.Proofs.Site.Companions
import Portfolio.Proofs.Site.Independence
import Portfolio.Proofs.Document.Arrangement
import Portfolio.Proofs.Document.Codec
import Portfolio.Proofs.Document.Shape
import Portfolio.Proofs.Document.RoundTrip
import Portfolio.Proofs.Schema.Field
import Portfolio.Proofs.Schema.Codec
import Portfolio.Proofs.Content.Codec
import Portfolio.Proofs.Design.Codec
import Portfolio.Proofs.Document.Stability
import Portfolio.Proofs.Document.Defaults
import Portfolio.Proofs.Toml.Layering
import Portfolio.Proofs.Toml.Parsing
import Portfolio.Proofs.Toml.Underlay
import Portfolio.Proofs.Toml.Path
import Portfolio.Proofs.Config.Layering
import Portfolio.Proofs.Record.Metadata
import Portfolio.Proofs.Record.Title
import Portfolio.Proofs.Record.Separator
import Portfolio.Proofs.Yaml.Decoding
import Portfolio.Proofs.Json.Line
import Portfolio.Proofs.Record.Scalar
import Portfolio.Proofs.Record.Row
import Portfolio.Proofs.Record.Sequence
import Portfolio.Proofs.Calendar.Day
import Portfolio.Proofs.Calendar.Reading
import Portfolio.Proofs.Record.Moment
import Portfolio.Proofs.Theme.Token
import Portfolio.Proofs.Theme.Utility
import Portfolio.Proofs.Number.Whole
import Portfolio.Proofs.Theme.Size
