import LessonSite.Client.Basic
import LessonSite.Client.BodyView
import LessonSite.Client.Bus
import LessonSite.Client.Context
import LessonSite.Client.Dispatch
import LessonSite.Client.History
import LessonSite.Client.Navigator
import LessonSite.Client.RouteData
import LessonSite.Client.Theme
import LessonSite.Client.Traffic
import LessonSite.CommandLine.Arguments
import LessonSite.CommandLine.Basic
import LessonSite.Config.Basic
import LessonSite.Config.Reader
import LessonSite.Config.Stock
import LessonSite.Contents.Basic
import LessonSite.Contents.Highlight
import LessonSite.Contents.Reader
import LessonSite.EntryName
import LessonSite.FileTree.Basic
import LessonSite.FileTree.Write
import LessonSite.Html.Category
import LessonSite.Html.CharacterReference
import LessonSite.Html.Construction
import LessonSite.Html.Construction.Body
import LessonSite.Html.Construction.Formatting
import LessonSite.Html.Construction.Head
import LessonSite.Html.Construction.Table
import LessonSite.Html.Document
import LessonSite.Html.Dom
import LessonSite.Html.Token
import LessonSite.Html.Token.Reader
import LessonSite.Json.Reader
import LessonSite.Json.Value
import LessonSite.Json.Writer
import LessonSite.Lesson
import LessonSite.Locale
import LessonSite.Main
import LessonSite.Markdown.Block
import LessonSite.Markdown.Container
import LessonSite.Markdown.Document
import LessonSite.Markdown.Inline
import LessonSite.Markdown.Leaf
import LessonSite.Markdown.Line
import LessonSite.Markdown.Piece
import LessonSite.Markdown.Reference
import LessonSite.Markdown.Render
import LessonSite.Markdown.Source
import LessonSite.Markdown.Tag
import LessonSite.Markup.Entity.Table
import LessonSite.Markup.Escape
import LessonSite.Number.Basic
import LessonSite.Number.Double
import LessonSite.Page
import LessonSite.Playground.Basic
import LessonSite.Playground.Diagnostic
import LessonSite.Playground.Once
import LessonSite.Playground.Process
import LessonSite.Playground.Timed
import LessonSite.Playground.Worker
import LessonSite.Proofs.Client.Calls
import LessonSite.Proofs.Client.Click
import LessonSite.Proofs.Client.Deeds
import LessonSite.Proofs.Client.Dispatch
import LessonSite.Proofs.Client.Failure
import LessonSite.Proofs.Client.Fetches
import LessonSite.Proofs.Client.History
import LessonSite.Proofs.Client.InStep
import LessonSite.Proofs.Client.Order
import LessonSite.Proofs.Client.Overlap
import LessonSite.Proofs.Client.Phase
import LessonSite.Proofs.Client.Scene
import LessonSite.Proofs.Client.Traffic
import LessonSite.Proofs.Client.Traversal
import LessonSite.Proofs.Client.Waiting
import LessonSite.Proofs.Config.Overlay
import LessonSite.Proofs.Config.Readings
import LessonSite.Proofs.Config.Roots
import LessonSite.Proofs.Config.Schema
import LessonSite.Proofs.Config.Settings
import LessonSite.Proofs.Contents.Highlight
import LessonSite.Proofs.Contents.Markup
import LessonSite.Proofs.Contents.Reading
import LessonSite.Proofs.EntryName
import LessonSite.Proofs.Except
import LessonSite.Proofs.FileTree.Follow
import LessonSite.Proofs.FileTree.Kind
import LessonSite.Proofs.FileTree.Make
import LessonSite.Proofs.FileTree.Rearranged
import LessonSite.Proofs.FileTree.Spelling
import LessonSite.Proofs.FileTree.Walk
import LessonSite.Proofs.Formats
import LessonSite.Proofs.Html.Balanced
import LessonSite.Proofs.Html.Nesting
import LessonSite.Proofs.Html.Placing
import LessonSite.Proofs.Html.ReadBack
import LessonSite.Proofs.Html.Reference
import LessonSite.Proofs.Html.Standing
import LessonSite.Proofs.Html.Store
import LessonSite.Proofs.Html.WholeDocument
import LessonSite.Proofs.Html.Written
import LessonSite.Proofs.Json.RoundTrip
import LessonSite.Proofs.Lists
import LessonSite.Proofs.Markdown.Cutting
import LessonSite.Proofs.Markdown.ListedBlocks
import LessonSite.Proofs.Markdown.ListedLines
import LessonSite.Proofs.Markdown.ListedProse
import LessonSite.Proofs.Markdown.Listing
import LessonSite.Proofs.Markdown.ListingMarkup
import LessonSite.Proofs.Markdown.Rendered
import LessonSite.Proofs.Markdown.Running
import LessonSite.Proofs.Playground.Bench
import LessonSite.Proofs.Playground.Moves
import LessonSite.Proofs.Playground.Once
import LessonSite.Proofs.Playground.Ownership
import LessonSite.Proofs.Playground.Requests
import LessonSite.Proofs.Playground.Timing
import LessonSite.Proofs.Playground.Truth
import LessonSite.Proofs.RouteState
import LessonSite.Proofs.Site.Browsing
import LessonSite.Proofs.Site.Chain
import LessonSite.Proofs.Site.ContentsPage
import LessonSite.Proofs.Site.Highlighted
import LessonSite.Proofs.Site.Hrefs
import LessonSite.Proofs.Site.Inventory
import LessonSite.Proofs.Site.Languages
import LessonSite.Proofs.Site.Loaded
import LessonSite.Proofs.Site.Loading
import LessonSite.Proofs.Site.Lookup
import LessonSite.Proofs.Site.Paths
import LessonSite.Proofs.Site.Publication
import LessonSite.Proofs.Site.Root
import LessonSite.Proofs.Site.Separation
import LessonSite.Proofs.Site.Shown
import LessonSite.Proofs.Site.Weights
import LessonSite.Proofs.Site.Written
import LessonSite.Proofs.Template.Builtin
import LessonSite.Proofs.Template.Pieces
import LessonSite.Proofs.Template.SinglePass
import LessonSite.Proofs.Template.Slots
import LessonSite.Proofs.Text.Parts
import LessonSite.Proofs.Text.Utf8
import LessonSite.Proofs.Toml.Keys
import LessonSite.Proofs.Toml.Merge
import LessonSite.Proofs.Tour.Counted
import LessonSite.Proofs.Tour.Directories
import LessonSite.Proofs.Tour.Layout
import LessonSite.Proofs.Tour.Listing
import LessonSite.Proofs.Tour.Names
import LessonSite.Proofs.Tour.Nested
import LessonSite.Proofs.Url.Address
import LessonSite.Proofs.Url.Confined
import LessonSite.Proofs.Url.Domain
import LessonSite.Proofs.Url.Escaped
import LessonSite.Proofs.Url.FilePath
import LessonSite.Proofs.Url.Host
import LessonSite.Proofs.Url.Join
import LessonSite.Proofs.Url.JoinWeight
import LessonSite.Proofs.Url.Names
import LessonSite.Proofs.Url.Path
import LessonSite.Proofs.Url.Percent
import LessonSite.Proofs.Url.Punycode
import LessonSite.Proofs.Url.RouteData
import LessonSite.Proofs.Url.Weight
import LessonSite.Proofs.Url.Write
import LessonSite.RouteState
import LessonSite.Session.Basic
import LessonSite.Session.Source
import LessonSite.Shell.Basic
import LessonSite.Shell.Pattern
import LessonSite.Shell.Program
import LessonSite.Shell.Reader
import LessonSite.Shell.Script
import LessonSite.Site.Files
import LessonSite.Site.Inventory
import LessonSite.Site.Pages
import LessonSite.Template.Basic
import LessonSite.Template.Builtin
import LessonSite.Text.Blank
import LessonSite.Text.Fold
import LessonSite.Text.Hidden
import LessonSite.Text.Parts
import LessonSite.Text.Punctuation
import LessonSite.Text.Ranges
import LessonSite.Text.Utf8
import LessonSite.Toml.Datetime
import LessonSite.Toml.Document
import LessonSite.Toml.Reader
import LessonSite.Toml.Scalar
import LessonSite.Toml.Value
import LessonSite.Tour.Json
import LessonSite.Tour.Numbered
import LessonSite.Tour.Reader
import LessonSite.Url.Basic
import LessonSite.Url.FilePath
import LessonSite.Url.Host
import LessonSite.Url.Percent
import LessonSite.Url.Punycode
import LessonSite.Url.Reader
