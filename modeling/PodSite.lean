import PodSite.Anchors
import PodSite.Command.Arguments
import PodSite.Command.Run
import PodSite.Config
import PodSite.Document
import PodSite.Files.Edit
import PodSite.Files.Tree
import PodSite.Files.Walk
import PodSite.Group
import PodSite.Href
import PodSite.Html.Basic
import PodSite.Html.Escape
import PodSite.Inline.Character
import PodSite.Inline.Link
import PodSite.Inline.ModuleName
import PodSite.Inline.Node
import PodSite.Inline.References
import PodSite.Inline.Render
import PodSite.Inline.Scan
import PodSite.Json
import PodSite.Main
import PodSite.Markup.Paragraph
import PodSite.Markup.Region
import PodSite.Navigation
import PodSite.Outline.Basic
import PodSite.Outline.Build
import PodSite.Outline.Item
import PodSite.Page.Body
import PodSite.Page.Contents
import PodSite.Page.Definitions
import PodSite.Page.Frame
import PodSite.Path
import PodSite.Pattern.Basic
import PodSite.Pattern.Bracket
import PodSite.Pattern.Compose
import PodSite.Pattern.Match
import PodSite.Pattern.NamedClass
import PodSite.Pattern.Parse
import PodSite.Pattern.Program
import PodSite.Pattern.Reader
import PodSite.Pattern.Size
import PodSite.Settings
import PodSite.Site.Asset
import PodSite.Site.Build
import PodSite.Site.Discovery
import PodSite.Site.Index
import PodSite.Site.Publish
import PodSite.Slug
import PodSite.Text.Age
import PodSite.Text.Basic
import PodSite.Text.Casing
import PodSite.Text.Category
import PodSite.Text.CharSet
import PodSite.Text.Derived
import PodSite.Text.Folding
import PodSite.Text.Letter
import PodSite.Text.Number
import PodSite.Text.Numeral
import PodSite.Text.Printable
import PodSite.Text.Property
import PodSite.Text.PropertyName
import PodSite.Text.Quoted
import PodSite.Text.Ranges
import PodSite.Text.Script
import PodSite.Text.Segment
import PodSite.Text.Utf8
import PodSite.Text.Utf8Ranges
import PodSite.Yaml.Node
import PodSite.Yaml.Scalar
import PodSite.Yaml.Scanner
import PodSite.Yaml.Token
import PodSite.Proofs.Files.Access
import PodSite.Proofs.Files.Change
import PodSite.Proofs.Files.Walk
import PodSite.Proofs.Site.Documents
import PodSite.Proofs.Site.Discovery
import PodSite.Proofs.Site.Build
import PodSite.Proofs.Site.Current
import PodSite.Proofs.OutputRoot
import PodSite.Proofs.Site.Incremental
import PodSite.Proofs.Site.Hidden
import PodSite.Proofs.Site.Publish
import PodSite.Proofs.Site.SecondRun
import PodSite.Proofs.Site.Sources
import PodSite.Proofs.Html.Tags
import PodSite.Proofs.Inline.Leaves
import PodSite.Proofs.Inline.Links
import PodSite.Proofs.Inline.Print
import PodSite.Proofs.Inline.Visible
import PodSite.Proofs.Inline.Written
import PodSite.Proofs.Anchors
import PodSite.Proofs.Outline.Anchors
import PodSite.Proofs.Page.Links
import PodSite.Proofs.Page.WellFormed
import PodSite.Proofs.Outline.Contents
import PodSite.Proofs.Files.Way
import PodSite.Proofs.Files.Through
import PodSite.Proofs.Files.Settled
import PodSite.Proofs.Files.Recast
import PodSite.Proofs.Files.Alike
import PodSite.Proofs.Site.Places
import PodSite.Proofs.Site.Excluded
import PodSite.Proofs.Page.Lookups
import PodSite.Proofs.Site.Membership
import PodSite.Proofs.Site.FirstBuild
import PodSite.Proofs.Site.Order
import PodSite.Proofs.Site.Exact
import PodSite.Proofs.Site.Collisions
import PodSite.Proofs.Text.Utf8
import PodSite.Proofs.Text.Trim
import PodSite.Proofs.Href
import PodSite.Proofs.Files.Linked
import PodSite.Proofs.Inline.Hrefs
import PodSite.Proofs.Page.Hrefs
import PodSite.Proofs.Site.Links
import PodSite.Proofs.Site.Status
import PodSite.Proofs.Site.Accounts
import PodSite.Proofs.Outline.Nesting
import PodSite.Proofs.Markup.NormalForm
import PodSite.Proofs.Site.Unreadable
import PodSite.Proofs.Site.Extent
import PodSite.Proofs.Markup.Regions
import PodSite.Proofs.SourceLink
import PodSite.Proofs.Inline.Mentions
import PodSite.Proofs.Page.Definitions
import PodSite.Proofs.Outline.Items
import PodSite.Proofs.Inline.Labels
import PodSite.Proofs.Numbering
import PodSite.Proofs.Outline.Titles
import PodSite.Proofs.Inline.Depth
import PodSite.Proofs.Page.Placed
import PodSite.Proofs.Page.Sections
import PodSite.Proofs.Text.Cut
import PodSite.Proofs.Inline.Targets
import PodSite.Proofs.Html.Symbols
import PodSite.Proofs.Page.Entries
import PodSite.Proofs.Inline.Spaced
import PodSite.Proofs.Inline.Unclosed
import PodSite.Proofs.StableRoot
import PodSite.Proofs.Site.Confined
import PodSite.Proofs.Markup.Comments
import PodSite.Proofs.Page.Verbatim
import PodSite.Proofs.Json
import PodSite.Proofs.Site.IndexFile
import PodSite.Proofs.Inline.Positions
import PodSite.Proofs.Inline.Reread
import PodSite.Proofs.Text.Casing
import PodSite.Proofs.Text.Runs
import PodSite.Proofs.Slug
