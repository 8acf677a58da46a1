import ReleaseGap.Calendar.Date
import ReleaseGap.Calendar.Moment
import ReleaseGap.Calendar.Reading
import ReleaseGap.Change.Classification
import ReleaseGap.Change.Message
import ReleaseGap.Change.Revision
import ReleaseGap.CommandLine.Arguments
import ReleaseGap.CommandLine.Program
import ReleaseGap.Decimal.Binary64
import ReleaseGap.Decimal.Numeral
import ReleaseGap.Decimal.Shortest
import ReleaseGap.Feed.Plugin
import ReleaseGap.Feed.Read
import ReleaseGap.Files.Error
import ReleaseGap.Files.Path
import ReleaseGap.Files.Tree
import ReleaseGap.Github.Backend
import ReleaseGap.Github.Client
import ReleaseGap.Github.Payload
import ReleaseGap.Json.Read
import ReleaseGap.Json.Record
import ReleaseGap.Json.Value
import ReleaseGap.Keyed
import ReleaseGap.Main
import ReleaseGap.Outside.Fetch
import ReleaseGap.Outside.Session
import ReleaseGap.Outside.Snapshot
import ReleaseGap.Overrides.Stream
import ReleaseGap.Overrides.Table
import ReleaseGap.Pattern.Basic
import ReleaseGap.Pattern.CategoryTable
import ReleaseGap.Pattern.CharSet
import ReleaseGap.Pattern.Class
import ReleaseGap.Pattern.Escape
import ReleaseGap.Pattern.Fold
import ReleaseGap.Pattern.FoldTable
import ReleaseGap.Pattern.Program
import ReleaseGap.Pattern.Property
import ReleaseGap.Pattern.PropertyTable
import ReleaseGap.Pattern.Read
import ReleaseGap.Pattern.ScriptTable
import ReleaseGap.Pattern.Search
import ReleaseGap.Report.Age
import ReleaseGap.Report.Render
import ReleaseGap.Report.Row
import ReleaseGap.Run.Context
import ReleaseGap.Run.Execute
import ReleaseGap.Settings.Basic
import ReleaseGap.Settings.Locate
import ReleaseGap.Settings.Password
import ReleaseGap.Settings.Read
import ReleaseGap.Source.Collected
import ReleaseGap.Source.Descriptor
import ReleaseGap.Svn.Backend
import ReleaseGap.Svn.Client
import ReleaseGap.Svn.Listing
import ReleaseGap.Svn.Log
import ReleaseGap.Tag.Matcher
import ReleaseGap.Tag.Release
import ReleaseGap.Tag.Rule
import ReleaseGap.Tag.SvnIndex
import ReleaseGap.Text.Blank
import ReleaseGap.Text.CaseTable
import ReleaseGap.Text.Caseless
import ReleaseGap.Text.Cut
import ReleaseGap.Text.Digit
import ReleaseGap.Text.Lower
import ReleaseGap.Text.Utf8
import ReleaseGap.Toml.Layout
import ReleaseGap.Toml.Read
import ReleaseGap.Toml.Scalar
import ReleaseGap.Toml.Table
import ReleaseGap.Toml.Text
import ReleaseGap.Version.Loose
import ReleaseGap.Wiki.Client
import ReleaseGap.Xml.Attribute
import ReleaseGap.Xml.Content
import ReleaseGap.Xml.Element
import ReleaseGap.Xml.Entity
import ReleaseGap.Xml.Event
import ReleaseGap.Xml.Namespace
import ReleaseGap.Xml.Record
import ReleaseGap.XmlRpc.Decode
import ReleaseGap.XmlRpc.Response
import ReleaseGap.XmlRpc.Value
import ReleaseGap.Proofs.Version.Runs
import ReleaseGap.Proofs.Version.Numbers
import ReleaseGap.Proofs.Version.Order
import ReleaseGap.Proofs.Tag.Latest
import ReleaseGap.Proofs.Tag.Newest
import ReleaseGap.Proofs.Text.Cutting
import ReleaseGap.Proofs.Tag.WrittenRule
import ReleaseGap.Proofs.Github.LatestRelease
import ReleaseGap.Proofs.Pattern.Backtrack
import ReleaseGap.Proofs.Pattern.Follow
import ReleaseGap.Proofs.Pattern.Preference
import ReleaseGap.Proofs.Pattern.Literal
import ReleaseGap.Proofs.Pattern.Reading
import ReleaseGap.Proofs.Tag.Escaped
import ReleaseGap.Proofs.Tag.Matching
import ReleaseGap.Proofs.Text.Occurrence
import ReleaseGap.Proofs.Report.Order
import ReleaseGap.Proofs.Report.Section
import ReleaseGap.Proofs.Source.Examined
import ReleaseGap.Proofs.Source.Label
import ReleaseGap.Proofs.Run.Survey
import ReleaseGap.Proofs.Run.Pages
import ReleaseGap.Proofs.Run.Items
import ReleaseGap.Proofs.Run.Unused
import ReleaseGap.Proofs.Run.Rows
import ReleaseGap.Proofs.Outside.Constant
import ReleaseGap.Proofs.Outside.Possible
import ReleaseGap.Proofs.Run.PlainVersion
import ReleaseGap.Proofs.Run.Keys
import ReleaseGap.Proofs.Run.Requests
import ReleaseGap.Proofs.Run.Isolation
import ReleaseGap.Proofs.Run.Coverage
import ReleaseGap.Proofs.Run.Listing
import ReleaseGap.Proofs.Run.Exposed
import ReleaseGap.Proofs.Run.Limit
import ReleaseGap.Proofs.Run.Suppressed
import ReleaseGap.Proofs.Run.Overlap
import ReleaseGap.Proofs.CommandLine.Outcome
import ReleaseGap.Proofs.Decimal.Numeral
import ReleaseGap.Proofs.Xml.Written
import ReleaseGap.Proofs.XmlRpc.Tree
import ReleaseGap.Proofs.XmlRpc.RoundTrip
import ReleaseGap.Proofs.XmlRpc.Decoded
import ReleaseGap.Proofs.Wiki.Publication
import ReleaseGap.Proofs.Text.Utf8
import ReleaseGap.Proofs.Overrides.Segment
import ReleaseGap.Proofs.Overrides.Stream
import ReleaseGap.Proofs.CommandLine.Publishing
import ReleaseGap.Proofs.Pattern.Membership
import ReleaseGap.Proofs.Pattern.Finding
import ReleaseGap.Proofs.Change.Reference
import ReleaseGap.Proofs.Change.FixedIssues
import ReleaseGap.Proofs.Change.Noise
import ReleaseGap.Proofs.Feed.Suppression
import ReleaseGap.Proofs.Xml.Document
import ReleaseGap.Proofs.Xml.Tags
import ReleaseGap.Proofs.Xml.Declarations
import ReleaseGap.Proofs.Source.Descriptor
import ReleaseGap.Proofs.Overrides.Entries
import ReleaseGap.Proofs.Github.Boundary
import ReleaseGap.Proofs.Outside.Asked
import ReleaseGap.Proofs.Run.Paging
import ReleaseGap.Proofs.Calendar.DayNumber
import ReleaseGap.Proofs.Calendar.Padded
import ReleaseGap.Proofs.Calendar.Timestamp
import ReleaseGap.Proofs.Change.Day
import ReleaseGap.Proofs.Report.Printing
import ReleaseGap.Proofs.Files.Names
import ReleaseGap.Proofs.Settings.Nearest
import ReleaseGap.Proofs.Svn.Reference
import ReleaseGap.Proofs.Xml.Balance
