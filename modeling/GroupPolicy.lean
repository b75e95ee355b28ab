import GroupPolicy.Acl.Direction
import GroupPolicy.Acl.Document
import GroupPolicy.Acl.Entry
import GroupPolicy.Command.Arguments
import GroupPolicy.Command.LogFilter
import GroupPolicy.Command.Run
import GroupPolicy.Document.Choice
import GroupPolicy.Document.Coded
import GroupPolicy.Document.DecodeError
import GroupPolicy.Document.Embedded
import GroupPolicy.Document.File
import GroupPolicy.Document.Json.Number
import GroupPolicy.Document.Json.Printer
import GroupPolicy.Document.Json.Reader
import GroupPolicy.Document.KeyOrder
import GroupPolicy.Document.Plain
import GroupPolicy.Document.Record
import GroupPolicy.Document.Shape
import GroupPolicy.Document.Value
import GroupPolicy.Document.Yaml.Cursor
import GroupPolicy.Document.Yaml.Node
import GroupPolicy.Document.Yaml.Reader
import GroupPolicy.Document.Yaml.Scalar
import GroupPolicy.Document.Yaml.Shaped
import GroupPolicy.Document.Yaml.Tag
import GroupPolicy.Document.Yaml.Token
import GroupPolicy.Main
import GroupPolicy.Net.Address
import GroupPolicy.Net.Cidr
import GroupPolicy.Net.Document
import GroupPolicy.Net.Family
import GroupPolicy.Net.FormatError
import GroupPolicy.Net.Ipv4
import GroupPolicy.Net.Ipv6
import GroupPolicy.Net.PortRange
import GroupPolicy.Ordered.Map
import GroupPolicy.Ordered.Order
import GroupPolicy.Ordered.Registry
import GroupPolicy.Ordered.Set
import GroupPolicy.Pattern.Reader
import GroupPolicy.Pattern.Support
import GroupPolicy.Pattern.Syntax
import GroupPolicy.Policy.Context
import GroupPolicy.Policy.Document
import GroupPolicy.Policy.Endpoint
import GroupPolicy.Policy.Rule
import GroupPolicy.Policy.Source
import GroupPolicy.Policy.Table
import GroupPolicy.Proofs.Acl.Documents
import GroupPolicy.Proofs.Acl.Names
import GroupPolicy.Proofs.Command.Printed
import GroupPolicy.Proofs.Document.JsonText
import GroupPolicy.Proofs.Document.KeyOrder
import GroupPolicy.Proofs.Document.Records
import GroupPolicy.Proofs.Net.AddressText
import GroupPolicy.Proofs.Net.CanonicalText
import GroupPolicy.Proofs.Ordered.Block
import GroupPolicy.Proofs.Ordered.Map
import GroupPolicy.Proofs.Ordered.Prefix
import GroupPolicy.Proofs.Policy.DocumentOrder
import GroupPolicy.Proofs.Policy.Documents
import GroupPolicy.Proofs.Policy.Edits
import GroupPolicy.Proofs.Policy.Index
import GroupPolicy.Proofs.Policy.Precedence
import GroupPolicy.Proofs.Policy.Reachable
import GroupPolicy.Proofs.Policy.Registration
import GroupPolicy.Proofs.Policy.Restriction
import GroupPolicy.Proofs.Policy.Sample
import GroupPolicy.Proofs.Policy.Table
import GroupPolicy.Proofs.Policy.Variant
import GroupPolicy.Proofs.Render.AcceptedParameters
import GroupPolicy.Proofs.Render.AddedPolicy
import GroupPolicy.Proofs.Render.AddressAssignment
import GroupPolicy.Proofs.Render.Attached
import GroupPolicy.Proofs.Render.BothEnds
import GroupPolicy.Proofs.Render.Colocation
import GroupPolicy.Proofs.Render.Constraints
import GroupPolicy.Proofs.Render.DraftSteps
import GroupPolicy.Proofs.Render.Effects
import GroupPolicy.Proofs.Render.EntryFamily
import GroupPolicy.Proofs.Render.EntryNames
import GroupPolicy.Proofs.Render.FirstMatch
import GroupPolicy.Proofs.Render.GroupingInUse
import GroupPolicy.Proofs.Render.Incremental
import GroupPolicy.Proofs.Render.Installed
import GroupPolicy.Proofs.Render.LeadingKind
import GroupPolicy.Proofs.Render.MatchOrder
import GroupPolicy.Proofs.Render.MergedParameters
import GroupPolicy.Proofs.Render.NodeIsolation
import GroupPolicy.Proofs.Render.Pairwise
import GroupPolicy.Proofs.Render.Partition
import GroupPolicy.Proofs.Render.PathNames
import GroupPolicy.Proofs.Render.PlanContents
import GroupPolicy.Proofs.Render.PlanNodes
import GroupPolicy.Proofs.Render.PlanRequests
import GroupPolicy.Proofs.Render.Plans
import GroupPolicy.Proofs.Render.Provenance
import GroupPolicy.Proofs.Render.PublishedGrouping
import GroupPolicy.Proofs.Render.RenderingOrder
import GroupPolicy.Proofs.Render.RuleEntry
import GroupPolicy.Proofs.Render.RuleOutcomes
import GroupPolicy.Proofs.Render.Runs
import GroupPolicy.Proofs.Render.SharedInterface
import GroupPolicy.Proofs.Render.Sites
import GroupPolicy.Proofs.Render.SoundDevices
import GroupPolicy.Proofs.Render.UnaddressedEntries
import GroupPolicy.Proofs.Render.Undone
import GroupPolicy.Proofs.Render.UniformEntries
import GroupPolicy.Proofs.Render.UpdateCases
import GroupPolicy.Proofs.Render.UpdateOutcomes
import GroupPolicy.Proofs.Render.Upsert
import GroupPolicy.Proofs.Render.Withdrawal
import GroupPolicy.Render.Addressing
import GroupPolicy.Render.ClassifierKind
import GroupPolicy.Render.Device
import GroupPolicy.Render.Draft
import GroupPolicy.Render.Entries
import GroupPolicy.Render.Grouping
import GroupPolicy.Render.Location
import GroupPolicy.Render.Notice
import GroupPolicy.Render.Plan
import GroupPolicy.Render.PolicyEntries
import GroupPolicy.Render.PortBounds
import GroupPolicy.Render.RenderError
import GroupPolicy.Render.Renderer
import GroupPolicy.Render.Settings
import GroupPolicy.Render.Specialization
import GroupPolicy.Text.Blank
import GroupPolicy.Text.Decimal
import GroupPolicy.Text.Hexadecimal
import GroupPolicy.Text.Letter
import GroupPolicy.Text.Name
import GroupPolicy.Text.Octets
import GroupPolicy.Text.Quoted
import GroupPolicy.Text.Scientific
import GroupPolicy.Text.Shortest
import GroupPolicy.Text.Split
import GroupPolicy.Text.Terminal
import GroupPolicy.Text.Unshown
