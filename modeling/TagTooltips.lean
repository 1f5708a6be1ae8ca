import TagTooltips.Candidate.Completion
import TagTooltips.Candidate.Payload
import TagTooltips.Candidate.Resolution
import TagTooltips.CommandLine
import TagTooltips.CommandLine.Refusal
import TagTooltips.CommandLine.Word
import TagTooltips.Descriptor
import TagTooltips.Document.Lines
import TagTooltips.Document.Tag
import TagTooltips.Documentation.Reference
import TagTooltips.Documentation.Summary
import TagTooltips.Domain.Basic
import TagTooltips.Domain.Label
import TagTooltips.Domain.Mapping
import TagTooltips.Domain.Mapping.Table
import TagTooltips.Domain.Punycode
import TagTooltips.Failure
import TagTooltips.Json.Basic
import TagTooltips.Json.Binary64
import TagTooltips.Json.Number
import TagTooltips.Json.Printer
import TagTooltips.Json.Reader
import TagTooltips.Json.Record
import TagTooltips.Main
import TagTooltips.Note
import TagTooltips.Noted
import TagTooltips.Position
import TagTooltips.Proofs.Ascending
import TagTooltips.Proofs.Candidate.Attribute
import TagTooltips.Proofs.Candidate.Completion
import TagTooltips.Proofs.Candidate.Data
import TagTooltips.Proofs.Candidate.Element
import TagTooltips.Proofs.Candidate.Payload
import TagTooltips.Proofs.Candidate.Resolution
import TagTooltips.Proofs.Descriptor
import TagTooltips.Proofs.Document.Context
import TagTooltips.Proofs.Document.Lines
import TagTooltips.Proofs.Document.NamedTag
import TagTooltips.Proofs.Document.Quotation
import TagTooltips.Proofs.Document.TagName
import TagTooltips.Proofs.Documentation.Braces
import TagTooltips.Proofs.Documentation.Bytes
import TagTooltips.Proofs.Documentation.CodeSpan
import TagTooltips.Proofs.Documentation.Marker
import TagTooltips.Proofs.Documentation.Region
import TagTooltips.Proofs.Documentation.Rewrite
import TagTooltips.Proofs.Json.Literal
import TagTooltips.Proofs.Json.Text
import TagTooltips.Proofs.Lookup
import TagTooltips.Proofs.Server.Call
import TagTooltips.Proofs.Server.Debug
import TagTooltips.Proofs.Server.Documents
import TagTooltips.Proofs.Server.Hover
import TagTooltips.Proofs.Server.Item
import TagTooltips.Proofs.Server.Request
import TagTooltips.Proofs.Server.Resolution
import TagTooltips.Proofs.Server.Run
import TagTooltips.Proofs.Server.Start
import TagTooltips.Proofs.Signature.Beginning
import TagTooltips.Proofs.Signature.Bytes
import TagTooltips.Proofs.Signature.Cut
import TagTooltips.Proofs.Signature.Exchange
import TagTooltips.Proofs.Signature.Group
import TagTooltips.Proofs.Signature.Member
import TagTooltips.Proofs.Signature.Nesting
import TagTooltips.Proofs.Signature.Partner
import TagTooltips.Proofs.Signature.Scan
import TagTooltips.Proofs.Signature.Uncut
import TagTooltips.Proofs.Signature.Walk
import TagTooltips.Proofs.Store.Contribution
import TagTooltips.Proofs.Store.Count
import TagTooltips.Proofs.Store.Enumeration
import TagTooltips.Proofs.Store.Exchange
import TagTooltips.Proofs.Store.Filing
import TagTooltips.Proofs.Store.History
import TagTooltips.Proofs.Store.Loading
import TagTooltips.Proofs.Store.Operation
import TagTooltips.Proofs.Store.Query
import TagTooltips.Proofs.Store.Refresh
import TagTooltips.Proofs.Store.Representation
import TagTooltips.Proofs.Text.Beginning
import TagTooltips.Proofs.Text.Bytes
import TagTooltips.Proofs.Text.Find
import TagTooltips.Proofs.Text.Lines
import TagTooltips.Proofs.Text.Measure
import TagTooltips.Proofs.Text.Span
import TagTooltips.Proofs.Text.Strip
import TagTooltips.Proofs.Tooltip.Block
import TagTooltips.Proofs.Tooltip.Bytes
import TagTooltips.Proofs.Tooltip.Header
import TagTooltips.Proofs.Tooltip.Owner
import TagTooltips.Proofs.Tooltip.Prose
import TagTooltips.Server.Feature
import TagTooltips.Server.Item
import TagTooltips.Server.Message
import TagTooltips.Server.Options
import TagTooltips.Server.Session
import TagTooltips.Server.Shape.Basic
import TagTooltips.Server.Shape.Capabilities
import TagTooltips.Server.Shape.Document
import TagTooltips.Server.Shape.Params
import TagTooltips.Server.Shape.Unoffered
import TagTooltips.Server.State
import TagTooltips.Server.Wire
import TagTooltips.Signature.Alias
import TagTooltips.Signature.Cursor
import TagTooltips.Signature.Segment
import TagTooltips.Store.Basic
import TagTooltips.Store.Loading
import TagTooltips.Store.Query
import TagTooltips.Text.Alphanumeric
import TagTooltips.Text.Case
import TagTooltips.Text.CharSet
import TagTooltips.Text.Composition
import TagTooltips.Text.Composition.Table
import TagTooltips.Text.Direction
import TagTooltips.Text.Joining
import TagTooltips.Text.Mark
import TagTooltips.Text.Measure
import TagTooltips.Text.Numeral
import TagTooltips.Text.Similarity
import TagTooltips.Text.WhiteSpace
import TagTooltips.Tooltip.Compose
import TagTooltips.Tooltip.Entry
import TagTooltips.Uri.Address
import TagTooltips.Uri.Authority
import TagTooltips.Uri.Basic
import TagTooltips.Uri.Path
import TagTooltips.Uri.Percent
