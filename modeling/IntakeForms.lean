import IntakeForms.Answer.Sanitize
import IntakeForms.Answer.Schema
import IntakeForms.Block
import IntakeForms.Block.Document
import IntakeForms.Entries
import IntakeForms.Event
import IntakeForms.Flow.Check
import IntakeForms.Flow.Graph
import IntakeForms.Flow.Issue
import IntakeForms.Flow.Route
import IntakeForms.Form
import IntakeForms.Form.Document
import IntakeForms.Http.Body
import IntakeForms.Http.Location
import IntakeForms.Http.Message
import IntakeForms.Http.Reply
import IntakeForms.Http.Route
import IntakeForms.Http.Server
import IntakeForms.Json.Reader
import IntakeForms.Json.Writer
import IntakeForms.Log
import IntakeForms.Log.Line
import IntakeForms.Log.Message
import IntakeForms.Log.Pattern
import IntakeForms.Number.Binary64
import IntakeForms.Number.Nearest
import IntakeForms.Number.Numeral
import IntakeForms.Number.Places
import IntakeForms.Number.Shortest
import IntakeForms.Proofs.Answer.Bounds
import IntakeForms.Proofs.Answer.Coercion
import IntakeForms.Proofs.Answer.Number
import IntakeForms.Proofs.Answer.Reading
import IntakeForms.Proofs.Answer.Required
import IntakeForms.Proofs.Answer.Tidy
import IntakeForms.Proofs.Document.Blocks
import IntakeForms.Proofs.Document.Depth
import IntakeForms.Proofs.Document.Fields
import IntakeForms.Proofs.Document.Forms
import IntakeForms.Proofs.Document.Stuck
import IntakeForms.Proofs.Document.Tags
import IntakeForms.Proofs.Flow.Alarms
import IntakeForms.Proofs.Flow.Backward
import IntakeForms.Proofs.Flow.Components
import IntakeForms.Proofs.Flow.Findings
import IntakeForms.Proofs.Flow.Identifiers
import IntakeForms.Proofs.Flow.Loops
import IntakeForms.Proofs.Flow.Merging
import IntakeForms.Proofs.Flow.Outcomes
import IntakeForms.Proofs.Flow.Paths
import IntakeForms.Proofs.Flow.Publishable
import IntakeForms.Proofs.Flow.Rounds
import IntakeForms.Proofs.Flow.Search
import IntakeForms.Proofs.Flow.Unreached
import IntakeForms.Proofs.Flow.WayOut
import IntakeForms.Proofs.Http.Bodies
import IntakeForms.Proofs.Http.Responses
import IntakeForms.Proofs.Http.Saving
import IntakeForms.Proofs.Http.Waiting
import IntakeForms.Proofs.Json.Extent
import IntakeForms.Proofs.Json.Reading
import IntakeForms.Proofs.Json.Scanning
import IntakeForms.Proofs.Log.Fields
import IntakeForms.Proofs.Proposal.Fenced
import IntakeForms.Proofs.Proposal.Legible
import IntakeForms.Proofs.Proposal.Redacted
import IntakeForms.Proofs.RateLimit.Log
import IntakeForms.Proofs.RateLimit.Readmission
import IntakeForms.Proofs.Service.Accounts
import IntakeForms.Proofs.Service.Announcements
import IntakeForms.Proofs.Service.Atomicity
import IntakeForms.Proofs.Service.Clients
import IntakeForms.Proofs.Service.Commits
import IntakeForms.Proofs.Service.Contracts
import IntakeForms.Proofs.Service.Course
import IntakeForms.Proofs.Service.Interleaving
import IntakeForms.Proofs.Service.Listings
import IntakeForms.Proofs.Service.NamedPath
import IntakeForms.Proofs.Service.Operations
import IntakeForms.Proofs.Service.Proposing
import IntakeForms.Proofs.Service.Receipts
import IntakeForms.Proofs.Service.Respondents
import IntakeForms.Proofs.Service.Snapshots
import IntakeForms.Proofs.Service.Trail
import IntakeForms.Proofs.Service.TrailBounds
import IntakeForms.Proofs.Service.Turns
import IntakeForms.Proofs.Store.Documents
import IntakeForms.Proofs.Store.Effects
import IntakeForms.Proofs.Store.Interchange
import IntakeForms.Proofs.Store.Keeping
import IntakeForms.Proofs.Store.Listing
import IntakeForms.Proofs.Store.Records
import IntakeForms.Proofs.Store.Submissions
import IntakeForms.Proofs.Submission.Again
import IntakeForms.Proofs.Submission.Blockwise
import IntakeForms.Proofs.Submission.Fillable
import IntakeForms.Proofs.Text.Trimming
import IntakeForms.Proofs.Time.Calendar
import IntakeForms.Proofs.Time.Reading
import IntakeForms.Proposal
import IntakeForms.Proposal.Fence
import IntakeForms.Proposal.Prompt
import IntakeForms.Proposal.Reply
import IntakeForms.RateLimit
import IntakeForms.Section
import IntakeForms.Section.Document
import IntakeForms.Service
import IntakeForms.Service.Action
import IntakeForms.Shape
import IntakeForms.Shape.Scalar
import IntakeForms.Store.Call
import IntakeForms.Store.Documents
import IntakeForms.Store.Ids
import IntakeForms.Store.Memory
import IntakeForms.Submission
import IntakeForms.Submission.Document
import IntakeForms.Text.Blank
import IntakeForms.Text.Encoding
import IntakeForms.Text.Percent
import IntakeForms.Text.Printable
import IntakeForms.Text.Ranges
import IntakeForms.Time.Elapsed
import IntakeForms.Time.Iso
import IntakeForms.Time.Timestamp
import IntakeForms.Url.Address
import IntakeForms.Url.Domain
import IntakeForms.Url.Domain.Composition
import IntakeForms.Url.Domain.Composition.Table
import IntakeForms.Url.Domain.Direction
import IntakeForms.Url.Domain.Joining
import IntakeForms.Url.Domain.Mapping
import IntakeForms.Url.Domain.Mapping.Table
import IntakeForms.Url.Domain.Mark
import IntakeForms.Url.Http
import IntakeForms.Url.Punycode
import IntakeForms.Value
import IntakeForms.Value.Display
import IntakeForms.Value.Order
import IntakeForms.Value.Plain
import IntakeForms.Proofs.Store.Queries
