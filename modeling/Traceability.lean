import Traceability.Audit.Completeness
import Traceability.Audit.Duplicates
import Traceability.Audit.Evaluate
import Traceability.Audit.Format
import Traceability.Audit.Identity
import Traceability.Audit.Rendering
import Traceability.Audit.Report
import Traceability.Audit.Reporting
import Traceability.Audit.Run
import Traceability.Audit.Structure
import Traceability.Base64
import Traceability.Calendar
import Traceability.Command.Basic
import Traceability.Command.Form
import Traceability.Command.Output
import Traceability.Command.Run
import Traceability.Decision
import Traceability.Discovered
import Traceability.Display.Line
import Traceability.Display.Table
import Traceability.Display.Wrap
import Traceability.Document.Answer
import Traceability.Document.Basic
import Traceability.Document.Load
import Traceability.Document.Lookup
import Traceability.Document.Merge
import Traceability.Document.Registry
import Traceability.Document.Save
import Traceability.Json.Basic
import Traceability.Json.Parser
import Traceability.Json.Printer
import Traceability.Main
import Traceability.Marker.Basic
import Traceability.Marker.Build
import Traceability.Marker.Inject
import Traceability.Marker.Line
import Traceability.Marker.Read
import Traceability.Marker.Target
import Traceability.Number.Binary64
import Traceability.Number.Integer
import Traceability.Project.FileTree
import Traceability.Project.Path
import Traceability.Project.Settings
import Traceability.Project.Source
import Traceability.Project.Workspace
import Traceability.Risk
import Traceability.Stack
import Traceability.Survey
import Traceability.Text.Blank
import Traceability.Text.CaseRun
import Traceability.Text.CodePoint
import Traceability.Text.Digit
import Traceability.Text.Emoji
import Traceability.Text.EmojiNames
import Traceability.Text.Intake
import Traceability.Text.LowerCase
import Traceability.Text.Printable
import Traceability.Text.Quoted
import Traceability.Text.Ranges
import Traceability.Text.Search
import Traceability.Text.Similarity
import Traceability.Text.UpperCase
import Traceability.Text.Utf8
import Traceability.Text.Width
import Traceability.Text.Word
import Traceability.Tool.Basic
import Traceability.Tool.Reply
import Traceability.Tool.Run
import Traceability.UseCase
import Traceability.Value.Basic
import Traceability.Value.Coerce
import Traceability.Value.Literal
import Traceability.Yaml.Error
import Traceability.Yaml.Load
import Traceability.Yaml.Node
import Traceability.Yaml.Page
import Traceability.Yaml.Printer
import Traceability.Yaml.ScalarText
import Traceability.Yaml.ScalarType
import Traceability.Yaml.Source
import Traceability.Yaml.Style
import Traceability.Yaml.Token
import Traceability.Proofs.Marker.Tag
import Traceability.Proofs.Marker.Strip
import Traceability.Proofs.Marker.Target
import Traceability.Proofs.Json.OneLine
import Traceability.Proofs.Marker.Inject
import Traceability.Proofs.Marker.Frame
import Traceability.Proofs.Marker.Reinjection
import Traceability.Proofs.Marker.Inert
import Traceability.Proofs.Marker.Location
import Traceability.Proofs.Marker.FunctionName
import Traceability.Proofs.Marker.OwnTag
import Traceability.Proofs.Marker.Attributes
import Traceability.Proofs.Json.ReadBack
import Traceability.Proofs.Marker.ReadBack
import Traceability.Proofs.Audit.Clean
import Traceability.Proofs.Audit.Repeats
import Traceability.Proofs.Text.LowerCase
import Traceability.Proofs.Audit.Sound
import Traceability.Proofs.Audit.Serving
import Traceability.Proofs.Number.Decimal
import Traceability.Proofs.Document.Registration
import Traceability.Proofs.Text.UpperCase
import Traceability.Proofs.Text.Utf8
import Traceability.Proofs.Value.Entries
import Traceability.Proofs.Value.View
import Traceability.Proofs.Value.Decide
import Traceability.Proofs.Value.Results
import Traceability.Proofs.Document.Records
import Traceability.Proofs.Document.Discovered
import Traceability.Proofs.Document.Merge
import Traceability.Proofs.Document.Entities
import Traceability.Proofs.Document.ReadBack
import Traceability.Proofs.Document.Readable
import Traceability.Proofs.Document.Unmodelled
import Traceability.Proofs.Yaml.Characters
import Traceability.Proofs.Document.Persistence
import Traceability.Proofs.Audit.Alike
import Traceability.Proofs.Audit.Warnings
import Traceability.Proofs.Audit.Addition
import Traceability.Proofs.Audit.Tally
import Traceability.Proofs.Audit.Reordering
import Traceability.Proofs.Audit.Details
import Traceability.Proofs.Audit.Porcelain
import Traceability.Proofs.Text.Intake
import Traceability.Proofs.Project.Rewriting
import Traceability.Proofs.Project.Settings
import Traceability.Proofs.Project.Passing
import Traceability.Proofs.Project.Auditing
import Traceability.Proofs.Project.Walking
import Traceability.Proofs.Project.Relative
import Traceability.Proofs.Project.Marking
import Traceability.Proofs.Command.Output
import Traceability.Proofs.Command.AddUseCase
import Traceability.Proofs.Tool.Confinement
import Traceability.Proofs.Command.Frame
import Traceability.Proofs.Command.Lines
import Traceability.Proofs.Command.Agreement
import Traceability.Proofs.FirstUses
import Traceability.Proofs.Value.Keys
import Traceability.Proofs.Document.Gathering
import Traceability.Proofs.Risk.Ghosts
import Traceability.Proofs.Risk.Owners
import Traceability.Proofs.Audit.Rules
import Traceability.Proofs.Audit.RepeatedIds
import Traceability.Proofs.Audit.Blame
import Traceability.Proofs.Audit.References
import Traceability.Proofs.Project.Asking
import Traceability.Proofs.Audit.Scope
import Traceability.Proofs.Risk.Scope
import Traceability.Proofs.Audit.Accounting
import Traceability.Proofs.Text.Trimming
import Traceability.Proofs.Document.EndpointLookup
import Traceability.Proofs.Risk.Aggregation
import Traceability.Proofs.Project.UsableSettings
import Traceability.Proofs.Audit.Forms
import Traceability.Proofs.Audit.Formats
