import LifecycleGuard.Action
import LifecycleGuard.Actor
import LifecycleGuard.Audit.Book
import LifecycleGuard.Audit.Entry
import LifecycleGuard.Audit.Error
import LifecycleGuard.Audit.Filter
import LifecycleGuard.Audit.Recorder
import LifecycleGuard.Audit.Schema
import LifecycleGuard.Audit.Store
import LifecycleGuard.Audit.Template
import LifecycleGuard.Collections.SortedMap
import LifecycleGuard.Context
import LifecycleGuard.Context.Scope
import LifecycleGuard.Declaration.Document
import LifecycleGuard.Declaration.Entity
import LifecycleGuard.Declaration.Error
import LifecycleGuard.Declaration.Filter
import LifecycleGuard.Declaration.Grammar
import LifecycleGuard.Declaration.Loading
import LifecycleGuard.Declaration.Spec
import LifecycleGuard.Declaration.Token
import LifecycleGuard.Decoding.Error
import LifecycleGuard.Decoding.Source
import LifecycleGuard.Entity
import LifecycleGuard.Files.Error
import LifecycleGuard.Files.Tree
import LifecycleGuard.Host.Command
import LifecycleGuard.Host.Condition
import LifecycleGuard.Host.Program
import LifecycleGuard.Host.Service
import LifecycleGuard.Host.Units
import LifecycleGuard.Json.Numeral
import LifecycleGuard.Json.Printer
import LifecycleGuard.Json.Reading
import LifecycleGuard.Json.Schema
import LifecycleGuard.Json.Source
import LifecycleGuard.Json.Text
import LifecycleGuard.Json.Value
import LifecycleGuard.Number.Double
import LifecycleGuard.Number.Scientific
import LifecycleGuard.Number.Shortest
import LifecycleGuard.Permission.Denial
import LifecycleGuard.Permission.Evaluator
import LifecycleGuard.Permission.Rule
import LifecycleGuard.Permission.RuleBook
import LifecycleGuard.Policy
import LifecycleGuard.Policy.Declaring
import LifecycleGuard.Policy.Error
import LifecycleGuard.Registry
import LifecycleGuard.Scenario.Calling
import LifecycleGuard.Scenario.Declaring
import LifecycleGuard.Scenario.Object
import LifecycleGuard.Scenario.Op
import LifecycleGuard.Scenario.Outcome
import LifecycleGuard.Scenario.Session
import LifecycleGuard.Scenario.Storage
import LifecycleGuard.Symbol
import LifecycleGuard.Text.Blank
import LifecycleGuard.Text.Case
import LifecycleGuard.Text.CaseTable
import LifecycleGuard.Text.Digit
import LifecycleGuard.Text.Escaped
import LifecycleGuard.Text.PrintableTable
import LifecycleGuard.Text.Utf8
import LifecycleGuard.Time.Date
import LifecycleGuard.Time.Instant
import LifecycleGuard.Time.Rfc3339
import LifecycleGuard.Uuid
import LifecycleGuard.Work.Event
import LifecycleGuard.Work.Noted
import LifecycleGuard.Work.Revision
import LifecycleGuard.Work.Run
import LifecycleGuard.Work.World
import LifecycleGuard.Yaml.Cursor
import LifecycleGuard.Yaml.Node
import LifecycleGuard.Yaml.Node.Grammar
import LifecycleGuard.Yaml.Scalar
import LifecycleGuard.Yaml.Source
import LifecycleGuard.Yaml.Tag
import LifecycleGuard.Yaml.Token
import LifecycleGuard.Yaml.Token.Property
import LifecycleGuard.Yaml.Token.Scalar
import LifecycleGuard.Yaml.Token.Stream
import LifecycleGuard.Proofs.Collections.Except
import LifecycleGuard.Proofs.Text.Digit
import LifecycleGuard.Proofs.Text.Utf8
import LifecycleGuard.Proofs.Json.Scalar
import LifecycleGuard.Proofs.Json.Step
import LifecycleGuard.Proofs.Json.Printer
import LifecycleGuard.Proofs.Json.Extent
import LifecycleGuard.Proofs.Collections.SortedMap
import LifecycleGuard.Proofs.Json.RoundTrip
import LifecycleGuard.Proofs.Json.Stopped
import LifecycleGuard.Proofs.Json.Thorough
import LifecycleGuard.Proofs.Json.Record
import LifecycleGuard.Proofs.Uuid
import LifecycleGuard.Proofs.Time.Rfc3339
import LifecycleGuard.Proofs.Files.Tree
import LifecycleGuard.Proofs.Audit.Codec
import LifecycleGuard.Proofs.Audit.LogFile
import LifecycleGuard.Proofs.Audit.LogTail
import LifecycleGuard.Proofs.Audit.Handles
import LifecycleGuard.Proofs.Audit.Refusal
import LifecycleGuard.Proofs.Permission.Congruence
import LifecycleGuard.Proofs.Permission.Registration
import LifecycleGuard.Proofs.Permission.Consultation
import LifecycleGuard.Proofs.Permission.Decision
import LifecycleGuard.Proofs.Audit.Recorder
import LifecycleGuard.Proofs.Host.Asking
import LifecycleGuard.Proofs.Host.Reach
import LifecycleGuard.Proofs.Host.Bypass
import LifecycleGuard.Proofs.Host.Trace
import LifecycleGuard.Proofs.Host.Supply
import LifecycleGuard.Proofs.Host.Unchecked
import LifecycleGuard.Proofs.Host.Nesting
import LifecycleGuard.Proofs.Work.Twin
import LifecycleGuard.Proofs.Work.Settings
import LifecycleGuard.Proofs.Host.Locality
import LifecycleGuard.Proofs.Host.Outcome
import LifecycleGuard.Proofs.Audit.Integrity
import LifecycleGuard.Proofs.Audit.Conformance
import LifecycleGuard.Proofs.Host.Separation
import LifecycleGuard.Proofs.Host.Insertion
import LifecycleGuard.Proofs.Audit.Transition
import LifecycleGuard.Proofs.Audit.Provenance
import LifecycleGuard.Proofs.Declaration.Meaning
import LifecycleGuard.Proofs.Declaration.Grammar
import LifecycleGuard.Proofs.Permission.Attributes
import LifecycleGuard.Proofs.Text.ByteOrder
import LifecycleGuard.Proofs.Permission.Survey
import LifecycleGuard.Proofs.Work.Steady
import LifecycleGuard.Proofs.Host.Looking
import LifecycleGuard.Proofs.Permission.Introspection
import LifecycleGuard.Proofs.Audit.Commit
import LifecycleGuard.Proofs.Policy.Gate
import LifecycleGuard.Proofs.Registry.Building
import LifecycleGuard.Proofs.Policy.Declaring
import LifecycleGuard.Proofs.Registry.Decision
import LifecycleGuard.Proofs.Registry.Loading
import LifecycleGuard.Proofs.Text.Blank
import LifecycleGuard.Proofs.Text.Case
import LifecycleGuard.Proofs.Symbol
import LifecycleGuard.Proofs.Declaration.Names
import LifecycleGuard.Proofs.Registry.Clause
import LifecycleGuard.Proofs.Context.Guards
import LifecycleGuard.Proofs.Audit.Template
import LifecycleGuard.Proofs.Audit.Paging
import LifecycleGuard.Proofs.Registry.Opening
import LifecycleGuard.Proofs.Audit.LogLine
import LifecycleGuard.Proofs.Json.Lossless
import LifecycleGuard.Proofs.Declaration.Codec
