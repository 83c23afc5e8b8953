import RuleGraph.Bus
import RuleGraph.CommandLine
import RuleGraph.Config
import RuleGraph.Decimal.Binary64
import RuleGraph.Decimal.Reading
import RuleGraph.Decimal.Shortest
import RuleGraph.Disk.FileTree
import RuleGraph.Engine.Engine
import RuleGraph.Engine.EngineError
import RuleGraph.Engine.Loading
import RuleGraph.Graph.Build
import RuleGraph.Graph.CompiledRule
import RuleGraph.Graph.GraphError
import RuleGraph.Graph.Node
import RuleGraph.Graph.Reach
import RuleGraph.Graph.Ruleset
import RuleGraph.Journal
import RuleGraph.Json.Parser
import RuleGraph.Json.Printer
import RuleGraph.Json.Value
import RuleGraph.Main
import RuleGraph.Node.Behaviour
import RuleGraph.Node.Duration
import RuleGraph.Node.Echo
import RuleGraph.Node.Exercise
import RuleGraph.Node.Message
import RuleGraph.Node.Params
import RuleGraph.Node.Registry
import RuleGraph.Node.TextFilter
import RuleGraph.Node.Timer
import RuleGraph.Node.Topic
import RuleGraph.Path.Basic
import RuleGraph.Path.Normal
import RuleGraph.Proofs.Graph.Atomicity
import RuleGraph.Proofs.Graph.Building
import RuleGraph.Proofs.Graph.CycleCheck
import RuleGraph.Proofs.Graph.History
import RuleGraph.Proofs.Graph.Nodes
import RuleGraph.Proofs.Graph.Numbering
import RuleGraph.Proofs.Graph.Reachability
import RuleGraph.Proofs.Graph.Subscriptions
import RuleGraph.Proofs.Traffic.Queues
import RuleGraph.Proofs.Traffic.Rest
import RuleGraph.Regex.Bracket
import RuleGraph.Regex.ByteSequence
import RuleGraph.Regex.Escape
import RuleGraph.Regex.Meaning
import RuleGraph.Regex.Pattern
import RuleGraph.Regex.Program
import RuleGraph.Regex.Reader
import RuleGraph.Regex.Room
import RuleGraph.Regex.Written
import RuleGraph.Rules.File
import RuleGraph.Rules.Import
import RuleGraph.Rules.Lexer
import RuleGraph.Rules.ParseError
import RuleGraph.Rules.ParsedFiles
import RuleGraph.Rules.Parser
import RuleGraph.Rules.Position
import RuleGraph.Rules.Resolve
import RuleGraph.Rules.Source
import RuleGraph.Rules.SyntaxError
import RuleGraph.Rules.Token
import RuleGraph.Table
import RuleGraph.Text.Blank
import RuleGraph.Text.Number
import RuleGraph.Text.Printable
import RuleGraph.Text.Quoted
import RuleGraph.Toml.Document
import RuleGraph.Toml.Inline
import RuleGraph.Toml.Moment
import RuleGraph.Toml.Parser
import RuleGraph.Toml.Scalar
import RuleGraph.Toml.Value
import RuleGraph.Unicode.Age
import RuleGraph.Unicode.Break
import RuleGraph.Unicode.CaseFolding
import RuleGraph.Unicode.Category
import RuleGraph.Unicode.Property
import RuleGraph.Unicode.Query
import RuleGraph.Unicode.Ranges
import RuleGraph.Unicode.Script
import RuleGraph.Unicode.ScriptExtension
import RuleGraph.Proofs.Traffic.Interleaving
import RuleGraph.Proofs.Traffic.Meaning
import RuleGraph.Proofs.Program.Places
import RuleGraph.Proofs.Program.Chart
import RuleGraph.Proofs.Program.Admission
import RuleGraph.Proofs.Program.Files
import RuleGraph.Proofs.Program.Acceptance
import RuleGraph.Proofs.Rules.Grammar
import RuleGraph.Proofs.Rules.Reading
import RuleGraph.Proofs.Rules.Sentences
import RuleGraph.Proofs.Path.NormalForm
import RuleGraph.Proofs.Import.Collection
import RuleGraph.Proofs.Import.Dependencies
import RuleGraph.Proofs.Import.Visiting
import RuleGraph.Proofs.Import.Resolution
import RuleGraph.Proofs.Graph.Linking
import RuleGraph.Proofs.Traffic.Joints
import RuleGraph.Proofs.Traffic.Exchange
import RuleGraph.Proofs.Traffic.DeliveryGuarantee
import RuleGraph.Proofs.Engine.Session
import RuleGraph.Proofs.Engine.Lifecycle
import RuleGraph.Proofs.Engine.SingleCaller
import RuleGraph.Proofs.Engine.Barrier
import RuleGraph.Proofs.Program.Blame
import RuleGraph.Proofs.Program.BrokenImports
import RuleGraph.Proofs.Traffic.Origin
import RuleGraph.Proofs.Graph.Identity
import RuleGraph.Proofs.Graph.Assembly
import RuleGraph.Proofs.Program.FileOrder
import RuleGraph.Proofs.Import.Defects
import RuleGraph.Proofs.Rules.Spelling
import RuleGraph.Proofs.Program.CompileOrder
import RuleGraph.Proofs.Graph.Splicing
import RuleGraph.Proofs.Rules.ViablePrefix
import RuleGraph.Proofs.Rules.FirstFault
import RuleGraph.Proofs.Rules.Expectation
import RuleGraph.Proofs.Rules.Layout
import RuleGraph.Proofs.Import.Directives
import RuleGraph.Proofs.Config.Precedence
import RuleGraph.Proofs.Node.Ticking
import RuleGraph.Proofs.Path.Walking
import RuleGraph.Proofs.Rules.Moving
import RuleGraph.Proofs.Rules.Concatenation
import RuleGraph.Proofs.Text.Trimming
import RuleGraph.Proofs.Decimal.Rounding
import RuleGraph.Proofs.Decimal.Numbers
import RuleGraph.Proofs.Node.Spans
import RuleGraph.Proofs.Import.ErrorPlaces
