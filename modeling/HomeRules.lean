import HomeRules.Action
import HomeRules.Action.Tree
import HomeRules.Builtin
import HomeRules.Bus
import HomeRules.Bus.Exchange
import HomeRules.Bus.Tap
import HomeRules.Check
import HomeRules.CommandLine
import HomeRules.Condition
import HomeRules.Condition.Evaluation
import HomeRules.Condition.Expression
import HomeRules.Config
import HomeRules.Decimal.Binary64
import HomeRules.Dictionary
import HomeRules.Directory
import HomeRules.Discovery
import HomeRules.Duration
import HomeRules.Event
import HomeRules.Event.Description
import HomeRules.Event.Key
import HomeRules.Event.Line
import HomeRules.Failure
import HomeRules.Host.Background
import HomeRules.Host.Deed
import HomeRules.Host.Dispatch
import HomeRules.Host.Error
import HomeRules.Host.Gate
import HomeRules.Host.Journal
import HomeRules.Host.Lines
import HomeRules.Host.Loading
import HomeRules.Host.Registry
import HomeRules.Host.Reload
import HomeRules.Host.ReloadLoops
import HomeRules.Host.Running
import HomeRules.Host.Schedule
import HomeRules.Host.Script
import HomeRules.Host.Service
import HomeRules.Host.Source
import HomeRules.Host.State
import HomeRules.Host.Subscribing
import HomeRules.Host.Supervisor
import HomeRules.Host.Tasks
import HomeRules.Main
import HomeRules.Path
import HomeRules.Proofs.Action.Tree
import HomeRules.Proofs.Bus
import HomeRules.Proofs.Check
import HomeRules.Proofs.Condition
import HomeRules.Proofs.Condition.Expression
import HomeRules.Proofs.Condition.Formula
import HomeRules.Proofs.Dictionary
import HomeRules.Proofs.Discovery
import HomeRules.Proofs.Duration
import HomeRules.Proofs.Event.Key
import HomeRules.Proofs.Event.Line
import HomeRules.Proofs.Faults
import HomeRules.Proofs.Host.Abiding
import HomeRules.Proofs.Host.Acquiring
import HomeRules.Proofs.Host.Acts
import HomeRules.Proofs.Host.Admission
import HomeRules.Proofs.Host.Answering
import HomeRules.Proofs.Host.AtOnce
import HomeRules.Proofs.Host.Attending
import HomeRules.Proofs.Host.Bystanding
import HomeRules.Proofs.Host.Change
import HomeRules.Proofs.Host.Chronicle
import HomeRules.Proofs.Host.Clockwork
import HomeRules.Proofs.Host.Coalescing
import HomeRules.Proofs.Host.Contexts
import HomeRules.Proofs.Host.Course
import HomeRules.Proofs.Host.Cycling
import HomeRules.Proofs.Host.Debouncing
import HomeRules.Proofs.Host.Dispatch
import HomeRules.Proofs.Host.Dormant
import HomeRules.Proofs.Host.Duties
import HomeRules.Proofs.Host.Enduring
import HomeRules.Proofs.Host.Filing
import HomeRules.Proofs.Host.Finality
import HomeRules.Proofs.Host.Gates
import HomeRules.Proofs.Host.Headcount
import HomeRules.Proofs.Host.Holdings
import HomeRules.Proofs.Host.Installing
import HomeRules.Proofs.Host.Interleaving
import HomeRules.Proofs.Host.Isolation
import HomeRules.Proofs.Host.Junctures
import HomeRules.Proofs.Host.Lifecycle
import HomeRules.Proofs.Host.Loading
import HomeRules.Proofs.Host.Looping
import HomeRules.Proofs.Host.Managing
import HomeRules.Proofs.Host.Noticing
import HomeRules.Proofs.Host.Overtaking
import HomeRules.Proofs.Host.Plan
import HomeRules.Proofs.Host.Preparing
import HomeRules.Proofs.Host.Publishing
import HomeRules.Proofs.Host.Punctual
import HomeRules.Proofs.Host.Quieting
import HomeRules.Proofs.Host.Recording
import HomeRules.Proofs.Host.Registering
import HomeRules.Proofs.Host.Restart
import HomeRules.Proofs.Host.Retracting
import HomeRules.Proofs.Host.Roster
import HomeRules.Proofs.Host.RunActs
import HomeRules.Proofs.Host.Runs
import HomeRules.Proofs.Host.Serving
import HomeRules.Proofs.Host.Sessions
import HomeRules.Proofs.Host.ShuttingDown
import HomeRules.Proofs.Host.Step
import HomeRules.Proofs.Host.Ticking
import HomeRules.Proofs.Host.Timekeeping
import HomeRules.Proofs.Host.Timers
import HomeRules.Proofs.Host.Timetable
import HomeRules.Proofs.Host.Tracking
import HomeRules.Proofs.Host.Turns
import HomeRules.Proofs.Host.Unregistering
import HomeRules.Proofs.Host.Upholding
import HomeRules.Proofs.Host.Waiting
import HomeRules.Proofs.Host.Watching
import HomeRules.Proofs.Host.Wired
import HomeRules.Proofs.Host.Wiring
import HomeRules.Proofs.Host.Withdrawing
import HomeRules.Proofs.ReloadLoops
import HomeRules.Proofs.ReloadLoops.Lock
import HomeRules.Proofs.RuleFile.Depth
import HomeRules.Proofs.RuleFile.Entries
import HomeRules.Proofs.RuleFile.Expansion
import HomeRules.Proofs.RuleFile.Normalizing
import HomeRules.Proofs.RuleFile.References
import HomeRules.Proofs.RuleFile.Sequences
import HomeRules.Proofs.RuleFile.States
import HomeRules.Proofs.Scanner
import HomeRules.Proofs.Schema.Build
import HomeRules.Proofs.Schema.FirstMatch
import HomeRules.Proofs.Schema.Reading
import HomeRules.Proofs.Schema.Selection
import HomeRules.Proofs.StateMachine.Declaring
import HomeRules.Proofs.StateMachine.Drafting
import HomeRules.Proofs.StateMachine.Indices
import HomeRules.Proofs.StateMachine.Inverting
import HomeRules.Proofs.StateMachine.Resolution
import HomeRules.Proofs.StateMachine.Rules
import HomeRules.Proofs.Text
import HomeRules.RuleFile
import HomeRules.RuleFile.Actions
import HomeRules.RuleFile.Reading
import HomeRules.RuleFile.Resolution
import HomeRules.Scanner
import HomeRules.Schema
import HomeRules.Schema.Build
import HomeRules.Schema.Draft
import HomeRules.Schema.Error
import HomeRules.Schema.Layout
import HomeRules.Schema.Selection
import HomeRules.StateMachine
import HomeRules.StateMachine.Resolution
import HomeRules.StateMachine.Rules
import HomeRules.Text.Blank
import HomeRules.Text.Numeral
import HomeRules.Text.Quoted
import HomeRules.Text.Shown
import HomeRules.Text.Split
import HomeRules.Toml.Decode
import HomeRules.Toml.Document
import HomeRules.Toml.Grammar
import HomeRules.Toml.Scalar
import HomeRules.Toml.Value
import HomeRules.Toml.Writer
import HomeRules.Vocabulary
import HomeRules.World
