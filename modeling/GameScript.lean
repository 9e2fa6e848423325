import GameScript.Number.Binary64
import GameScript.Number.Shortest
import GameScript.Number.Text
import GameScript.Number.Reading
import GameScript.Text.Ranges
import GameScript.Text.Letter
import GameScript.Text.Alphanumeric
import GameScript.Text.Printable
import GameScript.Text.Quoted
import GameScript.Fault
import GameScript.Validation
import GameScript.Value.Basic
import GameScript.Value.Arithmetic
import GameScript.Value.Text
import GameScript.Value.Identity
import GameScript.Value.Operator
import GameScript.Token
import GameScript.Token.Scan
import GameScript.Syntax
import GameScript.Syntax.Print
import GameScript.Syntax.Parse
import GameScript.Settings
import GameScript.Scheduler
import GameScript.Builtin.Table
import GameScript.Number.Root
import GameScript.Random
import GameScript.Order.Heap
import GameScript.Order.Runs
import GameScript.Component
import GameScript.Log
import GameScript.World
import GameScript.Session.Basic
import GameScript.Session.Text
import GameScript.Session.Builtin
import GameScript.Session.Run
import GameScript.Session.Host
import GameScript.Examples
import GameScript.Cli.Arguments
import GameScript.Cli
import GameScript.Main
import GameScript.Session.Step
import GameScript.Proofs.Grammar
import GameScript.Proofs.Reading
import GameScript.Proofs.Acceptance
import GameScript.Proofs.Faults
import GameScript.Proofs.Outcome
import GameScript.Proofs.Steady
import GameScript.Proofs.Quiet
import GameScript.Proofs.Frames
import GameScript.Proofs.Lifecycle
import GameScript.Proofs.Runs
import GameScript.Proofs.Requests
import GameScript.Proofs.DueOrder
import GameScript.Proofs.HeapOrder
import GameScript.Proofs.Sorting
import GameScript.Proofs.Agenda
import GameScript.Proofs.AgendaSimulation
import GameScript.Proofs.Scanning
import GameScript.Proofs.Invariants
import GameScript.Proofs.TickPhases
import GameScript.Proofs.Destruction
import GameScript.Proofs.PrintedScan
import GameScript.Proofs.PrintedRead
import GameScript.Proofs.PrintedDepth
import GameScript.Proofs.Delivery
import GameScript.Proofs.Inactivity
import GameScript.Proofs.PrintedRoundTrip
import GameScript.Proofs.ReadNames
import GameScript.Proofs.ReadBound
import GameScript.Proofs.StackBound
import GameScript.Proofs.IdentityShift
import GameScript.Proofs.MovedState
import GameScript.Proofs.TwinSessions
import GameScript.Proofs.TwinBuiltins
import GameScript.Proofs.OperatorResults
import GameScript.Proofs.Registration
import GameScript.Proofs.CallbackTargets
import GameScript.Proofs.TwinRuns
import GameScript.Proofs.TwinHost
import GameScript.Proofs.FreshStart
import GameScript.Proofs.ScanLoop
import GameScript.Proofs.ReadProgress
import GameScript.Proofs.FieldKeys
import GameScript.Proofs.ScanJoin
import GameScript.Proofs.ReadJoin
import GameScript.Proofs.RelatedRuns
import GameScript.Proofs.Scenes
import GameScript.Proofs.SceneRuns
import GameScript.Proofs.JoinedLoad
import GameScript.Proofs.InstanceNames
import GameScript.Proofs.RegistryNames
import GameScript.Proofs.HostSettle
import GameScript.Proofs.HiddenMethods
import GameScript.Proofs.Dormancy
