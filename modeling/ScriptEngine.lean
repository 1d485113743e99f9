import ScriptEngine.Source
import ScriptEngine.Operator
import ScriptEngine.Tree
import ScriptEngine.Tree.Build
import ScriptEngine.Tree.Equality
import ScriptEngine.Binary64
import ScriptEngine.Binary64.Shortest
import ScriptEngine.Binary64.Remainder
import ScriptEngine.Text.CharClass
import ScriptEngine.Text.Unprintable
import ScriptEngine.Text.Extending
import ScriptEngine.Text.Blank
import ScriptEngine.Text.Quoted
import ScriptEngine.Table
import ScriptEngine.Value
import ScriptEngine.Error
import ScriptEngine.Fault
import ScriptEngine.CallStack
import ScriptEngine.Payload
import ScriptEngine.Space
import ScriptEngine.Space.Collect
import ScriptEngine.Space.Context
import ScriptEngine.Space.Equality
import ScriptEngine.Space.Display
import ScriptEngine.Space.Object
import ScriptEngine.Space.Callable
import ScriptEngine.Space.Snapshot
import ScriptEngine.Act
import ScriptEngine.Class
import ScriptEngine.Space.Action
import ScriptEngine.Host
import ScriptEngine.Host.Stock
import ScriptEngine.Host.Hook
import ScriptEngine.Run
import ScriptEngine.Eval.Binary
import ScriptEngine.Eval.Place
import ScriptEngine.Eval.Loop
import ScriptEngine.Eval.Node
import ScriptEngine.Eval.Call
import ScriptEngine.Config
import ScriptEngine.Realm
import ScriptEngine.Engine
import ScriptEngine.Proofs.Slots
import ScriptEngine.Proofs.Marking
import ScriptEngine.Proofs.Collection
import ScriptEngine.Proofs.WellFormed
import ScriptEngine.Proofs.RenamedValues
import ScriptEngine.Proofs.ContextChains
import ScriptEngine.Proofs.RenamedSpaces
import ScriptEngine.Proofs.LockstepQuestions
import ScriptEngine.Proofs.Lockstep
import ScriptEngine.Proofs.LockstepOperations
import ScriptEngine.Proofs.LockstepRuns
import ScriptEngine.Proofs.LockstepPlaces
import ScriptEngine.Proofs.LockstepNodes
import ScriptEngine.Proofs.LockstepTrees
import ScriptEngine.Proofs.LockstepCalls
import ScriptEngine.Proofs.SoundSpaces
import ScriptEngine.Proofs.SoundExecutions
import ScriptEngine.Proofs.CollectionSurvivors
import ScriptEngine.Proofs.LockstepInstances
import ScriptEngine.Proofs.Hosting
import ScriptEngine.Proofs.Drains
import ScriptEngine.Proofs.Transcripts
import ScriptEngine.Proofs.SpaceEdits
import ScriptEngine.Proofs.PairedRuns
import ScriptEngine.Proofs.PairedTrees
import ScriptEngine.Proofs.PairedExecutions
import ScriptEngine.Proofs.Recordings
import ScriptEngine.Proofs.UndisturbedObjects
import ScriptEngine.Proofs.Deferral
import ScriptEngine.Proofs.Ledger
import ScriptEngine.Proofs.Bookkeeping
import ScriptEngine.Proofs.Accounts
import ScriptEngine.Proofs.TaskOrder
import ScriptEngine.Proofs.Generations
import ScriptEngine.Proofs.Wrappings
import ScriptEngine.Proofs.CallFrames
import ScriptEngine.Proofs.Results
import ScriptEngine.Proofs.LoopScoped
import ScriptEngine.Proofs.PermittedChanges
import ScriptEngine.Proofs.PermittedOperations
import ScriptEngine.Proofs.PermittedRuns
import ScriptEngine.Proofs.PermittedNodes
import ScriptEngine.Proofs.PermittedTrees
import ScriptEngine.Proofs.Bindings
import ScriptEngine.Proofs.Isolation
import ScriptEngine.Proofs.Journal
import ScriptEngine.Proofs.Hooks
import ScriptEngine.Proofs.Jumps
import ScriptEngine.Proofs.RaisedErrors
import ScriptEngine.Proofs.ErrorOrigins
import ScriptEngine.Proofs.Locations
import ScriptEngine.Proofs.Steadiness
import ScriptEngine.Proofs.Unwinding
import ScriptEngine.Proofs.Backtraces
import ScriptEngine.Proofs.Lineage
import ScriptEngine.Proofs.Instantiation
import ScriptEngine.Proofs.Bisimulation
import ScriptEngine.Proofs.Renderings
import ScriptEngine.Proofs.Assignments
import ScriptEngine.Proofs.Refusals
import ScriptEngine.Proofs.Properties
import ScriptEngine.Proofs.Shadowing
import ScriptEngine.Proofs.Ranges
import ScriptEngine.Proofs.Rethrowing
import ScriptEngine.Proofs.Integers
import ScriptEngine.Proofs.Pins
import ScriptEngine.Proofs.SpaceMoves
import ScriptEngine.Proofs.InvariantRuns
import ScriptEngine.Proofs.InvariantTrees
import ScriptEngine.Proofs.InvariantExecutions
import ScriptEngine.Proofs.Hearing
import ScriptEngine.Proofs.Listeners
import ScriptEngine.Proofs.Ancestry
