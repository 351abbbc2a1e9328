import ScriptHost.Table
import ScriptHost.Settings
import ScriptHost.Text.Utf8
import ScriptHost.Text.GraphemeExtend
import ScriptHost.Text.Unprintable
import ScriptHost.Text.Quoted
import ScriptHost.Numeric.Binary64
import ScriptHost.Numeric.Shortest
import ScriptHost.Value.Basic
import ScriptHost.Value.Equality
import ScriptHost.Value.Render
import ScriptHost.Failure.Basic
import ScriptHost.Failure.Render
import ScriptHost.Failure.Traceback
import ScriptHost.ScriptError
import ScriptHost.Output.Decoded
import ScriptHost.Output.Sink
import ScriptHost.Output.Writer
import ScriptHost.Event
import ScriptHost.Action
import ScriptHost.Output.Bridge
import ScriptHost.World.Guard
import ScriptHost.World.Basic
import ScriptHost.World.Variables
import ScriptHost.World.View
import ScriptHost.Bindings
import ScriptHost.Session
import ScriptHost.Engine
import ScriptHost.Proofs.Utf8.Sequence
import ScriptHost.Proofs.Utf8.Decoding
import ScriptHost.Proofs.Output.Decoding
import ScriptHost.Proofs.Output.Calls
import ScriptHost.Proofs.Output.Transcript
import ScriptHost.Proofs.World.Access
import ScriptHost.Proofs.Bindings.Answers
import ScriptHost.Proofs.Bindings.Conflicts
import ScriptHost.Proofs.Bindings.Put
import ScriptHost.Proofs.Bindings.PutAll
import ScriptHost.Proofs.Failure.Wrapping
import ScriptHost.Proofs.Action.Relations
import ScriptHost.Proofs.Bindings.Operations
import ScriptHost.Proofs.Bindings.Isolation
import ScriptHost.Proofs.Bindings.Likeness
import ScriptHost.Proofs.Clients.Commands
import ScriptHost.Proofs.Clients.Interleaving
import ScriptHost.Proofs.World.Runs
import ScriptHost.Proofs.World.Shrinking
import ScriptHost.Proofs.Output.Sinks
import ScriptHost.Proofs.Output.Refusals
import ScriptHost.Proofs.Engine.Calls
import ScriptHost.Proofs.Engine.Boundaries
import ScriptHost.Proofs.Bindings.Undo
import ScriptHost.Proofs.Bindings.Remove
import ScriptHost.Proofs.Bindings.Expunge
import ScriptHost.Proofs.Bindings.Clear
import ScriptHost.Proofs.Bindings.Interruption
import ScriptHost.Proofs.Bindings.Views
import ScriptHost.Proofs.Failure.Contributions
import ScriptHost.Proofs.Failure.Snapshots
import ScriptHost.Proofs.Failure.Listings
import ScriptHost.Proofs.Value.Heap
import ScriptHost.Proofs.Value.Equivalence
import ScriptHost.Proofs.Output.Buffer
import ScriptHost.Proofs.Output.Writers
import ScriptHost.Proofs.Output.Lagging
import ScriptHost.Proofs.Utf8.Validity
import ScriptHost.Proofs.Output.RoundTrip
import ScriptHost.Proofs.World.Moves
import ScriptHost.Proofs.World.Slots
import ScriptHost.Proofs.World.Swaps
import ScriptHost.Proofs.Bindings.Revision
import ScriptHost.Proofs.World.Revisions
