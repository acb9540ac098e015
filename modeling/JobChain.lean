import JobChain.Text.Blank
import JobChain.Text.Lowercase
import JobChain.Text.Quoted
import JobChain.Text.Encoding
import JobChain.Binary64.Shortest
import JobChain.Json.Reader
import JobChain.Json.Writer
import JobChain.Json.Display
import JobChain.Schema.Scalar
import JobChain.Schema.Record
import JobChain.Trace.Schema
import JobChain.Payload
import JobChain.Act
import JobChain.Failure.Cancellation
import JobChain.Condition.Reader
import JobChain.Condition.Writer
import JobChain.Plan.Compile
import JobChain.Log.Event
import JobChain.Log.Line
import JobChain.Log.Logger
import JobChain.Service
import JobChain.Clock
import JobChain.Editing
import JobChain.Command.Program
import JobChain.Main
import JobChain.Proofs.Plan.Indexing
import JobChain.Proofs.Plan.FirstFault
import JobChain.Proofs.Plan.Admission
import JobChain.Proofs.Table
import JobChain.Proofs.Plan.Links
import JobChain.Proofs.Plan.Chain
import JobChain.Proofs.Plan.Path
import JobChain.Proofs.Plan.NormalForm
import JobChain.Proofs.Plan.SingleChain
import JobChain.Proofs.Plan.Consistency
import JobChain.Proofs.Text.Lowercase
import JobChain.Proofs.Text.Normal
import JobChain.Proofs.Act
import JobChain.Proofs.Run.Relating
import JobChain.Proofs.Run.Recording
import JobChain.Proofs.Run.Story
import JobChain.Proofs.Run.Returning
import JobChain.Proofs.Failure.Cancellation
import JobChain.Proofs.Failure.Causes
import JobChain.Proofs.Run.Meaning
import JobChain.Proofs.Run.Visibility
import JobChain.Proofs.Condition.Grammar
import JobChain.Proofs.Condition.Holding
import JobChain.Proofs.Condition.Writing
import JobChain.Proofs.Plan.Questions
import JobChain.Proofs.Plan.Recompilation
import JobChain.Proofs.Registry.History
import JobChain.Proofs.Registry.LastWrite
import JobChain.Proofs.Run.Frame
import JobChain.Proofs.Run.Rationing
import JobChain.Proofs.Run.Timing
import JobChain.Proofs.Service.Soundness
import JobChain.Proofs.Service.Widening
import JobChain.Proofs.Run.Performing
import JobChain.Proofs.Service.Demands
import JobChain.Proofs.Service.EndToEnd
import JobChain.Proofs.Plan.Listing
import JobChain.Proofs.Plan.Remaining
import JobChain.Proofs.Plan.Stops
import JobChain.Proofs.Text.Markup
import JobChain.Proofs.Command.Printing
import JobChain.Proofs.Run.Ending
import JobChain.Proofs.Command.Tracing
import JobChain.Proofs.Command.Agreement
import JobChain.Proofs.Schema.Reading
import JobChain.Proofs.Trace.Storage
import JobChain.Proofs.Job.Leniency
import JobChain.Proofs.Text.Encoding
import JobChain.Proofs.Json.Scalars
import JobChain.Proofs.Json.Writing
import JobChain.Proofs.Payload
import JobChain.Proofs.Service.Deciding
import JobChain.Proofs.Command.Defaults
import JobChain.Proofs.Run.Logging
import JobChain.Proofs.Service.Dispatching
import JobChain.Proofs.Plan.Respondents
import JobChain.Proofs.Plan.Inspection
import JobChain.Proofs.Plan.Inquiry
import JobChain.Proofs.Command.Answering
