import PipelineShell.Capture
import PipelineShell.Main
import PipelineShell.Proofs.Pipeline.Answers
import PipelineShell.Proofs.Pipeline.CleanUp
import PipelineShell.Proofs.Pipeline.Filters
import PipelineShell.Proofs.Pipeline.PipeEnds
import PipelineShell.Proofs.Sequence
import PipelineShell.Proofs.Service
import PipelineShell.Proofs.Atlas
import PipelineShell.Proofs.Directories
import PipelineShell.Proofs.Lifecycle.Builtin
import PipelineShell.Proofs.Lifecycle.External
import PipelineShell.Proofs.LastStage
import PipelineShell.Proofs.Grammar
import PipelineShell.Proofs.Dispatch
import PipelineShell.Proofs.Reading
import PipelineShell.Proofs.Rebinding
import PipelineShell.Proofs.Recording
import PipelineShell.Proofs.Lifecycle.Refusals
import PipelineShell.Proofs.Resolution
import PipelineShell.Proofs.Search
import PipelineShell.Proofs.Echo
import PipelineShell.Proofs.Display
import PipelineShell.Proofs.Signals
import PipelineShell.Proofs.Farewell
import PipelineShell.Proofs.Inheritance
import PipelineShell.Proofs.Listing
