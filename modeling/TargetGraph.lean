import TargetGraph.FileTree
import TargetGraph.Main
import TargetGraph.Proofs.Closure.History
import TargetGraph.Proofs.Closure.Work
import TargetGraph.Proofs.Output.Acceptance
import TargetGraph.Proofs.Output.Boundary
import TargetGraph.Proofs.Output.Listings
import TargetGraph.Proofs.Ownership.Declared
import TargetGraph.Session
import TargetGraph.Proofs.Draft.Calls
import TargetGraph.Proofs.Output.Inventory
import TargetGraph.Proofs.Output.Rearranged
import TargetGraph.Proofs.Publication.History
import TargetGraph.Proofs.Location
import TargetGraph.Proofs.Label
import TargetGraph.Proofs.Message.Framing
import TargetGraph.Proofs.Command.Outcome
import TargetGraph.Proofs.Closure.Files
import TargetGraph.Proofs.Tool.ErrorTail
import TargetGraph.Proofs.Command.FileArgument
import TargetGraph.Proofs.Closure.Frames
import TargetGraph.Proofs.Text.Table
import TargetGraph.Proofs.Tool.CommandLine
