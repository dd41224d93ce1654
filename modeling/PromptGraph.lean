import PromptGraph.Command.Workspace
import PromptGraph.Main
import PromptGraph.Proofs.Graph.References
import PromptGraph.Proofs.Node.Alignment
import PromptGraph.Proofs.Node.Faults
import PromptGraph.Proofs.Node.Leniency
import PromptGraph.Proofs.Node.Required
import PromptGraph.Proofs.Graph.Strictness
import PromptGraph.Proofs.Node.Origins
import PromptGraph.Proofs.Graph.Literals
import PromptGraph.Proofs.Node.Takes
import PromptGraph.Proofs.Wire.Prompts
import PromptGraph.Proofs.Graph.Duplicates
import PromptGraph.Proofs.Wire.Dialects
import PromptGraph.Proofs.Graph.Conversion
import PromptGraph.Proofs.Node.Named
import PromptGraph.Proofs.Graph.Order
import PromptGraph.Proofs.Graph.Isolation
import PromptGraph.Proofs.Graph.Wiring
import PromptGraph.Proofs.Graph.Validation
import PromptGraph.Proofs.Node.Exhaustion
import PromptGraph.Proofs.Graph.Fetches
import PromptGraph.Proofs.Wire.Workflows
import PromptGraph.Proofs.Node.Rejection
import PromptGraph.Proofs.Numerals
import PromptGraph.Proofs.Node.Findings
import PromptGraph.Proofs.Wire.Catalogs
import PromptGraph.Proofs.Wire.Canonical
import PromptGraph.Proofs.Wire.WrittenSchemas
import PromptGraph.Proofs.Node.Trailing
import PromptGraph.Proofs.Node.Decorations
import PromptGraph.Proofs.Registry
import PromptGraph.Proofs.Accesses
import PromptGraph.Proofs.Classification
import PromptGraph.Proofs.Graph.Indices
import PromptGraph.Proofs.Graph.Reports
import PromptGraph.Proofs.Graph.Shape
import PromptGraph.Proofs.Node.Order
