import PipelineConfig.Command.Line
import PipelineConfig.Command.Output
import PipelineConfig.Command.Usage
import PipelineConfig.Commit
import PipelineConfig.Deletion
import PipelineConfig.Document.Json
import PipelineConfig.Document.Json.Printing
import PipelineConfig.Document.Reading
import PipelineConfig.Document.Toml
import PipelineConfig.Document.Writing
import PipelineConfig.Document.Yaml
import PipelineConfig.Graph.Reach
import PipelineConfig.Graph.Rendering
import PipelineConfig.Inventory
import PipelineConfig.Load
import PipelineConfig.Main
import PipelineConfig.Proofs.Acyclicity
import PipelineConfig.Proofs.ClosingEdits
import PipelineConfig.Proofs.Polling
import PipelineConfig.Proofs.Rebuild
import PipelineConfig.Proofs.RoundTrip
import PipelineConfig.Proofs.Shadowing
import PipelineConfig.Proofs.Unrelated
import PipelineConfig.Verdict
import PipelineConfig.Proofs.DependencyOrder
import PipelineConfig.Proofs.Breakage
import PipelineConfig.Proofs.Verdicts
import PipelineConfig.Proofs.Reachability
import PipelineConfig.Proofs.FetchTargets
import PipelineConfig.Proofs.Fingerprints
import PipelineConfig.Proofs.DeletionReasons
import PipelineConfig.Proofs.SharedStages
import PipelineConfig.Proofs.LabelTokens
import PipelineConfig.Proofs.Repeats
import PipelineConfig.Proofs.Drawings
import PipelineConfig.Proofs.Listings
import PipelineConfig.Proofs.Confinement
import PipelineConfig.Proofs.NameOrder
