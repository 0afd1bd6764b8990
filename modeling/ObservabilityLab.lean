import ObservabilityLab.Agent.CitedPolicy
import ObservabilityLab.Agent.RefundAnswer
import ObservabilityLab.Agent.RefundSafety
import ObservabilityLab.Audit.Completeness
import ObservabilityLab.Audit.Scanner
import ObservabilityLab.Bundle.Privacy
import ObservabilityLab.Bundle.Reconstruction
import ObservabilityLab.Comparison.EvaluatorBounds
import ObservabilityLab.Comparison.ModelLabVeto
import ObservabilityLab.Comparison.Recommendation
import ObservabilityLab.Comparison.Renaming
import ObservabilityLab.Comparison.Transitions
import ObservabilityLab.Evidence.AcceptedTrace
import ObservabilityLab.Evidence.FlatRuns
import ObservabilityLab.Evidence.StoredHash
import ObservabilityLab.Execution.Streams
import ObservabilityLab.Failures.EvidenceChain
import ObservabilityLab.Failures.FeedbackFields
import ObservabilityLab.Failures.ToolFailures
import ObservabilityLab.Library.Dictionary
import ObservabilityLab.Library.Histories
import ObservabilityLab.Library.Iterations
import ObservabilityLab.Library.KeyedRows
import ObservabilityLab.Library.KeyedUpsert
import ObservabilityLab.Library.Patterns
import ObservabilityLab.Library.Scopes
import ObservabilityLab.Library.StateMaps
import ObservabilityLab.Library.Windows
import ObservabilityLab.Python.Url
import ObservabilityLab.Python.Words
import ObservabilityLab.Python.Yaml
import ObservabilityLab.Reference.Compare
import ObservabilityLab.Reference.Contracts
import ObservabilityLab.Reference.Faults
import ObservabilityLab.Reference.FlightBooking
import ObservabilityLab.Reference.Inventory
import ObservabilityLab.Reference.Lifecycle
import ObservabilityLab.Reference.PlanOrder
import ObservabilityLab.Reference.Returned
import ObservabilityLab.Reference.Runner
import ObservabilityLab.Regression.Dataset
import ObservabilityLab.Regression.DatasetSplit
import ObservabilityLab.Regression.History
import ObservabilityLab.Retrieval.Chunking
import ObservabilityLab.Retrieval.CurrentIndex
import ObservabilityLab.Retrieval.Fusion
import ObservabilityLab.Retrieval.Provenance
import ObservabilityLab.Retrieval.Schemas
import ObservabilityLab.Retrieval.Search
import ObservabilityLab.Retrieval.Storage
import ObservabilityLab.Simulation.AdapterRefinement
import ObservabilityLab.Simulation.Boundary
import ObservabilityLab.Simulation.ConcurrentRefunds
import ObservabilityLab.Simulation.EscalationEvidence
import ObservabilityLab.Simulation.FaultTargets
import ObservabilityLab.Simulation.LiveStream
import ObservabilityLab.Simulation.MonitoredRuns
import ObservabilityLab.Simulation.Numbering
import ObservabilityLab.Simulation.Recorded
import ObservabilityLab.Simulation.RunProtocol
import ObservabilityLab.Simulation.SpanMeasurements
import ObservabilityLab.Simulation.TransientFaults
import ObservabilityLab.Suite.Libraries
import ObservabilityLab.Suite.OneVariable
import ObservabilityLab.Telemetry.Export
import ObservabilityLab.UserSimulator.ApprovalGate
import ObservabilityLab.UserSimulator.Catalog
import ObservabilityLab.UserSimulator.EventStream
import ObservabilityLab.UserSimulator.ExecutedTools
import ObservabilityLab.UserSimulator.Manifests
import ObservabilityLab.UserSimulator.Preflight
import ObservabilityLab.UserSimulator.SecretScan
import ObservabilityLab.UserSimulator.Simulator
import ObservabilityLab.UserSimulator.ToolOutcomes
import ObservabilityLab.Workflow.Decisions
import ObservabilityLab.Workflow.OfflineRefunds
import ObservabilityLab.Workflow.OfflineRun
import ObservabilityLab.Workflow.RefundSafety
