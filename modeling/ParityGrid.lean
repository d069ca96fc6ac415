import ParityGrid.Application.Reconciliation.Conservation
import ParityGrid.Application.Execution.ChannelRuns
import ParityGrid.Application.Execution.SubordinateCalls
import ParityGrid.Application.Execution.Admission
import ParityGrid.Application.Execution.FinalizationLatch
import ParityGrid.Application.Execution.ResultLease
import ParityGrid.Application.Execution.SchedulerFailures
import ParityGrid.Application.Execution.SequentialRestore
import ParityGrid.Application.Execution.RecoveredFrontier
import ParityGrid.Application.Ports.MarkerMasking
import ParityGrid.Application.Ports.SecretHiding
import ParityGrid.Application.Services.CommandRuns
import ParityGrid.Application.Execution.CleanupCalls
import ParityGrid.Application.Execution.TelemetryWire
import ParityGrid.Application.Execution.EnginePauses
import ParityGrid.Demo.Simulators.WarehouseListing
import ParityGrid.Web.Live.LiveRunRuns
import ParityGrid.Web.Live.SseParser
import ParityGrid.Adapters.Analytics.ReconciliationAgreement
import ParityGrid.Adapters.Connectors.SourceFailures
import ParityGrid.Adapters.Runners.SubordinateOperations
import ParityGrid.Application.Repair.Planning
import ParityGrid.Application.Repair.Preconditions
import ParityGrid.Application.Repair.Observation
import ParityGrid.Application.Planner.PipelineShape
import ParityGrid.Application.Repair.IdentityCollisions
import ParityGrid.Adapters.Persistence.Writer.LeaseFencing
