import VelaEdge.Cloud.AgentKnowledge
import VelaEdge.Cloud.ApplicationFailures
import VelaEdge.Cloud.DraftIdempotence
import VelaEdge.Cloud.FailedWrites
import VelaEdge.Cloud.MappedOnce
import VelaEdge.Cloud.PendingReleases
import VelaEdge.Cloud.ReleaseAcceptance
import VelaEdge.Cloud.SessionScope
import VelaEdge.Core.GraphValidation
import VelaEdge.EdgeLink.Stream
import VelaEdge.Modbus.LateAnswers
import VelaEdge.Runtime.AlgorithmDevices
import VelaEdge.Runtime.CollectionRetries
import VelaEdge.Runtime.CommandPlan
import VelaEdge.Runtime.CommandRuns
import VelaEdge.Runtime.CommandSafety
import VelaEdge.Runtime.ConfigStore
import VelaEdge.Runtime.DaemonLoop
import VelaEdge.Runtime.DataPayload
import VelaEdge.Runtime.DeployOutcomes
import VelaEdge.Runtime.DurationCondition
import VelaEdge.Runtime.Iec104Reads
import VelaEdge.Runtime.OutboxDrain
import VelaEdge.Runtime.OutputScope
import VelaEdge.Runtime.ProgressGaps
import VelaEdge.Runtime.PublishConfirmations
import VelaEdge.Runtime.Receipts
import VelaEdge.Runtime.RuntimeHealth
import VelaEdge.Runtime.WriteReports
import VelaEdge.Serial.Iec101Session
