import YoukiRuntime.Uuid
import YoukiRuntime.Path
import YoukiRuntime.Types
import YoukiRuntime.Registry
import YoukiRuntime.Youki
import YoukiRuntime.Lifecycle
import YoukiRuntime.Run
import YoukiRuntime.StopWait
import YoukiRuntime.BundlePath
import YoukiRuntime.Tasks
import YoukiRuntime.Interleaving
import YoukiRuntime.LockDiscipline
import YoukiRuntime.ConcurrentRegistry
import YoukiRuntime.Text
import YoukiRuntime.ContainerFiles
import YoukiRuntime.WorkloadApi
import YoukiRuntime.ApiTasks
import YoukiRuntime.LogsCommand
import YoukiRuntime.Json
import YoukiRuntime.Deploy
import YoukiRuntime.ClusterStatus
import YoukiRuntime.StatusCommand
import YoukiRuntime.ApiResponses
