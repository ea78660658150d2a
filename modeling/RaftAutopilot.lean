import RaftAutopilot.Model.GoMap
import RaftAutopilot.Model.Types
import RaftAutopilot.Model.Health
import RaftAutopilot.Model.Autopilot
import RaftAutopilot.Prune.Categorize
import RaftAutopilot.Prune.FailedServers
import RaftAutopilot.Prune.Adjudicate
import RaftAutopilot.Prune.Pass
import RaftAutopilot.Prune.Safety
import RaftAutopilot.Prune.Order
import RaftAutopilot.Reconcile.Apply
import RaftAutopilot.Reconcile.Pass
