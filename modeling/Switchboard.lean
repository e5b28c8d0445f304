import Switchboard.Proofs.Client.Results
import Switchboard.Proofs.Client.Withdrawal
import Switchboard.Proofs.Correlator.Deadlines
import Switchboard.Proofs.Correlator.Generations
import Switchboard.Proofs.Correlator.Sweeping
import Switchboard.Proofs.Dispatcher.Batches
import Switchboard.Proofs.Dispatcher.Waking
import Switchboard.Proofs.Engine.Shutdown
import Switchboard.Proofs.Engine.Upkeep
import Switchboard.Proofs.Metrics.Exposition
import Switchboard.Proofs.Notification.Encoding
import Switchboard.Proofs.Notification.Events
import Switchboard.Proofs.Request.Spelling
import Switchboard.Proofs.Telemetry.Precedence
import Switchboard.Scenario.Play
