import Craxii.Client.Projection
import Craxii.Codec.NormalizedOutput
import Craxii.Delivery.AnswerParts
import Craxii.Delivery.DraftBroker
import Craxii.Delivery.ReplayScan
import Craxii.Domain.CancellationRun
import Craxii.Domain.Command
import Craxii.Domain.ToolRun
import Craxii.Gateway.AttemptChain
import Craxii.Gateway.Invoke
import Craxii.Projector.JournaledRuns
import Craxii.Runtime.Startup
import Craxii.Scheduler.AbnormalExit
import Craxii.Scheduler.LoopBudget
import Craxii.Store.LedgerRuns
import Craxii.Store.IdentityFramings
import Craxii.Store.MessageEvents
import Craxii.Store.UnitRuns
import Craxii.Store.WorkUpdate
import Craxii.Tools.TimedCall
