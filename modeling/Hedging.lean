import Hedging.Dashboard.Use
import Hedging.Main
import Hedging.Proofs.Budget.Bursts
import Hedging.Proofs.Call.Outcomes
import Hedging.Proofs.Dashboard.Batches
import Hedging.Proofs.Dashboard.Percentiles
import Hedging.Proofs.Latency.Recomputed
import Hedging.Proofs.Run.ClosedForm
import Hedging.Proofs.Run.Log
import Hedging.Proofs.Run.Rounds
import Hedging.Proofs.Run.WarmUp
import Hedging.Proofs.Session.Denial
import Hedging.Proofs.Session.Forms
import Hedging.Proofs.Session.Shutdown
import Hedging.Proofs.Settings.Integers
