import AlertRelay.Alert.Run
import AlertRelay.Alert.Scheduler
import AlertRelay.Delivery.Worker
import AlertRelay.Event.Emitter
import AlertRelay.Json.Reader
import AlertRelay.Routine.Run
import AlertRelay.Store.Samples
import AlertRelay.Proofs.Cooldown.Pacing
import AlertRelay.Proofs.Cooldown.RuleRun
import AlertRelay.Proofs.Cooldown.Announcement
import AlertRelay.Proofs.Queue.Lifecycle
import AlertRelay.Proofs.Queue.LostClaim
import AlertRelay.Proofs.Delivery.Pass
import AlertRelay.Proofs.Delivery.Outcome
import AlertRelay.Proofs.Delivery.Backoff
import AlertRelay.Proofs.Delivery.Secrecy
import AlertRelay.Proofs.Delivery.Tenancy
import AlertRelay.Proofs.Delivery.Tick
import AlertRelay.Proofs.Delivery.Batch
import AlertRelay.Proofs.Delivery.Posting
import AlertRelay.Proofs.Delivery.Counter
import AlertRelay.Proofs.Delivery.Tally
import AlertRelay.Proofs.Delivery.Retries
import AlertRelay.Proofs.Json.Sorted
import AlertRelay.Proofs.Routine.Change
import AlertRelay.Proofs.Routine.Complete
import AlertRelay.Proofs.Routine.InStep
import AlertRelay.Proofs.Scheduler.Lookup
import AlertRelay.Proofs.Scheduler.Process
import AlertRelay.Proofs.Scheduler.Tick
import AlertRelay.Proofs.Store.ReadBack
import AlertRelay.Proofs.Store.Secret
import AlertRelay.Proofs.Scheduler.Range
import AlertRelay.Proofs.Event.Envelope
import AlertRelay.Proofs.Evaluation.InOrder
import AlertRelay.Proofs.Evaluation.UnknownOperator
import AlertRelay.Proofs.Evaluation.Metadata
import AlertRelay.Proofs.Notifier.FanOut
import AlertRelay.Proofs.Delivery.Budget
import AlertRelay.Proofs.Delivery.Doubling
import AlertRelay.Proofs.Event.FanOut
import AlertRelay.Proofs.Notifier.Unsupported
import AlertRelay.Proofs.Signature.Slices
import AlertRelay.Proofs.Store.Admission
import AlertRelay.Proofs.Settings.Load
import AlertRelay.Proofs.Queue.KeptError
