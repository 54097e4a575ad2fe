import Dunning.Main
import Dunning.Proofs.Database.Records
import Dunning.Proofs.Dispatch.Accounts
import Dunning.Proofs.Dispatch.Budget
import Dunning.Proofs.Dispatch.Rests
import Dunning.Proofs.Dispatch.Settling
import Dunning.Proofs.Dispatch.Tries
import Dunning.Proofs.Overdue.Activation
import Dunning.Proofs.Overdue.Documents
import Dunning.Proofs.Overdue.Exemptions
import Dunning.Proofs.Overdue.Overtaking
import Dunning.Proofs.Overdue.ReadBack
import Dunning.Proofs.Overdue.SideEffects
import Dunning.Proofs.Overdue.StaleLooks
import Dunning.Proofs.Payment.ClosedOwners
import Dunning.Proofs.Payment.Decisions
import Dunning.Proofs.Payment.Overlap
import Dunning.Proofs.Payment.Policies
import Dunning.Proofs.Payment.Recovery
import Dunning.Proofs.Payment.Repetition
import Dunning.Proofs.Payment.Setbacks
import Dunning.Proofs.Payment.Succession
import Dunning.Proofs.Service.Arrival
import Dunning.Proofs.Service.Closing
import Dunning.Proofs.Service.DueChecks
import Dunning.Proofs.Service.Looks
import Dunning.Proofs.Service.Settings
import Dunning.Proofs.Wire.Records
import Dunning.Proofs.Work.ClaimFields
import Dunning.Proofs.Work.DeadLetters
import Dunning.Proofs.Work.Delays
import Dunning.Proofs.Work.Lifecycle
import Dunning.Proofs.Work.Selection
import Dunning.Scenario.Masking
import Dunning.Scenario.Service
import Dunning.Scenario.Worker
