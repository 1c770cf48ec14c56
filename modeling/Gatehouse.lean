import Gatehouse.Http.Router
import Gatehouse.Main
import Gatehouse.Proofs.History.Confirmation
import Gatehouse.Proofs.History.Versions
import Gatehouse.Tasks
import Gatehouse.Proofs.History.Storage
import Gatehouse.Proofs.History.Changes
import Gatehouse.Proofs.History.Isolation
import Gatehouse.Proofs.History.Activation
import Gatehouse.Proofs.History.Passwords
import Gatehouse.Proofs.Http.AccountRoutes
import Gatehouse.Proofs.Http.Purging
import Gatehouse.Proofs.Http.Bearers
import Gatehouse.Proofs.History.AccountChanges
import Gatehouse.Proofs.History.Letters
import Gatehouse.Proofs.Http.Secrecy
import Gatehouse.Proofs.Http.Bodies
import Gatehouse.Proofs.Http.Problems
import Gatehouse.Proofs.Validation.AddressGrammar
import Gatehouse.Proofs.Password.Scheme
import Gatehouse.Proofs.History.ChangeOutcomes
import Gatehouse.Proofs.History.Mailings
import Gatehouse.Proofs.Mail.Addressing
import Gatehouse.Proofs.Http.Blame
import Gatehouse.Proofs.Store.TokenMap
import Gatehouse.Proofs.History.TokenUses
import Gatehouse.Proofs.History.Expiry
import Gatehouse.Proofs.Encoding.Base32
import Gatehouse.Proofs.Workflow.Complaints
import Gatehouse.Proofs.Workflow.Disturbances
import Gatehouse.Proofs.Http.MintedTokens
import Gatehouse.Proofs.Http.Admission
import Gatehouse.Proofs.Workflow.PasswordPolicy
import Gatehouse.Proofs.Tasks.Rounds
import Gatehouse.Proofs.Settings.Overlay
import Gatehouse.Proofs.Net.Canonical
import Gatehouse.Proofs.Http.Positions
import Gatehouse.Proofs.Validation.Notes
import Gatehouse.Proofs.History.Grants
