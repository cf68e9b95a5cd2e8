import Covenant.CommandLine
import Covenant.Engine.Scripted
import Covenant.Log.Setup
import Covenant.Main
import Covenant.MessagePact.Verify
import Covenant.Pact.Run
import Covenant.Proofs.Contract.Directory
import Covenant.Proofs.Contract.ExactForm
import Covenant.Proofs.Contract.Loading
import Covenant.Proofs.Contract.Upgrade
import Covenant.Proofs.Engine.FailedRecording
import Covenant.Proofs.Engine.Services
import Covenant.Proofs.Listing
import Covenant.Proofs.Log.Rotation
import Covenant.Proofs.MessagePact.Handled
import Covenant.Proofs.MessagePact.History
import Covenant.Proofs.Mismatch.Reported
import Covenant.Proofs.Pact.ContractFile
import Covenant.Proofs.Pact.History
import Covenant.Proofs.Pact.Unanswered
import Covenant.Proofs.Selection
import Covenant.Proofs.Session.Calls
import Covenant.Proofs.Session.Ordinary
import Covenant.Proofs.Session.Result
import Covenant.Proofs.Session.Tolerance
import Covenant.Proofs.Value.Body
import Covenant.Proofs.Value.MatcherCodec
import Covenant.Proofs.Verification.Visits
import Covenant.Session.Run
import Covenant.Tagged
import Covenant.Verification.Run
