import Tombola.Main
import Tombola.Service.Routes
import Tombola.Service.Start
import Tombola.Log.Line
import Tombola.Proofs.Token.Turns
import Tombola.Proofs.Token.Freshness
import Tombola.Proofs.Command.Meaning
import Tombola.Proofs.Command.Refinement
import Tombola.Proofs.Groups.Alike
import Tombola.Proofs.Service.Gates
import Tombola.Proofs.Service.Production
import Tombola.Proofs.Token.Onward
import Tombola.Proofs.Token.Settling
import Tombola.Proofs.Token.Dropped
import Tombola.Proofs.Token.Pace
import Tombola.Proofs.Command.Faults
import Tombola.Proofs.Command.WellFormed
import Tombola.Proofs.Service.Answers
import Tombola.Proofs.Service.Workspaces
import Tombola.Proofs.Command.Interleaved
import Tombola.Proofs.Command.Announced
import Tombola.Proofs.Command.Literal
import Tombola.Proofs.CommandLine.Agreement
import Tombola.Proofs.Token.Without
import Tombola.Proofs.Token.Traceless
import Tombola.Proofs.Service.Asking
import Tombola.Proofs.Service.ReadBack
import Tombola.Proofs.Service.Causes
import Tombola.Proofs.CommandLine.Endings
import Tombola.Proofs.CommandLine.Hidden
import Tombola.Proofs.Command.Numeral
import Tombola.Proofs.Vault.Replies
import Tombola.Proofs.Vault.Asked
import Tombola.Proofs.Token.Noticed
import Tombola.Proofs.Form.RoundTrip
import Tombola.Proofs.Log.Bound
import Tombola.Proofs.Service.LogFormat
