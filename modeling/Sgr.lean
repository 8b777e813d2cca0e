import Sgr.Main
import Sgr.Session.Run
import Sgr.Proofs.Running
import Sgr.Proofs.Config.Placeholder
import Sgr.Proofs.Config.Requirement
import Sgr.Proofs.Config.Verdict
import Sgr.Proofs.Color.Hex
import Sgr.Proofs.Color.Plane
import Sgr.Proofs.Sigil.Text
import Sgr.Proofs.Template.Field
import Sgr.Proofs.Template.Surround
import Sgr.Proofs.Brush.Call
import Sgr.Proofs.Brush.Family
import Sgr.Proofs.Brush.Forms
import Sgr.Proofs.Content.Literal
import Sgr.Proofs.Content.Modes
import Sgr.Proofs.Content.Names
import Sgr.Proofs.Content.Surfacing
import Sgr.Proofs.Terminal.Instruction
import Sgr.Proofs.Terminal.Leftover
import Sgr.Proofs.Terminal.Nesting
import Sgr.Proofs.Terminal.Opening
import Sgr.Proofs.Terminal.Strip
import Sgr.Proofs.Session.Constant
import Sgr.Proofs.Session.Deferred
import Sgr.Proofs.Session.Gate
import Sgr.Proofs.Session.Lifecycle
import Sgr.Proofs.CommandLine.Agreement
import Sgr.Proofs.CommandLine.File
import Sgr.Proofs.Color.Pair
