import Dialogue.Main
import Dialogue.Proofs.Additions
import Dialogue.Proofs.Chronicle
import Dialogue.Proofs.Colors
import Dialogue.Proofs.Content.Canonical
import Dialogue.Proofs.Content.Unfamiliar
import Dialogue.Proofs.Counters
import Dialogue.Proofs.DeadContent
import Dialogue.Proofs.Directory
import Dialogue.Proofs.Footprint
import Dialogue.Proofs.Hearing
import Dialogue.Proofs.Interpolation
import Dialogue.Proofs.Limits
import Dialogue.Proofs.Partial
import Dialogue.Proofs.Picks
import Dialogue.Proofs.Presentation
import Dialogue.Proofs.Progress
import Dialogue.Proofs.Recovery
import Dialogue.Proofs.Refusals
import Dialogue.Proofs.Report
import Dialogue.Proofs.SavedPlays
import Dialogue.Proofs.Scopes
import Dialogue.Proofs.Selection
import Dialogue.Proofs.Terminal
import Dialogue.Proofs.Termination
import Dialogue.Proofs.Vocabulary
