import Tabletop.Proofs.Dice.Fairness
import Tabletop.Proofs.Dice.Joining
import Tabletop.Proofs.Dice.Replay
import Tabletop.Proofs.Dice.Separators
import Tabletop.Proofs.Dice.Spacing
import Tabletop.Proofs.Dice.Stream
import Tabletop.Proofs.Service.Agreement
import Tabletop.Proofs.Service.Atomicity
import Tabletop.Proofs.Service.LoginPage
import Tabletop.Proofs.Service.Merging
import Tabletop.Proofs.Service.Production
import Tabletop.Proofs.Service.StoredSheets
