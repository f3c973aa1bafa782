import Counterpart.Main
import Counterpart.Proofs.Constructible
import Counterpart.Proofs.Conversion
import Counterpart.Proofs.Delivering
import Counterpart.Proofs.Failing
import Counterpart.Proofs.Getters
import Counterpart.Proofs.Growing
import Counterpart.Proofs.Identities
import Counterpart.Proofs.Reloading
import Counterpart.Proofs.Repacking
import Counterpart.Proofs.Scoping
import Counterpart.Proofs.Settling
import Counterpart.Proofs.Switching
import Counterpart.Proofs.Titles
import Counterpart.Proofs.Truncation
import Counterpart.Session.Hold
