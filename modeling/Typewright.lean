import Typewright.Proofs.Erasure
import Typewright.Proofs.Faults
import Typewright.Proofs.Files
import Typewright.Proofs.MarkerResolution
import Typewright.Proofs.Modules
import Typewright.Proofs.Paths
import Typewright.Proofs.Presence
import Typewright.Proofs.Reading
import Typewright.Proofs.Reordering
import Typewright.Proofs.Respelling
import Typewright.Proofs.Soundness
import Typewright.Proofs.Stacking
import Typewright.Proofs.Terminal
import Typewright.Proofs.Uniqueness
import Typewright.Proofs.Unused
import Typewright.Proofs.Variants
import Typewright.Proofs.Widening
import Typewright.Relay.Connection
import Typewright.Source.Files
import Typewright.Proofs.Recursion
import Typewright.Proofs.Objects
import Typewright.Proofs.Relaxation
import Typewright.Proofs.Refusals
import Typewright.Proofs.Pages
import Typewright.Proofs.Scopes
import Typewright.Proofs.Parameters
import Typewright.Proofs.Unions
import Typewright.Proofs.Members
import Typewright.Proofs.Layers
import Typewright.Proofs.Connections
import Typewright.Proofs.Numerals
import Typewright.Proofs.Dangling
import Typewright.Proofs.Additions
import Typewright.Proofs.Declarations
