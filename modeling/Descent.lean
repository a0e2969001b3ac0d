import Descent.Conversion
import Descent.Proofs.Consumption
import Descent.Proofs.Stability
import Descent.Proofs.Declarations
import Descent.Proofs.Walks
import Descent.Proofs.Rests
import Descent.Proofs.Termination
import Descent.Proofs.Blanks
import Descent.Proofs.Refactoring
import Descent.Proofs.Diagnostics
import Descent.Proofs.ExactRewriting
import Descent.Proofs.Flatness
import Descent.Proofs.Limit
import Descent.Proofs.Readings
import Descent.Proofs.Scanning
import Descent.Proofs.Markup
import Descent.Proofs.Tags
import Descent.Proofs.RoundTrip
import Descent.Proofs.Repetition
import Descent.Proofs.Nesting
import Descent.Proofs.Trace
import Descent.Proofs.Unrolling
import Descent.Proofs.Listing
import Descent.Proofs.Patterns
import Descent.Proofs.Words
import Descent.Proofs.Lexemes
import Descent.Proofs.Branches
import Descent.Proofs.Joining
import Descent.Proofs.Definitions
import Descent.Proofs.Reordering
import Descent.Proofs.Occurrences
import Descent.Proofs.Clipping
import Descent.Proofs.Display
