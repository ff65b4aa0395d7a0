import Sprig.Main
import Sprig.Proofs.Text.LineColumn
import Sprig.Proofs.Outcome
import Sprig.Proofs.Syntax.Layout
import Sprig.Proofs.Parser.Reading
import Sprig.Proofs.Parser.Soundness
import Sprig.Proofs.Parser.Completeness
import Sprig.Proofs.Typing.Reference
import Sprig.Proofs.Typing.Simulation
import Sprig.Proofs.Typing.Refinement
import Sprig.Proofs.Typing.Acceptance
import Sprig.Proofs.Typing.FlatStore
import Sprig.Proofs.Parser.Progress
import Sprig.Proofs.Parser.Viability
import Sprig.Proofs.Parser.ErrorOffset
import Sprig.Proofs.Parser.Lockstep
import Sprig.Proofs.Parser.Locality
import Sprig.Proofs.LayoutInvariance
import Sprig.Proofs.Typing.Coherence
import Sprig.Proofs.Typing.Session
import Sprig.Proofs.Typing.Tables
import Sprig.Proofs.Typing.Forest
import Sprig.Proofs.Typing.Inference
import Sprig.Proofs.Command.Discipline
import Sprig.Proofs.Typing.Merging
import Sprig.Proofs.Parser.Tracking
import Sprig.Proofs.Syntax.Printed
import Sprig.Proofs.Command.Diagnostics
import Sprig.Proofs.Typing.Compression
import Sprig.Proofs.Typing.Symmetry
import Sprig.Proofs.Typing.Rejection
import Sprig.Proofs.Typing.Unresolved
import Sprig.Proofs.Views
import Sprig.Proofs.Parser.Consumption
import Sprig.Proofs.Command.Grammar
import Sprig.Proofs.NamesReadBack
import Sprig.Proofs.DeclarationPlaces
import Sprig.Proofs.Parser.TokenTests
