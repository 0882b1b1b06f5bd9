import Tangle.Main
import Tangle.Proofs.Extraction.Accounting
import Tangle.Proofs.Extraction.RoundTrip
import Tangle.Proofs.Rendering.Confinement
import Tangle.Proofs.Rendering.LaterVersions
import Tangle.Proofs.Rendering.Outputs
import Tangle.Proofs.Rendering.Reordering
import Tangle.Proofs.Rendering.Repetition
import Tangle.Proofs.Extraction.Parts
import Tangle.Proofs.Extraction.Exclusion
import Tangle.Proofs.Extraction.LineEnds
import Tangle.Proofs.Faults
import Tangle.Proofs.History
import Tangle.Proofs.LineDiff
import Tangle.Proofs.Page
import Tangle.Proofs.Extraction.Fragments
import Tangle.Proofs.Acceptance
import Tangle.Proofs.Filtering
import Tangle.Proofs.Log
import Tangle.Proofs.Duplicates
import Tangle.Proofs.Lookup
import Tangle.Proofs.OutputNames
import Tangle.Proofs.TemplateNames
import Tangle.Proofs.Extraction.VersionNumbers
import Tangle.Proofs.Substitution
import Tangle.Proofs.Pattern.LineEnds
import Tangle.Proofs.Context
import Tangle.Proofs.Settings
import Tangle.Proofs.Summary
