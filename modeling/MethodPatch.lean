import MethodPatch.Loader
import MethodPatch.Proofs.MethodTable
import MethodPatch.Proofs.Visit
import MethodPatch.Proofs.Faults
import MethodPatch.Proofs.LabelSafety
import MethodPatch.Proofs.Rollback
import MethodPatch.Proofs.Cursor
import MethodPatch.Proofs.Placement
import MethodPatch.Proofs.OncePerClass
import MethodPatch.Proofs.RegisteredHooks
import MethodPatch.Proofs.Acceptance
import MethodPatch.Proofs.Conservation
import MethodPatch.Proofs.Progress
import MethodPatch.Proofs.BothNamings
import MethodPatch.Proofs.LabelEffect
import MethodPatch.Proofs.Modification
import MethodPatch.Proofs.LocalLabels
import MethodPatch.Proofs.Independence
import MethodPatch.Proofs.CleanPass
import MethodPatch.Proofs.LoadOrder
import MethodPatch.Proofs.Frame
import MethodPatch.Proofs.Classification
import MethodPatch.Proofs.Coverage
import MethodPatch.Proofs.Covering
import MethodPatch.Proofs.Openness
import MethodPatch.Proofs.BreakOff
import MethodPatch.Proofs.Admission
import MethodPatch.Proofs.Leftmost
import MethodPatch.Proofs.WellFormed
import MethodPatch.Proofs.Unifiability
import MethodPatch.Proofs.Reapplication
import MethodPatch.Proofs.Settlement
import MethodPatch.Proofs.Survey
import MethodPatch.Proofs.BranchTargets
import MethodPatch.Proofs.DeclaredMembers
import MethodPatch.Proofs.Splices
import MethodPatch.Proofs.Locality
import MethodPatch.Proofs.DerivedEdits
import MethodPatch.Proofs.EventLog
