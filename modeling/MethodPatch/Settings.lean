/-
This file holds the choices that are made once for a whole run.
-/

import MethodPatch.Naming

namespace MethodPatch

/-- How hooks are checked and applied. -/
structure Settings where
  /-- The names that the members of the classes go by. -/
  naming : Naming
  /-- Whether a body is put back as it was when a hook fails at it. -/
  rollback : Bool
  /-- Whether a hook may leave label faults of its own making. -/
  verifyLabels : Bool
  /-- Whether the members that a hook mentions have to be declared. -/
  validateMembers : Bool
  deriving DecidableEq

namespace Settings

/-- For work on hooks: everything is checked and nothing is left half done. -/
def development : Settings := ⟨.named, true, true, true⟩

/-- For released programs: everything is checked, and what a failing hook did is kept. -/
def production : Settings := ⟨.remapped, false, true, true⟩

/-- Nothing is checked. -/
def minimal : Settings := ⟨.named, false, false, false⟩

/-- Unless something else is asked for, the settings are those for released programs. -/
instance : Inhabited Settings := ⟨production⟩

end Settings

end MethodPatch
