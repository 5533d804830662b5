/-
This file records which classes declare which members.

A hook is checked against these declarations before any class is loaded. A mapped member counts
as declared when its class declares it under either of its names.
-/

import MethodPatch.Ascending
import MethodPatch.ClassFile

namespace MethodPatch

/-- One declared field or method. -/
structure Declaration where
  owner : ClassName
  kind : MemberKind
  name : String
  descriptor : String
  deriving DecidableEq

/-- All declared members. -/
abbrev Declarations := List Declaration

namespace ClassFile

/-- The members that a class declares, fields first. -/
def declarations (file : ClassFile) : Declarations :=
  file.fields.map (fun field => ⟨file.className, .field, field.name, field.descriptor⟩) ++
    file.methods.map fun method => ⟨file.className, .method, method.name, method.descriptor⟩

end ClassFile

namespace Declarations

/-- Adds one member. -/
def declare (declarations : Declarations) (declaration : Declaration) : Declarations :=
  declarations ++ [declaration]

/-- Adds the members of a class. -/
def declareClass (declarations : Declarations) (file : ClassFile) : Declarations :=
  declarations ++ file.declarations

/-- How many classes declare a member. -/
def typeCount (declarations : Declarations) : Nat :=
  (Ascending.ofList (declarations.map Declaration.owner)).length

/-- Whether the member is declared. -/
def declares (declarations : Declarations) (member : Declaration) : Bool :=
  declarations.contains member

/-- Accepts a mapped member that is declared under either of its names. -/
def check (declarations : Declarations) (member : MappedMember) : Except PatchError Unit :=
  let declared := member.names.any fun name =>
    declarations.declares ⟨member.declaringType, member.kind, name, member.descriptor⟩
  if declared then .ok ()
  else
    .error (.configuration none
      (.undeclared member.kind.name member.text member.declaringType.text))

end Declarations

end MethodPatch
