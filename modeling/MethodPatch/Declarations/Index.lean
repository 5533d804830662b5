/-
This file keeps declared members under the classes that declare them.

A class gets an entry with its first declared member, and each further member goes behind those that
are there already, so a member declared again stands there again. To look a member up, only the
entry of its class is read.
-/

import MethodPatch.Declarations

namespace MethodPatch

/-- A field or method as it stands in the entry of its class. -/
structure DeclaredMember where
  kind : MemberKind
  name : String
  descriptor : String
  deriving DecidableEq

/-- What a declaration says besides the class. -/
def Declaration.member (declaration : Declaration) : DeclaredMember :=
  ⟨declaration.kind, declaration.name, declaration.descriptor⟩

/-- The members of each class that declares some, in the order of their declaration. -/
abbrev MemberIndex := List (ClassName × List DeclaredMember)

namespace MemberIndex

/-- Puts a declared member into the entry of its class, which is opened if there is none. -/
def declare : MemberIndex → Declaration → MemberIndex
  | [], declaration => [(declaration.owner, [declaration.member])]
  | (className, members) :: rest, declaration =>
    if className = declaration.owner then (className, members ++ [declaration.member]) :: rest
    else (className, members) :: declare rest declaration

/-- Declares the members of a class one after another. -/
def declareClass (index : MemberIndex) (file : ClassFile) : MemberIndex :=
  file.declarations.foldl declare index

/-- How many classes declare a member. -/
def typeCount (index : MemberIndex) : Nat := index.length

/-- Whether the entry of its class holds the declared member. -/
def declares (index : MemberIndex) (declaration : Declaration) : Bool :=
  match index.lookup declaration.owner with
  | some members => members.contains declaration.member
  | none => false

/-- Accepts a mapped member that is declared under either of its names. -/
def check (index : MemberIndex) (member : MappedMember) : Except PatchError Unit :=
  let declared := member.names.any fun name =>
    index.declares ⟨member.declaringType, member.kind, name, member.descriptor⟩
  if declared then .ok ()
  else
    .error (.configuration none
      (.undeclared member.kind.name member.text member.declaringType.text))

end MemberIndex

end MethodPatch
