/-
This file describes the fields and methods that code refers to.

A `Member` is a reference as it stands in a class file: an owner, a name and a descriptor. A
`MappedMember` is one member under both of its names, so a hook that mentions it serves either
naming scheme.
-/

import MethodPatch.Naming

namespace MethodPatch

/-! ### Members of a class -/

/-- The two kinds of members. -/
inductive MemberKind where
  | method
  | field
  deriving DecidableEq

/-- Both kinds of members. -/
def MemberKind.all : List MemberKind := [.method, .field]

/-- The word for a kind of member. -/
def MemberKind.name : MemberKind → String
  | .method => "method"
  | .field => "field"

/-- The text that stands for any text in a search pattern. -/
def wildcard : String := "~"

/-- A reference to a field or a method. -/
structure Member where
  owner : String
  name : String
  descriptor : String
  deriving DecidableEq

/-- The reference that leaves all of its parts open. -/
def Member.any : Member := ⟨wildcard, wildcard, wildcard⟩

/-- Whether some part of the reference is left open. -/
def Member.isOpen (member : Member) : Bool :=
  member.owner == wildcard || member.name == wildcard || member.descriptor == wildcard

/-- A reference as a reader sees it. -/
def Member.text (member : Member) : String :=
  s!"{member.owner}.{member.name} {member.descriptor}"

/-! ### Members under two names -/

/-- A field or method with its name in either naming scheme. The logical name only serves to
show the member. -/
structure MappedMember where
  kind : MemberKind
  declaringType : ClassName
  logicalName : String
  primary : String
  alternate : String
  descriptor : String
  deriving DecidableEq

namespace MappedMember

/-- A member shown under its primary name. -/
def of (kind : MemberKind) (declaringType : ClassName) (primary alternate descriptor : String) :
    MappedMember :=
  ⟨kind, declaringType, primary, primary, alternate, descriptor⟩

/-- A method that has the same name in both naming schemes. -/
def unmapped (declaringType : ClassName) (name descriptor : String) : MappedMember :=
  of .method declaringType name name descriptor

/-- The name of the member in a naming scheme. -/
def nameIn (member : MappedMember) : Naming → String
  | .named => member.primary
  | .remapped => member.alternate

/-- Both names of the member. -/
def names (member : MappedMember) : List String := [member.primary, member.alternate]

/-- The reference to the member in a naming scheme. -/
def reference (member : MappedMember) (naming : Naming) : Member :=
  ⟨member.declaringType.text, member.nameIn naming, member.descriptor⟩

/-- The member as a reader sees it, with both names behind it. -/
def text (member : MappedMember) : String :=
  s!"{member.declaringType.text}.{member.logicalName}{member.descriptor} " ++
    s!"({member.primary}/{member.alternate})"

end MappedMember

end MethodPatch
