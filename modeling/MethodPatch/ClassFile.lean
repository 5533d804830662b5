/-
This file describes classes with their fields and methods.

A class may hold several methods of one name and descriptor. Looking a method up gives the first
of them, and changing the body of a method changes the first of them and no other.
-/

import MethodPatch.Body
import MethodPatch.Text.Hexadecimal

namespace MethodPatch

/-! ### Access flags -/

/-- The properties of a method, one bit each. Bits without a meaning are kept. -/
structure AccessFlags where
  bits : UInt16
  deriving DecidableEq

namespace AccessFlags

/-- The bits with a meaning and their names, from the lowest upward. -/
def table : List (UInt16 × String) := [
  (0x0001, "PUBLIC"), (0x0002, "PRIVATE"), (0x0004, "PROTECTED"), (0x0008, "STATIC"),
  (0x0010, "FINAL"), (0x0020, "SYNCHRONIZED"), (0x0040, "BRIDGE"), (0x0080, "VARARGS"),
  (0x0100, "NATIVE"), (0x0400, "ABSTRACT"), (0x0800, "STRICT"), (0x1000, "SYNTHETIC")]

/-- All bits with a meaning. -/
def known : UInt16 := table.foldl (fun bits entry => bits ||| entry.1) 0

/-- A native method is implemented outside its class. -/
def native : UInt16 := 0x0100

/-- An abstract method is implemented by other classes. -/
def abstract : UInt16 := 0x0400

/-- The flags for the bits, provided all of them have a meaning. -/
def ofBits? (bits : UInt16) : Option AccessFlags :=
  if bits &&& known = bits then some ⟨bits⟩ else none

/-- The flags for those of the bits that have a meaning. -/
def ofKnownBits (bits : UInt16) : AccessFlags := ⟨bits &&& known⟩

/-- Whether some of the given bits are set. -/
def hasAny (flags : AccessFlags) (bits : UInt16) : Bool := flags.bits &&& bits != 0

/-- The names of the flags that are set. -/
def names (flags : AccessFlags) : List String :=
  (table.filter fun entry => flags.hasAny entry.1).map Prod.snd

/-- The flags as a reader sees them. Bits without a meaning come last, as one number. -/
def text (flags : AccessFlags) : String :=
  let rest := flags.bits &&& ~~~known
  let parts := flags.names ++
    if rest != 0 || flags.bits == 0 then ["0x" ++ Text.lowerHex rest.toNat] else []
  "MethodAccessFlags(" ++ String.intercalate " | " parts ++ ")"

example : (AccessFlags.mk 0x2009).text = "MethodAccessFlags(PUBLIC | STATIC | 0x2000)" := by
  decide +kernel

end AccessFlags

/-! ### Methods -/

/-- A method of a class. -/
structure Method where
  name : String
  descriptor : String
  access : AccessFlags
  body : Body
  deriving DecidableEq

/-- Whether the method is implemented by a body of its own. -/
def Method.hasBody (method : Method) : Bool :=
  !method.access.hasAny (AccessFlags.abstract ||| AccessFlags.native)

/-- Whether the method has the name and the descriptor. -/
def Method.isCalled (name descriptor : String) (method : Method) : Bool :=
  method.name == name && method.descriptor == descriptor

/-- The methods of a class in their order. -/
abbrev MethodTable := List Method

namespace MethodTable

/-- How many methods precede the first one of the name and descriptor. -/
def position? (methods : MethodTable) (name descriptor : String) : Option Nat :=
  methods.findIdx? (Method.isCalled name descriptor)

/-- The first method of the name and descriptor. -/
def lookup? (methods : MethodTable) (name descriptor : String) : Option Method :=
  methods.find? (Method.isCalled name descriptor)

/-- The first method of the name. -/
def lookupName? (methods : MethodTable) (name : String) : Option Method :=
  methods.find? (·.name == name)

/-- Changes the first method of the name and descriptor. -/
def update (name descriptor : String) (change : Method → Method) : MethodTable → MethodTable
  | [] => []
  | method :: rest =>
    if method.isCalled name descriptor then change method :: rest
    else method :: update name descriptor change rest

/-- Gives a new body to the first method of the name and descriptor. -/
def setBody (methods : MethodTable) (name descriptor : String) (body : Body) : MethodTable :=
  methods.update name descriptor fun method => { method with body }

end MethodTable

/-! ### Classes -/

/-- A field of a class. -/
structure FieldEntry where
  name : String
  descriptor : String
  deriving DecidableEq

/-- A class as it is read from its file. Its name may be written in either form. -/
structure ClassFile where
  name : String
  fields : List FieldEntry
  methods : MethodTable
  deriving DecidableEq

/-- A class without members. -/
def ClassFile.empty (className : ClassName) : ClassFile := ⟨className.text, [], []⟩

/-- The class that the file defines. -/
def ClassFile.className (file : ClassFile) : ClassName := .of file.name

end MethodPatch
