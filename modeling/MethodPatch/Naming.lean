/-
This file holds the two naming schemes of a program and the written form of class names.

A released program often carries other member names than the build its authors work with. Which
of the two a class file uses is settled once, when class files are patched. Class names are
compared in their internal form, where slashes separate the packages.
-/

namespace MethodPatch

/-! ### Naming schemes -/

/-- The names the members of a class file go by: those its authors gave, or those a mapping put
in their place. -/
inductive Naming where
  | named
  | remapped
  deriving DecidableEq, Inhabited

/-- Every naming scheme. -/
def Naming.all : List Naming := [.named, .remapped]

/-- The word for a naming scheme. -/
def Naming.name : Naming → String
  | .named => "named"
  | .remapped => "remapped"

/-- A word was read that names no naming scheme. -/
structure UnknownNaming where
  word : String

def UnknownNaming.message (_ : UnknownNaming) : String := "Matching variant not found"

/-- Reads the word for a naming scheme, which has to be spelled exactly. -/
def Naming.parse (word : String) : Except UnknownNaming Naming :=
  match Naming.all.find? (·.name == word) with
  | some naming => .ok naming
  | none => .error ⟨word⟩

/-! ### Class names -/

/-- A dot separates packages in a written class name, a slash in an internal one. -/
def slashed (character : Char) : Char := if character = '.' then '/' else character

/-- The internal form of a class name. -/
def internalForm (name : String) : String := String.ofList (name.toList.map slashed)

theorem slashed_slashed (character : Char) : slashed (slashed character) = slashed character := by
  by_cases dot : character = '.'
  · subst dot; rfl
  · simp [slashed, dot]

/-- A name in internal form is its own internal form. -/
@[simp] theorem internalForm_internalForm (name : String) :
    internalForm (internalForm name) = internalForm name := by
  simp [internalForm, Function.comp_def, slashed_slashed]

/-- A class is known by its name in internal form, so both ways of writing a name denote the same
class. -/
structure ClassName where
  text : String
  internal : internalForm text = text
  deriving DecidableEq

/-- The class denoted by a name in either form. -/
def ClassName.of (written : String) : ClassName :=
  ⟨internalForm written, internalForm_internalForm written⟩

/-- Class names are ordered by code points. -/
instance : LT ClassName := ⟨fun first second => first.text < second.text⟩

instance : DecidableLT ClassName :=
  fun first second => inferInstanceAs (Decidable (first.text < second.text))

instance : Trans (α := ClassName) (· < ·) (· < ·) (· < ·) := ⟨String.lt_trans⟩

instance : Std.Asymm (α := ClassName) (· < ·) := ⟨fun _ _ => String.lt_asymm⟩

instance : Std.Trichotomous (α := ClassName) (· < ·) where
  trichotomous first second notSmaller notLarger := by
    have same : first.text = second.text :=
      Std.Trichotomous.trichotomous (r := (· < ·)) _ _ notSmaller notLarger
    cases first
    cases second
    cases same
    rfl

@[simp] theorem ClassName.of_text (name : ClassName) : ClassName.of name.text = name := by
  cases name with
  | mk text internal => simp [ClassName.of, internal]

end MethodPatch
