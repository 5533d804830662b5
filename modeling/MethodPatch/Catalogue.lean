/-
This file keeps the registered hooks, ready for the classes they are for.

The hooks of a class stand on one shelf in the order of application: the higher priority first,
and within one priority the earlier registration first. A hook that is refused leaves the
catalogue as it was. Once the catalogue is closed, no further hook is taken.
-/

import MethodPatch.Declarations
import MethodPatch.Event
import MethodPatch.Settings

namespace MethodPatch

/-! ### Shelves -/

/-- The hooks of one class in the order of application. -/
structure Shelf where
  className : ClassName
  hooks : List Hook

/-- Puts a hook before the first hook of lower priority. -/
def placeInOrder (hook : Hook) : List Hook → List Hook
  | [] => [hook]
  | first :: rest =>
    if first.priority < hook.priority then hook :: first :: rest
    else first :: placeInOrder hook rest

/-- Puts a hook on the shelf of its class, and sets up the shelf if there is none. -/
def shelve (hook : Hook) : List Shelf → List Shelf
  | [] => [⟨hook.targetClass, [hook]⟩]
  | shelf :: rest =>
    if shelf.className = hook.targetClass then
      { shelf with hooks := placeInOrder hook shelf.hooks } :: rest
    else shelf :: shelve hook rest

/-! ### The catalogue -/

/-- The answer to a request, with the state after it and the events it caused. -/
structure Reply (State Value : Type) where
  state : State
  value : Value
  events : List Event

/-- All registered hooks. -/
structure Catalogue where
  settings : Settings
  declarations : Option Declarations
  shelves : List Shelf
  names : List String
  closed : Bool

namespace Catalogue

/-- A catalogue without hooks. -/
def empty (settings : Settings) (declarations : Option Declarations) : Catalogue :=
  ⟨settings, declarations, [], [], false⟩

/-- How many hooks are registered. -/
def size (catalogue : Catalogue) : Nat := catalogue.names.length

/-- The shelf of a class. -/
def shelf? (catalogue : Catalogue) (className : ClassName) : Option Shelf :=
  catalogue.shelves.find? (·.className == className)

/-- The hooks of a class in the order of application. -/
def hooksFor (catalogue : Catalogue) (className : ClassName) : List Hook :=
  match catalogue.shelf? className with
  | some shelf => shelf.hooks
  | none => []

/-- Whether some hook is for the class. -/
def targets (catalogue : Catalogue) (className : ClassName) : Bool :=
  (catalogue.shelf? className).isSome

/-- The classes that hooks are for, as their shelves stand. -/
def targetClasses (catalogue : Catalogue) : List ClassName :=
  catalogue.shelves.map Shelf.className

/-- All hooks, class by class, and in the order of application within a class. -/
def hooks (catalogue : Catalogue) : List Hook :=
  catalogue.targetClasses.flatMap catalogue.hooksFor

/-! ### Registration -/

/-- Accepts a hook whose members are declared, the target before the members of its edits.
Without declarations there is nothing to check, and that is reported. -/
def checkMembers (catalogue : Catalogue) (hook : Hook) : Except PatchError (List Event) :=
  if catalogue.settings.validateMembers then
    match catalogue.declarations with
    | none => .ok [.unchecked hook.name]
    | some declarations => do
      (hook.target :: hook.mapped).forM declarations.check
      .ok []
  else .ok []

/-- Adds a hook without asking whether it is acceptable. -/
def add (catalogue : Catalogue) (hook : Hook) : Catalogue :=
  { catalogue with
    shelves := shelve hook catalogue.shelves
    names := hook.name :: catalogue.names }

/-- Registers a hook. It is refused when the catalogue is closed, when it is unsound in itself,
when it mentions an undeclared member, and when its name is taken, in this order. -/
def register (catalogue : Catalogue) (hook : Hook) : Reply Catalogue (Except PatchError Unit) :=
  if catalogue.closed then ⟨catalogue, .error .registrationClosed, []⟩
  else
    match hook.check with
    | .error error => ⟨catalogue, .error error, []⟩
    | .ok () =>
      match catalogue.checkMembers hook with
      | .error error => ⟨catalogue, .error error, []⟩
      | .ok events =>
        if hook.name ∈ catalogue.names then
          ⟨catalogue, .error (.configuration none (.nameTaken hook.name)), events⟩
        else
          ⟨catalogue.add hook, .ok (),
            events ++ [.registered hook.name hook.target hook.edits.length]⟩

/-- Registers the hooks of a list up to the first that is refused. -/
def registerAll : Catalogue → List Hook → Reply Catalogue (Except PatchError Unit)
  | catalogue, [] => ⟨catalogue, .ok (), []⟩
  | catalogue, hook :: rest =>
    let first := catalogue.register hook
    match first.value with
    | .error _ => first
    | .ok () =>
      let later := registerAll first.state rest
      { later with events := first.events ++ later.events }

/-- Closes the catalogue. Closing it again does nothing. -/
def close (catalogue : Catalogue) : Reply Catalogue Unit :=
  if catalogue.closed then ⟨catalogue, (), []⟩
  else ⟨{ catalogue with closed := true }, (), [.closed catalogue.size]⟩

end Catalogue

end MethodPatch
