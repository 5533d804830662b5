/-
This file patches classes as they are loaded.

Loading a class closes the catalogue, so all hooks are known before the first of them is applied.
The hooks of a class are applied when the class is loaded for the first time. A class that comes
back is left alone, and a class that no hook is for is never remembered.
-/

import MethodPatch.Catalogue
import MethodPatch.Dispatch
import MethodPatch.Report

namespace MethodPatch

/-- A catalogue together with the classes whose hooks have been applied. -/
structure Loader where
  catalogue : Catalogue
  transformed : List ClassName

/-- A class after its hooks had their turn, and what they did. -/
structure Transformed where
  report : Report
  file : ClassFile

namespace Loader

/-- A loader before the first class. -/
def start (catalogue : Catalogue) : Loader := ⟨catalogue, []⟩

/-- Whether the hooks of a class have been applied. -/
def isTransformed (loader : Loader) (className : ClassName) : Bool :=
  loader.transformed.contains className

/-- The verdicts on hooks that are not applied again. -/
def repeatVerdicts (settings : Settings) (hooks : List Hook) : List Verdict :=
  hooks.map fun hook =>
    { hook := hook.name, target := hook.target.reference settings.naming,
      outcome := .alreadyApplied }

/-- Patches a class once the catalogue is closed. -/
def patch (loader : Loader) (file : ClassFile) : Reply Loader Transformed :=
  let settings := loader.catalogue.settings
  let className := file.className
  match loader.catalogue.hooksFor className with
  | [] => ⟨loader, ⟨⟨className.text, []⟩, file⟩, []⟩
  | hooks =>
    if loader.isTransformed className then
      ⟨loader, ⟨⟨className.text, repeatVerdicts settings hooks⟩, file⟩,
        [.repeated className hooks.length]⟩
    else
      let pass := settings.dispatch className file.methods hooks
      ⟨{ loader with transformed := className :: loader.transformed },
        ⟨⟨className.text, pass.verdicts⟩, { file with methods := pass.methods }⟩,
        .transforming className hooks.length :: pass.events⟩

/-- Loads a class: closes the catalogue and patches the class. -/
def transform (loader : Loader) (file : ClassFile) : Reply Loader Transformed :=
  let closing := loader.catalogue.close
  let patching := ({ loader with catalogue := closing.state } : Loader).patch file
  { patching with events := closing.events ++ patching.events }

/-- Loads several classes one after another. -/
def transformAll : Loader → List ClassFile → Reply Loader (List Transformed)
  | loader, [] => ⟨loader, [], []⟩
  | loader, file :: rest =>
    let first := loader.transform file
    let later := transformAll first.state rest
    ⟨later.state, first.value :: later.value, first.events ++ later.events⟩

/-! ### Commands -/

/-- What a loader can be asked to do. -/
inductive Command where
  | register (hook : Hook)
  | registerAll (hooks : List Hook)
  | close
  | transform (file : ClassFile)

/-- What a loader can answer. -/
inductive Answer where
  | registered (result : Except PatchError Unit)
  | closed
  | transformed (result : Transformed)

/-- Carries out a command. -/
def perform (loader : Loader) : Command → Reply Loader Answer
  | .register hook =>
    let reply := loader.catalogue.register hook
    ⟨{ loader with catalogue := reply.state }, .registered reply.value, reply.events⟩
  | .registerAll hooks =>
    let reply := loader.catalogue.registerAll hooks
    ⟨{ loader with catalogue := reply.state }, .registered reply.value, reply.events⟩
  | .close =>
    let reply := loader.catalogue.close
    ⟨{ loader with catalogue := reply.state }, .closed, reply.events⟩
  | .transform file =>
    let reply := loader.transform file
    ⟨reply.state, .transformed reply.value, reply.events⟩

/-- The loader after some commands. -/
def after (loader : Loader) (commands : List Command) : Loader :=
  commands.foldl (fun loader command => (loader.perform command).state) loader

end Loader

end MethodPatch
