/-
This file proves that after any run a catalogue stands for the hooks the run got accepted.

Which hooks a run gets accepted is read off the answers to its commands, one command after the
other. Every command leaves a catalogue that holds the hooks accepted so far
(`Catalogue.Holds`), so the catalogue at the end holds all of them. The first command that closes
the catalogue is the last that can change it.
-/

import MethodPatch.Proofs.OncePerClass
import MethodPatch.Proofs.Registration

namespace MethodPatch

namespace Loader

variable {loader : Loader}

/-! ### Runs of commands -/

/-- The hooks that a command gets accepted. -/
def accepted (loader : Loader) : Command → List Hook
  | .register hook => loader.catalogue.accepted [hook]
  | .registerAll hooks => loader.catalogue.accepted hooks
  | .close => []
  | .transform _ => []

/-- The hooks that the commands of a run get accepted, in order. -/
def registered : Loader → List Command → List Hook
  | _, [] => []
  | loader, command :: rest =>
    loader.accepted command ++ registered (loader.perform command).state rest

/-- Whether no further hooks are taken once the command has been carried out. -/
def Command.isClosing : Command → Bool
  | .register _ => false
  | .registerAll _ => false
  | .close => true
  | .transform _ => true

theorem holds_perform {hooks : List Hook} (holds : loader.catalogue.Holds hooks)
    (command : Command) :
    (loader.perform command).state.catalogue.Holds (hooks ++ loader.accepted command) := by
  cases command with
  | register hook => exact holds.register hook
  | registerAll list => exact holds.registerAll list
  | close =>
    rw [accepted, List.append_nil]
    exact holds.close
  | transform file =>
    have same : (loader.perform (.transform file)).state.catalogue = loader.catalogue.close.state :=
      catalogue_transform loader file
    rw [accepted, List.append_nil, same]
    exact holds.close

/-- A run adds the hooks it gets accepted. -/
theorem holds_after (loader : Loader) {hooks : List Hook} (holds : loader.catalogue.Holds hooks)
    (commands : List Command) :
    (loader.after commands).catalogue.Holds (hooks ++ loader.registered commands) := by
  induction commands generalizing loader hooks with
  | nil => rwa [registered, List.append_nil]
  | cons command rest inductionHypothesis =>
    rw [registered, ← List.append_assoc]
    exact inductionHypothesis _ (holds_perform holds command)

/-! ### Once the catalogue is closed -/

theorem registered_append (loader : Loader) (first second : List Command) :
    loader.registered (first ++ second) =
      loader.registered first ++ (loader.after first).registered second := by
  induction first generalizing loader with
  | nil => rfl
  | cons command rest inductionHypothesis =>
    rw [List.cons_append, registered, inductionHypothesis, registered, List.append_assoc]
    rfl

theorem registered_of_closed (closed : loader.catalogue.closed = true) (commands : List Command) :
    loader.registered commands = [] := by
  induction commands generalizing loader with
  | nil => rfl
  | cons command rest inductionHypothesis =>
    have none : loader.accepted command = [] := by
      cases command with
      | register hook => exact Catalogue.accepted_of_closed closed [hook]
      | registerAll hooks => exact Catalogue.accepted_of_closed closed hooks
      | close | transform => rfl
    have same := catalogue_perform_of_closed closed command
    rw [registered, none, List.nil_append]
    exact inductionHypothesis (by rw [same, closed])

theorem catalogue_perform_of_isClosing (loader : Loader) {command : Command}
    (closing : command.isClosing = true) :
    (loader.perform command).state.catalogue = loader.catalogue.close.state := by
  cases command with
  | register | registerAll => cases closing
  | close => rfl
  | transform file => exact catalogue_transform loader file

/-- What follows a closing command gets nothing accepted and does not change the catalogue. -/
theorem after_closing (loader : Loader) (prior : List Command) {closing : Command}
    (closes : closing.isClosing = true) (later : List Command) :
    (loader.after (prior ++ closing :: later)).catalogue =
        (loader.after prior).catalogue.close.state ∧
      loader.registered (prior ++ closing :: later) = loader.registered prior := by
  have catalogue := catalogue_perform_of_isClosing (loader.after prior) closes
  have closed : ((loader.after prior).perform closing).state.catalogue.closed = true := by
    rw [catalogue, Catalogue.closed_close]
  have none : (loader.after prior).accepted closing = [] := by
    cases closing with
    | register | registerAll => cases closes
    | close | transform => rfl
  constructor
  · rw [after_append, ← catalogue]
    exact catalogue_after_of_closed closed later
  · rw [registered_append, registered, none, registered_of_closed closed, List.append_nil,
      List.append_nil]

/-- Over any run of commands on an empty catalogue, the hooks accepted so far settle what the
catalogue answers: their number, the hooks of each class in the order of a stable sort by
descending priority, the classes they are for, and all of them. Their names are different. Once a
command has closed the catalogue none of this changes. -/
theorem catalogue_represents_registered (settings : Settings) (declarations : Option Declarations)
    (commands : List Command) :
    let start := Loader.start (.empty settings declarations)
    let catalogue := (start.after commands).catalogue
    let registered := start.registered commands
    (catalogue.size = registered.length ∧ (registered.map Hook.name).Nodup ∧
      (∀ written : String,
        catalogue.hooksFor (.of written) = applicationOrder (ofClass (.of written) registered)) ∧
      (catalogue.targetClasses.Nodup ∧ ∀ className, className ∈ catalogue.targetClasses ↔
        ∃ hook ∈ registered, hook.targetClass = className) ∧
      catalogue.hooks.Perm registered) ∧
    ∀ prior closing later, commands = prior ++ closing :: later → closing.isClosing = true →
      let before := (start.after prior).catalogue
      registered = start.registered prior ∧ catalogue.size = before.size ∧
        (∀ className, catalogue.hooksFor className = before.hooksFor className) ∧
        catalogue.targetClasses = before.targetClasses ∧ catalogue.hooks = before.hooks := by
  intro start catalogue registered
  have holds : catalogue.Holds ([] ++ registered) :=
    holds_after start (.empty settings declarations) commands
  rw [List.nil_append] at holds
  refine ⟨⟨holds.size, holds.distinct, fun written => holds.hooksFor _,
    ⟨holds.shelved, holds.classes⟩, holds.hooks_perm⟩, ?_⟩
  rintro prior closing later split closes before
  obtain ⟨closed, same⟩ := start.after_closing prior closes later
  rw [← split] at closed same
  have unchanged : catalogue = before.close.state := closed
  refine ⟨same, ?_, fun className => ?_, ?_, ?_⟩
  · rw [unchanged, Catalogue.size_close]
  · rw [unchanged, Catalogue.hooksFor_close]
  · rw [unchanged, Catalogue.targetClasses_close]
  · rw [unchanged, Catalogue.hooks_close]

/-- Four of eight hooks are accepted: a list ends at a hook for a field, a name comes twice, and one
hook comes after the catalogue was closed. -/
theorem catalogue_represents_registered_four_of_eight :
    let hook (name className : String) (priority : Priority) : Hook := {
      name, priority, target := .unmapped (.of className) "run" "()V"
      edits := [.insert [⟨0x00, .none⟩]] }
    let field : MappedMember := .of .field (.of "a.B") "count" "count" "I"
    let prior : List Command := [
      .register (hook "first" "a.B" .normal),
      .registerAll [hook "low" "a/B" .low, { hook "field" "a/B" .normal with target := field },
        hook "never" "a/B" .normal],
      .register (hook "other" "c/D" .normal), .register (hook "low" "a/B" .high),
      .register (hook "second" "a.B" .normal)]
    let later : List Command := [.register (hook "late" "a/B" .normal), .close]
    let commands := prior ++ .transform ⟨"x.Y", [], []⟩ :: later
    let start := Loader.start (.empty .development none)
    let catalogue := (start.after commands).catalogue
    (Command.transform ⟨"x.Y", [], []⟩).isClosing = true ∧
      (start.registered commands).map Hook.name = ["first", "low", "other", "second"] ∧
      (catalogue.hooksFor (.of "a.B")).map Hook.name = ["first", "second", "low"] ∧
      catalogue.size = 4 ∧ catalogue.hooks.Perm (start.registered commands) ∧
      catalogue.hooks = (start.after prior).catalogue.hooks := by
  intro hook field prior later commands start catalogue
  obtain ⟨⟨size, _, _, _, all⟩, fixed⟩ :=
    catalogue_represents_registered .development none commands
  obtain ⟨_, _, _, _, hooks⟩ := fixed prior _ later rfl rfl
  have names : (start.registered commands).map Hook.name = ["first", "low", "other", "second"] := by
    decide +kernel
  refine ⟨rfl, names, by decide +kernel, ?_, all, hooks⟩
  calc catalogue.size
    _ = (start.registered commands).length := size
    _ = ((start.registered commands).map Hook.name).length := (List.length_map _).symm
    _ = 4 := by rw [names]; rfl

end Loader

end MethodPatch
