/-
This file proves that the hooks of a class are applied once, however often the class is loaded.

Three parts of a loader have to agree for that: the hooks it knows, whether it still takes hooks,
and the classes it remembers. `Loader.Recalls` ties them to the commands carried out so far. It
rests on the order of two things in a load: the catalogue is closed before the hooks of the class
are looked up. A class that is remembered therefore keeps the hooks it had, and a class that had
none when it was loaded never gets any.
-/

import MethodPatch.Proofs.Closing

namespace MethodPatch

namespace Loader

variable {loader : Loader} {file : ClassFile}

/-! ### Loading one class -/

theorem transform_of_unhooked (unhooked : loader.catalogue.hooksFor file.className = []) :
    (loader.transform file).state = ⟨loader.catalogue.close.state, loader.transformed⟩ ∧
      (loader.transform file).value = ⟨⟨file.className.text, []⟩, file⟩ := by
  simp [transform, patch, unhooked]

/-- A class that is remembered is returned as it is, and no hook is applied again. -/
theorem transform_of_transformed (hooked : loader.catalogue.hooksFor file.className ≠ [])
    (again : file.className ∈ loader.transformed) :
    (loader.transform file).state = ⟨loader.catalogue.close.state, loader.transformed⟩ ∧
      (loader.transform file).value =
        ⟨⟨file.className.text, repeatVerdicts loader.catalogue.settings
          (loader.catalogue.hooksFor file.className)⟩, file⟩ := by
  obtain ⟨hook, rest, hooks⟩ := List.exists_cons_of_ne_nil hooked
  simp [transform, patch, hooks, isTransformed, again]

/-- The hooks of a class that is not remembered are applied, and the class is remembered. -/
theorem transform_of_fresh (hooked : loader.catalogue.hooksFor file.className ≠ [])
    (fresh : file.className ∉ loader.transformed) :
    let pass := loader.catalogue.settings.dispatch file.className file.methods
      (loader.catalogue.hooksFor file.className)
    (loader.transform file).state =
        ⟨loader.catalogue.close.state, file.className :: loader.transformed⟩ ∧
      (loader.transform file).value =
        ⟨⟨file.className.text, pass.verdicts⟩, { file with methods := pass.methods }⟩ := by
  obtain ⟨hook, rest, hooks⟩ := List.exists_cons_of_ne_nil hooked
  simp [transform, patch, hooks, isTransformed, fresh]

/-- What comes of a remembered class, with or without hooks. -/
theorem value_transform_of_transformed (again : file.className ∈ loader.transformed) :
    (loader.transform file).value = ⟨⟨file.className.text,
      repeatVerdicts loader.catalogue.settings (loader.catalogue.hooksFor file.className)⟩,
        file⟩ := by
  by_cases hooked : loader.catalogue.hooksFor file.className = []
  · rw [(transform_of_unhooked hooked).2, hooked]
    rfl
  · exact (transform_of_transformed hooked again).2

/-- What comes of a class that is not remembered, with or without hooks: a pass over no hooks has no
verdicts and leaves the methods as they are. -/
theorem value_transform_of_fresh (fresh : file.className ∉ loader.transformed) :
    let pass := loader.catalogue.settings.dispatch file.className file.methods
      (loader.catalogue.hooksFor file.className)
    (loader.transform file).value =
      ⟨⟨file.className.text, pass.verdicts⟩, { file with methods := pass.methods }⟩ := by
  by_cases hooked : loader.catalogue.hooksFor file.className = []
  · rw [(transform_of_unhooked hooked).2, hooked]
    rfl
  · exact (transform_of_fresh hooked fresh).2

theorem catalogue_transform (loader : Loader) (file : ClassFile) :
    (loader.transform file).state.catalogue = loader.catalogue.close.state := by
  by_cases hooked : loader.catalogue.hooksFor file.className = []
  · rw [(transform_of_unhooked hooked).1]
  · by_cases again : file.className ∈ loader.transformed
    · rw [(transform_of_transformed hooked again).1]
    · rw [(transform_of_fresh hooked again).1]

/-- The classes remembered after a load are those before it, and the class that was loaded if it
has hooks. -/
theorem mem_transformed_transform (loader : Loader) (file : ClassFile) (className : ClassName) :
    className ∈ (loader.transform file).state.transformed ↔
      className ∈ loader.transformed ∨
        loader.catalogue.hooksFor className ≠ [] ∧ file.className = className := by
  by_cases hooked : loader.catalogue.hooksFor file.className = []
  · rw [(transform_of_unhooked hooked).1]
    constructor
    · exact Or.inl
    · rintro (member | ⟨present, rfl⟩)
      · exact member
      · exact absurd hooked present
  · by_cases again : file.className ∈ loader.transformed
    · rw [(transform_of_transformed hooked again).1]
      constructor
      · exact Or.inl
      · rintro (member | ⟨_, rfl⟩)
        · exact member
        · exact again
    · rw [(transform_of_fresh hooked again).1, List.mem_cons]
      constructor
      · rintro (rfl | member)
        · exact Or.inr ⟨hooked, rfl⟩
        · exact Or.inl member
      · rintro (member | ⟨_, rfl⟩)
        · exact Or.inr member
        · exact Or.inl rfl

/-! ### Carrying out commands -/

theorem after_append (loader : Loader) (first second : List Command) :
    loader.after (first ++ second) = (loader.after first).after second :=
  List.foldl_append

theorem catalogue_perform_of_closed (closed : loader.catalogue.closed = true) (command : Command) :
    (loader.perform command).state.catalogue = loader.catalogue := by
  cases command with
  | register hook => exact Catalogue.register_of_closed closed hook
  | registerAll hooks => exact Catalogue.registerAll_of_closed closed hooks
  | close => exact Catalogue.close_of_closed closed
  | transform file =>
    exact (catalogue_transform loader file).trans (Catalogue.close_of_closed closed)

theorem catalogue_after_of_closed (closed : loader.catalogue.closed = true)
    (commands : List Command) : (loader.after commands).catalogue = loader.catalogue := by
  induction commands generalizing loader with
  | nil => rfl
  | cons command rest inductionHypothesis =>
    have same := catalogue_perform_of_closed closed command
    have closedNext : (loader.perform command).state.catalogue.closed = true := by rw [same, closed]
    exact (inductionHypothesis closedNext).trans same

/-- Once a class is loaded the hooks of all classes stay as they are. -/
theorem hooksFor_after_transform (loader : Loader) (file : ClassFile) (commands : List Command)
    (className : ClassName) :
    (loader.after (.transform file :: commands)).catalogue.hooksFor className =
      loader.catalogue.hooksFor className := by
  have closing : (loader.perform (.transform file)).state.catalogue =
      loader.catalogue.close.state := catalogue_transform loader file
  have closed : (loader.perform (.transform file)).state.catalogue.closed = true := by
    rw [closing, Catalogue.closed_close]
  have same : (loader.after (.transform file :: commands)).catalogue =
      (loader.perform (.transform file)).state.catalogue :=
    catalogue_after_of_closed closed commands
  rw [same, closing, Catalogue.hooksFor_close]

/-! ### What a loader recalls -/

/-- How a loader stands to the commands it has carried out: it is closed once a class was loaded,
and it remembers the classes with hooks among those that were loaded. -/
structure Recalls (loader : Loader) (history : List Command) : Prop where
  closed : ∀ file, Command.transform file ∈ history → loader.catalogue.closed = true
  transformed : ∀ className, className ∈ loader.transformed ↔
    loader.catalogue.hooksFor className ≠ [] ∧
      ∃ file, Command.transform file ∈ history ∧ file.className = className

namespace Recalls

variable {history : List Command}

theorem start (catalogue : Catalogue) : Recalls (start catalogue) [] :=
  ⟨fun _ member => absurd member List.not_mem_nil, fun _ => by simp [Loader.start]⟩

theorem perform_transform (recalls : Recalls loader history) (file : ClassFile) :
    Recalls (loader.perform (.transform file)).state (history ++ [.transform file]) := by
  have catalogue : (loader.perform (.transform file)).state.catalogue =
      loader.catalogue.close.state := catalogue_transform loader file
  refine ⟨fun _ _ => by rw [catalogue, Catalogue.closed_close], fun className => ?_⟩
  have remembered : className ∈ (loader.perform (.transform file)).state.transformed ↔ _ :=
    mem_transformed_transform loader file className
  rw [remembered, recalls.transformed, catalogue, Catalogue.hooksFor_close, ← and_or_left]
  refine and_congr_right fun _ => ?_
  simp only [List.mem_append, List.mem_singleton, Command.transform.injEq]
  constructor
  · rintro (⟨seen, member, same⟩ | same)
    · exact ⟨seen, Or.inl member, same⟩
    · exact ⟨file, Or.inr rfl, same⟩
  · rintro ⟨seen, member | rfl, same⟩
    · exact Or.inl ⟨seen, member, same⟩
    · exact Or.inr same

/-- Any other command leaves what is recalled: before the first load nothing is remembered, and
after it the hooks do not change. -/
theorem perform_of_ne (recalls : Recalls loader history) (command : Command)
    (other : ∀ file, command ≠ .transform file)
    (kept : (loader.perform command).state.transformed = loader.transformed) :
    Recalls (loader.perform command).state (history ++ [command]) := by
  have loads (file : ClassFile) :
      Command.transform file ∈ history ++ [command] ↔ .transform file ∈ history := by
    rw [List.mem_append, List.mem_singleton]
    exact or_iff_left fun same => other file same.symm
  -- Only an open catalogue can change its hooks, and then nothing has been loaded yet.
  by_cases closed : loader.catalogue.closed = true
  · have same := catalogue_perform_of_closed closed command
    refine ⟨fun _ _ => by rw [same, closed], fun className => ?_⟩
    rw [kept, recalls.transformed, same]
    simp only [loads]
  · have unloaded (file : ClassFile) : Command.transform file ∉ history :=
      fun member => closed (recalls.closed file member)
    refine ⟨fun file member => absurd ((loads file).mp member) (unloaded file), fun className => ?_⟩
    rw [kept, recalls.transformed]
    simp only [loads, unloaded, false_and, exists_false, and_false]

theorem perform (recalls : Recalls loader history) (command : Command) :
    Recalls (loader.perform command).state (history ++ [command]) := by
  cases command with
  | register hook => exact recalls.perform_of_ne _ (fun _ impossible => nomatch impossible) rfl
  | registerAll hooks => exact recalls.perform_of_ne _ (fun _ impossible => nomatch impossible) rfl
  | close => exact recalls.perform_of_ne _ (fun _ impossible => nomatch impossible) rfl
  | transform file => exact recalls.perform_transform file

/-- Whatever commands follow, a loader goes on to recall all of them. -/
theorem after (recalls : Recalls loader history) (commands : List Command) :
    Recalls (loader.after commands) (history ++ commands) := by
  induction commands generalizing loader history with
  | nil => rwa [List.append_nil]
  | cons command rest inductionHypothesis =>
    have next := inductionHypothesis (recalls.perform command)
    rwa [List.append_assoc, List.singleton_append] at next

end Recalls

/-! ### Once for each class -/

theorem className_eq_iff (first second : String) :
    ClassName.of first = ClassName.of second ↔ internalForm first = internalForm second := by
  simp [ClassName.of]

/-- A class is remembered when one of its name had hooks and was loaded, and it does not matter
whether its hooks are looked up at that time or now. -/
theorem mem_transformed_after_start (catalogue : Catalogue) (earlier : List Command)
    (className : ClassName) :
    className ∈ ((Loader.start catalogue).after earlier).transformed ↔
      ∃ prior seen later, earlier = prior ++ .transform seen :: later ∧
        seen.className = className ∧
          ((Loader.start catalogue).after prior).catalogue.hooksFor className ≠ [] := by
  have recalls : Recalls ((Loader.start catalogue).after earlier) earlier :=
    (Recalls.start catalogue).after earlier
  rw [recalls.transformed]
  constructor
  · rintro ⟨hooked, seen, member, same⟩
    obtain ⟨prior, later, rfl⟩ := List.append_of_mem member
    refine ⟨prior, seen, later, rfl, same, ?_⟩
    rwa [after_append, hooksFor_after_transform] at hooked
  · rintro ⟨prior, seen, later, rfl, same, hooked⟩
    refine ⟨?_, seen, List.mem_append_right _ List.mem_cons_self, same⟩
    rwa [after_append, hooksFor_after_transform]

/-- Over any run of commands the hooks of a class are applied by the first load of a class of its
name, in either way of writing it, and by no other. Later loads return the class as it is with
every hook reported as applied already. A class without hooks is returned as it is with nothing
reported, and what is remembered is exactly the classes with hooks that were loaded. -/
theorem transform_once_per_class (catalogue : Catalogue) (earlier : List Command) :
    let loader := (Loader.start catalogue).after earlier
    (∀ file : ClassFile,
      let hooks := loader.catalogue.hooksFor file.className
      let settings := loader.catalogue.settings
      let pass := settings.dispatch file.className file.methods hooks
      let result := (loader.transform file).value
      let loadedBefore := ∃ seen, Command.transform seen ∈ earlier ∧
        internalForm seen.name = internalForm file.name
      (hooks = [] → result = ⟨⟨internalForm file.name, []⟩, file⟩ ∧
        (loader.transform file).state.isTransformed file.className = false) ∧
      (hooks ≠ [] → ¬ loadedBefore →
        result = ⟨⟨internalForm file.name, pass.verdicts⟩, { file with methods := pass.methods }⟩) ∧
      (hooks ≠ [] → loadedBefore →
        result.file = file ∧ result.report = ⟨internalForm file.name, hooks.map fun hook =>
          ⟨hook.name, hook.target.reference settings.naming, .alreadyApplied, false⟩⟩)) ∧
    ∀ written : String, loader.isTransformed (.of written) = true ↔
      ∃ prior seen later, earlier = prior ++ .transform seen :: later ∧
        internalForm seen.name = internalForm written ∧
          ((Loader.start catalogue).after prior).catalogue.hooksFor (.of written) ≠ [] := by
  intro loader
  have recalls : Recalls loader earlier := (Recalls.start catalogue).after earlier
  refine ⟨fun file => ?_, fun written => ?_⟩
  · intro hooks settings pass result loadedBefore
    have loaded : loadedBefore ↔ ∃ seen, Command.transform seen ∈ earlier ∧
        seen.className = file.className :=
      exists_congr fun seen => and_congr_right fun _ => (className_eq_iff _ _).symm
    refine ⟨fun unhooked => ?_, fun hooked first => ?_, fun hooked again => ?_⟩
    · refine ⟨(transform_of_unhooked unhooked).2, ?_⟩
      have forgotten : file.className ∉ loader.transformed :=
        fun member => ((recalls.transformed _).mp member).1 unhooked
      rw [isTransformed, (transform_of_unhooked unhooked).1]
      simpa using forgotten
    · have fresh : file.className ∉ loader.transformed :=
        fun member => first (loaded.mpr ((recalls.transformed _).mp member).2)
      exact (transform_of_fresh hooked fresh).2
    · have member : file.className ∈ loader.transformed :=
        (recalls.transformed _).mpr ⟨hooked, loaded.mp again⟩
      have same := (transform_of_transformed hooked member).2
      exact ⟨congrArg Transformed.file same, congrArg Transformed.report same⟩
  · rw [isTransformed, List.contains_iff_mem, mem_transformed_after_start]
    simp only [ClassFile.className, className_eq_iff]

/-- One hook, and a class that is loaded under its written name and then under its internal one.
In between a second hook comes too late. -/
theorem transform_once_per_class_both_forms :
    let hook : Hook := {
      name := "trace", target := .unmapped (.of "a.B") "run" "()V"
      edits := [.insert [⟨0x00, .none⟩]] }
    let file (name : String) : ClassFile := ⟨name, [], [⟨"run", "()V", ⟨1⟩, [⟨0xb1, .none⟩]⟩]⟩
    let earlier : List Command :=
      [.register hook, .transform (file "a.B"), .register { hook with name := "late" }]
    let loader := (start (.empty .development none)).after earlier
    loader.catalogue.hooksFor (.of "a/B") = [hook] ∧
      (loader.transform (file "a/B")).value.file = file "a/B" ∧
      (loader.transform (file "a/B")).value.report.verdicts.map Verdict.outcome =
        [.alreadyApplied] ∧
      loader.isTransformed (.of "a.B") = true := by
  intro hook file earlier loader
  subst loader
  have hooks : ((start (.empty .development none)).after earlier).catalogue.hooksFor (.of "a/B") =
      [hook] := by decide +kernel
  have loadedBefore : ∃ seen, Command.transform seen ∈ earlier ∧
      internalForm seen.name = internalForm (file "a/B").name :=
    ⟨file "a.B", List.mem_cons_of_mem _ List.mem_cons_self, by decide +kernel⟩
  obtain ⟨loads, remembered⟩ := transform_once_per_class (.empty .development none) earlier
  obtain ⟨same, report⟩ := (loads (file "a/B")).2.2 (by rw [ClassFile.className, hooks]; simp)
    loadedBefore
  refine ⟨hooks, same, ?_, ?_⟩
  · rw [report, ClassFile.className, hooks]
    rfl
  · refine (remembered "a.B").mpr ⟨[.register hook], file "a.B", _, rfl, rfl, ?_⟩
    decide +kernel

end Loader

end MethodPatch
