/-
This file proves that classes of different names can be loaded in any order.

A load reads of a loader its settings, the hooks of the class and whether the class is remembered.
The load of another class leaves all three: it closes the catalogue, which keeps the hooks of every
class, and it remembers no class but its own. So each class of a batch comes to what it would come
to alone, and nothing depends on its place in the batch. Which classes are remembered afterwards
does not either, since that is a question of the hooks alone.
-/

import MethodPatch.Proofs.OncePerClass
import Mathlib.Data.List.Perm.Basic

namespace MethodPatch.Loader

variable {loader other : Loader} {first file : ClassFile}

/-! ### What a load reads -/

/-- Two loaders make the same of a class when they agree on the settings, on the hooks of the class
and on whether the class is remembered. -/
theorem value_transform_congr (settings : other.catalogue.settings = loader.catalogue.settings)
    (hooks : other.catalogue.hooksFor file.className = loader.catalogue.hooksFor file.className)
    (remembered : file.className ∈ other.transformed ↔ file.className ∈ loader.transformed) :
    (other.transform file).value = (loader.transform file).value := by
  by_cases again : file.className ∈ loader.transformed
  · rw [value_transform_of_transformed again,
      value_transform_of_transformed (remembered.mpr again), settings, hooks]
  · rw [value_transform_of_fresh again,
      value_transform_of_fresh (mt remembered.mp again), settings, hooks]

/-- Behind a class of another name a class comes to what it comes to alone. -/
theorem value_transform_behind (different : first.className ≠ file.className) :
    ((loader.transform first).state.transform file).value = (loader.transform file).value := by
  have catalogue := catalogue_transform loader first
  refine value_transform_congr ?_ ?_ ?_
  · rw [catalogue, Catalogue.settings_close]
  · rw [catalogue, Catalogue.hooksFor_close]
  · rw [mem_transformed_transform]
    exact or_iff_left fun loaded => different loaded.2

/-! ### A batch of classes -/

/-- Each class of a batch comes to what it comes to alone. -/
theorem value_transformAll (loader : Loader) (files : List ClassFile)
    (distinct : (files.map ClassFile.className).Nodup) :
    (loader.transformAll files).value = files.map fun file => (loader.transform file).value := by
  induction files generalizing loader with
  | nil => rfl
  | cons first rest inductionHypothesis =>
    obtain ⟨fresh, distinctRest⟩ := List.nodup_cons.mp distinct
    have alone : ∀ file ∈ rest, ((loader.transform first).state.transform file).value =
        (loader.transform file).value := fun file member =>
      value_transform_behind fun same => fresh (same ▸ List.mem_map_of_mem member)
    rw [transformAll, List.map_cons, inductionHypothesis _ distinctRest]
    exact congrArg (_ :: ·) (List.map_congr_left alone)

theorem catalogue_transformAll_cons (loader : Loader) (first : ClassFile) (rest : List ClassFile) :
    (loader.transformAll (first :: rest)).state.catalogue = loader.catalogue.close.state := by
  induction rest generalizing loader first with
  | nil => exact catalogue_transform loader first
  | cons second rest inductionHypothesis =>
    have later : (loader.transformAll (first :: second :: rest)).state.catalogue =
        (loader.transform first).state.catalogue.close.state :=
      inductionHypothesis (loader.transform first).state second
    rw [later, catalogue_transform, Catalogue.close_of_closed (Catalogue.closed_close _)]

/-- The classes remembered after a batch are those before it, and those of the batch that have
hooks. -/
theorem mem_transformed_transformAll (loader : Loader) (files : List ClassFile)
    (className : ClassName) :
    className ∈ (loader.transformAll files).state.transformed ↔
      className ∈ loader.transformed ∨
        loader.catalogue.hooksFor className ≠ [] ∧ className ∈ files.map ClassFile.className := by
  induction files generalizing loader with
  | nil => simp [transformAll]
  | cons first rest inductionHypothesis =>
    have later := inductionHypothesis (loader.transform first).state
    rw [mem_transformed_transform, catalogue_transform, Catalogue.hooksFor_close] at later
    rw [transformAll, later, or_assoc, ← and_or_left, List.map_cons, List.mem_cons, eq_comm]

/-! ### Any order -/

/-- Classes of different names come to the same in any order of loading them. Each of them gets the
report and the contents that it would get alone, and the loader ends up with the same catalogue and
the same classes remembered. -/
theorem transformAll_of_perm (loader : Loader) (files others : List ClassFile)
    (distinct : (files.map ClassFile.className).Nodup) (perm : files.Perm others) :
    let batch := loader.transformAll files
    let otherBatch := loader.transformAll others
    batch.value = files.map (fun file => (loader.transform file).value) ∧
      otherBatch.value = others.map (fun file => (loader.transform file).value) ∧
      (others.zip otherBatch.value).Perm (files.zip batch.value) ∧
      otherBatch.state.catalogue = batch.state.catalogue ∧
      ∀ className, otherBatch.state.isTransformed className =
        batch.state.isTransformed className := by
  intro batch otherBatch
  have names : (files.map ClassFile.className).Perm (others.map ClassFile.className) :=
    perm.map ClassFile.className
  have results := loader.value_transformAll files distinct
  have otherResults := loader.value_transformAll others (names.nodup_iff.mp distinct)
  refine ⟨results, otherResults, ?_, ?_, fun className => ?_⟩
  · rw [results, otherResults, ← List.map_prod_left_eq_zip, ← List.map_prod_left_eq_zip]
    exact (perm.map _).symm
  · cases files with
    | nil =>
      obtain rfl := perm.nil_eq
      rfl
    | cons first rest =>
      cases others with
      | nil => exact absurd perm.eq_nil (List.cons_ne_nil _ _)
      | cons otherFirst otherRest =>
        exact (loader.catalogue_transformAll_cons otherFirst otherRest).trans
          (loader.catalogue_transformAll_cons first rest).symm
  · rw [Bool.eq_iff_iff, isTransformed, isTransformed, List.contains_iff_mem,
      List.contains_iff_mem, mem_transformed_transformAll, mem_transformed_transformAll,
      names.mem_iff]

/-- Four classes in two orders: one with a hook that is applied, one with a hook that fails after it
has changed the class, one that was loaded before under its other name, and one without hooks. -/
theorem transformAll_of_perm_four_classes :
    let hook (name className : String) (edits : List Edit) : Hook := {
      name, edits, target := .unmapped (.of className) "run" "()V" }
    let file (name : String) : ClassFile := ⟨name, [], [⟨"run", "()V", ⟨1⟩, [⟨0xb1, .none⟩]⟩]⟩
    let mark : Edit := .insert [⟨0x00, .none⟩]
    let loader := (start (.empty .production none)).after [
      .register (hook "count" "a/B" [mark]),
      .register (hook "stale" "c.D" [mark, .seekTo (.single ⟨0xbf, .none⟩)]),
      .register (hook "once" "e/F" [mark]), .transform (file "e.F")]
    let files := [file "a.B", file "c/D", file "e/F", file "x.Y"]
    let others := [file "x.Y", file "e/F", file "c/D", file "a.B"]
    let batch := loader.transformAll files
    let otherBatch := loader.transformAll others
    (files.map ClassFile.className).Nodup ∧ files.Perm others ∧
      batch.value.map (fun result => result.report.verdicts.map Verdict.outcome) =
        [[.applied 1], [.patternNotFound 1 "[athrow]" 1], [.alreadyApplied], []] ∧
      (others.zip otherBatch.value).Perm (files.zip batch.value) ∧
      ∀ className, otherBatch.state.isTransformed className =
        batch.state.isTransformed className := by
  intro hook file mark loader files others batch otherBatch
  have distinct : (files.map ClassFile.className).Nodup := by decide +kernel
  have perm : files.Perm others := by decide +kernel
  obtain ⟨_, _, results, _, remembered⟩ := transformAll_of_perm loader files others distinct perm
  exact ⟨distinct, perm, by decide +kernel, results, remembered⟩

end MethodPatch.Loader
