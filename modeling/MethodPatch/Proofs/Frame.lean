/-
This file says what patching leaves as it was.

A hook gives a new body to the first method that its target names, if that method has a body of its
own, and touches nothing else. `Settings.Frame` says so of a table before and after some hooks:
apart from their bodies the methods are the same one by one, and where a body is not the same, some
hook for the class has its target there. The place of a target is looked up in the table before all
hooks. The hooks do not move it, since it goes by names and descriptors, and those stay.
-/

import MethodPatch.Proofs.Independence
import MethodPatch.Proofs.OncePerClass

namespace MethodPatch

/-! ### Methods apart from their bodies -/

/-- A method without the instructions of its body. -/
def Method.outline (method : Method) : Method := { method with body := [] }

theorem AccessFlags.hasAny_or (flags : AccessFlags) (first second : UInt16) :
    flags.hasAny (first ||| second) = (flags.hasAny first || flags.hasAny second) := by
  have split : flags.bits &&& (first ||| second) = flags.bits &&& first ||| flags.bits &&& second :=
    UInt16.toBitVec_inj.mp BitVec.and_or_distrib_left
  rw [Bool.eq_iff_iff]
  simp only [hasAny, split, bne_iff_ne, ne_eq, UInt16.or_eq_zero_iff, Bool.or_eq_true]
  exact Decidable.not_and_iff_not_or_not

/-- A method has a body of its own when it is neither abstract nor native. -/
theorem Method.hasBody_iff (method : Method) :
    method.hasBody = true ↔ method.access.hasAny AccessFlags.abstract = false ∧
      method.access.hasAny AccessFlags.native = false := by
  rw [hasBody, AccessFlags.hasAny_or, Bool.not_eq_true', Bool.or_eq_false_iff]

theorem Method.hasBody_eq_false_iff (method : Method) :
    method.hasBody = false ↔ method.access.hasAny AccessFlags.abstract = true ∨
      method.access.hasAny AccessFlags.native = true := by
  rw [hasBody, AccessFlags.hasAny_or, Bool.not_eq_false', Bool.or_eq_true]

namespace MethodTable

variable {name descriptor : String} {change : Method → Method}

/-- A change is made at the place where the first method of the name and descriptor stands. -/
theorem getElem?_update (methods : MethodTable) (place : Nat) :
    (methods.update name descriptor change)[place]? =
      if methods.position? name descriptor = some place then methods[place]?.map change
      else methods[place]? := by
  unfold position?
  induction methods generalizing place with
  | nil => simp [update]
  | cons method rest inductionHypothesis =>
    rw [update, List.findIdx?_cons]
    cases called : method.isCalled name descriptor with
    | true => cases place <;> simp
    | false =>
      cases place with
      | zero => simp
      | succ place => simpa using inductionHypothesis place

theorem map_outline_update (methods : MethodTable)
    (keeps : ∀ method, (change method).outline = method.outline) :
    (methods.update name descriptor change).map Method.outline = methods.map Method.outline := by
  induction methods with
  | nil => rfl
  | cons method rest inductionHypothesis =>
    rw [update]
    split
    · rw [List.map_cons, keeps, List.map_cons]
    · rw [List.map_cons, inductionHypothesis, List.map_cons]

/-- Where a method stands does not hang on the bodies. -/
theorem position?_map_outline (methods : MethodTable) :
    position? (methods.map Method.outline) name descriptor =
      methods.position? name descriptor :=
  List.findIdx?_map

/-- Whether a method of the same name and descriptor stands before the one at a place. -/
def Shadowed (methods : MethodTable) (place : Nat) : Prop :=
  ∃ earlier < place, ∃ method other, methods[earlier]? = some method ∧ methods[place]? = some other ∧
    method.isCalled other.name other.descriptor = true

/-- No name and descriptor lead to a method that is shadowed. -/
theorem position?_ne_of_shadowed {methods : MethodTable} {place : Nat}
    (shadowed : methods.Shadowed place) : methods.position? name descriptor ≠ some place := by
  obtain ⟨earlier, before, method, other, there, here, same⟩ := shadowed
  intro found
  obtain ⟨inside, called, otherwise⟩ := List.findIdx?_eq_some_iff_getElem.mp found
  refine otherwise earlier before ?_
  rw [List.getElem?_eq_getElem (Nat.lt_trans before inside), Option.some_inj] at there
  rw [List.getElem?_eq_getElem inside, Option.some_inj] at here
  rw [here] at called
  rw [there]
  simp only [Method.isCalled, Bool.and_eq_true, beq_iff_eq] at same called ⊢
  exact ⟨same.1.trans called.1, same.2.trans called.2⟩

end MethodTable

/-! ### What hooks leave as it was -/

variable {settings : Settings} {className : ClassName}

/-- What some hooks may do to the methods of a class: the methods stay the same apart from their
bodies, and a body stays the same unless its method is neither abstract nor native and is the first
that the target of a hook for the class names. -/
structure Settings.Frame (settings : Settings) (className : ClassName) (hooks : List Hook)
    (before after : MethodTable) : Prop where
  outlines : after.map Method.outline = before.map Method.outline
  kept : ∀ (place : Nat) (method : Method), before[place]? = some method →
    after[place]? = some method ∨
      method.access.hasAny AccessFlags.abstract = false ∧
        method.access.hasAny AccessFlags.native = false ∧
        ∃ hook ∈ hooks, hook.targetClass = className ∧
          before.position? (hook.target.nameIn settings.naming) hook.target.descriptor = some place

namespace Settings.Frame

variable {hooks others : List Hook} {before between after : MethodTable}

theorem refl (hooks : List Hook) (methods : MethodTable) :
    settings.Frame className hooks methods methods :=
  ⟨rfl, fun _ _ found => Or.inl found⟩

theorem position? (frame : settings.Frame className hooks before after) (name descriptor : String) :
    after.position? name descriptor = before.position? name descriptor := by
  rw [← MethodTable.position?_map_outline, frame.outlines, MethodTable.position?_map_outline]

/-- The hooks of two lists one after the other. -/
theorem append (left : settings.Frame className hooks before between)
    (right : settings.Frame className others between after) :
    settings.Frame className (hooks ++ others) before after := by
  refine ⟨right.outlines.trans left.outlines, fun place method found => ?_⟩
  rcases left.kept place method found with same | ⟨concrete, managed, hook, member, target⟩
  · rcases right.kept place method same with kept | ⟨concrete, managed, hook, member, here, target⟩
    · exact Or.inl kept
    · rw [left.position?] at target
      exact Or.inr ⟨concrete, managed, hook, List.mem_append_right _ member, here, target⟩
  · exact Or.inr ⟨concrete, managed, hook, List.mem_append_left _ member, target⟩

/-- A method behind another of its name and descriptor is never touched. -/
theorem kept_of_shadowed (frame : settings.Frame className hooks before after) {place : Nat}
    (shadowed : before.Shadowed place) : after[place]? = before[place]? := by
  have ⟨_, _, _, other, _, here, _⟩ := shadowed
  rcases frame.kept place other here with kept | ⟨_, _, hook, _, _, target⟩
  · exact kept.trans here.symm
  · exact absurd target (MethodTable.position?_ne_of_shadowed shadowed)

end Settings.Frame

theorem Hook.outline_remade (hook : Hook) (met : List String) (method : Method) :
    (hook.remade settings className met method).outline = method.outline := by
  unfold remade
  split <;> rfl

/-- The frame of one hook. -/
theorem Hook.frame_visitClass (hook : Hook) (met : List String) (methods : MethodTable) :
    settings.Frame className [hook] methods
      (hook.visitClass settings className met methods).methods := by
  rw [methods_visitClass, remake]
  refine ⟨MethodTable.map_outline_update methods (hook.outline_remade met),
    fun place method found => ?_⟩
  rw [MethodTable.getElem?_update, found]
  split
  · next target =>
    rw [Option.map_some, remade]
    split
    · next patched =>
      obtain ⟨concrete, managed⟩ := method.hasBody_iff.mp patched.2.2
      exact Or.inr ⟨concrete, managed, hook, List.mem_singleton_self hook, patched.1, target⟩
    · exact Or.inl rfl
  · exact Or.inl rfl

/-- The frame of a list of hooks. -/
theorem Settings.frame_passFrom (settings : Settings) (className : ClassName) (met : List String)
    (hooks : List Hook) (methods : MethodTable) :
    settings.Frame className hooks methods
      (settings.passFrom className met hooks methods).methods := by
  induction hooks generalizing met methods with
  | nil => exact Frame.refl [] methods
  | cons hook rest inductionHypothesis =>
    exact (hook.frame_visitClass met methods).append (inductionHypothesis _ _)

theorem Loader.frame_transform (loader : Loader) (file : ClassFile) :
    (loader.transform file).value.file.name = file.name ∧
      (loader.transform file).value.file.fields = file.fields ∧
      loader.catalogue.settings.Frame file.className (loader.catalogue.hooksFor file.className)
        file.methods (loader.transform file).value.file.methods := by
  by_cases again : file.className ∈ loader.transformed
  · rw [value_transform_of_transformed again]
    exact ⟨rfl, rfl, Settings.Frame.refl _ _⟩
  · rw [value_transform_of_fresh again]
    exact ⟨rfl, rfl, Settings.frame_passFrom _ _ _ _ _⟩

/-- Patching changes nothing of a class but bodies: not its name, its fields, or the number, order,
names, descriptors and access flags of its methods. A body changes only where the target of a hook
for the class leads, if the method there is neither abstract nor native, so the second of two
methods with one name and descriptor is never touched. This holds of a list of hooks that is
dispatched and of a class that is loaded. -/
theorem patching_changes_bodies_only (settings : Settings) (className : ClassName)
    (methods : MethodTable) (hooks : List Hook) (loader : Loader) (file : ClassFile) :
    let patched := (settings.dispatch className methods hooks).methods
    let loaded := (loader.transform file).value.file
    (settings.Frame className hooks methods patched ∧
        ∀ place, methods.Shadowed place → patched[place]? = methods[place]?) ∧
      loaded.name = file.name ∧ loaded.fields = file.fields ∧
      loader.catalogue.settings.Frame file.className (loader.catalogue.hooksFor file.className)
        file.methods loaded.methods ∧
      ∀ place, file.methods.Shadowed place → loaded.methods[place]? = file.methods[place]? := by
  intro patched loaded
  have frame : settings.Frame className hooks methods patched :=
    settings.frame_passFrom className [] hooks methods
  obtain ⟨name, fields, loadedFrame⟩ := loader.frame_transform file
  exact ⟨⟨frame, fun _ => frame.kept_of_shadowed⟩, name, fields, loadedFrame,
    fun _ => loadedFrame.kept_of_shadowed⟩

/-- Two hooks for a class in which the name and descriptor of their target stand twice, and an
abstract method that a third hook is for: only the first of the methods changes. -/
theorem patching_changes_bodies_only_first_of_two :
    let hook (name method : String) : Hook := {
      name, target := .unmapped (.of "a.B") method "()V", edits := [.insert [⟨0x00, .none⟩]] }
    let method (name : String) (access : UInt16) (body : Body) : Method :=
      ⟨name, "()V", ⟨access⟩, body⟩
    let hooks := [hook "first" "run", hook "second" "run", hook "third" "stop"]
    let methods : MethodTable := [method "run" 1 [], method "run" 1 [], method "stop" 0x0401 []]
    let patched := (Settings.production.dispatch (.of "a/B") methods hooks).methods
    patched = [method "run" 1 [⟨0x00, .none⟩, ⟨0x00, .none⟩], method "run" 1 [],
        method "stop" 0x0401 []] ∧
      Settings.production.Frame (.of "a/B") hooks methods patched ∧
      methods.Shadowed 1 ∧ patched[1]? = methods[1]? := by
  intro hook method hooks methods patched
  have shadowed : methods.Shadowed 1 :=
    ⟨0, Nat.zero_lt_one, method "run" 1 [], method "run" 1 [], rfl, rfl, by decide⟩
  obtain ⟨⟨frame, kept⟩, _⟩ := patching_changes_bodies_only .production (.of "a/B") methods hooks
    (.start (.empty .production none)) ⟨"a.B", [], methods⟩
  exact ⟨by decide +kernel, frame, shadowed, kept 1 shadowed⟩

end MethodPatch
