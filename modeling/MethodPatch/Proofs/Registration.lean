/-
This file proves that a catalogue stands for the sequence of hooks it has accepted.

A catalogue keeps its hooks in two containers that are filled together, the shelves and the taken
names, and each hook is put in its place on arrival. A shelf is set up only for a class that has
none, so no class ever has two of them. `Catalogue.Holds` says what the two containers have to be
for a given sequence of hooks, and every request keeps it: an accepted hook is added at the end of
the sequence, and a refused one leaves everything as it was. So at any time of a run all that can be
asked of a catalogue is answered by the sequence of accepted hooks alone.
-/

import MethodPatch.Proofs.Closing
import MethodPatch.Proofs.ShelfOrder
import Mathlib.Data.List.Perm.Basic

namespace MethodPatch

/-! ### Hooks class by class -/

/-- The hooks of a list that are for a class. -/
def ofClass (className : ClassName) (hooks : List Hook) : List Hook :=
  hooks.filter fun hook => hook.targetClass = className

theorem flatMap_ofClass_perm {classes : List ClassName} (distinct : classes.Nodup)
    {hooks : List Hook} (covered : ∀ hook ∈ hooks, hook.targetClass ∈ classes) :
    (classes.flatMap fun className => ofClass className hooks).Perm hooks := by
  induction classes generalizing hooks with
  | nil =>
    cases hooks with
    | nil => exact List.Perm.refl _
    | cons hook rest => exact absurd (covered hook List.mem_cons_self) List.not_mem_nil
  | cons className others inductionHypothesis =>
    obtain ⟨absent, distinctOthers⟩ := List.nodup_cons.mp distinct
    set elsewhere := hooks.filter fun hook => !decide (hook.targetClass = className)
      with elsewhereDef
    have coveredElsewhere : ∀ hook ∈ elsewhere, hook.targetClass ∈ others := by
      intro hook member
      obtain ⟨inside, different⟩ := List.mem_filter.mp member
      exact (List.mem_cons.mp (covered hook inside)).resolve_left (by simpa using different)
    -- No hook of another class is lost when the hooks of this one are taken out.
    have same : ∀ other ∈ others, ofClass other hooks = ofClass other elsewhere := by
      intro other member
      rw [ofClass, ofClass, elsewhereDef, List.filter_filter]
      refine List.filter_congr fun hook _ => ?_
      by_cases here : hook.targetClass = other
      · have different : other ≠ className := fun equal => absent (equal ▸ member)
        simp [here, different]
      · simp [here]
    rw [List.flatMap_cons]
    calc ofClass className hooks ++ others.flatMap (fun other => ofClass other hooks)
      _ = ofClass className hooks ++ others.flatMap (fun other => ofClass other elsewhere) := by
        rw [List.flatMap_congr same]
      List.Perm _ (ofClass className hooks ++ elsewhere) :=
        (inductionHypothesis distinctOthers coveredElsewhere).append_left _
      List.Perm _ hooks := List.filter_append_perm _ hooks

/-! ### Classes with an entry of their own -/

/-- The classes that have an entry once a class has got one: a class that is new comes last. -/
def entered (className : ClassName) (classes : List ClassName) : List ClassName :=
  if className ∈ classes then classes else classes ++ [className]

theorem entered_cons_of_ne {className first : ClassName} (different : className ≠ first)
    (rest : List ClassName) :
    entered className (first :: rest) = first :: entered className rest := by
  unfold entered
  simp only [List.mem_cons, different, false_or]
  split <;> rfl

theorem mem_entered {className other : ClassName} {classes : List ClassName} :
    other ∈ entered className classes ↔ other = className ∨ other ∈ classes := by
  unfold entered
  split
  · next present => exact (or_iff_right_of_imp fun same => same ▸ present).symm
  · rw [List.mem_append, List.mem_singleton, or_comm]

/-- No class gets a second entry. -/
theorem nodup_entered {classes : List ClassName} (distinct : classes.Nodup)
    (className : ClassName) : (entered className classes).Nodup := by
  unfold entered
  split
  · exact distinct
  · next absent => exact List.concat_eq_append ▸ distinct.concat absent

/-! ### Shelves -/

theorem map_className_shelve (hook : Hook) (shelves : List Shelf) :
    (shelve hook shelves).map Shelf.className =
      entered hook.targetClass (shelves.map Shelf.className) := by
  induction shelves with
  | nil => rfl
  | cons shelf rest inductionHypothesis =>
    rw [shelve]
    split
    · next here => simp [entered, here]
    · next elsewhere =>
      rw [List.map_cons, List.map_cons, inductionHypothesis,
        entered_cons_of_ne (Ne.symm elsewhere)]

namespace Catalogue

variable {catalogue : Catalogue} {hook : Hook} {hooks : List Hook}

/-! ### The shelf of a class -/

/-- A hook is put in its place among the hooks of its class. -/
theorem hooksFor_add (catalogue : Catalogue) (hook : Hook) (className : ClassName) :
    (catalogue.add hook).hooksFor className =
      if hook.targetClass = className then placeInOrder hook (catalogue.hooksFor className)
      else catalogue.hooksFor className := by
  unfold hooksFor shelf? add
  dsimp only
  induction catalogue.shelves with
  | nil =>
    by_cases here : hook.targetClass = className
    · simp [shelve, here, placeInOrder]
    · simp [shelve, here, beq_false_of_ne here]
  | cons shelf rest inductionHypothesis =>
    rw [shelve]
    by_cases own : shelf.className = hook.targetClass
    · rw [if_pos own, List.find?_cons, List.find?_cons]
      by_cases here : hook.targetClass = className
      · simp [own, here]
      · simp [own, here, beq_false_of_ne here]
    · rw [if_neg own, List.find?_cons, List.find?_cons]
      by_cases found : shelf.className = className
      · have elsewhere : hook.targetClass ≠ className := fun equal => own (found.trans equal.symm)
        simp [found, elsewhere]
      · rw [beq_false_of_ne found]
        exact inductionHypothesis

/-- A class gets its shelf with its first hook. -/
theorem targetClasses_add (catalogue : Catalogue) (hook : Hook) :
    (catalogue.add hook).targetClasses = entered hook.targetClass catalogue.targetClasses :=
  map_className_shelve hook catalogue.shelves

/-! ### The answers to a registration -/

/-- How a catalogue answers the registration of a hook. -/
inductive Registration (catalogue : Catalogue) (hook : Hook) :
    Reply Catalogue (Except PatchError Unit) → Prop where
  /-- No further hooks are taken. -/
  | closed (closed : catalogue.closed = true) :
    Registration catalogue hook ⟨catalogue, .error .registrationClosed, []⟩
  /-- The hook is unsound in itself. -/
  | unsound (isOpen : catalogue.closed = false) (error : PatchError)
      (refused : hook.check = .error error) :
    Registration catalogue hook ⟨catalogue, .error error, []⟩
  /-- A member that the hook mentions is not declared. -/
  | undeclared (isOpen : catalogue.closed = false) (sound : hook.check = .ok ())
      (error : PatchError) (refused : catalogue.checkMembers hook = .error error) :
    Registration catalogue hook ⟨catalogue, .error error, []⟩
  /-- A hook of the same name has been accepted. -/
  | nameTaken (isOpen : catalogue.closed = false) (sound : hook.check = .ok ())
      (events : List Event) (declared : catalogue.checkMembers hook = .ok events)
      (taken : hook.name ∈ catalogue.names) :
    Registration catalogue hook
      ⟨catalogue, .error (.configuration none (.nameTaken hook.name)), events⟩
  /-- The hook is accepted. -/
  | accepted (isOpen : catalogue.closed = false) (sound : hook.check = .ok ())
      (events : List Event) (declared : catalogue.checkMembers hook = .ok events)
      (fresh : hook.name ∉ catalogue.names) :
    Registration catalogue hook ⟨catalogue.add hook, .ok (),
      events ++ [.registered hook.name hook.target hook.edits.length]⟩

/-- There is no other answer. -/
theorem registration_register (catalogue : Catalogue) (hook : Hook) :
    Registration catalogue hook (catalogue.register hook) := by
  unfold register
  split
  · next closed => exact .closed closed
  · next isOpen =>
    have isOpen : catalogue.closed = false := by simpa using isOpen
    split
    · next error refused => exact .unsound isOpen error refused
    · next sound =>
      split
      · next error refused => exact .undeclared isOpen sound error refused
      · next events declared =>
        split
        · next taken => exact .nameTaken isOpen sound events declared taken
        · next fresh => exact .accepted isOpen sound events declared fresh

/-- The hooks of a list that are accepted when they are registered one after another up to the
first that is refused. -/
def accepted : Catalogue → List Hook → List Hook
  | _, [] => []
  | catalogue, hook :: rest =>
    match (catalogue.register hook).value with
    | .ok () => hook :: accepted (catalogue.register hook).state rest
    | .error _ => []

theorem accepted_of_closed (closed : catalogue.closed = true) (list : List Hook) :
    catalogue.accepted list = [] := by
  cases list with
  | nil => rfl
  | cons hook rest => simp [accepted, Catalogue.register, closed]

/-! ### What a catalogue holds -/

/-- What a catalogue is when exactly the hooks of a list have been accepted, in the order of the
list. -/
structure Holds (catalogue : Catalogue) (hooks : List Hook) : Prop where
  sound : ∀ hook ∈ hooks, hook.check = .ok ()
  names : catalogue.names.reverse = hooks.map Hook.name
  distinct : (hooks.map Hook.name).Nodup
  hooksFor : ∀ className,
    catalogue.hooksFor className = applicationOrder (ofClass className hooks)
  shelved : catalogue.targetClasses.Nodup
  classes : ∀ className, className ∈ catalogue.targetClasses ↔
    ∃ hook ∈ hooks, hook.targetClass = className

namespace Holds

theorem empty (settings : Settings) (declarations : Option Declarations) :
    Holds (.empty settings declarations) [] where
  sound := fun _ member => absurd member List.not_mem_nil
  names := rfl
  distinct := List.nodup_nil
  hooksFor := fun _ => List.mergeSort_nil.symm
  shelved := List.nodup_nil
  classes := fun _ => by simp [Catalogue.empty, targetClasses]

/-- An accepted hook comes last. -/
theorem add (holds : Holds catalogue hooks) (sound : hook.check = .ok ())
    (fresh : hook.name ∉ catalogue.names) : Holds (catalogue.add hook) (hooks ++ [hook]) where
  sound := by
    intro other member
    rcases List.mem_append.mp member with member | member
    · exact holds.sound other member
    · rw [List.mem_singleton.mp member, sound]
  names := by
    rw [List.map_append, ← holds.names]
    exact List.reverse_cons
  distinct := by
    rw [List.map_append, ← holds.names, List.map_singleton, ← List.reverse_cons,
      List.nodup_reverse, List.nodup_cons]
    refine ⟨fresh, ?_⟩
    rw [← List.nodup_reverse, holds.names]
    exact holds.distinct
  hooksFor := by
    intro className
    rw [hooksFor_add, holds.hooksFor, ofClass, ofClass, List.filter_append]
    by_cases here : hook.targetClass = className
    · rw [if_pos here, placeInOrder_applicationOrder, List.filter_cons_of_pos (by simpa using here)]
      rfl
    · rw [if_neg here, List.filter_cons_of_neg (by simpa using here), List.filter_nil,
        List.append_nil]
  shelved := by
    rw [targetClasses_add]
    exact nodup_entered holds.shelved hook.targetClass
  classes := by
    intro className
    rw [targetClasses_add, mem_entered, holds.classes]
    simp only [List.mem_append, List.mem_singleton, or_and_right, exists_or, exists_eq_left]
    rw [or_comm, eq_comm]

theorem register (holds : Holds catalogue hooks) (hook : Hook) :
    Holds (catalogue.register hook).state (hooks ++ catalogue.accepted [hook]) := by
  have registration := registration_register catalogue hook
  unfold accepted
  generalize catalogue.register hook = reply at registration
  cases registration with
  | closed | unsound | undeclared | nameTaken => rwa [List.append_nil]
  | accepted isOpen sound events declared fresh => exact holds.add sound fresh

theorem registerAll (holds : Holds catalogue hooks) (list : List Hook) :
    Holds (catalogue.registerAll list).state (hooks ++ catalogue.accepted list) := by
  induction list generalizing catalogue hooks with
  | nil => rwa [accepted, List.append_nil]
  | cons hook rest inductionHypothesis =>
    have first := holds.register hook
    rw [Catalogue.registerAll, accepted]
    rw [accepted] at first
    cases answer : (catalogue.register hook).value with
    | error error =>
      rw [answer] at first
      exact first
    | ok =>
      rw [answer] at first
      have later := inductionHypothesis first
      rwa [List.append_assoc, accepted, List.singleton_append] at later

theorem close (holds : Holds catalogue hooks) : Holds catalogue.close.state hooks := by
  refine ⟨holds.sound, ?_, holds.distinct, fun className => ?_, ?_, fun className => ?_⟩
  · rw [names_close, holds.names]
  · rw [hooksFor_close, holds.hooksFor]
  · rw [targetClasses_close]
    exact holds.shelved
  · rw [targetClasses_close, holds.classes]

/-! ### What the accepted hooks settle -/

theorem size (holds : Holds catalogue hooks) : catalogue.size = hooks.length := by
  rw [Catalogue.size, ← List.length_reverse, holds.names, List.length_map]

/-- Going through the classes one meets every hook once. -/
theorem hooks_perm (holds : Holds catalogue hooks) : catalogue.hooks.Perm hooks := by
  have shelf : ∀ className ∈ catalogue.targetClasses,
      (catalogue.hooksFor className).Perm (ofClass className hooks) := by
    intro className _
    rw [holds.hooksFor]
    exact List.mergeSort_perm _ _
  have covered : ∀ hook ∈ hooks, hook.targetClass ∈ catalogue.targetClasses :=
    fun hook member => (holds.classes _).mpr ⟨hook, member, rfl⟩
  exact (List.Perm.flatMap_left _ shelf).trans (flatMap_ofClass_perm holds.shelved covered)

/-- The hooks that are looked up for a class are for that class. -/
theorem targetClass_of_mem_hooksFor (holds : Holds catalogue hooks) {className : ClassName}
    (member : hook ∈ catalogue.hooksFor className) : hook.targetClass = className := by
  rw [holds.hooksFor, applicationOrder, (List.mergeSort_perm _ _).mem_iff] at member
  simpa using (List.mem_filter.mp member).2

theorem nodup_names_hooksFor (holds : Holds catalogue hooks) (className : ClassName) :
    ((catalogue.hooksFor className).map Hook.name).Nodup := by
  rw [holds.hooksFor, applicationOrder,
    ((List.mergeSort_perm (ofClass className hooks) Hook.mayPrecede).map Hook.name).nodup_iff]
  exact holds.distinct.sublist (List.filter_sublist.map Hook.name)

end Holds

end Catalogue

end MethodPatch
