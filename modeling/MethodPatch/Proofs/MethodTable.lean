/-
This file says what a new body for one method does to the table of all methods.

Looking a method up splits the table into the methods before it, the method itself and the rest.
`MethodTable.setBody` changes the middle part only, so a relation between tables that is checked
method by method survives the change as soon as the one method that changes keeps it.
-/

import MethodPatch.ClassFile
import Mathlib.Data.List.Forall2

namespace MethodPatch.MethodTable

variable {methods : MethodTable} {name descriptor : String} {method : Method}

/-! ### The table around a method -/

theorem update_append (change : Method → Method) (before rest : MethodTable)
    (otherwise : ∀ other ∈ before, other.isCalled name descriptor = false) :
    update name descriptor change (before ++ rest) =
      before ++ update name descriptor change rest := by
  induction before with
  | nil => rfl
  | cons other before inductionHypothesis =>
    have called : other.isCalled name descriptor = false := otherwise other List.mem_cons_self
    rw [List.cons_append, update, if_neg (by simp [called]), List.cons_append,
      inductionHypothesis fun between member => otherwise between (List.mem_cons_of_mem _ member)]

/-- The table around a method that is found, and what a new body for it leaves of the table. -/
theorem exists_split_of_lookup? (found : methods.lookup? name descriptor = some method) :
    ∃ before after, methods = before ++ method :: after ∧
      ∀ body, methods.setBody name descriptor body = before ++ { method with body } :: after := by
  obtain ⟨called, before, after, split, otherwise⟩ := List.find?_eq_some_iff_append.mp found
  refine ⟨before, after, split, fun body => ?_⟩
  rw [split, setBody, update_append _ before _ fun other member => by
    simpa using otherwise other member, update, if_pos called]

theorem setBody_body (found : methods.lookup? name descriptor = some method) :
    methods.setBody name descriptor method.body = methods := by
  obtain ⟨before, after, split, replaced⟩ := exists_split_of_lookup? found
  rw [replaced method.body, split]

/-! ### Changes under two names -/

section Changes

variable {otherName otherDescriptor : String} {change otherChange : Method → Method}

theorem isCalled_of_ne (different : (name, descriptor) ≠ (otherName, otherDescriptor))
    (called : method.isCalled name descriptor = true) :
    method.isCalled otherName otherDescriptor = false := by
  rw [Method.isCalled, Bool.and_eq_true, beq_iff_eq, beq_iff_eq] at called
  obtain ⟨rfl, rfl⟩ := called
  refine Bool.eq_false_iff.mpr fun otherwise => different ?_
  rw [Method.isCalled, Bool.and_eq_true, beq_iff_eq, beq_iff_eq] at otherwise
  exact Prod.ext otherwise.1 otherwise.2

/-- Only what becomes of the first method of the name and descriptor matters to a change. -/
theorem update_congr (methods : MethodTable)
    (same : ∀ method, methods.lookup? name descriptor = some method →
      change method = otherChange method) :
    methods.update name descriptor change = methods.update name descriptor otherChange := by
  induction methods with
  | nil => rfl
  | cons method rest inductionHypothesis =>
    rw [update, update]
    cases called : method.isCalled name descriptor with
    | true =>
      rw [if_pos rfl, if_pos rfl, same method (List.find?_cons_of_pos called)]
    | false =>
      rw [if_neg Bool.false_ne_true, if_neg Bool.false_ne_true, inductionHypothesis]
      intro other found
      refine same other ((List.find?_cons_of_neg ?_).trans found)
      rw [called]
      exact Bool.false_ne_true

theorem update_id (methods : MethodTable) : methods.update name descriptor id = methods := by
  induction methods with
  | nil => rfl
  | cons method rest inductionHypothesis =>
    rw [update, inductionHypothesis]
    split <;> rfl

/-- A change that keeps the name and the descriptor is made to the method that is found by them. -/
theorem lookup?_update (keeps : ∀ method, (change method).isCalled name descriptor =
    method.isCalled name descriptor) (methods : MethodTable) :
    (methods.update name descriptor change).lookup? name descriptor =
      (methods.lookup? name descriptor).map change := by
  induction methods with
  | nil => rfl
  | cons method rest inductionHypothesis =>
    rw [update]
    split
    · next called =>
      rw [lookup?, lookup?, List.find?_cons_of_pos called,
        List.find?_cons_of_pos ((keeps method).trans called), Option.map_some]
    · next uncalled =>
      rw [lookup?, lookup?, List.find?_cons_of_neg uncalled, List.find?_cons_of_neg uncalled]
      exact inductionHypothesis

theorem lookup?_setBody (found : methods.lookup? name descriptor = some method) (body : Body) :
    (methods.setBody name descriptor body).lookup? name descriptor = some { method with body } := by
  rw [setBody, lookup?_update, found, Option.map_some]
  exact fun _ => rfl

/-- A change that keeps names and descriptors leaves the method of another name or descriptor as it
was. -/
theorem lookup?_update_of_ne (different : (name, descriptor) ≠ (otherName, otherDescriptor))
    (keeps : ∀ method, (change method).isCalled otherName otherDescriptor =
      method.isCalled otherName otherDescriptor) (methods : MethodTable) :
    (methods.update name descriptor change).lookup? otherName otherDescriptor =
      methods.lookup? otherName otherDescriptor := by
  induction methods with
  | nil => rfl
  | cons method rest inductionHypothesis =>
    rw [update]
    split
    · next called =>
      have elsewhere := isCalled_of_ne different called
      rw [lookup?, lookup?, List.find?_cons_of_neg (by simp [keeps, elsewhere]),
        List.find?_cons_of_neg (by simp [elsewhere])]
    · rw [lookup?, lookup?, List.find?_cons, List.find?_cons]
      split
      · rfl
      · exact inductionHypothesis

/-- Changes under different names or descriptors can be made in either order. -/
theorem update_comm (different : (name, descriptor) ≠ (otherName, otherDescriptor))
    (keeps : ∀ method, (change method).isCalled otherName otherDescriptor =
      method.isCalled otherName otherDescriptor)
    (otherKeeps : ∀ method, (otherChange method).isCalled name descriptor =
      method.isCalled name descriptor) (methods : MethodTable) :
    (methods.update name descriptor change).update otherName otherDescriptor otherChange =
      (methods.update otherName otherDescriptor otherChange).update name descriptor change := by
  induction methods with
  | nil => rfl
  | cons method rest inductionHypothesis =>
    cases called : method.isCalled name descriptor with
    | true =>
      have elsewhere := isCalled_of_ne different called
      simp only [update, called, elsewhere, keeps, if_true, Bool.false_eq_true, if_false]
    | false =>
      cases otherCalled : method.isCalled otherName otherDescriptor with
      | true =>
        simp only [update, called, otherCalled, otherKeeps, if_true, Bool.false_eq_true, if_false]
      | false =>
        simp only [update, called, otherCalled, Bool.false_eq_true, if_false, inductionHypothesis]

end Changes

/-! ### Relations checked method by method -/

theorem forall₂_trans {Related : Method → Method → Prop}
    (through : ∀ first second third, Related first second → Related second third →
      Related first third)
    {first second third : MethodTable} (left : List.Forall₂ Related first second)
    (right : List.Forall₂ Related second third) : List.Forall₂ Related first third := by
  induction left generalizing third with
  | nil => exact right
  | cons head _ inductionHypothesis =>
    cases right with
    | cons next rest => exact List.Forall₂.cons (through _ _ _ head next) (inductionHypothesis rest)

theorem exists_mem_of_forall₂ {Related : Method → Method → Prop} {first second : MethodTable}
    (related : List.Forall₂ Related first second) (member : method ∈ second) :
    ∃ before ∈ first, Related before method := by
  induction related with
  | nil => exact absurd member List.not_mem_nil
  | cons head _ inductionHypothesis =>
    rcases List.mem_cons.mp member with rfl | member
    · exact ⟨_, List.mem_cons_self, head⟩
    · obtain ⟨before, beforeMember, holds⟩ := inductionHypothesis member
      exact ⟨before, List.mem_cons_of_mem _ beforeMember, holds⟩

/-- A relation that every method has to itself holds between a table and the table with a new
body in it, provided it holds for the method that gets the body. -/
theorem forall₂_setBody {Related : Method → Method → Prop}
    (unchanged : ∀ method, Related method method)
    (found : methods.lookup? name descriptor = some method) (body : Body)
    (changed : Related method { method with body }) :
    List.Forall₂ Related methods (methods.setBody name descriptor body) := by
  obtain ⟨before, after, split, replaced⟩ := exists_split_of_lookup? found
  rw [replaced body, split]
  refine List.rel_append ?_ (List.Forall₂.cons changed ?_)
  · exact List.forall₂_same.mpr fun other _ => unchanged other
  · exact List.forall₂_same.mpr fun other _ => unchanged other

end MethodPatch.MethodTable
