/-
This file proves that a shelf stands in the order of one stable sort.

Hooks come to a shelf one at a time, and each is put before the first hook of lower priority. The
order of application is what a stable sort by descending priority makes of the hooks in the order
of their registration. The two agree because an order is settled by two things: no hook stands
behind one of lower priority, and the hooks of each priority stand as they came. Putting a hook in
its place keeps both.
-/

import MethodPatch.Catalogue
import Mathlib.Data.List.Sort

namespace MethodPatch

/-! ### The order of application -/

/-- Whether the first hook may be applied before the second. -/
def Hook.mayPrecede (first second : Hook) : Bool := second.priority ≤ first.priority

/-- The hooks of a list by descending priority, and those of one priority in the order of the
list. -/
def applicationOrder (hooks : List Hook) : List Hook := hooks.mergeSort Hook.mayPrecede

/-- The hooks of a list that have a priority. -/
def ofPriority (priority : Priority) (hooks : List Hook) : List Hook :=
  hooks.filter fun hook => hook.priority = priority

/-- No hook stands behind one of lower priority. -/
abbrev Descending (hooks : List Hook) : Prop :=
  hooks.Pairwise fun first second => second.priority ≤ first.priority

theorem mem_ofPriority {hook : Hook} {priority : Priority} {hooks : List Hook} :
    hook ∈ ofPriority priority hooks ↔ hook ∈ hooks ∧ hook.priority = priority := by
  rw [ofPriority, List.mem_filter, decide_eq_true_iff]

theorem ofPriority_cons (priority : Priority) (hook : Hook) (rest : List Hook) :
    ofPriority priority (hook :: rest) =
      if hook.priority = priority then hook :: ofPriority priority rest
      else ofPriority priority rest := by
  simp [ofPriority, List.filter_cons]

theorem ofPriority_append (priority : Priority) (first second : List Hook) :
    ofPriority priority (first ++ second) =
      ofPriority priority first ++ ofPriority priority second :=
  List.filter_append ..

theorem ofPriority_eq_nil {priority : Priority} {hooks : List Hook}
    (lower : ∀ hook ∈ hooks, hook.priority < priority) : ofPriority priority hooks = [] := by
  refine List.eq_nil_iff_forall_not_mem.mpr fun hook member => ?_
  obtain ⟨inside, same⟩ := mem_ofPriority.mp member
  exact Int32.lt_irrefl (same ▸ lower hook inside)

/-! ### What settles an order -/

theorem priority_le_of_same {first second : Hook} {rest others : List Hook}
    (ordered : Descending (second :: others))
    (same : ∀ priority, ofPriority priority (first :: rest) =
      ofPriority priority (second :: others)) : first.priority ≤ second.priority := by
  have member : first ∈ ofPriority first.priority (second :: others) := by
    rw [← same, ofPriority_cons, if_pos rfl]
    exact List.mem_cons_self
  rcases List.mem_cons.mp (mem_ofPriority.mp member).1 with equal | later
  · rw [equal]
    exact Int32.le_refl _
  · exact (List.pairwise_cons.mp ordered).1 first later

/-- Two lists in descending order are equal when they agree on each priority. -/
theorem eq_of_descending {first second : List Hook} (firstOrdered : Descending first)
    (secondOrdered : Descending second)
    (same : ∀ priority, ofPriority priority first = ofPriority priority second) :
    first = second := by
  induction first generalizing second with
  | nil =>
    cases second with
    | nil => rfl
    | cons hook others =>
      have empty := same hook.priority
      rw [ofPriority_cons, if_pos rfl] at empty
      cases empty
  | cons hook rest inductionHypothesis =>
    cases second with
    | nil =>
      have empty := same hook.priority
      rw [ofPriority_cons, if_pos rfl] at empty
      cases empty
    | cons other others =>
      -- Each head is found in the other list, so both have the highest priority there is.
      have level : hook.priority = other.priority :=
        Int32.le_antisymm (priority_le_of_same secondOrdered same)
          (priority_le_of_same firstOrdered fun priority => (same priority).symm)
      have heads := same hook.priority
      rw [ofPriority_cons, if_pos rfl, level, ofPriority_cons, if_pos rfl] at heads
      obtain ⟨rfl, tails⟩ := List.cons.inj heads
      refine congrArg (hook :: ·) (inductionHypothesis (List.pairwise_cons.mp firstOrdered).2
        (List.pairwise_cons.mp secondOrdered).2 fun priority => ?_)
      by_cases equal : hook.priority = priority
      · rw [← equal]
        exact tails
      · have whole := same priority
        rwa [ofPriority_cons, if_neg equal, ofPriority_cons, if_neg equal] at whole

/-! ### A stable sort -/

theorem mayPrecede_trans (first second third : Hook) (higher : first.mayPrecede second = true)
    (lower : second.mayPrecede third = true) : first.mayPrecede third = true := by
  simp only [Hook.mayPrecede, decide_eq_true_eq] at *
  exact Int32.le_trans lower higher

theorem mayPrecede_total (first second : Hook) :
    (first.mayPrecede second || second.mayPrecede first) = true := by
  simpa [Hook.mayPrecede] using Int32.le_total second.priority first.priority

theorem descending_applicationOrder (hooks : List Hook) : Descending (applicationOrder hooks) :=
  (List.pairwise_mergeSort mayPrecede_trans mayPrecede_total hooks).imp of_decide_eq_true

theorem ofPriority_applicationOrder (priority : Priority) (hooks : List Hook) :
    ofPriority priority (applicationOrder hooks) = ofPriority priority hooks := by
  have level : (ofPriority priority hooks).Pairwise fun first second =>
      first.mayPrecede second = true := by
    refine List.pairwise_of_forall_mem_list fun first firstMember second secondMember => ?_
    rw [Hook.mayPrecede, (mem_ofPriority.mp firstMember).2, (mem_ofPriority.mp secondMember).2]
    exact decide_eq_true (Int32.le_refl priority)
  have kept : (ofPriority priority hooks).Sublist (applicationOrder hooks) :=
    List.sublist_mergeSort mayPrecede_trans mayPrecede_total level List.filter_sublist
  have within := kept.filter fun hook => hook.priority = priority
  have count := (List.mergeSort_perm hooks Hook.mayPrecede).filter fun hook =>
    hook.priority = priority
  rw [ofPriority, List.filter_filter] at within
  simp only [Bool.and_self] at within
  exact (within.eq_of_length count.length_eq.symm).symm

/-! ### One hook more -/

theorem mem_placeInOrder {hook other : Hook} {hooks : List Hook} :
    other ∈ placeInOrder hook hooks ↔ other = hook ∨ other ∈ hooks := by
  induction hooks with
  | nil => simp [placeInOrder]
  | cons first rest inductionHypothesis =>
    rw [placeInOrder]
    split
    · rw [List.mem_cons]
    · rw [List.mem_cons, inductionHypothesis, List.mem_cons]
      exact or_left_comm

theorem descending_placeInOrder (hook : Hook) {hooks : List Hook} (ordered : Descending hooks) :
    Descending (placeInOrder hook hooks) := by
  induction hooks with
  | nil => exact List.pairwise_singleton _ _
  | cons first rest inductionHypothesis =>
    obtain ⟨highest, orderedRest⟩ := List.pairwise_cons.mp ordered
    rw [placeInOrder]
    split
    · next lower =>
      refine List.pairwise_cons.mpr ⟨fun other member => ?_, ordered⟩
      rcases List.mem_cons.mp member with rfl | member
      · exact Int32.le_of_lt lower
      · exact Int32.le_trans (highest other member) (Int32.le_of_lt lower)
    · next notLower =>
      refine List.pairwise_cons.mpr ⟨fun other member => ?_, inductionHypothesis orderedRest⟩
      rcases mem_placeInOrder.mp member with rfl | member
      · exact Int32.not_lt.mp notLower
      · exact highest other member

/-- Among the hooks of its priority a hook is put last, and those of other priorities are left as
they are. -/
theorem ofPriority_placeInOrder (hook : Hook) {hooks : List Hook} (ordered : Descending hooks)
    (priority : Priority) :
    ofPriority priority (placeInOrder hook hooks) = ofPriority priority (hooks ++ [hook]) := by
  induction hooks with
  | nil => rfl
  | cons first rest inductionHypothesis =>
    obtain ⟨highest, orderedRest⟩ := List.pairwise_cons.mp ordered
    rw [placeInOrder]
    split
    · next lower =>
      have allLower : ∀ other ∈ first :: rest, other.priority < hook.priority := by
        intro other member
        rcases List.mem_cons.mp member with rfl | member
        · exact lower
        · exact Int32.lt_of_le_of_lt (highest other member) lower
      rw [ofPriority_append, ofPriority_cons]
      by_cases same : hook.priority = priority
      · rw [if_pos same, ofPriority_eq_nil (same ▸ allLower), ofPriority_cons, if_pos same]
        rfl
      · rw [if_neg same, ofPriority_cons priority hook, if_neg same]
        exact (List.append_nil _).symm
    · rw [List.cons_append, ofPriority_cons, inductionHypothesis orderedRest, ← ofPriority_cons]

/-- Putting one more hook in its place comes to the same as sorting once more with the hook at the
end. -/
theorem placeInOrder_applicationOrder (hook : Hook) (hooks : List Hook) :
    placeInOrder hook (applicationOrder hooks) = applicationOrder (hooks ++ [hook]) := by
  have ordered := descending_applicationOrder hooks
  refine eq_of_descending (descending_placeInOrder hook ordered)
    (descending_applicationOrder _) fun priority => ?_
  rw [ofPriority_placeInOrder hook ordered, ofPriority_append, ofPriority_applicationOrder,
    ofPriority_applicationOrder, ofPriority_append]

end MethodPatch
