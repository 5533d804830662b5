/-
This file proves that looking for a pattern gives its leftmost place.

The distance to a row of instructions is the least number of instructions that can be dropped
from a body so that the rest opens with the row. `Pattern.find?` adds it to where the search
starts, so it gives the least position from there on at which the pattern is found, and nothing
exactly when there is no such position.
-/

import MethodPatch.Pattern
import Mathlib.Data.List.Forall2

namespace MethodPatch

/-! ### The distance to a row -/

namespace Body

theorem opensWith_nil {wanted : Body} (present : wanted ≠ []) : opensWith wanted [] = false := by
  cases wanted with
  | nil => exact absurd rfl present
  | cons first rest => rfl

theorem distanceTo?_eq_none {wanted : Body} (present : wanted ≠ []) (body : Body) :
    distanceTo? wanted body = none ↔ ∀ distance, opensWith wanted (body.drop distance) = false := by
  induction body with
  | nil => simp [distanceTo?, opensWith_nil present]
  | cons found body inductionHypothesis =>
    rw [distanceTo?]
    cases opens : opensWith wanted (found :: body) with
    | true =>
      rw [if_pos rfl]
      constructor
      · intro impossible
        cases impossible
      · intro never
        cases opens.symm.trans (never 0)
    | false =>
      rw [if_neg Bool.false_ne_true, Option.map_eq_none_iff, inductionHypothesis]
      constructor
      · intro never distance
        cases distance with
        | zero => exact opens
        | succ distance => exact never distance
      · exact fun never distance => never (distance + 1)

theorem distanceTo?_eq_some {wanted : Body} (present : wanted ≠ []) (body : Body)
    (distance : Nat) :
    distanceTo? wanted body = some distance ↔
      opensWith wanted (body.drop distance) = true ∧
        ∀ shorter < distance, opensWith wanted (body.drop shorter) = false := by
  induction body generalizing distance with
  | nil => simp [distanceTo?, opensWith_nil present]
  | cons found body inductionHypothesis =>
    rw [distanceTo?]
    cases opens : opensWith wanted (found :: body) with
    | true =>
      rw [if_pos rfl, Option.some_inj]
      constructor
      · rintro rfl
        exact ⟨opens, fun shorter less => absurd less (Nat.not_lt_zero shorter)⟩
      · rintro ⟨_, least⟩
        rcases Nat.eq_zero_or_pos distance with rfl | later
        · rfl
        · cases opens.symm.trans (least 0 later)
    | false =>
      rw [if_neg Bool.false_ne_true]
      cases distance with
      | zero => simp [opens]
      | succ distance =>
        rw [Option.map_eq_some_iff]
        constructor
        · rintro ⟨before, least, same⟩
          obtain ⟨holds, never⟩ := (inductionHypothesis before).mp least
          obtain rfl : before = distance := by omega
          refine ⟨holds, fun shorter less => ?_⟩
          cases shorter with
          | zero => exact opens
          | succ shorter => exact never shorter (by omega)
        · rintro ⟨holds, never⟩
          refine ⟨distance, (inductionHypothesis distance).mpr ⟨holds, ?_⟩, rfl⟩
          exact fun shorter less => never (shorter + 1) (by omega)

/-! ### The place of a row -/

theorem length_le_of_opensWith {wanted body : Body} (opens : opensWith wanted body = true) :
    wanted.length ≤ body.length := by
  induction wanted generalizing body with
  | nil => exact Nat.zero_le _
  | cons sought wanted inductionHypothesis =>
    cases body with
    | nil => cases opens
    | cons found body =>
      rw [opensWith, Bool.and_eq_true] at opens
      exact Nat.succ_le_succ (inductionHypothesis opens.2)

/-- A body opens with a row of instructions when as many of its first instructions do. -/
theorem opensWith_take {wanted body : Body} (opens : opensWith wanted body = true) :
    opensWith wanted (body.take wanted.length) = true := by
  induction wanted generalizing body with
  | nil => rfl
  | cons sought wanted inductionHypothesis =>
    cases body with
    | nil => cases opens
    | cons found body =>
      rw [opensWith, Bool.and_eq_true] at opens
      rw [List.length_cons, List.take_succ_cons, opensWith, opens.1, inductionHypothesis opens.2,
        Bool.and_self]

/-- A body opens with a row when its first instructions agree with those of the row one by one. -/
theorem opensWith_iff_forall₂ {wanted body : Body} : opensWith wanted body = true ↔
    List.Forall₂ (fun found sought => found.agrees sought = true) (body.take wanted.length)
      wanted := by
  induction wanted generalizing body with
  | nil => simp [opensWith]
  | cons sought wanted inductionHypothesis =>
    cases body with
    | nil => simp [opensWith]
    | cons found body =>
      rw [opensWith, Bool.and_eq_true, List.length_cons, List.take_succ_cons, List.forall₂_cons,
        inductionHypothesis]

end Body

/-! ### The leftmost place -/

namespace Pattern

variable (pattern : Pattern) (body : Body) (start position : Nat)

/-- The place of a pattern lies inside the body. -/
theorem add_length_le_of_isAt {pattern : Pattern} {body : Body} {position : Nat}
    (found : pattern.isAt body position = true) : position + pattern.length ≤ body.length := by
  have inside := Body.length_le_of_opensWith found
  have present := List.length_pos_iff.mpr pattern.nonempty
  rw [List.length_drop] at inside
  rw [length]
  omega

theorem add_length_le_of_isAt_resolve {pattern : Pattern} {naming : Naming} {body : Body}
    {position : Nat} (found : (pattern.resolve naming).isAt body position = true) :
    position + pattern.length ≤ body.length := by
  rw [← pattern.length_resolve naming]
  exact add_length_le_of_isAt found

theorem isAt_add (distance : Nat) :
    pattern.isAt body (start + distance) =
      Body.opensWith pattern.instructions ((body.drop start).drop distance) := by
  rw [isAt, List.drop_drop]

/-- A search reads the code from the start on and nothing before it. -/
theorem find?_eq_map_find?_drop :
    pattern.find? body start = (pattern.find? (body.drop start) 0).map (start + ·) := by
  simp [find?]

theorem find?_eq_none :
    pattern.find? body start = none ↔
      ∀ position, start ≤ position → pattern.isAt body position = false := by
  rw [find?, Option.map_eq_none_iff, Body.distanceTo?_eq_none pattern.nonempty]
  simp only [← isAt_add]
  constructor
  · intro never position behind
    obtain ⟨distance, rfl⟩ := Nat.exists_eq_add_of_le behind
    exact never distance
  · exact fun never distance => never (start + distance) (Nat.le_add_right start distance)

/-- A search gives the least position from the start on at which the pattern is found. -/
theorem find?_eq_some :
    pattern.find? body start = some position ↔
      start ≤ position ∧ pattern.isAt body position = true ∧
        ∀ earlier, start ≤ earlier → earlier < position → pattern.isAt body earlier = false := by
  simp only [find?, Option.map_eq_some_iff, Body.distanceTo?_eq_some pattern.nonempty, ← isAt_add]
  constructor
  · rintro ⟨distance, ⟨found, least⟩, rfl⟩
    refine ⟨Nat.le_add_right start distance, found, fun earlier behind before => ?_⟩
    obtain ⟨shorter, rfl⟩ := Nat.exists_eq_add_of_le behind
    exact least shorter (by omega)
  · rintro ⟨behind, found, least⟩
    obtain ⟨distance, rfl⟩ := Nat.exists_eq_add_of_le behind
    refine ⟨distance, ⟨found, fun shorter less => ?_⟩, rfl⟩
    exact least (start + shorter) (Nat.le_add_right start shorter) (by omega)

end Pattern

end MethodPatch
