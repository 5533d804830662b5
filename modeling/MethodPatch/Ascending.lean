/-
This file keeps the elements of a list in strictly ascending order.

A set that is shown to a reader needs an order that does not depend on how the set was
collected. `Ascending.ofList` gives each element of a list once, the smaller before the
larger, so two lists with the same elements give the same answer.
-/

namespace MethodPatch.Ascending

variable {Value : Type} [LT Value] [DecidableLT Value] [DecidableEq Value]

/-! ### Collecting in order -/

/-- Puts a value before the first element that exceeds it, unless the value is already there. -/
def insert (value : Value) : List Value → List Value
  | [] => [value]
  | head :: rest =>
    if value = head then head :: rest
    else if value < head then value :: head :: rest
    else head :: insert value rest

/-- The elements of a list, each once and in ascending order. -/
def ofList (values : List Value) : List Value :=
  values.foldr insert []

/-! ### Nothing is lost and nothing is added -/

theorem mem_insert {value other : Value} {values : List Value} :
    other ∈ insert value values ↔ other = value ∨ other ∈ values := by
  induction values with
  | nil => simp [insert]
  | cons head rest inductionHypothesis =>
    rw [insert]
    split
    · next same => subst same; simp
    · split
      · simp
      · simp only [List.mem_cons, inductionHypothesis]
        exact or_left_comm

@[simp] theorem mem_ofList {other : Value} {values : List Value} :
    other ∈ ofList values ↔ other ∈ values := by
  induction values with
  | nil => simp [ofList]
  | cons head rest inductionHypothesis =>
    rw [ofList, List.foldr_cons, mem_insert, List.mem_cons]
    exact or_congr_right inductionHypothesis

/-! ### The smaller before the larger -/

section Order

variable [Trans (α := Value) (· < ·) (· < ·) (· < ·)]
  [Std.Trichotomous (α := Value) (· < ·)]

theorem pairwise_insert {values : List Value} (value : Value)
    (ordered : values.Pairwise (· < ·)) : (insert value values).Pairwise (· < ·) := by
  induction values with
  | nil => exact List.pairwise_singleton _ _
  | cons head rest inductionHypothesis =>
    obtain ⟨least, orderedRest⟩ := List.pairwise_cons.mp ordered
    rw [insert]
    split
    · exact ordered
    · next different =>
      split
      · next smaller =>
        refine List.pairwise_cons.mpr ⟨fun other member => ?_, ordered⟩
        rcases List.mem_cons.mp member with rfl | member
        · exact smaller
        · exact Trans.trans smaller (least other member)
      · next notSmaller =>
        refine List.pairwise_cons.mpr ⟨fun other member => ?_, inductionHypothesis orderedRest⟩
        rcases mem_insert.mp member with rfl | member
        · refine Decidable.byContradiction fun notLarger => different ?_
          exact Std.Trichotomous.trichotomous _ _ notSmaller notLarger
        · exact least other member

theorem pairwise_ofList (values : List Value) : (ofList values).Pairwise (· < ·) := by
  induction values with
  | nil => exact List.Pairwise.nil
  | cons head rest inductionHypothesis => exact pairwise_insert head inductionHypothesis

theorem nodup_ofList [Std.Asymm (α := Value) (· < ·)] (values : List Value) :
    (ofList values).Nodup := by
  refine (pairwise_ofList values).imp fun {first second} smaller same => ?_
  exact Std.Asymm.asymm first second smaller (same ▸ smaller)

end Order

/-- A list in ascending order starts with its least element. -/
theorem head?_eq_some_iff {Element : Type} [LT Element] [Std.Asymm (α := Element) (· < ·)]
    {values : List Element} (ordered : values.Pairwise (· < ·)) {value : Element} :
    values.head? = some value ↔
      value ∈ values ∧ ∀ other ∈ values, other = value ∨ value < other := by
  cases values with
  | nil => simp
  | cons head rest =>
    obtain ⟨least, _⟩ := List.pairwise_cons.mp ordered
    rw [List.head?_cons, Option.some_inj]
    constructor
    · rintro rfl
      exact ⟨List.mem_cons_self, fun other member =>
        (List.mem_cons.mp member).imp_right (least other)⟩
    · rintro ⟨member, smallest⟩
      rcases List.mem_cons.mp member with same | inRest
      · exact same.symm
      · rcases smallest head List.mem_cons_self with same | smaller
        · exact same
        · exact absurd smaller (Std.Asymm.asymm value head · (least value inRest))

end MethodPatch.Ascending
