/-
This file proves that a chain of edits finds all its patterns whenever they can be found in order.

A placement puts every pattern of a chain somewhere in the body as it was before the first edit,
each behind the one before it. The chain itself takes the leftmost place for each pattern and
searches a body that its own edits have changed. Neither costs it a placement. The code ahead of
the cursor is code of the original body, so the places that are still to come are untouched; and
whatever can be placed behind some place of a pattern can be placed behind its leftmost place. So
a chain succeeds exactly when there is a placement, and otherwise it fails at the first pattern up
to which there is none.
-/

import MethodPatch.Proofs.Cursor
import MethodPatch.Proofs.Search
import Mathlib.Data.List.Chain

namespace MethodPatch

/-! ### The patterns of a chain -/

/-- A pattern that a chain looks for: the number of the edit, the pattern as it is searched for,
and how far behind its place the next one may begin. -/
structure Seek where
  index : Nat
  pattern : Pattern
  reach : Nat
  deriving DecidableEq

/-- What an edit looks for when it has the given number. -/
def Edit.seek? (naming : Naming) (index : Nat) (edit : Edit) : Option Seek :=
  edit.pattern?.map fun pattern => ⟨index, pattern.resolve naming, edit.reach⟩

/-- What the edits of a chain look for when the first of them has the given number. -/
def seeksFrom (naming : Naming) (index : Nat) (edits : List Edit) : List Seek :=
  (edits.zipIdx index).filterMap fun numbered => numbered.1.seek? naming numbered.2

/-- What the edits of a hook look for, in order. -/
def Hook.seeks (hook : Hook) (naming : Naming) : List Seek := seeksFrom naming 0 hook.edits

theorem seeksFrom_cons_of_no_pattern (naming : Naming) (index : Nat) {edit : Edit}
    (rest : List Edit) (plain : edit.pattern? = none) :
    seeksFrom naming index (edit :: rest) = seeksFrom naming (index + 1) rest := by
  simp [seeksFrom, Edit.seek?, plain]

theorem seeksFrom_cons_of_pattern (naming : Naming) (index : Nat) {edit : Edit}
    {pattern : Pattern} (rest : List Edit) (looksFor : edit.pattern? = some pattern) :
    seeksFrom naming index (edit :: rest) =
      ⟨index, pattern.resolve naming, edit.reach⟩ :: seeksFrom naming (index + 1) rest := by
  simp [seeksFrom, Edit.seek?, looksFor]

/-! ### Placements -/

/-- A place for every seek: its pattern is found there, and the place is not before the reach of
the one before it. -/
structure Placement (body : Body) (seeks : List Seek) (places : List (Seek × Nat)) : Prop where
  complete : places.map Prod.fst = seeks
  found : ∀ place ∈ places, place.1.pattern.isAt body place.2 = true
  ordered : places.IsChain fun first second => first.2 + first.1.reach ≤ second.2

/-- Whether there is a place for every seek. -/
def Placeable (body : Body) (seeks : List Seek) : Prop := ∃ places, Placement body seeks places

/-- Whether there is a place for every seek, the first not before the start. -/
def PlaceableFrom (body : Body) (start : Nat) (seeks : List Seek) : Prop :=
  ∃ places, Placement body seeks places ∧ ∀ place ∈ places.head?, start ≤ place.2

variable {body : Body} {start : Nat} {seek : Seek} {rest : List Seek}

theorem placeableFrom_zero (seeks : List Seek) :
    PlaceableFrom body 0 seeks ↔ Placeable body seeks :=
  exists_congr fun _ => and_iff_left fun place _ => Nat.zero_le place.2

theorem placeableFrom_nil : PlaceableFrom body start [] :=
  ⟨[], ⟨rfl, fun _ member => absurd member List.not_mem_nil, .nil⟩, fun _ member => nomatch member⟩

/-- The first seek is placed somewhere, and the others are placed beyond its reach. -/
theorem placeableFrom_cons :
    PlaceableFrom body start (seek :: rest) ↔
      ∃ position, start ≤ position ∧ seek.pattern.isAt body position = true ∧
        PlaceableFrom body (position + seek.reach) rest := by
  constructor
  · rintro ⟨places, ⟨complete, found, ordered⟩, behind⟩
    obtain ⟨⟨first, position⟩, later, rfl, rfl, others⟩ := List.map_eq_cons_iff.mp complete
    obtain ⟨next, ordered⟩ := List.isChain_cons.mp ordered
    refine ⟨position, behind _ rfl, found _ List.mem_cons_self, later, ⟨others, ?_, ordered⟩, next⟩
    exact fun place member => found place (List.mem_cons_of_mem _ member)
  · rintro ⟨position, behind, here, later, ⟨complete, found, ordered⟩, next⟩
    refine ⟨(seek, position) :: later, ⟨?_, ?_, List.isChain_cons.mpr ⟨next, ordered⟩⟩, ?_⟩
    · rw [List.map_cons, complete]
    · intro place member
      rcases List.mem_cons.mp member with rfl | member
      · exact here
      · exact found place member
    · rintro place ⟨⟩
      exact behind

theorem PlaceableFrom.anti {seeks : List Seek} {later : Nat} (before : start ≤ later)
    (placeable : PlaceableFrom body later seeks) : PlaceableFrom body start seeks := by
  obtain ⟨places, placement, behind⟩ := placeable
  exact ⟨places, placement, fun place member => before.trans (behind place member)⟩

/-! ### Taking the leftmost place -/

/-- The leftmost place of the first pattern is as good as any other. -/
theorem placeableFrom_cons_of_found {position : Nat}
    (leftmost : seek.pattern.find? body start = some position) :
    PlaceableFrom body start (seek :: rest) ↔
      PlaceableFrom body (position + seek.reach) rest := by
  obtain ⟨behind, found, least⟩ := (Pattern.find?_eq_some _ _ _ _).mp leftmost
  rw [placeableFrom_cons]
  constructor
  · rintro ⟨other, otherBehind, otherFound, placeable⟩
    have further : position ≤ other := by
      by_contra before
      exact nomatch otherFound.symm.trans (least other otherBehind (by omega))
    exact placeable.anti (Nat.add_le_add_right further seek.reach)
  · exact fun placeable => ⟨position, behind, found, placeable⟩

theorem not_placeableFrom_cons (missed : seek.pattern.find? body start = none) :
    ¬ PlaceableFrom body start (seek :: rest) := by
  rw [placeableFrom_cons]
  rintro ⟨position, behind, found, _⟩
  exact nomatch found.symm.trans ((Pattern.find?_eq_none _ _ _).mp missed position behind)

/-- The number of the first seek that finds no place when all before it take the leftmost. -/
def firstMissed? (body : Body) : Nat → List Seek → Option Nat
  | _, [] => none
  | start, seek :: rest =>
    match seek.pattern.find? body start with
    | some position => firstMissed? body (position + seek.reach) rest
    | none => some seek.index

theorem firstMissed?_eq_none (start : Nat) (seeks : List Seek) :
    firstMissed? body start seeks = none ↔ PlaceableFrom body start seeks := by
  induction seeks generalizing start with
  | nil => simp [firstMissed?, placeableFrom_nil]
  | cons seek rest inductionHypothesis =>
    rw [firstMissed?]
    cases found : seek.pattern.find? body start with
    | some position => rw [placeableFrom_cons_of_found found]; exact inductionHypothesis _
    | none => simp [not_placeableFrom_cons found]

/-- The first seek missed is the first that cannot be placed together with all before it. -/
theorem firstMissed?_eq_some (start : Nat) (seeks : List Seek) (index : Nat)
    (missed : firstMissed? body start seeks = some index) :
    ∃ count, ∃ inside : count < seeks.length, seeks[count].index = index ∧
      ¬ PlaceableFrom body start (seeks.take (count + 1)) ∧
        ∀ fewer ≤ count, PlaceableFrom body start (seeks.take fewer) := by
  induction seeks generalizing start with
  | nil => cases missed
  | cons seek rest inductionHypothesis =>
    rw [firstMissed?] at missed
    cases found : seek.pattern.find? body start with
    | some position =>
      rw [found] at missed
      obtain ⟨count, inside, named, unplaceable, placeable⟩ := inductionHypothesis _ missed
      refine ⟨count + 1, Nat.succ_lt_succ inside, named, ?_, fun fewer less => ?_⟩
      · rwa [List.take_succ_cons, placeableFrom_cons_of_found found]
      · cases fewer with
        | zero => exact placeableFrom_nil
        | succ fewer =>
          rw [List.take_succ_cons, placeableFrom_cons_of_found found]
          exact placeable fewer (by omega)
    | none =>
      rw [found] at missed
      refine ⟨0, Nat.zero_lt_succ _, Option.some.inj missed, ?_, fun fewer less => ?_⟩
      · exact not_placeableFrom_cons found
      · rw [Nat.le_zero.mp less]
        exact placeableFrom_nil

/-! ### The chain on the body it changes -/

/-- A chain that never goes back to the start searches as if its edits changed nothing: it misses
the pattern that is missed in the original body. -/
theorem Scope.miss_run_eq_firstMissed? (scope : Scope) (edits : List Edit)
    (onward : Edit.seekToStart ∉ edits) (index : Nat) (workspace : Workspace) (body : Body)
    (start : Nat) (same : workspace.ahead = body.drop start) :
    (scope.run index edits workspace).miss.map Miss.index =
      firstMissed? body start (seeksFrom scope.naming index edits) := by
  induction edits generalizing index workspace start with
  | nil => rfl
  | cons edit rest inductionHypothesis =>
    obtain ⟨onwardHere, onwardLater⟩ := not_or.mp (List.mem_cons.not.mp onward)
    cases looksFor : edit.pattern? with
    | none =>
      obtain ⟨next, succeeded, ahead⟩ :=
        scope.step_of_no_pattern index workspace looksFor (Ne.symm onwardHere)
      rw [seeksFrom_cons_of_no_pattern _ _ _ looksFor, scope.miss_run_of_ok _ _ succeeded]
      exact inductionHypothesis onwardLater _ _ _ (ahead.trans same)
    | some pattern =>
      -- Both searches see the same code, so they cover the same distance from where they start.
      have onWorkspace := (pattern.resolve scope.naming).find?_eq_map_find?_drop
        workspace.body workspace.cursor
      have onBody := (pattern.resolve scope.naming).find?_eq_map_find?_drop body start
      rw [← same] at onBody
      rw [seeksFrom_cons_of_pattern _ _ _ looksFor, firstMissed?, onBody]
      cases covered : (pattern.resolve scope.naming).find? workspace.ahead 0 with
      | none =>
        have missed : (pattern.resolve scope.naming).find? workspace.body workspace.cursor =
            none := by rw [onWorkspace, ← Workspace.ahead, covered, Option.map_none]
        rw [scope.miss_run_of_error _ _ (scope.step_of_missed index workspace looksFor missed)]
        rfl
      | some distance =>
        have found : (pattern.resolve scope.naming).find? workspace.body workspace.cursor =
            some (workspace.cursor + distance) := by
          rw [onWorkspace, ← Workspace.ahead, covered, Option.map_some]
        obtain ⟨next, succeeded, ahead⟩ := scope.step_of_found index workspace looksFor found
        rw [scope.miss_run_of_ok _ _ succeeded]
        refine inductionHypothesis onwardLater _ _ _ ?_
        calc next.ahead
          _ = workspace.ahead.drop (distance + edit.reach) := by
            rw [ahead, Workspace.ahead, List.drop_drop, Nat.add_assoc]
          _ = body.drop (start + distance + edit.reach) := by
            rw [same, List.drop_drop, Nat.add_assoc]

/-- A hook that never goes back to the start succeeds at a body exactly when all its patterns can
be placed there in order, and otherwise fails at the first edit whose pattern cannot be placed
together with all before it. -/
theorem Hook.miss_run_iff_placeable (hook : Hook) (naming : Naming) (body : Body)
    (onward : Edit.seekToStart ∉ hook.edits) :
    ((hook.run naming body).miss = none ↔ Placeable body (hook.seeks naming)) ∧
      ∀ miss, (hook.run naming body).miss = some miss →
        ∃ count, ∃ inside : count < (hook.seeks naming).length,
          (hook.seeks naming)[count].index = miss.index ∧
            ¬ Placeable body ((hook.seeks naming).take (count + 1)) ∧
              ∀ fewer ≤ count, Placeable body ((hook.seeks naming).take fewer) := by
  have agrees : (hook.run naming body).miss.map Miss.index =
      firstMissed? body 0 (hook.seeks naming) :=
    (hook.scope naming).miss_run_eq_firstMissed? hook.edits onward 0 (.start body) body 0 rfl
  simp only [← placeableFrom_zero]
  constructor
  · rw [← firstMissed?_eq_none, ← agrees, Option.map_eq_none_iff]
  · intro miss missed
    rw [missed, Option.map_some] at agrees
    exact firstMissed?_eq_some 0 (hook.seeks naming) miss.index agrees.symm

/-- Six edits with four patterns for a body of five loads. The code that the third edit brings
would hold the last pattern, but it stands behind the cursor, and the loads ahead are used up. -/
theorem Hook.miss_run_iff_placeable_last_of_four :
    let first : Instruction := ⟨0x2a, .none⟩
    let second : Instruction := ⟨0x2b, .none⟩
    let pair : Pattern := ⟨[first, second], by decide⟩
    let hook : Hook := {
      name := "pairs", target := .unmapped (.of "a.B") "run" "()V"
      edits := [.seekTo (.single first), .insert [⟨0x00, .none⟩],
        .replace pair [second, second, second], .markLabel ⟨"mid"⟩, .seekPast pair,
        .seekTo (.single second)] }
    let body : Body := [first, first, second, first, second]
    let seeks := hook.seeks .named
    .seekToStart ∉ hook.edits ∧
      (hook.run .named body).miss.map Miss.index = some 5 ∧
      ¬ Placeable body seeks ∧
      ∃ count, ∃ inside : count < seeks.length, seeks[count].index = 5 ∧
        ∀ fewer ≤ count, Placeable body (seeks.take fewer) := by
  intro first second pair hook body seeks
  have onward : .seekToStart ∉ hook.edits := by decide +kernel
  have index : (hook.run .named body).miss.map Miss.index = some 5 := by decide +kernel
  obtain ⟨succeeds, fails⟩ := hook.miss_run_iff_placeable .named body onward
  obtain ⟨miss, missed, numbered⟩ := Option.map_eq_some_iff.mp index
  obtain ⟨count, inside, named, _, placeable⟩ := fails miss missed
  refine ⟨onward, index, fun whole => ?_, count, inside, named.trans numbered, placeable⟩
  exact nomatch missed.symm.trans (succeeds.mpr whole)

end MethodPatch
