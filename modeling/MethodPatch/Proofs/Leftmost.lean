/-
This file proves that a search gives the leftmost place of a pattern from any start.

A pattern matches where its window lies inside the body and the instructions there agree with its
own one by one. Both ways of searching give the least such place that is not before the start, and
nothing exactly when there is none. Searching by indices takes care of the words: the end of a
window is cut to the greatest word instead of wrapping around. That is sound because no list takes
up more than half of the words, so that a window which is cut always lies outside the body.
-/

import MethodPatch.Pattern.Index
import MethodPatch.Proofs.Search
import MethodPatch.Proofs.Splices

namespace MethodPatch

/-! ### Matching one by one -/

namespace Pattern

/-- The window of the pattern lies inside the body, and the instructions there agree with those of
the pattern one by one. -/
structure Matches (pattern : Pattern) (body : Body) (position : Nat) : Prop where
  inside : position + pattern.length ≤ body.length
  agrees : ∀ number found wanted, body[position + number]? = some found →
    pattern.instructions[number]? = some wanted → found.agrees wanted = true

/-- The pattern matches at the position and nowhere between the start and the position. -/
structure Leftmost (pattern : Pattern) (body : Body) (start position : Nat) : Prop where
  behind : start ≤ position
  holds : pattern.Matches body position
  least : ∀ earlier, start ≤ earlier → earlier < position → ¬ pattern.Matches body earlier

variable {pattern : Pattern} {body : Body} {start position : Nat}

theorem isAt_iff_matches : pattern.isAt body position = true ↔ pattern.Matches body position := by
  constructor
  · intro found
    have inside := add_length_le_of_isAt found
    rw [isAt, Body.opensWith_iff_forall₂, List.forall₂_iff_get] at found
    obtain ⟨whole, agrees⟩ := found
    refine ⟨inside, fun number found wanted there sought => ?_⟩
    obtain ⟨_, rfl⟩ := List.getElem?_eq_some_iff.mp there
    obtain ⟨within, rfl⟩ := List.getElem?_eq_some_iff.mp sought
    simpa using agrees number (Nat.lt_of_lt_of_eq within whole.symm) within
  · rintro ⟨inside, agrees⟩
    rw [length] at inside
    rw [isAt, Body.opensWith_iff_forall₂, List.forall₂_iff_get]
    refine ⟨by simp; omega, fun number _ within => agrees number _ _ ?_ ?_⟩
    · simp [List.getElem?_eq_getElem (show position + number < body.length by omega)]
    · simp [within]

theorem find?_eq_some_iff_leftmost :
    pattern.find? body start = some position ↔ pattern.Leftmost body start position := by
  rw [find?_eq_some, isAt_iff_matches]
  simp only [Bool.eq_false_iff, ne_eq, isAt_iff_matches]
  exact ⟨fun ⟨behind, holds, least⟩ => ⟨behind, holds, least⟩,
    fun ⟨behind, holds, least⟩ => ⟨behind, holds, least⟩⟩

theorem find?_eq_none_iff_matches :
    pattern.find? body start = none ↔
      ∀ position, start ≤ position → ¬ pattern.Matches body position := by
  rw [find?_eq_none]
  simp only [Bool.eq_false_iff, ne_eq, isAt_iff_matches]

end Pattern

/-! ### Words -/

namespace Index

/-- Going further on never wraps around. -/
theorem toNat_advance (index count : Index) :
    (index.advance count).toNat = min (index.toNat + count.toNat) (UInt64.size - 1) := by
  have bound := index.toNat_lt_size
  have countBound := count.toNat_lt_size
  have sum := UInt64.toNat_add index count
  simp only [UInt64.size] at bound countBound ⊢
  unfold advance
  split
  · next wrapped =>
    have last : greatest.toNat = 2 ^ 64 - 1 := rfl
    rw [UInt64.lt_iff_toNat_lt] at wrapped
    omega
  · next fits =>
    rw [UInt64.lt_iff_toNat_lt] at fits
    omega

theorem retreat?_of_le {index count : Index} (enough : count ≤ index) :
    index.retreat? count = some (index - count) := if_pos enough

theorem mem_upTo {first last index : Index} :
    index ∈ first.upTo last ↔ first ≤ index ∧ index ≤ last := by
  have bound := last.toNat_lt_size
  simp only [upTo, List.mem_map, List.mem_range'_1, UInt64.le_iff_toNat_le]
  constructor
  · rintro ⟨number, ⟨lower, upper⟩, rfl⟩
    rw [UInt64.toNat_ofNat_of_lt' (by omega)]
    omega
  · rintro ⟨lower, upper⟩
    exact ⟨index.toNat, by omega, UInt64.ofNat_toNat⟩

/-- Searching upward gives the least index that passes the test. -/
theorem find?_upTo_eq_some {first last index : Index} {holds : Index → Bool}
    (within : index ∈ first.upTo last) (passes : holds index = true)
    (least : ∀ earlier, first ≤ earlier → earlier < index → holds earlier = false) :
    (first.upTo last).find? holds = some index := by
  rw [mem_upTo, UInt64.le_iff_toNat_le, UInt64.le_iff_toNat_le] at within
  have bound := index.toNat_lt_size
  rw [upTo, List.find?_map, Option.map_eq_some_iff]
  refine ⟨index.toNat, List.find?_range'_eq_some.mpr ⟨?_, ?_, fun number lower before => ?_⟩,
    UInt64.ofNat_toNat⟩
  · rwa [Function.comp_apply, UInt64.ofNat_toNat]
  · rw [List.mem_range'_1]
    omega
  · have same : (UInt64.ofNat number).toNat = number := UInt64.toNat_ofNat_of_lt' (by omega)
    rw [Function.comp_apply, least (.ofNat number)]
    · rfl
    · rwa [UInt64.le_iff_toNat_le, same]
    · rwa [UInt64.lt_iff_toNat_lt, same]

end Index

/-! ### Windows -/

namespace Body

variable {body : Body}

theorem slice?_of_inside (held : body.length < 2 ^ 63) {start count : Index}
    (inside : start.toNat + count.toNat ≤ body.length) :
    body.slice? start (start.advance count) = some ((body.drop start.toNat).take count.toNat) := by
  have stop : (start.advance count).toNat = start.toNat + count.toNat := by
    rw [Index.toNat_advance]
    exact Nat.min_eq_left (by simp only [UInt64.size]; omega)
  rw [slice?, if_pos, stop, List.drop_take, Nat.add_sub_cancel_left]
  rw [UInt64.le_iff_toNat_le, UInt64.le_iff_toNat_le, stop, toNat_size held]
  exact ⟨Nat.le_add_right _ _, inside⟩

/-- A window that leaves the body is none, also where the sum of its start and its length is no
word. -/
theorem slice?_of_outside (held : body.length < 2 ^ 63) {start count : Index}
    (outside : body.length < start.toNat + count.toNat) :
    body.slice? start (start.advance count) = none := by
  rw [slice?, if_neg]
  rw [UInt64.le_iff_toNat_le (b := body.size), Index.toNat_advance, toNat_size held]
  simp only [UInt64.size]
  omega

end Body

/-! ### Searching by indices -/

namespace Pattern

variable {pattern : Pattern} {body : Body} {start : Index}

/-- A pattern is found at an index where it is found at the position. -/
theorem isAtIndex_eq (held : body.length < 2 ^ 63) (heldPattern : pattern.length < 2 ^ 63)
    (start : Index) : pattern.isAtIndex body start = pattern.isAt body start.toNat := by
  have count := Body.toNat_size heldPattern
  by_cases inside : start.toNat + pattern.length ≤ body.length
  · rw [isAtIndex, Body.slice?_of_inside held (by rwa [count]), Bool.eq_iff_iff, isAt,
      Body.opensWith_iff_forall₂, List.forall₂_iff_zip, count, List.all_eq_true]
    have whole : ((body.drop start.toNat).take pattern.instructions.length).length =
        pattern.instructions.length := by
      rw [length] at inside
      simp
      omega
    exact ⟨fun agree => ⟨whole, fun paired => agree _ paired⟩,
      fun agree pair paired => agree.2 paired⟩
  · rw [isAtIndex, Body.slice?_of_outside held (by rw [count]; exact Nat.lt_of_not_le inside)]
    exact (Bool.eq_false_iff.mpr fun found => inside (add_length_le_of_isAt found)).symm

/-- Both ways of searching give the same place. -/
theorem findIndex?_eq (held : body.length < 2 ^ 63) (heldPattern : pattern.length < 2 ^ 63)
    (start : Index) :
    pattern.findIndex? body start = (pattern.find? body start.toNat).map .ofNat := by
  cases found : pattern.find? body start.toNat with
  | none =>
    have nowhere := (find?_eq_none _ _ _).mp found
    refine Option.bind_eq_none_iff.mpr fun last _ => List.find?_eq_none.mpr fun index member => ?_
    have behind := UInt64.le_iff_toNat_le.mp (Index.mem_upTo.mp member).1
    rw [isAtIndex_eq held heldPattern, nowhere index.toNat behind]
    exact Bool.false_ne_true
  | some position =>
    obtain ⟨behind, here, least⟩ := (find?_eq_some _ _ _ _).mp found
    have inside : position + pattern.instructions.length ≤ body.length :=
      add_length_le_of_isAt here
    have place : (UInt64.ofNat position).toNat = position :=
      UInt64.toNat_ofNat_of_lt' (by simp only [UInt64.size]; omega)
    have room : pattern.instructions.size ≤ body.size := by
      rw [UInt64.le_iff_toNat_le, Body.toNat_size held, Body.toNat_size heldPattern]
      omega
    rw [findIndex?, Index.retreat?_of_le room]
    refine Index.find?_upTo_eq_some (Index.mem_upTo.mpr ⟨?_, ?_⟩) ?_
      fun earlier behindStart before => ?_
    · rwa [UInt64.le_iff_toNat_le, place]
    · rw [UInt64.le_iff_toNat_le, place, UInt64.toNat_sub_of_le _ _ room, Body.toNat_size held,
        Body.toNat_size heldPattern]
      omega
    · rwa [isAtIndex_eq held heldPattern, place]
    · rw [UInt64.lt_iff_toNat_lt, place] at before
      rw [isAtIndex_eq held heldPattern,
        least earlier.toNat (UInt64.le_iff_toNat_le.mp behindStart) before]

theorem findIndex?_eq_some_iff_leftmost (held : body.length < 2 ^ 63)
    (heldPattern : pattern.length < 2 ^ 63) {position : Index} :
    pattern.findIndex? body start = some position ↔
      pattern.Leftmost body start.toNat position.toNat := by
  rw [findIndex?_eq held heldPattern, Option.map_eq_some_iff]
  constructor
  · rintro ⟨number, found, rfl⟩
    have leftmost := find?_eq_some_iff_leftmost.mp found
    have inside := leftmost.holds.inside
    rwa [UInt64.toNat_ofNat_of_lt' (by simp only [UInt64.size]; omega)]
  · exact fun leftmost =>
      ⟨position.toNat, find?_eq_some_iff_leftmost.mpr leftmost, UInt64.ofNat_toNat⟩

/-- A search gives the leftmost place from its start on at which the pattern matches, and nothing
exactly when the pattern matches nowhere from there on. In a body that a machine can hold the same
goes for a search from any index, and where the window leaves the body the pattern is not found,
even if the end of the window is no word. -/
theorem find?_iff_leftmost (pattern : Pattern) (body : Body) :
    (∀ start position, pattern.find? body start = some position ↔
      pattern.Leftmost body start position) ∧
    (∀ start, pattern.find? body start = none ↔
      ∀ position, start ≤ position → ¬ pattern.Matches body position) ∧
    (∀ position, pattern.isAt body position = true ↔ pattern.Matches body position) ∧
    (body.length < 2 ^ 63 → pattern.length < 2 ^ 63 → ∀ start : Index,
      (∀ position, pattern.findIndex? body start = some position ↔
        pattern.Leftmost body start.toNat position.toNat) ∧
      (pattern.findIndex? body start = none ↔
        ∀ position, start.toNat ≤ position → ¬ pattern.Matches body position) ∧
      (pattern.isAtIndex body start = true ↔ pattern.Matches body start.toNat) ∧
      (body.length < start.toNat + pattern.length → pattern.isAtIndex body start = false)) := by
  refine ⟨fun _ _ => find?_eq_some_iff_leftmost, fun _ => find?_eq_none_iff_matches,
    fun _ => isAt_iff_matches, fun held heldPattern start =>
      ⟨fun _ => ?_, ?_, ?_, fun outside => ?_⟩⟩
  · exact findIndex?_eq_some_iff_leftmost held heldPattern
  · rw [findIndex?_eq held heldPattern, Option.map_eq_none_iff, find?_eq_none_iff_matches]
  · rw [isAtIndex_eq held heldPattern, isAt_iff_matches]
  · rw [isAtIndex_eq held heldPattern, Bool.eq_false_iff, ne_eq, isAt_iff_matches]
    exact fun here => absurd here.inside (Nat.not_le.mpr outside)

/-- A pattern that leaves a slot open and matches twice, after a place where only its first
instruction agrees. The window at the greatest index ends at no word. -/
theorem find?_iff_leftmost_two_of_five :
    let load (slot : Int32) : Instruction := ⟨0x19, .slot slot⟩
    let done : Instruction := ⟨0xb1, .none⟩
    let pattern : Pattern := ⟨[load (-1), done], by decide⟩
    let body : Body := [load 0, load 11, done, load 2, done]
    body.length < 2 ^ 63 ∧ pattern.length < 2 ^ 63 ∧ pattern.Leftmost body 0 1 ∧
      (∀ position, 4 ≤ position → ¬ pattern.Matches body position) ∧
      pattern.findIndex? body 2 = some 3 ∧
      UInt64.size < Index.greatest.toNat + pattern.length ∧
      pattern.isAtIndex body .greatest = false ∧ pattern.findIndex? body .greatest = none := by
  intro load done pattern body
  have held : body.length < 2 ^ 63 := by decide
  have heldPattern : pattern.length < 2 ^ 63 := by decide
  obtain ⟨found, nowhere, _, indexed⟩ := find?_iff_leftmost pattern body
  obtain ⟨_, none, _, outside⟩ := indexed held heldPattern .greatest
  refine ⟨held, heldPattern, (found 0 1).mp (by decide), (nowhere 4).mp (by decide), ?_, by decide,
    outside (by decide), none.mpr ?_⟩
  · exact ((indexed held heldPattern 2).1 3).mpr ((found 2 3).mp (by decide))
  · exact fun position behind holds => (nowhere 4).mp (by decide) position
      (Nat.le_trans (by decide) behind) holds

end Pattern

end MethodPatch
