/-
This file proves that taking code out, putting code in and replacing code undo each other.

Any two bounds cut a body into three parts: the code in front of the window, the window, and the
code behind it. Each splice exchanges one of these parts and gives the length of what then comes in
front, so the parts are all that is needed to follow one splice by another. Clamping decides where
the cuts fall: first the end of the window moves back to the end of the body, and then its start
back to its end. By machine words the cuts fall in the same places, so none of them ever falls
outside the body.
-/

import MethodPatch.Body.Index
import Mathlib.Data.UInt

namespace MethodPatch

namespace Body

variable {body : Body}

/-! ### Three parts -/

/-- Code put in behind a front part. -/
theorem insert_append (front rest code : Body) :
    insert (front ++ rest) front.length code =
      ⟨front ++ code ++ rest, front.length + code.length⟩ := by
  have inside : min front.length (front ++ rest).length = front.length := by simp
  rw [insert, inside, List.take_left, List.drop_left]

theorem windowEnd_append (front window rest : Body) :
    windowEnd (front ++ window ++ rest) (front.length + window.length) =
      (front ++ window).length := by
  simp [windowEnd]

theorem windowStart_append (front window rest : Body) :
    windowStart (front ++ window ++ rest) front.length (front.length + window.length) =
      front.length := by
  rw [windowStart, windowEnd_append, List.length_append]
  exact Nat.min_eq_left (Nat.le_add_right _ _)

theorem replace_append (front window rest code : Body) :
    replace (front ++ window ++ rest) front.length (front.length + window.length) code =
      ⟨front ++ code ++ rest, front.length + code.length⟩ := by
  rw [replace, windowEnd_append, windowStart_append, List.drop_left, List.append_assoc front,
    List.take_left]

/-- Any two bounds cut a body into three parts, and every splice between them leaves these parts
apart from the one it exchanges. -/
theorem exists_parts (body : Body) (start stop : Nat) :
    ∃ front window rest, body = front ++ window ++ rest ∧
      body.windowStart start stop = front.length ∧
      body.windowEnd stop = front.length + window.length ∧
      body.remove start stop = ⟨front ++ rest, window⟩ ∧
      ∀ code, body.replace start stop code =
        ⟨front ++ code ++ rest, front.length + code.length⟩ := by
  have ordered : body.windowStart start stop ≤ body.windowEnd stop := Nat.min_le_right _ _
  have within : body.windowEnd stop ≤ body.length := Nat.min_le_right _ _
  have front : (body.take (body.windowStart start stop)).length = body.windowStart start stop :=
    List.length_take_of_le (Nat.le_trans ordered within)
  have window : ((body.take (body.windowEnd stop)).drop (body.windowStart start stop)).length =
      body.windowEnd stop - body.windowStart start stop := by
    rw [List.length_drop, List.length_take_of_le within]
  refine ⟨_, _, body.drop (body.windowEnd stop), ?_, front.symm, ?_, rfl, fun code => ?_⟩
  · have whole :=
      List.take_append_drop (body.windowStart start stop) (body.take (body.windowEnd stop))
    rw [List.take_take, Nat.min_eq_left ordered] at whole
    rw [whole, List.take_append_drop]
  · rw [front, window, Nat.add_sub_cancel' ordered]
  · rw [front]
    rfl

/-! ### Round trips -/

section

variable (body : Body) (start stop : Nat) (code : Body)

theorem length_remove :
    (body.remove start stop).body.length + (body.remove start stop).window.length =
      body.length := by
  obtain ⟨front, window, rest, split, _, _, removed, _⟩ := body.exists_parts start stop
  rw [removed, split]
  simp only [List.length_append]
  omega

theorem length_replace :
    (body.replace start stop code).body.length + (body.remove start stop).window.length =
      body.length + code.length := by
  obtain ⟨front, window, rest, split, _, _, removed, replaced⟩ := body.exists_parts start stop
  rw [removed, replaced, split]
  simp only [List.length_append]
  omega

theorem windowStart_le_length_remove :
    body.windowStart start stop ≤ (body.remove start stop).body.length := by
  obtain ⟨front, window, rest, _, first, _, removed, _⟩ := body.exists_parts start stop
  rw [removed, first, List.length_append]
  exact Nat.le_add_right _ _

theorem window_remove :
    (body.remove start stop).window = (body.drop (body.windowStart start stop)).take
      (body.windowEnd stop - body.windowStart start stop) := List.drop_take

/-- Putting the window back in restores the body. -/
theorem insert_window_remove :
    (body.remove start stop).body.insert (body.windowStart start stop)
        (body.remove start stop).window = ⟨body, body.windowEnd stop⟩ := by
  obtain ⟨front, window, rest, split, first, last, removed, _⟩ := body.exists_parts start stop
  rw [removed, first, last, insert_append, ← split]

/-- Replacing a window comes to taking it out and putting the new code in. -/
theorem insert_remove :
    (body.remove start stop).body.insert (body.windowStart start stop) code =
      body.replace start stop code := by
  obtain ⟨front, window, rest, _, first, _, removed, replaced⟩ := body.exists_parts start stop
  rw [removed, replaced, first, insert_append]

/-- Replacing a window by nothing leaves the place in which the new code is then put. -/
theorem insert_replace_nil :
    (body.replace start stop []).body.insert (body.replace start stop []).next code =
      body.replace start stop code := by
  obtain ⟨front, window, rest, _, _, _, _, replaced⟩ := body.exists_parts start stop
  rw [replaced, replaced, List.append_nil, List.length_nil, Nat.add_zero, insert_append]

/-- Replacing the new code by the window restores the body. -/
theorem replace_replace :
    (body.replace start stop code).body.replace (body.windowStart start stop)
        (body.windowStart start stop + code.length) (body.remove start stop).window =
      ⟨body, body.windowEnd stop⟩ := by
  obtain ⟨front, window, rest, split, first, last, removed, replaced⟩ :=
    body.exists_parts start stop
  rw [removed, replaced, first, last, replace_append, ← split]

end

/-! ### Bounds inside the body -/

theorem insert_of_inside {position : Nat} (inside : position ≤ body.length) (code : Body) :
    body.insert position code =
      ⟨body.take position ++ code ++ body.drop position, position + code.length⟩ := by
  rw [insert, Nat.min_eq_left inside]

theorem replace_of_inside {start stop : Nat} (ordered : start ≤ stop)
    (inside : stop ≤ body.length) (code : Body) :
    body.replace start stop code =
      ⟨body.take start ++ code ++ body.drop stop, start + code.length⟩ := by
  rw [replace, windowStart, windowEnd, Nat.min_eq_left inside, Nat.min_eq_left ordered]

/-! ### By machine words -/

/-- No list takes up more than half of the words, so its length is one. -/
theorem toNat_size (held : body.length < 2 ^ 63) : body.size.toNat = body.length :=
  UInt64.toNat_ofNat_of_lt' (Nat.lt_trans held (by decide))

theorem toNat_windowEndIndex (held : body.length < 2 ^ 63) (stop : Index) :
    (body.windowEndIndex stop).toNat = body.windowEnd stop.toNat := by
  rw [windowEndIndex, UInt64.toNat_min, toNat_size held, windowEnd]

theorem toNat_windowStartIndex (held : body.length < 2 ^ 63) (start stop : Index) :
    (body.windowStartIndex start stop).toNat = body.windowStart start.toNat stop.toNat := by
  rw [windowStartIndex, UInt64.toNat_min, toNat_windowEndIndex held, windowStart]

/-- Between indices that are in order and inside the body code can be exchanged. -/
theorem exchange?_of_inside (held : body.length < 2 ^ 63) {start stop : Index}
    (ordered : start.toNat ≤ stop.toNat) (inside : stop.toNat ≤ body.length) (code : Body) :
    body.exchange? start stop code =
      some ⟨body.take start.toNat ++ code ++ body.drop stop.toNat,
        (body.take stop.toNat).drop start.toNat⟩ := by
  have fits : start ≤ stop ∧ stop ≤ body.size := by
    rw [UInt64.le_iff_toNat_le, UInt64.le_iff_toNat_le, toNat_size held]
    exact ⟨ordered, inside⟩
  rw [exchange?, slice?, if_pos fits]
  rfl

/-- The clamped bounds of a window are always in order and inside the body. -/
theorem exchange?_window (held : body.length < 2 ^ 63) (start stop : Index) (code : Body) :
    body.exchange? (body.windowStartIndex start stop) (body.windowEndIndex stop) code =
      some ⟨(body.replace start.toNat stop.toNat code).body,
        (body.remove start.toNat stop.toNat).window⟩ := by
  have first := toNat_windowStartIndex held start stop
  have last := toNat_windowEndIndex held stop
  have ordered : body.windowStart start.toNat stop.toNat ≤ body.windowEnd stop.toNat :=
    Nat.min_le_right _ _
  have within : body.windowEnd stop.toNat ≤ body.length := Nat.min_le_right _ _
  rw [exchange?_of_inside held (by rwa [first, last]) (by rwa [last]), first, last]
  rfl

theorem removeIndex?_eq (held : body.length < 2 ^ 63) (start stop : Index) :
    body.removeIndex? start stop = some (body.remove start.toNat stop.toNat) := by
  rw [removeIndex?, exchange?_window held, replace, List.append_nil]
  rfl

/-- The position behind the new code is a word, since no code takes up more than half of them. -/
theorem toNat_add_size {code : Body} (held : body.length + code.length < 2 ^ 63) {index : Index}
    (inside : index.toNat ≤ body.length) :
    (index + code.size).toNat = index.toNat + code.length := by
  rw [UInt64.toNat_add, toNat_size (by omega)]
  exact Nat.mod_eq_of_lt (by omega)

theorem replaceIndex?_eq {code : Body} (held : body.length + code.length < 2 ^ 63)
    (start stop : Index) :
    body.replaceIndex? start stop code = some (body.replace start.toNat stop.toNat code) := by
  have first := toNat_windowStartIndex (Nat.lt_of_add_right_lt held) start stop
  have inside : (body.windowStartIndex start stop).toNat ≤ body.length := by
    rw [first]
    exact Nat.le_trans (Nat.min_le_right _ _) (Nat.min_le_right _ _)
  rw [replaceIndex?, exchange?_window (Nat.lt_of_add_right_lt held), toNat_add_size held inside,
    first]
  rfl

theorem insertIndex?_eq {code : Body} (held : body.length + code.length < 2 ^ 63)
    {position : Index} (inside : position.toNat ≤ body.length) :
    body.insertIndex? position code = some (body.insert position.toNat code) := by
  have allowed : position ≤ body.size := by
    rwa [UInt64.le_iff_toNat_le, toNat_size (Nat.lt_of_add_right_lt held)]
  rw [insertIndex?, if_pos allowed, exchange?_of_inside (Nat.lt_of_add_right_lt held) le_rfl inside,
    toNat_add_size held inside, insert_of_inside inside]
  rfl

/-! ### Bounds of all sorts -/

/-- The window taken out between two bounds is the code between the clamped bounds, and putting it
back in there restores the body. Replacing it comes to taking it out and putting the new code in,
and replacing the new code by the window restores the body as well. Code is never put in behind the
end of the body. By machine words the same holds for all bounds, and no splice fails. -/
theorem splices_undo (body code : Body) :
    (∀ start stop : Nat,
      let last := min stop body.length
      let first := min start last
      let removed := body.remove start stop
      let replaced := body.replace start stop code
      first ≤ removed.body.length ∧
        removed.window = (body.drop first).take (last - first) ∧
        removed.body.insert first removed.window = ⟨body, last⟩ ∧
        removed.body.insert first code = replaced ∧
        replaced.next = first + code.length ∧
        replaced.body.replace first (first + code.length) removed.window = ⟨body, last⟩) ∧
    (body.length + code.length < 2 ^ 63 → ∀ start stop : Index,
      let last := min stop body.size
      let first := min start last
      ∃ removed replaced,
        body.removeIndex? start stop = some removed ∧
        body.replaceIndex? start stop code = some replaced ∧
        removed.window = (body.drop first.toNat).take (last.toNat - first.toNat) ∧
        removed.body.insertIndex? first removed.window = some ⟨body, last.toNat⟩ ∧
        removed.body.insertIndex? first code = some replaced ∧
        replaced.body.replaceIndex? first (first + code.size) removed.window =
          some ⟨body, last.toNat⟩) := by
  refine ⟨fun start stop => ?_, fun held start stop => ?_⟩
  · exact ⟨body.windowStart_le_length_remove start stop, body.window_remove start stop,
      body.insert_window_remove start stop, body.insert_remove start stop code, rfl,
      body.replace_replace start stop code⟩
  · intro last first
    have heldBody : body.length < 2 ^ 63 := Nat.lt_of_add_right_lt held
    have first_eq : first.toNat = body.windowStart start.toNat stop.toNat :=
      toNat_windowStartIndex heldBody start stop
    have last_eq : last.toNat = body.windowEnd stop.toNat := toNat_windowEndIndex heldBody stop
    have shorter := body.length_remove start.toNat stop.toNat
    have exchanged := body.length_replace start.toNat stop.toNat code
    have inside := body.windowStart_le_length_remove start.toNat stop.toNat
    have within : body.windowStart start.toNat stop.toNat ≤ body.length :=
      Nat.le_trans (Nat.min_le_right _ _) (Nat.min_le_right _ _)
    refine ⟨_, _, removeIndex?_eq heldBody start stop, replaceIndex?_eq held start stop, ?_, ?_, ?_,
      ?_⟩
    · rw [first_eq, last_eq, window_remove]
    · rw [insertIndex?_eq (by omega) (by rwa [first_eq]), first_eq, last_eq, insert_window_remove]
    · rw [insertIndex?_eq (by omega) (by rwa [first_eq]), first_eq, insert_remove]
    · rw [replaceIndex?_eq (by omega), toNat_add_size held (by rwa [first_eq]), first_eq, last_eq,
        replace_replace]

/-- Two windows of a body, by words: one reaches beyond the end and as far as there are words, and
the other starts there and ends before it starts, so that it is empty. -/
theorem splices_undo_two_windows :
    let load (slot : Int32) : Instruction := ⟨0x19, .slot slot⟩
    let body : Body := [load 0, load 1, load 2]
    let code : Body := [⟨0x00, .none⟩, .anchor ⟨"end"⟩]
    body.length + code.length < 2 ^ 63 ∧
      (∃ removed replaced, body.removeIndex? 1 .greatest = some removed ∧
        body.replaceIndex? 1 .greatest code = some replaced ∧
        removed.window = [load 1, load 2] ∧
        removed.body.insertIndex? 1 removed.window = some ⟨body, 3⟩ ∧
        removed.body.insertIndex? 1 code = some replaced ∧
        replaced.body.replaceIndex? 1 3 removed.window = some ⟨body, 3⟩) ∧
      ∃ removed replaced, body.removeIndex? .greatest 2 = some removed ∧
        body.replaceIndex? .greatest 2 code = some replaced ∧
        removed.window = [] ∧
        removed.body.insertIndex? 2 removed.window = some ⟨body, 2⟩ ∧
        removed.body.insertIndex? 2 code = some replaced ∧
        replaced.body.replaceIndex? 2 4 removed.window = some ⟨body, 2⟩ := by
  intro load body code
  have held : body.length + code.length < 2 ^ 63 := by decide
  obtain ⟨_, indexed⟩ := splices_undo body code
  exact ⟨held, indexed held 1 .greatest, indexed held .greatest 2⟩

end Body

end MethodPatch
