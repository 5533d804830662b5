/-
This file proves that labels point to the right instructions, and still do so after code is put in.

There are two ways to count. Positions count all instructions of a body and say where code goes;
offsets count its real instructions and say where a branch arrives. The offset of a label is the
number of real instructions in front of its anchor, so the two ways of counting are tied by the
code in front of a place. Putting code in leaves the code in front of an earlier anchor as it is,
and adds the new code to what is in front of a later one. The real instructions themselves are
renumbered in the same way (`Body.renumber`), except that a label can be cut off from the real
instruction behind it when only anchors stand between the two (`Body.CutsOff`).
-/

import MethodPatch.Proofs.Survey

namespace MethodPatch

namespace Body

variable {body code : Body} {instruction : Instruction} {label : Label} {offsets after : Offsets}
  {place position offset : Nat}

/-! ### Real instructions -/

theorem real_append (first second : Body) : (first ++ second).real = first.real ++ second.real :=
  List.filter_append ..

theorem head?_real (body : Body) : body.real.head? = body.find? fun other => !other.isAnchor :=
  List.head?_filter

theorem real_cons_anchor (anchored : instruction.anchored? = some label) (rest : Body) :
    real (instruction :: rest) = rest.real :=
  List.filter_cons_of_neg (by simp [Instruction.isAnchor, anchored])

theorem real_cons_plain (plain : instruction.anchored? = none) (rest : Body) :
    real (instruction :: rest) = instruction :: rest.real :=
  List.filter_cons_of_pos (by simp [Instruction.isAnchor, plain])

theorem AnchorsAt.real_eq (here : body.AnchorsAt place label) :
    body.real = real (body.take place) ++ real (body.drop (place + 1)) := by
  obtain ⟨instruction, anchored, whole⟩ := here.split
  conv_lhs => rw [whole, real_append, real_cons_anchor anchored]

/-! ### Offsets -/

/-- The offset of a label counts the real instructions in front of its anchor. -/
theorem lookup_offsetsFrom (start : Nat) {front : Body} (rest : Body)
    (anchored : instruction.anchored? = some label) (fresh : label ∉ front.anchors) :
    (offsetsFrom start (front ++ instruction :: rest)).lookup label =
      some (start + front.real.length) := by
  induction front generalizing start with
  | nil => simp [offsetsFrom, anchored, real]
  | cons first front inductionHypothesis =>
    rw [List.cons_append, offsetsFrom]
    rw [anchors, List.filterMap_cons] at fresh
    cases other : first.anchored? with
    | some early =>
      rw [other, List.mem_cons, not_or] at fresh
      rw [List.lookup_cons, beq_false_of_ne fresh.1, inductionHypothesis start fresh.2,
        real_cons_anchor other]
    | none =>
      rw [other] at fresh
      rw [inductionHypothesis (start + 1) fresh, real_cons_plain other, List.length_cons,
        Nat.add_assoc, Nat.add_comm 1]

theorem of_surveyOffsets_eq_ok (resolved : body.surveyOffsets = .ok offsets) :
    body.SoundLabels ∧ offsets = offsetsFrom 0 body := by
  rw [surveyOffsets_eq] at resolved
  cases found : body.offsets with
  | error fault => rw [found] at resolved; cases resolved
  | ok given =>
    rw [found] at resolved
    cases resolved
    refine ⟨exists_offsets.mp ⟨offsets, found⟩, ?_⟩
    unfold Body.offsets at found
    split at found
    · cases found
    · split at found
      · cases found
      · exact (Except.ok.inj found).symm

theorem isSome_lookup_offset (resolved : body.surveyOffsets = .ok offsets) (label : Label) :
    (offsets.lookup label).isSome ↔ label ∈ body.anchors := by
  rw [(of_surveyOffsets_eq_ok resolved).2, isSome_lookup_iff, map_fst_offsetsFrom]

theorem lookup_offset (resolved : body.surveyOffsets = .ok offsets)
    (here : body.AnchorsAt place label) :
    offsets.lookup label = some (real (body.take place)).length := by
  obtain ⟨sound, rfl⟩ := of_surveyOffsets_eq_ok resolved
  obtain ⟨instruction, anchored, whole⟩ := here.split
  have distinct := sound.distinct
  rw [here.anchors_eq] at distinct
  have fresh : label ∉ anchors (body.take place) := fun before =>
    (List.nodup_append.mp distinct).2.2 label before label List.mem_cons_self rfl
  have found := lookup_offsetsFrom 0 (body.drop (place + 1)) anchored fresh
  rwa [← whole, Nat.zero_add] at found

/-- A label leads to the first real instruction behind its anchor. -/
theorem AnchorsAt.getElem?_real (here : body.AnchorsAt place label) :
    body.real[(real (body.take place)).length]? =
      (body.drop (place + 1)).find? fun other => !other.isAnchor := by
  rw [here.real_eq, List.getElem?_append_right (Nat.le_refl _), Nat.sub_self,
    ← List.head?_eq_getElem?, head?_real]

/-! ### Putting code in -/

/-- The offset that a real instruction comes to have when code is put in at a position. -/
def renumber (body : Body) (position : Nat) (code : Body) (offset : Nat) : Nat :=
  if offset < (real (body.take position)).length then offset else offset + code.real.length

/-- Putting code in at the position cuts an anchor off from the real instruction behind it. -/
structure CutsOff (body : Body) (position place : Nat) : Prop where
  behind : place < position
  onlyAnchors : ∀ instruction ∈ (body.take position).drop (place + 1), instruction.isAnchor = true

theorem insert_eq (body : Body) (position : Nat) (code : Body) :
    (body.insert position code).body = body.take position ++ code ++ body.drop position := by
  rcases Nat.le_total position body.length with inside | beyond
  · rw [insert, Nat.min_eq_left inside]
  · rw [insert, Nat.min_eq_right beyond, List.take_length, List.drop_length,
      List.take_of_length_le beyond, List.drop_of_length_le beyond]

theorem renumber_strictMono (body : Body) (position : Nat) (code : Body) :
    StrictMono (body.renumber position code) := by
  intro first second smaller
  rw [renumber, renumber]
  split <;> split <;> omega

/-- The real instructions of the body stay the same under their new offsets. -/
theorem getElem?_real_insert (body : Body) (position : Nat) (code : Body) (offset : Nat) :
    (body.insert position code).body.real[body.renumber position code offset]? =
      body.real[offset]? := by
  have whole : body.real = real (body.take position) ++ real (body.drop position) := by
    rw [← real_append, List.take_append_drop]
  rw [insert_eq, real_append, real_append, renumber, whole]
  split
  · next before =>
    rw [List.append_assoc, List.getElem?_append_left before, List.getElem?_append_left before]
  · next notBefore =>
    have behind := Nat.le_of_not_lt notBefore
    rw [List.getElem?_append_right behind, List.getElem?_append_right (by simp; omega)]
    congr 1
    rw [List.length_append]
    omega

/-- An anchor in front of the new code stays where it is, with the same code in front of it. -/
theorem AnchorsAt.insert_behind (here : body.AnchorsAt place label) (code : Body)
    (before : place < position) : (body.insert position code).body.AnchorsAt place label ∧
      (body.insert position code).body.take place = body.take place := by
  have inside := here.lt_length
  have inFront : place < (body.take position).length := by
    rw [List.length_take]
    omega
  rw [insert_eq, AnchorsAt, List.append_assoc, List.getElem?_append_left inFront,
    List.getElem?_take_of_lt before, List.take_append_of_le_length (Nat.le_of_lt inFront),
    List.take_take, Nat.min_eq_left (Nat.le_of_lt before)]
  exact ⟨here, rfl⟩

/-- An anchor behind the new code moves on by its length, and the new code comes in front of it. -/
theorem AnchorsAt.insert_before (here : body.AnchorsAt place label) (code : Body)
    (notBefore : position ≤ place) :
    (body.insert position code).body.AnchorsAt (place + code.length) label ∧
      (body.insert position code).body.take (place + code.length) =
        body.take position ++ code ++ (body.drop position).take (place - position) := by
  have inside := here.lt_length
  have front : (body.take position ++ code).length = position + code.length := by
    rw [List.length_append, List.length_take_of_le (by omega)]
  have place_eq :
      place + code.length = (body.take position ++ code).length + (place - position) := by
    omega
  rw [insert_eq, AnchorsAt, place_eq, List.getElem?_append_right (Nat.le_add_right _ _),
    Nat.add_sub_cancel_left, List.getElem?_drop, Nat.add_sub_cancel' notBefore,
    List.take_length_add_append]
  exact ⟨here, rfl⟩

/-- A label keeps its offset when code is put in behind its anchor. Otherwise its offset grows by
the number of real instructions put in. -/
theorem lookup_offset_insert (resolved : (body.insert position code).body.surveyOffsets = .ok after)
    (here : body.AnchorsAt place label) :
    after.lookup label = some (if place < position then (real (body.take place)).length
      else (real (body.take place)).length + code.real.length) := by
  split
  · next before =>
    obtain ⟨there, front⟩ := here.insert_behind code before
    rw [lookup_offset resolved there, front]
  · next notBefore =>
    obtain ⟨there, front⟩ := here.insert_before code (Nat.le_of_not_lt notBefore)
    have whole : body.take place =
        body.take position ++ (body.drop position).take (place - position) := by
      rw [← List.take_add, Nat.add_sub_cancel' (Nat.le_of_not_lt notBefore)]
    rw [lookup_offset resolved there, front, whole]
    simp only [real_append, List.length_append]
    congr 1
    omega

/-! ### Following a label after code is put in -/

/-- The real instructions in front of the new code are those in front of an anchor there, and those
between the two. -/
theorem AnchorsAt.length_real_take (here : body.AnchorsAt place label) (before : place < position) :
    (real (body.take position)).length = (real (body.take place)).length +
      (real ((body.take position).drop (place + 1))).length := by
  have there : AnchorsAt (body.take position) place label := by
    rwa [AnchorsAt, List.getElem?_take_of_lt before]
  rw [there.real_eq, List.length_append, List.take_take, Nat.min_eq_left (Nat.le_of_lt before)]

/-- A label that is not cut off from the real instruction behind it moves as this instruction
does. -/
theorem renumber_of_not_cutsOff (here : body.AnchorsAt place label) (code : Body)
    (linked : ¬ body.CutsOff position place) :
    body.renumber position code (real (body.take place)).length =
      if place < position then (real (body.take place)).length
      else (real (body.take place)).length + code.real.length := by
  rw [renumber]
  by_cases before : place < position
  · have between : 0 < (real ((body.take position).drop (place + 1))).length := by
      rw [List.length_pos_iff]
      intro nothing
      refine linked ⟨before, fun instruction member => ?_⟩
      simpa using List.filter_eq_nil_iff.mp nothing instruction member
    have total := here.length_real_take before
    rw [if_pos before, if_pos (by omega)]
  · have shorter : (real (body.take position)).length ≤ (real (body.take place)).length :=
      ((List.take_sublist_take_left (Nat.le_of_not_lt before)).filter _).length_le
    rw [if_neg before, if_neg (Nat.not_lt.mpr shorter)]

/-- A label that is cut off leads into the new code, or behind it when nothing in it is real. -/
theorem CutsOff.getElem?_real (cuts : body.CutsOff position place)
    (here : body.AnchorsAt place label) (code : Body) :
    (body.insert position code).body.real[(real (body.take place)).length]? =
      (code.real ++ real (body.drop position)).head? := by
  have nothing : real ((body.take position).drop (place + 1)) = [] :=
    List.filter_eq_nil_iff.mpr fun instruction member => by
      simp [cuts.onlyAnchors instruction member]
  have total := here.length_real_take cuts.behind
  rw [nothing, List.length_nil, Nat.add_zero] at total
  rw [insert_eq, real_append, real_append, ← total, List.append_assoc,
    List.getElem?_append_right (Nat.le_refl _), Nat.sub_self, ← List.head?_eq_getElem?]

/-- When the offsets of a body are worked out, they are the offsets of the labels anchored there. A
label leads to the first real instruction behind its anchor, or to the end of the body where none
follows. When code is put in and the offsets are worked out again, a label keeps its offset if its
anchor is in front of the code, and otherwise its offset grows by the number of real instructions
put in. Unless the code cuts the anchor off from the real instruction behind it, the label still
leads to that instruction; where it does, the label leads into the code. -/
theorem surveyOffsets_insert (resolved : body.surveyOffsets = .ok offsets) :
    (∀ label, (offsets.lookup label).isSome ↔ label ∈ body.anchors) ∧
    (∀ label ∈ body.anchors, ∃ place, body.AnchorsAt place label) ∧
    (∀ place label, body.AnchorsAt place label → ∃ offset,
      offset = (real (body.take place)).length ∧ offsets.lookup label = some offset ∧
      (body.real[offset]? = (body.drop (place + 1)).find? fun other => !other.isAnchor) ∧
      (real (body.drop (place + 1)) = [] → offset = body.real.length)) ∧
    ∀ position code after, (body.insert position code).body.surveyOffsets = .ok after →
      StrictMono (body.renumber position code) ∧
      (∀ offset, (body.insert position code).body.real[body.renumber position code offset]? =
        body.real[offset]?) ∧
      ∀ place label offset, body.AnchorsAt place label → offsets.lookup label = some offset →
        after.lookup label =
          some (if place < position then offset else offset + code.real.length) ∧
        (¬ body.CutsOff position place →
          after.lookup label = some (body.renumber position code offset)) ∧
        (body.CutsOff position place → after.lookup label = some offset ∧
          (body.insert position code).body.real[offset]? =
            (code.real ++ real (body.drop position)).head?) := by
  refine ⟨isSome_lookup_offset resolved, fun _ => mem_anchors_iff.mp, ?_, ?_⟩
  · intro place label here
    refine ⟨_, rfl, lookup_offset resolved here, here.getElem?_real, fun nothing => ?_⟩
    rw [here.real_eq, nothing, List.append_nil]
  · intro position code after resolvedAfter
    refine ⟨body.renumber_strictMono position code, body.getElem?_real_insert position code, ?_⟩
    intro place label offset here found
    obtain rfl : (real (body.take place)).length = offset :=
      Option.some_inj.mp ((lookup_offset resolved here).symm.trans found)
    have moved := lookup_offset_insert resolvedAfter here
    refine ⟨moved, fun linked => ?_, fun cuts => ⟨?_, cuts.getElem?_real here code⟩⟩
    · rw [moved, renumber_of_not_cutsOff here code linked]
    · rw [moved, if_pos cuts.behind]

/-- Code with an anchor and a branch of its own is put in between two anchors in a row. The first of
them now leads into the code, the second one still leads to the instruction behind it, and so do the
first and the last label of the body. -/
theorem surveyOffsets_insert_between_anchors :
    let branch (target : String) : Instruction := ⟨0xa7, .jump ⟨target⟩⟩
    let anchor (label : String) : Instruction := .anchor ⟨label⟩
    let body : Body := [anchor "start", ⟨0x00, .none⟩, branch "end", anchor "first",
      anchor "second", branch "start", anchor "end"]
    let code : Body := [branch "second", anchor "own", ⟨0x03, .none⟩, branch "own"]
    let offsets : Offsets := [(⟨"start"⟩, 0), (⟨"first"⟩, 2), (⟨"second"⟩, 2), (⟨"end"⟩, 3)]
    let after : Offsets :=
      [(⟨"start"⟩, 0), (⟨"first"⟩, 2), (⟨"own"⟩, 3), (⟨"second"⟩, 5), (⟨"end"⟩, 6)]
    body.surveyOffsets = .ok offsets ∧ (body.insert 4 code).body.surveyOffsets = .ok after ∧
      (body.CutsOff 4 3 ∧ after.lookup ⟨"first"⟩ = some 2 ∧
        (body.insert 4 code).body.real[2]? = some (branch "second")) ∧
      (¬ body.CutsOff 4 4 ∧ after.lookup ⟨"second"⟩ = some 5 ∧
        (body.insert 4 code).body.real[5]? = body.real[2]?) ∧
      (¬ body.CutsOff 4 6 ∧ after.lookup ⟨"end"⟩ = some 6) := by
  intro branch anchor body code offsets after
  have resolved : body.surveyOffsets = .ok offsets := rfl
  have resolvedAfter : (body.insert 4 code).body.surveyOffsets = .ok after := rfl
  obtain ⟨_, _, _, inserted⟩ := surveyOffsets_insert resolved
  obtain ⟨_, kept, labels⟩ := inserted 4 code after resolvedAfter
  have cuts : body.CutsOff 4 3 := ⟨by decide, by decide⟩
  have linked : ¬ body.CutsOff 4 4 := fun cuts => absurd cuts.behind (by decide)
  have linkedEnd : ¬ body.CutsOff 4 6 := fun cuts => absurd cuts.behind (by decide)
  refine ⟨resolved, resolvedAfter, ⟨cuts, (labels 3 ⟨"first"⟩ 2 rfl rfl).2.2 cuts⟩,
    ⟨linked, (labels 4 ⟨"second"⟩ 2 rfl rfl).2.1 linked, kept 2⟩,
    ⟨linkedEnd, (labels 6 ⟨"end"⟩ 3 rfl rfl).1⟩⟩

end Body

end MethodPatch
