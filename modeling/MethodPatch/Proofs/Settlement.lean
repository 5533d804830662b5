/-
This file compares a search for members that are settled with one for members that are left open.

A mapped member has one reference in either naming scheme, and until the scheme is known it agrees
with whatever one of the two agrees with. So a row of instructions that is found once it is settled
is found as it stands, and a search with open members stops no later than one with settled members.
It may stop earlier, as each member of the row is free to agree by either of its names.
-/

import MethodPatch.Proofs.Leftmost
import MethodPatch.Proofs.Unifiability

namespace MethodPatch

/-! ### Single instructions -/

namespace Instruction

variable {first second : Instruction}

/-- An instruction agrees with a settled one exactly when it does in one of the naming schemes. -/
theorem agrees_iff_exists_resolve (settled : second.mapped? = none) :
    first.agrees second = true ↔ ∃ naming, (first.resolve naming).agrees second = true := by
  obtain ⟨opcode, operand⟩ := first
  cases operand with
  | mapped member =>
    simp only [agrees, resolve, kind, Operand.kind_resolve, Bool.and_eq_true, beq_iff_eq,
      exists_and_left]
    refine and_congr_right fun same => ?_
    exact Operand.mapped_agrees_iff_exists_resolve same.2 (operand_ne_mapped settled)
  | _ =>
    -- Any other operand stays as it is in either naming scheme.
    exact ⟨fun agree => ⟨.named, agree⟩, fun alike => alike.elim fun _ agree => agree⟩

theorem agrees_iff_exists_resolve_right (settled : first.mapped? = none) :
    first.agrees second = true ↔ ∃ naming, first.agrees (second.resolve naming) = true := by
  simp only [agrees_comm first]
  exact agrees_iff_exists_resolve settled

/-- Two open members agree only when they are one and the same, and then so do their references in
either naming scheme. -/
theorem eq_of_agrees_of_mapped (mappedFirst : first.mapped?.isSome)
    (mappedSecond : second.mapped?.isSome) (agree : first.agrees second = true) :
    first = second := by
  obtain ⟨member, openFirst⟩ := Option.isSome_iff_exists.mp mappedFirst
  obtain ⟨other, openSecond⟩ := Option.isSome_iff_exists.mp mappedSecond
  rw [mapped?_eq_some] at openFirst openSecond
  simp only [agrees, openFirst, openSecond, Operand.agrees, Bool.and_eq_true, beq_iff_eq] at agree
  obtain ⟨⟨opcode, _⟩, rfl⟩ := agree
  cases first
  cases second
  rw [Instruction.mk.injEq]
  exact ⟨opcode, openFirst.trans openSecond.symm⟩

theorem resolve_agrees_resolve (mappedFirst : first.mapped?.isSome)
    (mappedSecond : second.mapped?.isSome) (agree : first.agrees second = true)
    (naming : Naming) : (first.resolve naming).agrees (second.resolve naming) = true := by
  rw [eq_of_agrees_of_mapped mappedFirst mappedSecond agree]
  exact agrees_self _

end Instruction

/-! ### Rows of instructions -/

namespace Pattern

variable {pattern : Pattern} {body : Body} {naming : Naming}

/-- A pattern is at a place of a settled body when each of its instructions agrees there in a naming
scheme of its own. -/
theorem isAt_iff_forall₂_exists_resolve (settled : ∀ inside ∈ body, inside.mapped? = none)
    {position : Nat} :
    pattern.isAt body position = true ↔
      List.Forall₂ (fun inside wanted => ∃ naming, inside.agrees (wanted.resolve naming) = true)
        ((body.drop position).take pattern.length) pattern.instructions := by
  rw [isAt, Body.opensWith_iff_forall₂, List.forall₂_iff_zip, List.forall₂_iff_zip]
  refine and_congr_right fun _ => forall₂_congr fun inside wanted => forall_congr' fun paired => ?_
  have there : inside ∈ body :=
    List.mem_of_mem_drop (List.mem_of_mem_take (List.of_mem_zip paired).1)
  exact Instruction.agrees_iff_exists_resolve_right (settled inside there)

theorem isAt_resolve_iff_forall₂ {position : Nat} :
    (pattern.resolve naming).isAt body position = true ↔
      List.Forall₂ (fun inside wanted => inside.agrees (wanted.resolve naming) = true)
        ((body.drop position).take pattern.length) pattern.instructions := by
  rw [isAt, Body.opensWith_iff_forall₂, ← length_resolve naming]
  exact List.forall₂_map_right_iff

/-- Where a settled pattern is found, the open one is found too. -/
theorem isAt_of_isAt_resolve (settled : ∀ inside ∈ body, inside.mapped? = none) {position : Nat}
    (found : (pattern.resolve naming).isAt body position = true) :
    pattern.isAt body position = true :=
  (isAt_iff_forall₂_exists_resolve settled).mpr
    ((isAt_resolve_iff_forall₂.mp found).imp fun _ _ agree => ⟨naming, agree⟩)

/-- A search for the open pattern stops no later than one for the settled pattern. -/
theorem exists_find?_le (settled : ∀ inside ∈ body, inside.mapped? = none) {start position : Nat}
    (found : (pattern.resolve naming).find? body start = some position) :
    ∃ earlier ≤ position, pattern.find? body start = some earlier := by
  obtain ⟨behind, here, _⟩ := (find?_eq_some _ _ _ _).mp found
  have openHere := isAt_of_isAt_resolve settled here
  cases first : pattern.find? body start with
  | none => cases openHere.symm.trans ((find?_eq_none _ _ _).mp first position behind)
  | some earlier =>
    refine ⟨earlier, Nat.le_of_not_lt fun later => ?_, rfl⟩
    obtain ⟨_, _, least⟩ := (find?_eq_some _ _ _ _).mp first
    cases openHere.symm.trans (least position behind later)

theorem exists_findIndex?_le (settled : ∀ inside ∈ body, inside.mapped? = none)
    (held : body.length < 2 ^ 63) (heldPattern : pattern.length < 2 ^ 63) {start position : Index}
    (found : (pattern.resolve naming).findIndex? body start = some position) :
    ∃ earlier ≤ position, pattern.findIndex? body start = some earlier := by
  have heldSettled : (pattern.resolve naming).length < 2 ^ 63 := by rwa [length_resolve]
  have leftmost := (findIndex?_eq_some_iff_leftmost held heldSettled).mp found
  obtain ⟨number, before, first⟩ :=
    exists_find?_le settled (find?_eq_some_iff_leftmost.mpr leftmost)
  have place : (UInt64.ofNat number).toNat = number :=
    UInt64.toNat_ofNat_of_lt' (Nat.lt_of_le_of_lt before position.toNat_lt_size)
  refine ⟨.ofNat number, ?_, ?_⟩
  · rwa [UInt64.le_iff_toNat_le, place]
  · rw [findIndex?_eq held heldPattern, first]
    rfl

/-- An open member agrees with a settled instruction, on either side, exactly when its reference in
one of the naming schemes does, and open members that agree keep agreeing once they are settled. So
a pattern is found in a settled body wherever it is found once it is settled, and searching for it
stops no later: it is enough that each of its instructions agrees in a naming scheme of its own. -/
theorem open_search_of_settled_search :
    (∀ instruction settled : Instruction, settled.mapped? = none →
      (instruction.agrees settled = true ↔
        ∃ naming, (instruction.resolve naming).agrees settled = true) ∧
      (settled.agrees instruction = true ↔
        ∃ naming, settled.agrees (instruction.resolve naming) = true)) ∧
    (∀ first second : Instruction, first.mapped?.isSome → second.mapped?.isSome →
      first.agrees second = true →
        ∀ naming, (first.resolve naming).agrees (second.resolve naming) = true) ∧
    ∀ (pattern : Pattern) (body : Body), (∀ inside ∈ body, inside.mapped? = none) →
      (∀ position, pattern.isAt body position = true ↔
        List.Forall₂ (fun inside wanted => ∃ naming, inside.agrees (wanted.resolve naming) = true)
          ((body.drop position).take pattern.length) pattern.instructions) ∧
      ∀ naming,
        (∀ position, (pattern.resolve naming).isAt body position = true →
          pattern.isAt body position = true) ∧
        (∀ start position, (pattern.resolve naming).find? body start = some position →
          ∃ earlier ≤ position, pattern.find? body start = some earlier) ∧
        (body.length < 2 ^ 63 → pattern.length < 2 ^ 63 → ∀ start : Index,
          ((pattern.resolve naming).isAtIndex body start = true →
            pattern.isAtIndex body start = true) ∧
          ∀ position, (pattern.resolve naming).findIndex? body start = some position →
            ∃ earlier ≤ position, pattern.findIndex? body start = some earlier) := by
  refine ⟨fun instruction settled closed => ⟨Instruction.agrees_iff_exists_resolve closed,
    Instruction.agrees_iff_exists_resolve_right closed⟩,
    fun _ _ => Instruction.resolve_agrees_resolve,
    fun pattern body settled => ⟨fun _ => isAt_iff_forall₂_exists_resolve settled,
      fun naming => ⟨fun _ => isAt_of_isAt_resolve settled, fun _ _ => exists_find?_le settled,
        fun held heldPattern start => ⟨fun found => ?_, fun _ => ?_⟩⟩⟩⟩
  · have heldSettled : (pattern.resolve naming).length < 2 ^ 63 := by rwa [length_resolve]
    rw [isAtIndex_eq held heldSettled] at found
    rw [isAtIndex_eq held heldPattern]
    exact isAt_of_isAt_resolve settled found
  · exact exists_findIndex?_le settled held heldPattern

/-- Two calls that are found under their remapped names, the first of them where the body leaves the
name open. The open pattern is found there as well and once before, where one call goes by its first
name and the other by its second one. -/
theorem open_search_of_settled_search_mixed_names :
    let call (name : String) : Instruction := ⟨0xb6, .method ⟨"a/B", name, "()V"⟩⟩
    let mapped (primary alternate : String) : Instruction :=
      ⟨0xb6, .mapped (.of .method (.of "a.B") primary alternate "()V")⟩
    let attack := mapped "attack" "f_1"
    let pattern : Pattern := ⟨[attack, mapped "swing" "f_2"], by decide⟩
    let body : Body := [call "attack", call "f_2", call "~", call "f_2"]
    ((call "f_1").mapped? = none ∧ attack.agrees (call "f_1") = true ∧
        (call "f_1").agrees attack = true) ∧
      (attack.mapped?.isSome ∧ attack.agrees attack = true ∧
        ((attack.resolve .remapped).agrees (attack.resolve .remapped)) = true) ∧
      (∀ inside ∈ body, inside.mapped? = none) ∧ body.length < 2 ^ 63 ∧ pattern.length < 2 ^ 63 ∧
      ((pattern.resolve .remapped).find? body 0 = some 2 ∧ pattern.isAt body 2 = true) ∧
      ((∃ earlier ≤ 2, pattern.find? body 0 = some earlier) ∧ pattern.find? body 0 = some 0) ∧
      ((pattern.resolve .remapped).findIndex? body 1 = some 2 ∧ pattern.isAtIndex body 2 = true ∧
        ∃ earlier ≤ 2, pattern.findIndex? body 1 = some earlier) ∧
      (pattern.resolve .named).find? body 0 = none := by
  intro call mapped attack pattern body
  have settled : ∀ inside ∈ body, inside.mapped? = none := by decide
  have held : body.length < 2 ^ 63 := by decide
  have heldPattern : pattern.length < 2 ^ 63 := by decide
  have found : (pattern.resolve .remapped).find? body 0 = some 2 := by decide +kernel
  have indexed : (pattern.resolve .remapped).findIndex? body 1 = some 2 := by decide +kernel
  obtain ⟨byEither, alike, searches⟩ := open_search_of_settled_search
  obtain ⟨left, right⟩ := byEither attack (call "f_1") rfl
  have same : attack.agrees attack = true := by decide +kernel
  obtain ⟨_, inScheme⟩ := searches pattern body settled
  obtain ⟨places, stops, indices⟩ := inScheme .remapped
  obtain ⟨here, _⟩ := indices held heldPattern 2
  refine ⟨⟨rfl, left.mpr ⟨.remapped, by decide +kernel⟩, right.mpr ⟨.remapped, by decide +kernel⟩⟩,
    ⟨rfl, same, alike attack attack rfl rfl same .remapped⟩, settled, held, heldPattern,
    ⟨found, places 2 (by decide +kernel)⟩, ⟨stops 0 2 found, by decide +kernel⟩,
    ⟨indexed, here (by decide +kernel), (indices held heldPattern 1).2 2 indexed⟩,
    by decide +kernel⟩

end Pattern

end MethodPatch
