/-
This file proves that a hook is checked against the members that its method is looked up among.

Members are declared one after another, and each goes into the entry of its class. Whatever has been
declared, an index keeps just that (`MemberIndex.Keeps`): every class that declares a member has one
entry, and the entries hold the declared members. This is carried over from one declaration to the
next, so an index of classes answers as a plain list of their members does. What is accepted with
the index is thus what one of the classes has, and for methods this is what looking the method up in
that class comes to.
-/

import MethodPatch.Declarations.Index
import MethodPatch.Proofs.Admission
import Mathlib.Data.Set.Card

namespace MethodPatch

/-! ### The members of a class -/

/-- The class has a member of the kind with the name and the descriptor. -/
inductive ClassFile.HasMember (file : ClassFile) : MemberKind → String → String → Prop where
  | field {entry : FieldEntry} (inside : entry ∈ file.fields) :
    HasMember file .field entry.name entry.descriptor
  | method {method : Method} (inside : method ∈ file.methods) :
    HasMember file .method method.name method.descriptor

theorem ClassFile.mem_declarations {file : ClassFile} {declaration : Declaration} :
    declaration ∈ file.declarations ↔ declaration.owner = file.className ∧
      file.HasMember declaration.kind declaration.name declaration.descriptor := by
  rw [declarations, List.mem_append, List.mem_map, List.mem_map]
  constructor
  · rintro (⟨entry, inside, rfl⟩ | ⟨method, inside, rfl⟩)
    · exact ⟨rfl, .field inside⟩
    · exact ⟨rfl, .method inside⟩
  · obtain ⟨owner, kind, name, descriptor⟩ := declaration
    rintro ⟨rfl, has⟩
    cases has with
    | field inside => exact Or.inl ⟨_, inside, rfl⟩
    | method inside => exact Or.inr ⟨_, inside, rfl⟩

/-- A list of classes declares what one of them has. -/
theorem Declarations.mem_foldl_declareClass {files : List ClassFile} {declaration : Declaration} :
    declaration ∈ files.foldl declareClass [] ↔ ∃ file ∈ files,
      file.className = declaration.owner ∧
        file.HasMember declaration.kind declaration.name declaration.descriptor := by
  have whole : files.foldl declareClass [] = files.flatMap ClassFile.declarations :=
    List.flatMap_eq_foldl.symm
  simp only [whole, List.mem_flatMap, ClassFile.mem_declarations, eq_comm (a := declaration.owner)]

theorem MethodTable.isSome_lookup?_iff {file : ClassFile} {name descriptor : String} :
    (file.methods.lookup? name descriptor).isSome ↔ file.HasMember .method name descriptor := by
  rw [MethodTable.lookup?, List.find?_isSome]
  simp only [Method.isCalled, Bool.and_eq_true, beq_iff_eq]
  constructor
  · rintro ⟨method, inside, rfl, rfl⟩
    exact .method inside
  · intro has
    cases has with
    | method inside => exact ⟨_, inside, rfl, rfl⟩

theorem MappedMember.mem_names {member : MappedMember} {name : String} :
    name ∈ member.names ↔ ∃ naming, member.nameIn naming = name := by
  rw [names, List.mem_pair]
  constructor
  · rintro (rfl | rfl)
    · exact ⟨.named, rfl⟩
    · exact ⟨.remapped, rfl⟩
  · rintro ⟨naming, rfl⟩
    cases naming with
    | named => exact Or.inl rfl
    | remapped => exact Or.inr rfl

/-! ### Declaring one member -/

namespace MemberIndex

variable {index : MemberIndex} {declarations : Declarations} {declaration other : Declaration}
  {member : MappedMember} {className : ClassName}

theorem lookup_cons (first className : ClassName) (members : List DeclaredMember)
    (rest : MemberIndex) : List.lookup className ((first, members) :: rest) =
      if className = first then some members else rest.lookup className := by
  rw [List.lookup_cons]
  by_cases same : className = first
  · rw [if_pos same, beq_iff_eq.mpr same]
  · rw [if_neg same, beq_false_of_ne same]

/-- The entry of the class gets the member, and every other entry stays as it is. -/
theorem lookup_declare (index : MemberIndex) (declaration : Declaration) (className : ClassName) :
    (index.declare declaration).lookup className =
      if className = declaration.owner then
        some ((index.lookup className).getD [] ++ [declaration.member])
      else index.lookup className := by
  induction index with
  | nil => exact lookup_cons declaration.owner className [declaration.member] []
  | cons entry rest inductionHypothesis =>
    obtain ⟨first, members⟩ := entry
    rw [declare, lookup_cons]
    by_cases here : first = declaration.owner
    · subst here
      rw [if_pos rfl, lookup_cons]
      split <;> rfl
    · rw [if_neg here, lookup_cons, inductionHypothesis]
      by_cases same : className = first
      · subst same
        simp [here]
      · simp [same]

theorem map_fst_declare (index : MemberIndex) (declaration : Declaration) :
    (index.declare declaration).map Prod.fst =
      entered declaration.owner (index.map Prod.fst) := by
  induction index with
  | nil => rfl
  | cons entry rest inductionHypothesis =>
    rw [declare]
    by_cases here : entry.1 = declaration.owner
    · simp [entered, here]
    · rw [if_neg here, List.map_cons, List.map_cons, inductionHypothesis,
        entered_cons_of_ne (Ne.symm here)]

theorem declares_iff : index.declares other = true ↔
    ∃ members, index.lookup other.owner = some members ∧ other.member ∈ members := by
  rw [declares]
  cases index.lookup other.owner with
  | none => simp
  | some members => simp

/-- What is declared afterwards is the new member and what has been declared before. -/
theorem declares_declare : (index.declare declaration).declares other = true ↔
    other = declaration ∨ index.declares other = true := by
  have same : other = declaration ↔
      other.owner = declaration.owner ∧ other.member = declaration.member := by
    cases other
    cases declaration
    simp [Declaration.member]
  rw [same, declares_iff, declares_iff, lookup_declare]
  by_cases owner : other.owner = declaration.owner
  · cases found : index.lookup other.owner with
    | none => simp [owner]
    | some members => simp [owner, or_comm]
  · simp [owner]

/-! ### What an index keeps -/

/-- Every class that declares a member has one entry, and the entries hold the declared members. -/
structure Keeps (index : MemberIndex) (declarations : Declarations) : Prop where
  distinct : (index.map Prod.fst).Nodup
  owners : ∀ className, className ∈ index.map Prod.fst ↔
    className ∈ declarations.map Declaration.owner
  declares : ∀ declaration, index.declares declaration = true ↔ declaration ∈ declarations

theorem Keeps.empty : Keeps [] [] := ⟨.nil, fun _ => Iff.rfl, fun _ => by simp [declares_iff]⟩

theorem Keeps.declare (keeps : Keeps index declarations) (declaration : Declaration) :
    Keeps (index.declare declaration) (declarations.declare declaration) := by
  rw [Declarations.declare]
  refine ⟨?_, fun className => ?_, fun other => ?_⟩
  · rw [map_fst_declare]
    exact nodup_entered keeps.distinct declaration.owner
  · rw [map_fst_declare, mem_entered, keeps.owners, List.map_append, List.mem_append, or_comm,
      List.map_singleton, List.mem_singleton]
  · rw [declares_declare, keeps.declares, List.mem_append, List.mem_singleton, or_comm]

theorem Keeps.foldl_declare (keeps : Keeps index declarations) (further : Declarations) :
    Keeps (further.foldl MemberIndex.declare index) (declarations ++ further) := by
  induction further generalizing index declarations with
  | nil => rwa [List.append_nil]
  | cons declaration rest inductionHypothesis =>
    have next := inductionHypothesis (keeps.declare declaration)
    rwa [Declarations.declare, List.append_assoc] at next

theorem Keeps.foldl_declareClass (keeps : Keeps index declarations) (files : List ClassFile) :
    Keeps (files.foldl declareClass index)
      (files.foldl Declarations.declareClass declarations) := by
  induction files generalizing index declarations with
  | nil => exact keeps
  | cons file rest inductionHypothesis =>
    exact inductionHypothesis (keeps.foldl_declare file.declarations)

/-- A member is checked with an index as with the plain list of declarations. -/
theorem Keeps.check_eq (keeps : Keeps index declarations) (member : MappedMember) :
    index.check member = declarations.check member := by
  have declares (declaration : Declaration) :
      index.declares declaration = declarations.declares declaration := by
    rw [Bool.eq_iff_iff, keeps.declares, Declarations.declares, List.contains_iff_mem]
  simp only [check, Declarations.check, declares]

/-- Classes are counted with an index as with the plain list of declarations. -/
theorem Keeps.typeCount_eq (keeps : Keeps index declarations) :
    index.typeCount = declarations.typeCount := by
  have same : (index.map Prod.fst).Perm (Ascending.ofList (declarations.map Declaration.owner)) :=
    (List.perm_ext_iff_of_nodup keeps.distinct (Ascending.nodup_ofList _)).mpr fun className => by
      rw [keeps.owners, Ascending.mem_ofList]
  rw [typeCount, Declarations.typeCount, ← same.length_eq, List.length_map]

/-! ### Declaring classes -/

/-- What is accepted with an index of classes is what one of the classes has. -/
theorem check_classes_eq_ok (files : List ClassFile) (member : MappedMember) :
    (files.foldl declareClass []).check member = .ok () ↔
      ∃ file ∈ files, file.className = member.declaringType ∧
        ∃ name ∈ member.names, file.HasMember member.kind name member.descriptor := by
  rw [(Keeps.empty.foldl_declareClass files).check_eq, Declarations.check_eq_ok]
  constructor
  · rintro ⟨⟨owner, kind, name, descriptor⟩, declared, rfl, rfl, named, rfl⟩
    obtain ⟨file, inside, here, has⟩ := Declarations.mem_foldl_declareClass.mp declared
    exact ⟨file, inside, here, name, named, has⟩
  · rintro ⟨file, inside, here, name, named, has⟩
    have declared : ⟨member.declaringType, member.kind, name, member.descriptor⟩ ∈
        files.foldl Declarations.declareClass [] :=
      Declarations.mem_foldl_declareClass.mpr ⟨file, inside, here, has⟩
    exact ⟨_, declared, rfl, rfl, named, rfl⟩

/-- For methods, what is accepted is what looking them up in one of the classes finds. -/
theorem check_method_classes_eq_ok (files : List ClassFile) (isMethod : member.kind = .method) :
    (files.foldl declareClass []).check member = .ok () ↔
      ∃ file ∈ files, file.className = member.declaringType ∧
        ∃ naming, (file.methods.lookup? (member.nameIn naming) member.descriptor).isSome := by
  simp only [check_classes_eq_ok, isMethod, MappedMember.mem_names, MethodTable.isSome_lookup?_iff,
    exists_exists_eq_and]

theorem declares_foldl_declare (further : Declarations) (declared : index.declares other = true) :
    (further.foldl declare index).declares other = true := by
  induction further generalizing index with
  | nil => exact declared
  | cons declaration rest inductionHypothesis =>
    exact inductionHypothesis (declares_declare.mpr (Or.inr declared))

theorem check_eq_ok : index.check member = .ok () ↔ ∃ name ∈ member.names,
    index.declares ⟨member.declaringType, member.kind, name, member.descriptor⟩ = true := by
  rw [← List.any_eq_true, check]
  split
  · next declared => simp [declared]
  · next missing => simp [missing]

/-- A member that is accepted stays accepted, whatever else is declared. -/
theorem check_foldl_declare (further : Declarations) (accepted : index.check member = .ok ()) :
    (further.foldl declare index).check member = .ok () := by
  obtain ⟨name, named, declared⟩ := check_eq_ok.mp accepted
  exact check_eq_ok.mpr ⟨name, named, declares_foldl_declare further declared⟩

/-- The classes counted are those that have a member, each of them once. -/
theorem typeCount_classes (files : List ClassFile) : (files.foldl declareClass []).typeCount =
    {className | ∃ file ∈ files, file.className = className ∧
      ∃ kind name descriptor, file.HasMember kind name descriptor}.ncard := by
  rw [(Keeps.empty.foldl_declareClass files).typeCount_eq, Declarations.typeCount,
    ← List.toFinset_card_of_nodup (Ascending.nodup_ofList _), ← Set.ncard_coe_finset]
  congr 1
  ext className
  rw [List.coe_toFinset, Set.mem_ofPred_eq, Ascending.mem_ofList, List.mem_map]
  simp only [Declarations.mem_foldl_declareClass, Set.mem_ofPred_eq]
  constructor
  · rintro ⟨declaration, ⟨file, inside, here, has⟩, rfl⟩
    exact ⟨file, inside, here, _, _, _, has⟩
  · rintro ⟨file, inside, rfl, kind, name, descriptor, has⟩
    exact ⟨⟨file.className, kind, name, descriptor⟩, ⟨file, inside, rfl, has⟩, rfl⟩

/-- Members are checked against the classes that are declared, in whatever order and however often
this is done. A member is accepted when a class of its name has one of its kind and descriptor under
either of its names; a method is accepted when looking it up in such a class finds it in some naming
scheme. Declaring more makes no difference to what is accepted already, and the classes counted are
those with a member, each once. -/
theorem check_foldl_declareClass (files : List ClassFile) (member : MappedMember) :
    ((files.foldl declareClass []).check member = .ok () ↔
      ∃ file ∈ files, file.className = member.declaringType ∧
        ∃ name ∈ member.names, file.HasMember member.kind name member.descriptor) ∧
    (member.kind = .method → ((files.foldl declareClass []).check member = .ok () ↔
      ∃ file ∈ files, file.className = member.declaringType ∧
        ∃ naming, (file.methods.lookup? (member.nameIn naming) member.descriptor).isSome)) ∧
    (∀ (index : MemberIndex) (further : Declarations), index.check member = .ok () →
      (further.foldl declare index).check member = .ok ()) ∧
    (files.foldl declareClass []).typeCount =
      {className | ∃ file ∈ files, file.className = className ∧
        ∃ kind name descriptor, file.HasMember kind name descriptor}.ncard :=
  ⟨check_classes_eq_ok files member, check_method_classes_eq_ok files,
    fun _ further => check_foldl_declare further, typeCount_classes files⟩

/-- One class is declared under both forms of its name, another one has no members. The method goes
by its alternate name in one declaration of its class, where its primary name is that of a field. -/
theorem check_foldl_declareClass_both_forms :
    let attack : MappedMember := .of .method (.of "game.Player") "attack" "func_1" "()V"
    let files : List ClassFile := [⟨"game.Empty", [], []⟩,
      ⟨"game/Player", [⟨"attack", "()V"⟩], [⟨"attack", "(I)V", ⟨0⟩, []⟩]⟩,
      ⟨"game.Player", [], [⟨"func_1", "()V", ⟨0⟩, []⟩]⟩, ⟨"game.Empty", [], []⟩]
    let index := files.foldl declareClass []
    attack.kind = .method ∧ index.check attack = .ok () ∧
      (∀ further : Declarations, (further.foldl declare index).check attack = .ok ()) ∧
      ¬ ((files.take 2).foldl declareClass []).check attack = .ok () ∧
      index.typeCount = 1 ∧
      {className | ∃ file ∈ files, file.className = className ∧
        ∃ kind name descriptor, file.HasMember kind name descriptor}.ncard = 1 := by
  intro attack files index
  obtain ⟨_, methods, further, count⟩ := check_foldl_declareClass files attack
  have accepted : index.check attack = .ok () := by
    refine (methods rfl).mpr ⟨⟨"game.Player", [], [⟨"func_1", "()V", ⟨0⟩, []⟩]⟩, ?_, rfl, ?_⟩
    · simp [files]
    · exact ⟨.remapped, by decide +kernel⟩
  have counted : index.typeCount = 1 := by decide +kernel
  refine ⟨rfl, accepted, fun list => further index list accepted, ?_, counted,
    count.symm.trans counted⟩
  have refused : (((files.take 2).foldl declareClass []).check attack).isOk = false := by
    decide +kernel
  intro other
  rw [other] at refused
  cases refused

end MemberIndex

end MethodPatch
