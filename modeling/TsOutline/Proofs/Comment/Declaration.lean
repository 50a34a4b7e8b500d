import Mathlib.Data.List.Basic
import TsOutline.Declaration
import TsOutline.Proofs.Comment.Tree
import TsOutline.Proofs.Rendering

/-!
# Types and Declarations without Comments

The texts of types and of type declarations are the same for a tree and for its bare form. Rendering
recurses on the size of a type, so `render_bare` is an induction on it with one case per shape; the
declarations are put together from rendered parts and need no induction, except for the wrappers in
front of a declaration inside a namespace (`declared?_bare`).
-/

namespace TsOutline

/-! ## §1 Type expressions -/

namespace TypeText

open Node (bare)

@[simp] theorem brief_bare (limit : Int) (n : Node) : brief limit n.bare = brief limit n := by
  simp [brief]

@[simp] theorem isMapped_bare (n : Node) : isMapped n.bare = isMapped n := by
  simp [isMapped, List.any_map, Function.comp_def]

@[simp] theorem optionalMark_bare (n : Node) : optionalMark n.bare = optionalMark n := by
  simp [optionalMark]

@[simp] theorem returned?_bare (n : Node) : returned? n.bare = (returned? n).map bare := by
  unfold returned?
  rw [Node.child?_bare]
  cases n.child? .returnType with
  | some r => rfl
  | none => simp [List.filter_map, Function.comp_def, List.getLast?_map]

/-- The operands of a chain, without comments anywhere in them. -/
@[simp] theorem operands_bare (k : Kind) (n : Node) :
    operands k n.bare = (operands k n).map bare := by
  rw [operands_eq, operands_eq, Node.members_bare, List.flatMap_map, List.map_flatMap]
  apply List.flatMap_congr
  intro c hc
  by_cases hk : c.kind = k
  · have hlt := Node.size_lt_of_mem_members hc
    simpa [hk] using operands_bare k c
  · simp [hk]
termination_by n.size

section Shape

variable {m : Node}
variable (ih : ∀ (c : Node) (d : Budget), c.size < m.size → render c.bare d = render c d)
include ih

/-- Smaller types in a row. -/
theorem map_render_bare (d : Budget) {cs : List Node} (hcs : ∀ c ∈ cs, c.size < m.size) :
    (cs.map bare).map (fun c => render c d) = cs.map fun c => render c d := by
  rw [List.map_map]
  apply List.map_congr_left
  intro c hc
  exact ih c d (hcs c hc)

/-- A smaller type that may be missing. -/
theorem renderOption_map_bare (d : Budget) {c? : Option Node}
    (hc : ∀ c, c? = some c → c.size < m.size) :
    renderOption (c?.map bare) d = renderOption c? d := by
  cases c? with
  | none => rfl
  | some c => exact ih c d (hc c rfl)

theorem renderMember_bare_of_mem (d : Budget) {p : Node} (hp : p ∈ m.members) :
    renderMember p.bare d = renderMember p d := by
  have htype : renderOption ((p.child? .typeExpr).map bare) d =
      renderOption (p.child? .typeExpr) d := by
    apply renderOption_map_bare ih
    intro t ht
    exact Nat.lt_trans (Node.size_lt_of_child? ht) (Node.size_lt_of_mem_members hp)
  unfold renderMember
  rw [Node.nameText_bare, optionalMark_bare, Node.child?_bare, htype]

theorem renderParameters_bare_of_smaller (d : Budget) :
    renderParameters m.bare d = renderParameters m d := by
  unfold renderParameters
  rw [Node.parameterNodes_bare, List.map_map]
  congr 1
  apply List.map_congr_left
  intro p hp
  have htype : renderOption (p.parameterType?.map bare) d = renderOption p.parameterType? d := by
    apply renderOption_map_bare ih
    intro t ht
    exact Nat.lt_trans (Node.size_lt_of_parameterType? ht) (Node.size_lt_of_mem_parameterNodes hp)
  show p.bare.parameterName ++ ": " ++ renderOption p.bare.parameterType? d = _
  rw [Node.parameterName_bare, Node.parameterType?_bare, htype]

/-- The shape of a type is written the same if all smaller types are. -/
theorem renderShape_bare (d : Budget) : renderShape m.bare d = renderShape m d := by
  have hfirst := renderOption_map_bare ih d fun c => Node.size_lt_of_first? (n := m)
  have hchild (f : Field) : renderOption ((m.child? f).map bare) d.spend =
      renderOption (m.child? f) d.spend :=
    renderOption_map_bare ih d.spend fun c => Node.size_lt_of_child?
  unfold renderShape
  rw [Node.kind_bare]
  split
  · -- type arguments
    have harguments := map_render_bare ih d.spend fun c =>
      Node.size_lt_of_mem_membersOf_child? (n := m) (f := .typeArguments)
    simp only [Node.child?_bare, Node.membersOf_bare, Node.nameText_bare, List.isEmpty_map,
      harguments]
  · -- an array
    rw [Node.first?_bare, hfirst]
  · -- a union, and then an intersection
    simp only [operands_bare, map_render_bare ih d fun c => size_lt_of_mem_operands]
  · simp only [operands_bare, map_render_bare ih d fun c => size_lt_of_mem_operands]
  · -- members of an object
    have hmembers : (m.members.map bare).map (fun p =>
          if p.kind == .propertySignature then renderMember p d.spend else placeholder) =
        m.members.map fun p =>
          if p.kind == .propertySignature then renderMember p d.spend else placeholder := by
      rw [List.map_map]
      apply List.map_congr_left
      intro p hp
      simp only [Function.comp_def, Node.kind_bare, renderMember_bare_of_mem ih d.spend hp]
    simp only [isMapped_bare, brief_bare, Node.members_bare, hmembers]
  · -- parameters and result of a function
    rw [renderParameters_bare_of_smaller ih, returned?_bare,
      renderOption_map_bare ih d.spend fun c => size_lt_of_returned?]
  · -- a tuple
    simp only [Node.members_bare, map_render_bare ih d.spend fun c => Node.size_lt_of_mem_members]
  · -- parentheses
    rw [Node.first?_bare, hfirst]
  · -- a conditional type has its parts in roles
    simp only [Node.child?_bare, hchild]
  · -- an indexed access has two parts
    rw [Node.members_bare]
    rcases hparts : m.members with _ | ⟨a, _ | ⟨b, _ | ⟨e, es⟩⟩⟩
    · simp
    · simp
    · have ha : a.size < m.size := Node.size_lt_of_mem_members (by simp [hparts])
      have hb : b.size < m.size := Node.size_lt_of_mem_members (by simp [hparts])
      simp only [List.map_cons, List.map_nil, ih a d ha, ih b d hb]
    · simp
  · exact brief_bare copyLimit m

end Shape

/-- **Types**: a type is rendered the same without its comments. -/
@[simp] theorem render_bare (n : Node) (d : Budget) : render n.bare d = render n d := by
  rw [render_eq, render_eq, Node.unwrap_bare]
  cases hm : n.unwrap with
  | none => rfl
  | some m =>
    have hle := Node.size_le_of_unwrap hm
    show (if d.isOverdrawn then placeholder else renderShape m.bare d) =
      if d.isOverdrawn then placeholder else renderShape m d
    rw [renderShape_bare (fun c e hc => render_bare c e) d]
termination_by n.size
decreasing_by omega

@[simp] theorem renderOption_bare (n? : Option Node) (d : Budget) :
    renderOption (n?.map bare) d = renderOption n? d := by
  cases n? with
  | none => rfl
  | some n => exact render_bare n d

@[simp] theorem renderParameters_bare (n : Node) (d : Budget) :
    renderParameters n.bare d = renderParameters n d := by
  simp [renderParameters, Function.comp_def]

@[simp] theorem renderMember_bare (n : Node) (d : Budget) :
    renderMember n.bare d = renderMember n d := by
  simp [renderMember]

end TypeText

/-! ## §2 Members of declarations -/

namespace Declaration

open Node (bare)

@[simp] theorem genericSuffix_bare (d : Budget) (part : Node) :
    genericSuffix d part.bare = genericSuffix d part := by
  simp [genericSuffix]

@[simp] theorem renderTypeParameter_bare (d : Budget) (p : Node) :
    renderTypeParameter d p.bare = renderTypeParameter d p := by
  simp [renderTypeParameter, Function.comp_def]

@[simp] theorem renderGenerics_bare (n : Node) (d : Budget) :
    renderGenerics n.bare d = renderGenerics n d := by
  simp only [renderGenerics, Node.child?_bare, Node.membersOf_bare, List.filter_map,
    List.isEmpty_map, List.map_map, Function.comp_def, Node.kind_bare, renderTypeParameter_bare]

@[simp] theorem methodReturn_bare (member : Node) (d : Budget) :
    methodReturn member.bare d = methodReturn member d := by
  unfold methodReturn
  rw [Node.child?_bare, Node.hasToken_bare]
  cases member.child? .returnType with
  | some ascribed => exact TypeText.render_bare ascribed d.spend
  | none => rfl

@[simp] theorem renderMethod_bare (member : Node) (d : Budget) :
    renderMethod member.bare d = renderMethod member d := by
  simp [renderMethod]

@[simp] theorem renderIndexSignature_bare (member : Node) (d : Budget) :
    renderIndexSignature member.bare d = renderIndexSignature member d := by
  simp [renderIndexSignature]

@[simp] theorem interfaceMember?_bare (d : Budget) (member : Node) :
    interfaceMember? d member.bare = interfaceMember? d member := by
  simp [interfaceMember?]

@[simp] theorem enumMember_bare (member : Node) : enumMember member.bare = enumMember member := by
  simp [enumMember]

@[simp] theorem heritageClause_bare (clause : Node) :
    heritageClause clause.bare = heritageClause clause := by
  simp [heritageClause, heritageText]

@[simp] theorem classMember?_bare (d : Budget) (member : Node) :
    classMember? d member.bare = classMember? d member := by
  simp [classMember?, isAccessor, staticMark]

/-! ## §3 Declarations -/

@[simp] theorem interfaceExtends_bare (n : Node) : interfaceExtends n.bare = interfaceExtends n := by
  unfold interfaceExtends
  rw [Node.memberOfKind?_bare]
  cases n.memberOfKind? .extendsTypeClause with
  | some clause => simp [Function.comp_def]
  | none => rfl

theorem interfaceText_bare (n : Node) (d : Budget) :
    interfaceText n.bare d = interfaceText n d := by
  simp [interfaceText, List.filterMap_map]

theorem aliasText_bare (n : Node) (d : Budget) : aliasText n.bare d = aliasText n d := by
  simp [aliasText]

theorem enumText_bare (n : Node) : enumText n.bare = enumText n := by
  simp [enumText, Function.comp_def]

@[simp] theorem classHeritage_bare (n : Node) : classHeritage n.bare = classHeritage n := by
  simp [classHeritage, Function.comp_def]

theorem classText_bare (n : Node) (name : String) (d : Budget) :
    classText n.bare name d = classText n name d := by
  simp [classText, List.filterMap_map]

/-- One step of looking through the wrappers in front of a declaration. -/
theorem declared?_eq (n : Node) :
    declared? n =
      if n.kind == .exportStatement || n.kind == .ambientDeclaration then
        ((n.child? .declaration).or n.first?).bind declared?
      else some n := by
  rw [declared?]
  split
  · split
    · rename_i c hc
      rw [hc]
      rfl
    · rename_i hnone
      rw [hnone, Option.none_or]
      split
      · rename_i c hc
        rw [hc]
        rfl
      · rename_i hfirst
        rw [hfirst]
        rfl
  · rfl

@[simp] theorem declared?_bare (n : Node) : declared? n.bare = (declared? n).map bare := by
  rw [declared?_eq, declared?_eq, Node.kind_bare, Node.child?_bare, Node.first?_bare]
  split
  · cases hc : (n.child? .declaration).or n.first? with
    | none =>
      rw [Option.or_eq_none_iff] at hc
      simp [hc]
    | some c =>
      have hlt : c.size < n.size := by
        rcases Option.or_eq_some_iff.mp hc with hchild | ⟨_, hfirst⟩
        · exact Node.size_lt_of_child? hchild
        · exact Node.size_lt_of_first? hfirst
      rw [← Option.map_or, hc]
      exact declared?_bare c
  · rfl
termination_by n.size

@[simp] theorem firstVariable?_bare (n : Node) : firstVariable? n.bare = firstVariable? n := by
  unfold firstVariable?
  rw [Node.memberOfKind?_bare]
  cases n.memberOfKind? .variableDeclarator with
  | none => rfl
  | some v =>
    simp only [Option.map_some, Option.bind_some, Node.name?_bare]
    cases v.name? with
    | none => rfl
    | some name => simp

@[simp] theorem summary?_bare (n : Node) : summary? n.bare = summary? n := by
  have hname (keyword : String) : (n.name?.map bare).map (fun name => keyword ++ name.text) =
      n.name?.map fun name => keyword ++ name.text := by
    simp [Function.comp_def]
  unfold summary?
  rw [Node.kind_bare, Node.nameText_bare, Node.name?_bare, hname, hname, firstVariable?_bare]

@[simp] theorem contents_bare (body : Option Node) : contents (body.map bare) = contents body := by
  have hsummary (s : Node) : (declared? s.bare).bind summary? = (declared? s).bind summary? := by
    rw [declared?_bare]
    cases declared? s with
    | none => rfl
    | some t => exact summary?_bare t
  simp only [contents, Node.membersOf_bare, List.filterMap_map, Function.comp_def, hsummary]

theorem scopeHeading?_bare (n : Node) : scopeHeading? n.bare = scopeHeading? n := by
  unfold scopeHeading? scopeText
  rw [Node.name?_bare, Node.child?_bare, contents_bare]
  cases n.name? with
  | none => rfl
  | some name => simp only [Option.map_some, Node.kind_bare, Node.text_bare]

theorem globalHeading?_bare (n : Node) : globalHeading? n.bare = globalHeading? n := by
  unfold globalHeading? scopeText
  rw [Node.hasToken_bare, Node.memberOfKind?_bare, contents_bare]

/-- **Declarations**: a declaration has the same heading without its comments. -/
@[simp] theorem heading?_bare (n : Node) (d : Budget) : heading? n.bare d = heading? n d := by
  have hclass : (n.name?.map bare).map (fun name =>
        (⟨name.text, .classKind, classText n.bare name.text d⟩ : Heading)) =
      n.name?.map fun name => ⟨name.text, .classKind, classText n name.text d⟩ := by
    simp [classText_bare, Function.comp_def]
  unfold heading?
  rw [Node.kind_bare, Node.nameText_bare, Node.name?_bare, hclass, interfaceText_bare,
    aliasText_bare, enumText_bare, scopeHeading?_bare, globalHeading?_bare]

end Declaration

end TsOutline
