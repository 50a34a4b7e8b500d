import TsOutline.Proofs.OneLine.Type

/-!
# Declarations on One Line

The pieces of source that the signature of a type declaration is put together from, kind by kind. A
signature is on one line exactly if its pieces are (`Declaration.MadeOf.oneLine`), and all of them are
taken from inside the declaration. What a class extends and implements is collapsed, so it is not among
them; what an interface extends and the values of an enum are.

`MadeOf` has one rule for each way in which texts are put together, and each part of a declaration is
derived from these rules along its definition.
-/

namespace TsOutline.Declaration

open Text (OneLine join)
open Piece (ofName ofType AllOneLine)
open TypeText (parameterPieces memberPieces render renderOption renderMember renderParameters)

/-! ## §1 Texts made of pieces -/

/-- The text has a line feed exactly if one of the pieces has, and the pieces are taken from inside
    the node. -/
structure MadeOf (m : Node) (s : String) (ps : List Piece) : Prop where
  oneLine : OneLine s ↔ AllOneLine ps
  inside : ∀ p ∈ ps, m.Inside p.node

namespace MadeOf

variable {α : Type} {m n : Node} {s t : String} {ps qs : List Piece} {d : Budget}

theorem fixed (h : OneLine s) : MadeOf m s [] :=
  ⟨by simp [h], nofun⟩

theorem append (hs : MadeOf m s ps) (ht : MadeOf m t qs) : MadeOf m (s ++ t) (ps ++ qs) := by
  refine ⟨by simp [hs.oneLine, ht.oneLine], ?_⟩
  intro p hp
  rcases List.mem_append.mp hp with hp | hp
  · exact hs.inside p hp
  · exact ht.inside p hp

/-- A fixed text in front. -/
theorem before (hs : OneLine s) (h : MadeOf m t ps) : MadeOf m (s ++ t) ps :=
  (fixed hs).append h

/-- A fixed text behind. -/
theorem behind (h : MadeOf m s ps) (ht : OneLine t) : MadeOf m (s ++ t) ps := by
  have happend := h.append (fixed (m := m) ht)
  rwa [List.append_nil] at happend

theorem name {x? : Option Node} (h : ∀ x, x? = some x → m.Inside x) :
    MadeOf m (Node.textOf x?) (ofName x?) := by
  refine ⟨by simp, fun p hp => ?_⟩
  obtain ⟨x, hx, rfl⟩ := List.mem_map.mp hp
  exact h x (Option.mem_toList.mp hx)

theorem type {n? : Option Node} (h : ∀ n, n? = some n → m.Inside n) (d : Budget) :
    MadeOf m (renderOption n? d) (ofType n? d) := by
  refine ⟨by simp, fun p hp => ?_⟩
  obtain ⟨n, hn, rfl⟩ := List.mem_map.mp hp
  exact h n (Option.mem_toList.mp hn)

/-- Items with a separator between them, of which some may be left out. -/
theorem join {separator : String} (hsep : OneLine separator) {l : List α} {f : α → Option String}
    {g : α → List Piece} (h : ∀ a ∈ l, ∀ s, f a = some s → MadeOf m s (g a))
    (hnone : ∀ a ∈ l, f a = none → g a = []) :
    MadeOf m (Text.join separator (l.filterMap f)) (l.flatMap g) := by
  refine ⟨?_, ?_⟩
  · rw [Text.oneLine_join hsep, Piece.allOneLine_flatMap]
    constructor
    · intro hall a ha
      cases hf : f a with
      | none => simp [hnone a ha hf]
      | some s => exact (h a ha s hf).oneLine.mp (hall s (List.mem_filterMap.mpr ⟨a, ha, hf⟩))
    · intro hall s hs
      obtain ⟨a, ha, hf⟩ := List.mem_filterMap.mp hs
      exact (h a ha s hf).oneLine.mpr (hall a ha)
  · intro p hp
    obtain ⟨a, ha, hp⟩ := List.mem_flatMap.mp hp
    cases hf : f a with
    | none =>
      rw [hnone a ha hf] at hp
      cases hp
    | some s => exact (h a ha s hf).inside p hp

theorem joinMap {separator : String} (hsep : OneLine separator) {l : List α} {f : α → String}
    {g : α → List Piece} (h : ∀ a ∈ l, MadeOf m (f a) (g a)) :
    MadeOf m (Text.join separator (l.map f)) (l.flatMap g) := by
  rw [← List.filterMap_eq_map]
  exact join hsep (fun a ha _ hs => Option.some.inj hs ▸ h a ha) nofun

/-- What is taken from inside a part is taken from inside the whole. -/
theorem of_inside (hn : m.Inside n) (h : MadeOf n s ps) : MadeOf m s ps :=
  ⟨h.oneLine, fun p hp => hn.trans (h.inside p hp)⟩

end MadeOf

/-! ## §2 Shared parts -/

variable {m n : Node} {d : Budget}

/-- The pieces of a bound or a default of a type parameter. -/
def genericPieces (d : Budget) (part : Node) : List Piece :=
  if part.kind == .constraint || part.kind == .defaultType then ofType part.first? d.spend else []

/-- The pieces of a type parameter. -/
def typeParameterPieces (d : Budget) (p : Node) : List Piece :=
  ofName p.name? ++ p.members.flatMap (genericPieces d)

/-- The pieces of the type parameters of a declaration. -/
def genericsPieces (n : Node) (d : Budget) : List Piece :=
  ((Node.membersOf (n.child? .typeParameters)).filter fun p => p.kind == .typeParameter).flatMap
    (typeParameterPieces d)

/-- The pieces of a method. -/
def methodPieces (member : Node) (d : Budget) : List Piece :=
  ofName member.name? ++ parameterPieces member d.spend ++
    ofType (member.child? .returnType) d.spend

/-- The pieces of an index signature. -/
def indexPieces (member : Node) (d : Budget) : List Piece :=
  ofName member.name? ++ ofType (member.child? .indexType) d.spend ++
    ofType (member.child? .typeExpr) d.spend

theorem nameText_madeOf (n : Node) : MadeOf n n.nameText (ofName n.name?) :=
  .name fun _ hx => .of_child? .root hx

theorem renderChild_madeOf (n : Node) (f : Field) (d : Budget) :
    MadeOf n (renderOption (n.child? f) d) (ofType (n.child? f) d) :=
  .type (fun _ hc => .of_child? .root hc) d

theorem renderParameters_madeOf (n : Node) (d : Budget) :
    MadeOf n (renderParameters n d) (parameterPieces n d) :=
  ⟨by simp, fun _ hp => (TypeText.within_of_mem_parameterPieces hp).inside⟩

theorem renderMember_madeOf (n : Node) (d : Budget) :
    MadeOf n (renderMember n d) (memberPieces n d) :=
  ⟨by simp, fun _ hp => (TypeText.within_of_mem_memberPieces hp).inside⟩

theorem genericSuffix_madeOf (d : Budget) (part : Node) :
    MadeOf part (genericSuffix d part) (genericPieces d part) := by
  have htype : MadeOf part (renderOption part.first? d.spend) (ofType part.first? d.spend) :=
    .type (fun _ hc => .of_first? .root hc) _
  unfold genericSuffix genericPieces
  by_cases hconstraint : part.kind = .constraint
  · simpa [hconstraint] using htype.before (by decide)
  · by_cases hdefault : part.kind = .defaultType
    · simpa [hdefault] using htype.before (by decide)
    · simpa [hconstraint, hdefault] using MadeOf.fixed (by decide)

theorem renderTypeParameter_madeOf (d : Budget) (p : Node) :
    MadeOf p (renderTypeParameter d p) (typeParameterPieces d p) := by
  refine (nameText_madeOf p).append (.joinMap (by decide) fun part hpart => ?_)
  exact .of_inside (.of_mem_members .root hpart) (genericSuffix_madeOf d part)

theorem renderGenerics_madeOf (n : Node) (d : Budget) :
    MadeOf n (renderGenerics n d) (genericsPieces n d) := by
  unfold renderGenerics genericsPieces
  dsimp only
  split
  · rename_i hempty
    rw [List.isEmpty_iff.mp hempty]
    exact .fixed (by decide)
  · refine ((MadeOf.joinMap (by decide) fun p hp => ?_).before (by decide)).behind (by decide)
    have hp' := (List.mem_filter.mp hp).1
    exact .of_inside (.of_mem_membersOf (fun _ hc => .of_child? .root hc) hp')
      (renderTypeParameter_madeOf d p)

theorem methodReturn_madeOf (n : Node) (d : Budget) :
    MadeOf n (methodReturn n d) (ofType (n.child? .returnType) d.spend) := by
  have hascribed := renderChild_madeOf n .returnType d.spend
  unfold methodReturn
  cases hreturn : n.child? .returnType with
  | some ascribed =>
    rw [hreturn] at hascribed
    exact hascribed
  | none =>
    -- both defaults are fixed words
    refine .fixed ?_
    dsimp only
    split <;> decide

theorem renderMethod_madeOf (n : Node) (d : Budget) :
    MadeOf n (renderMethod n d) (methodPieces n d) := by
  have hparameters := renderParameters_madeOf n d.spend
  have hhead := ((nameText_madeOf n).behind (t := "(") (by decide)).append hparameters
  exact (hhead.behind (by decide)).append (methodReturn_madeOf n d)

theorem renderIndexSignature_madeOf (n : Node) (d : Budget) :
    MadeOf n (renderIndexSignature n d) (indexPieces n d) := by
  have hkey := ((nameText_madeOf n).before (s := "[") (by decide)).behind (t := ": ") (by decide)
  have hindex := hkey.append (renderChild_madeOf n .indexType d.spend)
  exact (hindex.behind (by decide)).append (renderChild_madeOf n .typeExpr d.spend)

/-- The members of a body between braces. -/
theorem braced_madeOf {separator : String} (hsep : OneLine separator)
    {f : Node → Option String} {g : Node → List Piece}
    (h : ∀ member s, f member = some s → MadeOf member s (g member))
    (hnone : ∀ member, f member = none → g member = []) (n : Node) :
    MadeOf n (braced separator ((Node.membersOf (n.child? .body)).filterMap f))
      ((Node.membersOf (n.child? .body)).flatMap g) := by
  refine ((MadeOf.join hsep (fun a ha s hs => ?_) fun a _ => hnone a).before (by decide)).behind
    (by decide)
  exact .of_inside (.of_mem_membersOf (fun _ hc => .of_child? .root hc) ha) (h a s hs)

/-! ## §3 Interfaces, aliases, enums -/

/-- The pieces of a member of an interface. -/
def interfaceMemberPieces (d : Budget) (member : Node) : List Piece :=
  match member.kind with
  | .propertySignature => memberPieces member d
  | .methodSignature => methodPieces member d
  | .indexSignature => indexPieces member d
  | _ => []

/-- The pieces of an interface. The types that it extends are copied. -/
def interfacePieces (n : Node) (d : Budget) : List Piece :=
  ofName n.name? ++ genericsPieces n d ++
    (Node.membersOf (n.memberOfKind? .extendsTypeClause)).map .copied ++
    (Node.membersOf (n.child? .body)).flatMap (interfaceMemberPieces d)

/-- The pieces of a type alias. -/
def aliasPieces (n : Node) (d : Budget) : List Piece :=
  ofName n.name? ++ genericsPieces n d ++ ofType (n.child? .value) d

/-- The pieces of a member of an enum. Its value is copied. -/
def enumMemberPieces (member : Node) : List Piece :=
  if member.kind == .enumAssignment then ofName member.name? ++ ofName (member.child? .value)
  else [.copied member]

/-- The pieces of an enum. -/
def enumPieces (n : Node) : List Piece :=
  ofName n.name? ++ (Node.membersOf (n.child? .body)).flatMap enumMemberPieces

theorem interfaceMember?_madeOf {member : Node} {s : String}
    (h : interfaceMember? d member = some s) :
    MadeOf member s (interfaceMemberPieces d member) := by
  unfold interfaceMember? at h
  split at h
  case h_4 => cases h
  case h_1 hk =>
    cases h
    rw [interfaceMemberPieces, hk]
    exact renderMember_madeOf member d
  case h_2 hk =>
    cases h
    rw [interfaceMemberPieces, hk]
    exact renderMethod_madeOf member d
  case h_3 hk =>
    cases h
    rw [interfaceMemberPieces, hk]
    exact renderIndexSignature_madeOf member d

theorem interfaceMemberPieces_eq_nil {member : Node} (h : interfaceMember? d member = none) :
    interfaceMemberPieces d member = [] := by
  unfold interfaceMember? at h
  split at h
  case h_1 | h_2 | h_3 => cases h
  case h_4 =>
    unfold interfaceMemberPieces
    split <;> simp_all

theorem copied_madeOf (n : Node) : MadeOf n n.text [.copied n] :=
  ⟨by simp [AllOneLine, Piece.text], by simp [Piece.node, Node.Inside.root]⟩

theorem interfaceExtends_madeOf (n : Node) :
    MadeOf n (interfaceExtends n)
      ((Node.membersOf (n.memberOfKind? .extendsTypeClause)).map .copied) := by
  unfold interfaceExtends
  cases hclause : n.memberOfKind? .extendsTypeClause with
  | none => exact .fixed (by decide)
  | some clause =>
    have hclause' := Node.within_of_mem_members (List.mem_of_find?_eq_some hclause)
    rw [← List.flatMap_pure_eq_map]
    refine (MadeOf.joinMap (by decide) fun t ht => ?_).before (by decide)
    exact .of_inside (hclause'.inside.of_mem_members ht) (copied_madeOf t)

theorem interfaceText_madeOf (n : Node) (d : Budget) :
    MadeOf n (interfaceText n d) (interfacePieces n d) := by
  have hhead := ((nameText_madeOf n).before (s := "interface ") (by decide)).append
    (renderGenerics_madeOf n d)
  have hextends := hhead.append (interfaceExtends_madeOf n)
  exact (hextends.behind (by decide)).append
    (braced_madeOf (by decide) (fun _ _ => interfaceMember?_madeOf)
      (fun _ => interfaceMemberPieces_eq_nil) n)

theorem aliasText_madeOf (n : Node) (d : Budget) :
    MadeOf n (aliasText n d) (aliasPieces n d) := by
  have hhead := ((nameText_madeOf n).before (s := "type ") (by decide)).append
    (renderGenerics_madeOf n d)
  exact (hhead.behind (by decide)).append (renderChild_madeOf n .value d)

theorem enumMember_madeOf (member : Node) :
    MadeOf member (enumMember member) (enumMemberPieces member) := by
  unfold enumMember enumMemberPieces
  split
  · exact ((nameText_madeOf member).behind (by decide)).append
      (.name fun _ hx => .of_child? .root hx)
  · exact copied_madeOf member

theorem enumText_madeOf (n : Node) : MadeOf n (enumText n) (enumPieces n) := by
  have hcomma : OneLine ", " := by decide
  have hmembers := braced_madeOf hcomma (f := some ∘ enumMember)
    (fun member _ hs => Option.some.inj hs ▸ enumMember_madeOf member) nofun n
  rw [List.filterMap_eq_map] at hmembers
  exact (((nameText_madeOf n).before (s := "enum ") (by decide)).behind (by decide)).append hmembers

/-! ## §4 Classes -/

/-- The pieces of a member of a class. -/
def classMemberPieces (d : Budget) (member : Node) : List Piece :=
  if member.kind == .publicFieldDefinition then memberPieces member d
  else if member.kind.isClassMethod && !isAccessor member then
    if member.nameText = "constructor" then parameterPieces member d.spend
    else methodPieces member d
  else []

/-- The pieces of a class. What it extends and implements is collapsed and adds none. -/
def classPieces (n : Node) (d : Budget) : List Piece :=
  ofName n.name? ++ genericsPieces n d ++
    (Node.membersOf (n.child? .body)).flatMap (classMemberPieces d)

theorem oneLine_heritageText {keyword : String} (h : OneLine keyword) (clause : Node) :
    OneLine (heritageText keyword clause) := by
  have htext : OneLine (Text.trim (Text.collapse clause.text)) := (Text.oneLine_collapse _).trim
  unfold heritageText
  dsimp only
  split
  · have hrest : OneLine (String.ofList
        ((Text.trim (Text.collapse clause.text)).toList.drop keyword.toList.length)) := by
      rw [OneLine, String.toList_ofList]
      exact fun hmem => htext (List.mem_of_mem_drop hmem)
    simp +decide [h, hrest.trim]
  · simp +decide [h, htext]

theorem oneLine_classHeritage (n : Node) : OneLine (classHeritage n) := by
  have hempty : OneLine "" := by decide
  rw [classHeritage, Text.oneLine_join hempty]
  intro s hs
  obtain ⟨clause, -, rfl⟩ := List.mem_map.mp hs
  unfold heritageClause
  split
  · exact oneLine_heritageText (by decide) clause
  · exact oneLine_heritageText (by decide) clause
  · decide

theorem oneLine_staticMark (member : Node) : OneLine (staticMark member) := by
  unfold staticMark
  split <;> decide

theorem classMember?_madeOf {member : Node} {s : String} (h : classMember? d member = some s) :
    MadeOf member s (classMemberPieces d member) := by
  unfold classMember? at h
  unfold classMemberPieces
  split at h
  · rename_i hfield
    rw [if_pos hfield, ← Option.some.inj h]
    exact (renderMember_madeOf member d).before (oneLine_staticMark member)
  · rename_i hfield
    rw [if_neg hfield]
    split at h
    · rename_i hmethod
      rw [if_pos hmethod]
      split at h
      · rename_i hconstructor
        rw [if_pos hconstructor, ← Option.some.inj h]
        exact ((renderParameters_madeOf member d.spend).before (by decide)).behind (by decide)
      · rename_i hconstructor
        rw [if_neg hconstructor, ← Option.some.inj h]
        exact (renderMethod_madeOf member d).before (oneLine_staticMark member)
    · cases h

theorem classMemberPieces_eq_nil {member : Node} (h : classMember? d member = none) :
    classMemberPieces d member = [] := by
  unfold classMember? at h
  unfold classMemberPieces
  split at h
  · cases h
  · rename_i hfield
    rw [if_neg hfield]
    split at h
    · split at h <;> cases h
    · rename_i hmethod
      rw [if_neg hmethod]

theorem classText_madeOf {name : Node} (h : n.name? = some name) (d : Budget) :
    MadeOf n (classText n name.text d) (classPieces n d) := by
  have hname : name.text = n.nameText := by
    rw [Node.nameText, h]
    rfl
  have hhead := ((nameText_madeOf n).before (s := "class ") (by decide)).append
    (renderGenerics_madeOf n d)
  have hheritage := (hhead.behind (oneLine_classHeritage n)).behind (t := " ") (by decide)
  rw [hname]
  exact hheritage.append (braced_madeOf (by decide) (fun _ _ => classMember?_madeOf)
    (fun _ => classMemberPieces_eq_nil) n)

/-! ## §5 Namespaces and modules -/

/-- The node that names the first variable of a statement, if it is a plain name. -/
def firstVariableNode? (n : Node) : Option Node :=
  ((n.memberOfKind? .variableDeclarator).bind Node.name?).filter fun x => x.kind == .identifier

/-- The pieces of a declaration that is listed in a namespace. -/
def summaryPieces (n : Node) : List Piece :=
  match n.kind with
  | .interfaceDeclaration | .typeAliasDeclaration | .enumDeclaration | .classDeclaration
  | .abstractClassDeclaration | .functionDeclaration | .generatorDeclaration
  | .functionSignature => ofName n.name?
  | .lexicalDeclaration | .variableDeclaration => ofName (firstVariableNode? n)
  | _ => []

/-- The pieces of what a namespace lists. -/
def contentsPieces (body : Option Node) : List Piece :=
  (Node.membersOf body).flatMap fun s => (declared? s).toList.flatMap summaryPieces

theorem firstVariable?_eq (n : Node) :
    firstVariable? n = (firstVariableNode? n).map Node.text := by
  unfold firstVariable? firstVariableNode?
  cases (n.memberOfKind? .variableDeclarator).bind Node.name? with
  | none => rfl
  | some x => by_cases hx : x.kind = .identifier <;> simp [Option.filter, hx]

theorem inside_of_firstVariableNode? {x : Node} (h : firstVariableNode? n = some x) :
    n.Inside x := by
  obtain ⟨hx, -⟩ := Option.filter_eq_some_iff.mp h
  obtain ⟨declarator, hdeclarator, hname⟩ := Option.bind_eq_some_iff.mp hx
  exact (Node.Inside.root.of_mem_members (List.mem_of_find?_eq_some hdeclarator)).of_child? hname

/-- A word and the name of a node that may be missing. -/
theorem named_madeOf {word s : String} (hword : OneLine word) {x? : Option Node}
    (h : ∀ x, x? = some x → n.Inside x) (hs : x?.map (fun x => word ++ x.text) = some s) :
    MadeOf n s (ofName x?) := by
  obtain ⟨x, rfl, rfl⟩ := Option.map_eq_some_iff.mp hs
  exact (MadeOf.name h).before hword

theorem summary?_madeOf {s : String} (h : summary? n = some s) : MadeOf n s (summaryPieces n) := by
  have hname (x : Node) (hx : n.name? = some x) : n.Inside x := .of_child? .root hx
  unfold summary? at h
  split at h
  case h_1 hk | h_2 hk | h_3 hk =>
    cases h
    rw [summaryPieces, hk]
    exact (nameText_madeOf n).before (by decide)
  case h_4 hk | h_5 hk | h_6 hk | h_7 hk | h_8 hk =>
    rw [summaryPieces, hk]
    exact named_madeOf (by decide) hname h
  case h_9 hk | h_10 hk =>
    rw [firstVariable?_eq, Option.map_map] at h
    rw [summaryPieces, hk]
    exact named_madeOf (by decide) (fun _ => inside_of_firstVariableNode?) h
  case h_11 => cases h

theorem summaryPieces_eq_nil (h : summary? n = none) : summaryPieces n = [] := by
  unfold summary? at h
  split at h
  case h_1 | h_2 | h_3 => cases h
  case h_4 hk | h_5 hk | h_6 hk | h_7 hk | h_8 hk =>
    rw [summaryPieces, hk, Option.map_eq_none_iff.mp h]
    rfl
  case h_9 hk | h_10 hk =>
    rw [firstVariable?_eq, Option.map_map, Option.map_eq_none_iff] at h
    rw [summaryPieces, hk, h]
    rfl
  case h_11 =>
    unfold summaryPieces
    split <;> simp_all

theorem inside_of_declared? {x : Node} (h : declared? n = some x) : n.Inside x := by
  fun_induction declared? n with
  | case1 n _ c hc ih => exact (Node.Inside.root.of_child? hc).trans (ih h)
  | case2 n _ _ c hc ih => exact (Node.Inside.root.of_first? hc).trans (ih h)
  | case3 => cases h
  | case4 =>
    cases h
    exact .root

theorem contents_madeOf {body : Option Node} (h : ∀ b, body = some b → n.Inside b) :
    MadeOf n (contents body) (contentsPieces body) := by
  have htext : MadeOf n (Text.join "; " ((Node.membersOf body).filterMap fun s =>
      (declared? s).bind summary?)) (contentsPieces body) := by
    refine .join (by decide) (fun s hs text htext => ?_) (fun s _ hnone => ?_)
    · obtain ⟨x, hx, hsummary⟩ := Option.bind_eq_some_iff.mp htext
      simp only [hx, Option.toList_some, List.flatMap_singleton]
      exact .of_inside ((Node.Inside.of_mem_membersOf h hs).trans (inside_of_declared? hx))
        (summary?_madeOf hsummary)
    · cases hx : declared? s with
      | none => rfl
      | some x =>
        rw [hx] at hnone
        simp [summaryPieces_eq_nil hnone]
  unfold contents
  dsimp only
  split
  · -- the placeholder stands for the empty text, and neither has a line feed
    rename_i hempty
    rw [hempty] at htext
    exact ⟨by simpa +decide using htext.oneLine, htext.inside⟩
  · exact htext

/-! ## §6 Headings -/

/-- **The pieces of a signature**, kind by kind. -/
def headingPieces (n : Node) (d : Budget) : List Piece :=
  match n.kind with
  | .interfaceDeclaration => interfacePieces n d
  | .typeAliasDeclaration => aliasPieces n d
  | .enumDeclaration => enumPieces n
  | .classDeclaration | .abstractClassDeclaration => classPieces n d
  | .namespaceDeclaration | .moduleDeclaration =>
    ofName n.name? ++ contentsPieces (n.child? .body)
  | .ambientDeclaration => contentsPieces (n.memberOfKind? .statementBlock)
  | _ => []

theorem scopeHeading?_madeOf {h : Heading} (hh : scopeHeading? n = some h) :
    MadeOf n h.text (ofName n.name? ++ contentsPieces (n.child? .body)) := by
  have hcontents : MadeOf n (contents (n.child? .body)) (contentsPieces (n.child? .body)) :=
    contents_madeOf fun _ hb => .of_child? .root hb
  obtain ⟨name, hname, heq⟩ := Option.map_eq_some_iff.mp hh
  have hheader {word : String} (hword : OneLine word) :
      MadeOf n (scopeText (word ++ name.text) (n.child? .body))
        (ofName n.name? ++ contentsPieces (n.child? .body)) := by
    have hnode := named_madeOf hword (fun x hx => .of_child? .root hx)
      (by rw [hname]; rfl : n.name?.map (fun x => word ++ x.text) = some (word ++ name.text))
    exact ((hnode.behind (by decide)).append hcontents).behind (by decide)
  split at heq <;> cases heq
  · exact hheader (by decide)
  · exact hheader (by decide)

theorem globalHeading?_madeOf {h : Heading} (hh : globalHeading? n = some h) :
    MadeOf n h.text (contentsPieces (n.memberOfKind? .statementBlock)) := by
  have hcontents : MadeOf n (contents (n.memberOfKind? .statementBlock))
      (contentsPieces (n.memberOfKind? .statementBlock)) :=
    contents_madeOf fun _ hb => .of_mem_members .root (List.mem_of_find?_eq_some hb)
  unfold globalHeading? at hh
  split at hh
  · cases hh
    exact (hcontents.before (by decide)).behind (by decide)
  · cases hh

/-- **A signature is made of its pieces**, whatever it declares. -/
theorem heading?_madeOf {h : Heading} (hh : heading? n d = some h) :
    MadeOf n h.text (headingPieces n d) := by
  unfold heading? at hh
  split at hh
  case h_1 hk =>
    cases hh
    rw [headingPieces, hk]
    exact interfaceText_madeOf n d
  case h_2 hk =>
    cases hh
    rw [headingPieces, hk]
    exact aliasText_madeOf n d
  case h_3 hk =>
    cases hh
    rw [headingPieces, hk]
    exact enumText_madeOf n
  case h_4 hk | h_5 hk =>
    obtain ⟨name, hname, rfl⟩ := Option.map_eq_some_iff.mp hh
    rw [headingPieces, hk]
    exact classText_madeOf hname d
  case h_6 hk | h_7 hk =>
    rw [headingPieces, hk]
    exact scopeHeading?_madeOf hh
  case h_8 hk =>
    rw [headingPieces, hk]
    exact globalHeading?_madeOf hh
  case h_9 => cases hh

end TsOutline.Declaration
