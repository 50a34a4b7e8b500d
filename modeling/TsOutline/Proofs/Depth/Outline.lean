import TsOutline.Proofs.Depth.Abbreviation
import TsOutline.Proofs.Walk

/-!
# Outlines under Two Budgets

The budget is spent in the signatures of interfaces, aliases and classes, each part of them in its own
way. All parts are put together from fixed texts and rendered types, so each signature under a smaller
budget abbreviates the one under a larger budget (`heading?_abbreviates`), and nothing else about an
outline depends on the budget.
-/

namespace TsOutline

/-! ## §1 Parts of declarations -/

namespace Declaration

open TypeText (Abbreviates render_abbreviates renderOption_abbreviates renderParameters_abbreviates
  renderMember_abbreviates)

variable {tree n : Node} {d d' : Budget}

theorem genericSuffix_abbreviates (hle : d ≤ d') (hn : tree.Inside n) :
    Abbreviates tree (genericSuffix d n) (genericSuffix d' n) := by
  have hfirst := renderOption_abbreviates (Budget.spend_le_spend hle) fun _ hc => hn.of_first? hc
  unfold genericSuffix
  split
  · exact (Abbreviates.kept _).append hfirst
  · split
    · exact (Abbreviates.kept _).append hfirst
    · exact .kept _

theorem renderGenerics_abbreviates (hle : d ≤ d') (hn : tree.Inside n) :
    Abbreviates tree (renderGenerics n d) (renderGenerics n d') := by
  unfold renderGenerics
  dsimp only
  split
  · exact .kept _
  · refine ((Abbreviates.kept _).append (.join_map ?_)).append (.kept _)
    intro p hp
    have hinside : tree.Inside p :=
      .of_mem_membersOf (fun _ hc => hn.of_child? hc) (List.mem_filter.mp hp).1
    -- a bound and a default come in the order of the source, each with its own keyword
    refine (Abbreviates.kept _).append (.join_map ?_)
    intro part hpart
    exact genericSuffix_abbreviates hle (hinside.of_mem_members hpart)

theorem methodReturn_abbreviates (hle : d ≤ d') (hn : tree.Inside n) :
    Abbreviates tree (methodReturn n d) (methodReturn n d') := by
  unfold methodReturn
  cases hr : n.child? .returnType with
  | none => exact .kept _
  | some ascribed => exact render_abbreviates (Budget.spend_le_spend hle) (hn.of_child? hr)

theorem renderMethod_abbreviates (hle : d ≤ d') (hn : tree.Inside n) :
    Abbreviates tree (renderMethod n d) (renderMethod n d') := by
  have hparameters := renderParameters_abbreviates (Budget.spend_le_spend hle) hn
  have hreturn := methodReturn_abbreviates hle hn
  exact (((Abbreviates.kept _).append hparameters).append (.kept _)).append hreturn

theorem renderIndexSignature_abbreviates (hle : d ≤ d') (hn : tree.Inside n) :
    Abbreviates tree (renderIndexSignature n d) (renderIndexSignature n d') := by
  have hpart (f : Field) := renderOption_abbreviates (Budget.spend_le_spend hle)
    fun _ (hc : n.child? f = some _) => hn.of_child? hc
  exact (((Abbreviates.kept _).append (hpart _)).append (.kept _)).append (hpart _)

/-! ## §2 Members -/

/-- The same nodes have a text under both budgets, and the texts are related. -/
theorem forall₂_filterMap {α β : Type} {R : β → β → Prop} {f g : α → Option β} {l : List α}
    (h : ∀ a ∈ l, Option.Rel R (f a) (g a)) : List.Forall₂ R (l.filterMap f) (l.filterMap g) := by
  -- membership rides along in the relation, since `h` speaks of the items of the list only
  have hl : List.Forall₂ (fun a b => a = b ∧ a ∈ l) l l := by
    rw [List.forall₂_same]
    exact fun a ha => ⟨rfl, ha⟩
  refine List.rel_filterMap ?_ hl
  rintro a _ ⟨rfl, ha⟩
  exact h a ha

theorem interfaceMember?_abbreviates (hle : d ≤ d') (hn : tree.Inside n) :
    Option.Rel (Abbreviates tree) (interfaceMember? d n) (interfaceMember? d' n) := by
  unfold interfaceMember?
  split
  · exact .some (renderMember_abbreviates hle hn)
  · exact .some (renderMethod_abbreviates hle hn)
  · exact .some (renderIndexSignature_abbreviates hle hn)
  · exact .none

theorem classMember?_abbreviates (hle : d ≤ d') (hn : tree.Inside n) :
    Option.Rel (Abbreviates tree) (classMember? d n) (classMember? d' n) := by
  have hparameters := renderParameters_abbreviates (Budget.spend_le_spend hle) hn
  -- a property, then a constructor without a result, then the other methods
  unfold classMember?
  split
  · exact .some ((Abbreviates.kept _).append (renderMember_abbreviates hle hn))
  · split
    · split
      · exact .some (((Abbreviates.kept _).append hparameters).append (.kept _))
      · exact .some ((Abbreviates.kept _).append (renderMethod_abbreviates hle hn))
    · exact .none

/-- The members between braces, each abbreviated. -/
theorem braced_abbreviates {member? : Budget → Node → Option String} (hn : tree.Inside n)
    (h : ∀ m, tree.Inside m → Option.Rel (Abbreviates tree) (member? d m) (member? d' m)) :
    Abbreviates tree (braced "; " ((Node.membersOf (n.child? .body)).filterMap (member? d)))
      (braced "; " ((Node.membersOf (n.child? .body)).filterMap (member? d'))) := by
  refine ((Abbreviates.kept _).append (.join (forall₂_filterMap ?_))).append (.kept _)
  intro m hm
  exact h m (.of_mem_membersOf (fun _ hc => hn.of_child? hc) hm)

/-! ## §3 Headings -/

/-- Two headings of one declaration, the first one with an abbreviated text. -/
structure Heading.Abbreviates (tree : Node) (h h' : Heading) : Prop where
  name : h.name = h'.name
  kind : h.kind = h'.kind
  text : TypeText.Abbreviates tree h.text h'.text

theorem interfaceText_abbreviates (hle : d ≤ d') (hn : tree.Inside n) :
    Abbreviates tree (interfaceText n d) (interfaceText n d') := by
  have hmembers := braced_abbreviates hn fun m hm => interfaceMember?_abbreviates hle hm
  have hgenerics := renderGenerics_abbreviates hle hn
  exact ((((Abbreviates.kept _).append hgenerics).append (.kept _)).append (.kept _)).append hmembers

theorem aliasText_abbreviates (hle : d ≤ d') (hn : tree.Inside n) :
    Abbreviates tree (aliasText n d) (aliasText n d') := by
  have hvalue := renderOption_abbreviates hle fun _ (hc : n.child? .value = some _) =>
    hn.of_child? hc
  have hgenerics := renderGenerics_abbreviates hle hn
  exact (((Abbreviates.kept _).append hgenerics).append (.kept _)).append hvalue

theorem classText_abbreviates (hle : d ≤ d') (hn : tree.Inside n) (name : String) :
    Abbreviates tree (classText n name d) (classText n name d') := by
  have hmembers := braced_abbreviates hn fun m hm => classMember?_abbreviates hle hm
  have hgenerics := renderGenerics_abbreviates hle hn
  exact ((((Abbreviates.kept _).append hgenerics).append (.kept _)).append (.kept _)).append hmembers

/-- **Declarations**: the budget decides neither whether a node declares a type nor its name and kind,
    and a smaller budget abbreviates the text. -/
theorem heading?_abbreviates (hle : d ≤ d') (hn : tree.Inside n) :
    Option.Rel (Heading.Abbreviates tree) (heading? n d) (heading? n d') := by
  have hsame (h? : Option Heading) : Option.Rel (Heading.Abbreviates tree) h? h? := by
    cases h? with
    | none => exact .none
    | some h => exact .some ⟨rfl, rfl, .kept _⟩
  have hclass : Option.Rel (Heading.Abbreviates tree)
      (n.name?.map fun name => ⟨name.text, .classKind, classText n name.text d⟩)
      (n.name?.map fun name => ⟨name.text, .classKind, classText n name.text d'⟩) := by
    cases n.name? with
    | none => exact .none
    | some name => exact .some ⟨rfl, rfl, classText_abbreviates hle hn name.text⟩
  unfold heading?
  split
  · exact .some ⟨rfl, rfl, interfaceText_abbreviates hle hn⟩
  · exact .some ⟨rfl, rfl, aliasText_abbreviates hle hn⟩
  · exact hsame _
  · exact hclass
  · exact hclass
  · -- namespaces and modules only list names
    exact hsame _
  · exact hsame _
  · exact hsame _
  · exact .none

end Declaration

/-! ## §4 Outlines -/

/-- Two records of one declaration: the same but for the text, which the first one abbreviates. Where
    the first text has no placeholder, the records are equal. -/
structure TypeSignature.Abbreviates (tree : Node) (t t' : TypeSignature) : Prop where
  name : t.name = t'.name
  kind : t.kind = t'.kind
  filePath : t.filePath = t'.filePath
  isExported : t.isExported = t'.isExported
  text : TypeText.Abbreviates tree t.fullSignature t'.fullSignature
  complete : Text.contains t.fullSignature TypeText.placeholder = false → t' = t

/-- The nodes that a walk visits are nodes of the tree. -/
theorem Cursor.inside_of_mem_preorder {tree : Node} {c e : Cursor} (hc : tree.Inside c.node)
    (he : e ∈ c.preorder) : tree.Inside e.node := by
  rw [Cursor.preorder_eq] at he
  rcases List.mem_cons.mp he with rfl | hbelow
  · exact hc
  · obtain ⟨child, hchild, hmem⟩ := List.mem_flatMap.mp hbelow
    have hlt := Cursor.size_lt_of_mem_children hchild
    obtain ⟨m, hm, rfl⟩ := List.mem_map.mp hchild
    exact Cursor.inside_of_mem_preorder (hc.child hm) hmem
termination_by c.node.size

theorem Declaration.signature?_abbreviates {tree : Node} {d d' : Budget} (hle : d ≤ d') {c : Cursor}
    (hc : tree.Inside c.node) (path : String) :
    Option.Rel (TypeSignature.Abbreviates tree) (signature? c path d) (signature? c path d') := by
  have hheading := heading?_abbreviates hle hc
  -- the path and the export do not look at the heading, so only its relation is needed
  unfold signature?
  generalize heading? c.node d = h?, heading? c.node d' = h?' at hheading ⊢
  cases hheading with
  | none => exact .none
  | @some h h' habbr =>
    refine .some ⟨habbr.name, habbr.kind, rfl, rfl, habbr.text, ?_⟩
    -- with the texts equal, so are all fields
    intro hcomplete
    have htext : h'.text = h.text := habbr.text.eq_of_not_contains hcomplete
    simp only [habbr.name, habbr.kind, htext]

namespace Outline

/-- The functions of an outline are the same whatever the budget. -/
theorem functions_ofTree_depth (o : Options) (tree : Node) (d d' : Budget) :
    (ofTree { o with depth := d } tree).functions =
      (ofTree { o with depth := d' } tree).functions := by
  rw [ofTree_eq_listing, ofTree_eq_listing]
  rfl

theorem types_ofTree (o : Options) (tree : Node) :
    (ofTree o tree).types = (Cursor.root tree).preorder.filterMap fun c =>
      Declaration.signature? c o.path o.depth := by
  rw [ofTree_eq_listing, List.filterMap_eq_flatMap_toList]
  rfl

/-- **The depth only abbreviates**: with a smaller budget an outline lists the same functions and, in
    the same order, the same type declarations, whose texts are those of the larger budget with pieces
    left out. So are the texts of single types, overdrawn budgets included, and a text without a
    placeholder is already the text under every larger budget. -/
theorem depth_only_abbreviates (o : Options) (tree : Node) (d d' : Budget) (hle : d ≤ d') :
    (ofTree { o with depth := d } tree).functions =
        (ofTree { o with depth := d' } tree).functions ∧
      List.Forall₂ (TypeSignature.Abbreviates tree) (ofTree { o with depth := d } tree).types
        (ofTree { o with depth := d' } tree).types ∧
      ∀ n : Node,
        TypeText.Abbreviates n (TypeText.render n d) (TypeText.render n d') ∧
          (Text.contains (TypeText.render n d) TypeText.placeholder = false →
            TypeText.render n d' = TypeText.render n d) := by
  refine ⟨functions_ofTree_depth o tree d d', ?_, ?_⟩
  · rw [types_ofTree, types_ofTree]
    apply Declaration.forall₂_filterMap
    intro c hc
    exact Declaration.signature?_abbreviates hle
      (Cursor.inside_of_mem_preorder (c := .root tree) .root hc) o.path
  · intro n
    have habbr := TypeText.render_abbreviates hle (Node.Inside.root : n.Inside n)
    exact ⟨habbr, habbr.eq_of_not_contains⟩

/-- The property `name: type`. -/
def propertyOf (name : String) (type : Node) : Node :=
  .mk .propertySignature true none "name: type"
    [.mk .propertyIdentifier true (some .name) name [],
     .mk .typeAscription true (some .typeExpr) ": type" [type]]

/-- The declaration `type T = { a: Set<K>; b: { [P in K]: V } }`. -/
def recordAlias : Node :=
  .mk .typeAliasDeclaration true none "type T = ..."
    [.mk .typeIdentifier true (some .name) "T" [],
     .mk .objectType true (some .value) "..."
      [propertyOf "a" (.mk .genericType true none "Set<K>"
        [.mk .typeIdentifier true (some .name) "Set" [],
         .mk (.other "type_arguments") true (some .typeArguments) "<K>"
          [.mk .typeIdentifier true none "K" []]]),
       propertyOf "b" (.mk .objectType true none "\x7b [P in K]: V \x7d"
        [.mk .indexSignature true none "[P in K]: V"
          [.mk .mappedTypeClause true none "P in K" []]])]]

/-- One unit less replaces the argument of `Set` and the mapped type, and keeps all else. -/
theorem recordAlias_depth_one_and_two :
    let one := ofTree ⟨"/a.ts", .ofUnits 1, [], false⟩ recordAlias
    let two := ofTree ⟨"/a.ts", .ofUnits 2, [], false⟩ recordAlias
    one.types.map (·.fullSignature) =
        ["type T = \x7b a: Set<...>; b: \x7b [K in ...]: ... \x7d \x7d"] ∧
      two.types.map (·.fullSignature) =
        ["type T = \x7b a: Set<K>; b: \x7b [P in K]: V \x7d \x7d"] ∧
      List.Forall₂ (TypeSignature.Abbreviates recordAlias) one.types two.types := by
  refine ⟨by decide +kernel, by decide +kernel, ?_⟩
  have hle : Budget.ofUnits 1 ≤ Budget.ofUnits 2 := Budget.ofUnits_le_ofUnits.mpr (by decide)
  exact (depth_only_abbreviates ⟨"/a.ts", .ofUnits 1, [], false⟩ recordAlias _ _ hle).2.1

end Outline

end TsOutline
