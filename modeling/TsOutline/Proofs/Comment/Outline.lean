import TsOutline.Proofs.Comment.Declaration
import TsOutline.Proofs.Isolation

/-!
# Outlines without Comments

Deleting comments from a tree changes nothing in its outline. A node and its bare form say the same
about themselves (`sameInside_bare`) and look alike from below (`alike_bare`), so by induction on the
tree a subtree lists the same as its bare form (`listing_preorder_bare`); the comments that the bare
form lacks list nothing.

Two trees that differ in their comments have one bare form, and so one outline.
-/

namespace TsOutline

open Node (bare)

/-! ## §1 Components and callables -/

namespace Component

@[simp] theorem isMarkup_bare (n? : Option Node) : isMarkup (n?.map bare) = isMarkup n? := by
  cases n? with
  | none => rfl
  | some n =>
    simp only [isMarkup, Option.map_some, Option.bind_some, Node.unwrapParentheses_bare]
    cases n.unwrapParentheses with
    | none => rfl
    | some m => simp

@[simp] theorem isMarkupReturn_bare (statement : Node) :
    isMarkupReturn statement.bare = isMarkupReturn statement := by
  simp [isMarkupReturn]

/-- A comment between the statements of a body does not hide what the body returns. -/
@[simp] theorem returnsMarkup_bare (callable : Node) :
    returnsMarkup callable.bare = returnsMarkup callable := by
  unfold returnsMarkup
  rw [Node.child?_bare]
  cases callable.child? .body with
  | none => rfl
  | some body =>
    have hbody : isMarkup (some body.bare) = isMarkup (some body) := isMarkup_bare (some body)
    simp [hbody, List.any_map, Function.comp_def]

@[simp] theorem looksLikeComponent_bare (callable : Node) (name? : Option String) :
    looksLikeComponent callable.bare name? = looksLikeComponent callable name? := by
  simp [looksLikeComponent]

end Component

namespace Callable

theorem parameters_bare (callable : Node) : parameters callable.bare = parameters callable := by
  unfold parameters
  rw [Node.parameterNodes_bare, List.map_map]
  apply List.map_congr_left
  intro p _
  simp only [Function.comp_def, Node.parameterName_bare, Node.parameterType?_bare]
  cases p.parameterType? with
  | none => rfl
  | some t => simp

theorem hasExpressionBody_bare (callable : Node) :
    hasExpressionBody callable.bare = hasExpressionBody callable := by
  unfold hasExpressionBody
  rw [Node.kind_bare, Node.child?_bare]
  cases callable.child? .body with
  | none => rfl
  | some body => simp

theorem returnType_bare (callable : Node) (name : String) (view : Bool) :
    returnType callable.bare name view = returnType callable name view := by
  unfold returnType
  rw [Node.child?_bare, Node.bind_unwrap_bare, Component.looksLikeComponent_bare,
    hasExpressionBody_bare]
  cases (callable.child? .returnType).bind Node.unwrap with
  | none => rfl
  | some ascribed => simp

end Callable

/-! ## §2 Routers -/

namespace Router

theorem boundName?_bare (factories : List String) (n : Node) :
    boundName? factories n.bare = boundName? factories n := by
  unfold boundName?
  rw [Node.kind_bare, Node.memberOfKind?_bare]
  -- the first variable is the same, and so are its value and its name
  cases n.memberOfKind? .variableDeclarator with
  | none => rfl
  | some declarator =>
    simp only [Option.map_some, Node.child?_bare, Node.name?_bare]
    cases declarator.child? .value with
    | none => rfl
    | some value =>
      cases declarator.name? with
      | none => rfl
      | some name => simp

theorem withInput_bare (r : Reading) (argument? : Option Node) :
    r.withInput (argument?.map bare) = r.withInput argument? := by
  cases argument? with
  | none => rfl
  | some a => simp [Reading.withInput]

theorem step_bare (r : Reading) (method : String) (argument? : Option Node) :
    r.step method (argument?.map bare) = r.step method argument? := by
  unfold Reading.step
  rw [withInput_bare]

/-- One call of a chain, and the rest of the chain if the call is a method call. -/
theorem readChain_eq (r : Reading) (expr : Node) :
    readChain r expr =
      if expr.kind == .callExpression then
        (expr.child? .function).elim r fun callee =>
          if callee.kind == .memberExpression then
            let r' := r.step (Node.textOf (callee.child? .property))
              (Node.membersOf (expr.child? .arguments)).head?
            (callee.child? .object).elim r' (readChain r')
          else r
      else r := by
  rw [readChain]
  split
  · split
    · rename_i hnone
      rw [hnone]
      rfl
    · rename_i callee hcallee
      rw [hcallee, Option.elim_some]
      split
      · split
        · rename_i inner hinner
          rw [hinner]
          rfl
        · rename_i hnone
          rw [hnone]
          rfl
      · rfl
  · rfl

/-- **Chains**: a chain of calls is read the same without its comments. -/
theorem readChain_bare (r : Reading) (expr : Node) : readChain r expr.bare = readChain r expr := by
  rw [readChain_eq, readChain_eq, Node.kind_bare, Node.child?_bare, Node.child?_bare]
  cases hcallee : expr.child? .function with
  | none => rfl
  | some callee =>
    simp only [Option.map_some, Option.elim_some, Node.kind_bare, Node.child?_bare, Node.textOf_bare,
      Node.membersOf_bare, List.head?_map, step_bare]
    cases hinner : callee.child? .object with
    | none => rfl
    | some inner =>
      -- the rest of the chain is what the method is called on
      have hlt : inner.size < expr.size :=
        Nat.lt_trans (Node.size_lt_of_child? hinner) (Node.size_lt_of_child? hcallee)
      simp only [Option.map_some, Option.elim_some, readChain_bare _ inner]
termination_by expr.size

theorem procedure?_bare (property : Node) (path router : String) :
    procedure? property.bare path router = procedure? property path router := by
  unfold procedure?
  rw [Node.child?_bare, Node.child?_bare, Node.textOf_bare]
  cases property.child? .value with
  | none => rfl
  | some expr => simp only [Option.map_some, readChain_bare]

theorem isPlainPair_bare (n : Node) : isPlainPair n.bare = isPlainPair n := by
  unfold isPlainPair
  rw [Node.kind_bare, Node.child?_bare]
  cases n.child? .key with
  | none => rfl
  | some key => simp

theorem procedures_bare (routerObject : Node) (path router : String) :
    procedures routerObject.bare path router = procedures routerObject path router := by
  simp only [procedures, Node.members_bare, List.filter_map, List.filterMap_map, Function.comp_def,
    isPlainPair_bare, procedure?_bare]

end Router

/-! ## §3 A node and its bare form -/

namespace Cursor

theorem clauseNames_bare (statement : Node) : clauseNames statement.bare = clauseNames statement := by
  simp only [clauseNames, Node.kind_bare, Node.child?_bare, Option.isNone_map, Node.members_bare,
    List.filter_map, List.flatMap_map, List.map_map, Function.comp_def, Node.nameText_bare]

theorem exportsName_bare (scope : Node) (name : String) :
    exportsName scope.bare name = exportsName scope name := by
  simp only [exportsName, Node.members_bare, List.any_map, Function.comp_def, clauseNames_bare]

/-- A node without its comments says the same about itself. -/
theorem sameInside_bare (o : Outline.Options) (n : Node) : SameInside o n.bare n where
  field := Node.field_bare n
  parameters := Callable.parameters_bare n
  returnType name := Callable.returnType_bare n name o.view
  heading := Declaration.heading?_bare n o.depth
  procedures router := Router.procedures_bare n o.path router

end Cursor

namespace Node

theorem map_label_bare (n? : Option Node) : (n?.map bare).map label = n?.map label := by
  cases n? with
  | none => rfl
  | some n => simp [label]

/-- A node without its comments looks the same from below. -/
theorem alike_bare (n : Node) : n.bare.Alike n where
  kind := kind_bare n
  exports name := Cursor.exportsName_bare n name
  parts _ :=
    { name := by rw [name?_bare, map_label_bare]
      key := by rw [child?_bare, map_label_bare]
      callee := calleeText_bare n
      bound := fun factories => Router.boundName?_bare factories n }

theorem alike_map_bare (as : List Node) : List.Forall₂ Alike (as.map bare) as := by
  induction as with
  | nil => exact .nil
  | cons a as ih => exact .cons (alike_bare a) ih

end Node

/-! ## §4 Subtrees and whole outlines -/

namespace Outline

/-- A comment lists nothing. -/
theorem listing_preorder_comment (o : Options) {c : Node} (above : List Node)
    (h : c.isPlainComment = true) : listing o (Cursor.preorder ⟨c, above⟩) = empty := by
  simp only [Node.isPlainComment, Bool.and_eq_true, beq_iff_eq, List.isEmpty_iff] at h
  have hkind : c.kind = .comment := h.1.1.1
  have hentries : entriesAt o ⟨c, above⟩ (activeRouter? o ⟨c, above⟩) = empty := by
    apply entriesAt_eq_empty
    · rw [Cursor.kind, hkind]
      rfl
    · rw [Cursor.kind, hkind]
      decide
    · simp [Declaration.heading?, hkind]
  rw [preorder_mk, h.2, listing_cons, hentries]
  rfl

/-- Children without their comments list what all of them list. -/
theorem listing_flatMap_filter_comments (o : Options) (above : List Node) (cs : List Node) :
    listing o ((cs.filter fun c => !c.isPlainComment).flatMap fun c =>
        Cursor.preorder ⟨c, above⟩) =
      listing o (cs.flatMap fun c => Cursor.preorder ⟨c, above⟩) := by
  induction cs with
  | nil => rfl
  | cons c cs ih =>
    rw [List.flatMap_cons, listing_append, ← ih]
    by_cases hc : c.isPlainComment = true
    · -- the filter drops the comment, which lists nothing anyway
      rw [List.filter_cons_of_neg (by simp [hc]), listing_preorder_comment o above hc]
      rfl
    · rw [List.filter_cons_of_pos (by simp [hc]), List.flatMap_cons, listing_append]

/-- **Subtrees**: a subtree lists the same as its bare form. -/
theorem listing_preorder_bare (o : Options) (n : Node) (above : List Node) :
    listing o (Cursor.preorder ⟨n.bare, above.map bare⟩) =
      listing o (Cursor.preorder ⟨n, above⟩) := by
  have halike : Cursor.Alike ⟨n.bare, above.map bare⟩ ⟨n, above⟩ :=
    ⟨Node.alike_bare n, Node.alike_map_bare above⟩
  rw [preorder_mk, preorder_mk, listing_cons, listing_cons,
    halike.entriesAt (Cursor.sameInside_bare o n), Node.children_bare]
  congr 1
  -- below the node only the comments are missing, and these list nothing
  rw [List.flatMap_map, ← listing_flatMap_filter_comments o (n :: above) n.children]
  apply listing_flatMap_congr
  intro c hc
  exact listing_preorder_bare o c (n :: above)
termination_by n.size
decreasing_by exact Node.size_lt_of_mem_children (List.mem_filter.mp hc).1

theorem ofTree_bare (o : Options) (tree : Node) : ofTree o tree.bare = ofTree o tree := by
  rw [ofTree_eq_listing, ofTree_eq_listing]
  exact listing_preorder_bare o tree []

/-- **Comments are transparent**: deleting any of the comments of a tree leaves its outline as it
    is, for all options. -/
theorem ofTree_withoutComments (o : Options) (tree : Node) (chosen : List Nat → Bool)
    (h : tree.commentsPlain = true) : ofTree o (tree.withoutComments chosen) = ofTree o tree := by
  -- both trees have the outline of their common bare form
  rw [← ofTree_bare o (tree.withoutComments chosen), Node.bare_withoutComments chosen tree h,
    ofTree_bare]

/-- A comment with the given text. -/
def remark (text : String) : Node :=
  .mk .comment true none text []

/-- A component with comments among its parameters and inside the parentheses of what it returns;
    the second one is deleted together with the third. -/
theorem ofTree_withoutComments_component :
    let o : Options := ⟨"/a.tsx", .ofUnits 2, ["make"], true⟩
    let parameter : Node := .mk .identifier true none "x" []
    let markup : Node := .mk .parenthesizedExpression true none "(<p/>)"
      [remark "// b", .mk .jsxSelfClosingElement true none "<p/>" []]
    let body : Node := .mk .statementBlock true (some .body) "..."
      [.mk .returnStatement true none "return (<p/>)" [remark "// c", markup]]
    let tree : Node := .mk .functionDeclaration true none "..."
      [.mk .identifier true (some .name) "f" [],
       .mk .formalParameters true (some .parameters) "(x)" [remark "// a", parameter], body]
    let chosen : List Nat → Bool := fun p => [[2, 0, 0], [2, 0, 1, 0]].contains p
    tree.commentsPlain = true ∧ (tree.withoutComments chosen).size + 2 = tree.size ∧
      ofTree o (tree.withoutComments chosen) = ofTree o tree := by
  intro o parameter markup body tree chosen
  refine ⟨by decide, by decide, ?_⟩
  exact ofTree_withoutComments o tree chosen (by decide)

end Outline

end TsOutline
