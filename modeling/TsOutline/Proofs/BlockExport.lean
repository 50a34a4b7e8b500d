import TsOutline.Proofs.ExportClause

/-!
# Blocks Seal Exports

Whether a declaration is exported is found by three searches upwards: through `declare` wrappers, for
the scope whose clauses count, and for an exported statement around it. Each has a stopping rule of its
own, and a statement block stops all three. So a block can be cut out of its tree, and everything in it
is exported as before.

- **Contexts** (`under`): the same node with more ancestors on top.
- **The searches** (`hasExportModifier_seal`, `scope?_seal`, `underExport_seal`): by induction on the
  ancestors up to the block.
- **The rule** (`isExported_seal`), and from it every node below a block in any tree.
-/

namespace TsOutline.Cursor

/-! ## §1 Contexts -/

/-- The node in its context, with more ancestors on top. -/
def under (outer : List Node) (c : Cursor) : Cursor :=
  ⟨c.node, c.ancestors ++ outer⟩

/-- Everything strictly below a node, in pre-order. -/
def below (c : Cursor) : List Cursor :=
  c.children.flatMap preorder

theorem children_under (outer : List Node) (c : Cursor) :
    (c.under outer).children = c.children.map (under outer) := by
  simp [children, under, Function.comp_def]

/-- A subtree is walked in the same order under more ancestors. -/
theorem preorder_under (outer : List Node) (c : Cursor) :
    (c.under outer).preorder = c.preorder.map (under outer) := by
  rw [preorder_eq, preorder_eq c, children_under, List.map_cons, List.map_flatMap, List.flatMap_map]
  congr 1
  apply List.flatMap_congr
  intro d hd
  have hlt := size_lt_of_mem_children hd
  exact preorder_under outer d
termination_by c.node.size

theorem below_under (outer : List Node) (c : Cursor) :
    (c.under outer).below = c.below.map (under outer) := by
  rw [below, below, children_under, List.map_flatMap, List.flatMap_map]
  apply List.flatMap_congr
  intro d _
  exact preorder_under outer d

/-- What is below a root has the root for its last ancestor. -/
theorem isBelow_of_mem_below {n : Node} {c : Cursor} (h : c ∈ (root n).below) : c.IsBelow n := by
  obtain ⟨d, hd, hc⟩ := List.mem_flatMap.mp h
  obtain ⟨m, _, rfl⟩ := List.mem_map.mp hd
  exact (IsBelow.preorder_reroot n (c := ⟨m, [n]⟩) rfl).2 c hc

/-! ## §2 The searches upwards -/

section Seal

variable {block : Node} (hblock : block.kind = .statementBlock) (outer : List Node)

include hblock

/-- A block is no `declare` and no export, so it ends the search for an `export` in front. -/
theorem hasExportModifier_seal (n : Node) (inner : List Node) :
    hasExportModifier ⟨n, inner ++ block :: outer⟩ = hasExportModifier ⟨n, inner ++ [block]⟩ := by
  induction inner with
  | nil => simp [hasExportModifier, aboveStatement, aboveAmbient, hblock]
  | cons p ps ih =>
    -- a `declare` is passed, and anything else ends the search before the block is reached
    by_cases hambient : p.kind = .ambientDeclaration
    · simpa [hasExportModifier, aboveStatement, aboveAmbient, hambient] using ih
    · simp [hasExportModifier, aboveStatement, aboveAmbient, hambient]

/-- A block is a scope, so no scope outside of it is found. -/
theorem scope?_seal (inner : List Node) :
    scope? (inner ++ block :: outer) = scope? (inner ++ [block]) := by
  have hscope : block.kind.isScope = true := by rw [hblock]; rfl
  simp [scope?, List.find?_append, hscope]

omit hblock in
theorem parentKind?_seal (n : Node) (inner : List Node) :
    parentKind? ⟨n, inner ++ block :: outer⟩ = parentKind? ⟨n, inner ++ [block]⟩ := by
  cases inner with
  | nil => rfl
  | cons p ps => rfl

theorem isClauseTarget_seal (n : Node) (inner : List Node) :
    isClauseTarget ⟨n, inner ++ block :: outer⟩ = isClauseTarget ⟨n, inner ++ [block]⟩ := by
  rw [Bool.eq_iff_iff, isClauseTarget_iff, isClauseTarget_iff, parentKind?_seal,
    scope?_seal hblock]

theorem isExportedDirectly_seal (n : Node) (inner : List Node) :
    isExportedDirectly ⟨n, inner ++ block :: outer⟩ = isExportedDirectly ⟨n, inner ++ [block]⟩ := by
  unfold isExportedDirectly
  rw [hasExportModifier_seal hblock, isClauseTarget_seal hblock]

/-- At a block the search for an exported statement ends without one. -/
theorem underExport_block : underExport block outer = false := by
  cases outer with
  | nil => rfl
  | cons p ps => simp [underExport, hblock, Kind.isExportable, Kind.isVariableStatement,
      Kind.isClassDeclaration]

theorem underExport_seal (n : Node) (inner : List Node) :
    underExport n (inner ++ block :: outer) = underExport n (inner ++ [block]) := by
  induction inner generalizing n with
  | nil =>
    have hmodifier := hasExportModifier_seal hblock outer n []
    simp only [List.nil_append] at hmodifier ⊢
    rw [underExport, underExport, hmodifier, underExport_block hblock, underExport_block hblock]
  | cons p ps ih =>
    -- the node itself is asked for an `export` in front, and then the ancestors up to the block
    have hmodifier := hasExportModifier_seal hblock outer n (p :: ps)
    simp only [List.cons_append] at hmodifier ⊢
    rw [underExport, underExport, hmodifier, ih p]

/-- A block is no variable statement, so it carries the export of nothing. -/
theorem exportCarrier_seal (n : Node) (inner : List Node) :
    ∃ m inner', exportCarrier ⟨n, inner ++ block :: outer⟩ = ⟨m, inner' ++ block :: outer⟩ ∧
      exportCarrier ⟨n, inner ++ [block]⟩ = ⟨m, inner' ++ [block]⟩ := by
  cases inner with
  | nil =>
    have hother : ¬ (n.kind = .variableDeclarator ∧ block.kind.isVariableStatement = true) := by
      rw [hblock]
      rintro ⟨_, hvariable⟩
      cases hvariable
    exact ⟨n, [], exportCarrier_of_other hother, exportCarrier_of_other hother⟩
  | cons p ps =>
    by_cases hvariable : n.kind = .variableDeclarator ∧ p.kind.isVariableStatement = true
    · exact ⟨p, ps, exportCarrier_of_variable hvariable, exportCarrier_of_variable hvariable⟩
    · exact ⟨n, p :: ps, exportCarrier_of_other hvariable, exportCarrier_of_other hvariable⟩

/-! ## §3 The rule -/

/-- **One node**: what stands above the nearest or any other block around it does not matter. -/
theorem isExported_seal (n : Node) (inner : List Node) :
    isExported ⟨n, inner ++ block :: outer⟩ = isExported ⟨n, inner ++ [block]⟩ := by
  obtain ⟨m, inner', hcarrier, hcarrier'⟩ := exportCarrier_seal hblock outer n inner
  rw [isExported_eq, isExported_eq ⟨n, inner ++ [block]⟩, hcarrier, hcarrier',
    isExportedDirectly_seal hblock outer n, isExportedDirectly_seal hblock outer m]
  dsimp only
  rw [underExport_seal hblock]

theorem isExported_under {c : Cursor} (hc : c.IsBelow block) :
    (c.under outer).isExported = c.isExported := by
  obtain ⟨n, ancestors⟩ := c
  have hsealed := isExported_seal hblock outer n ancestors.dropLast
  have hsplit : ancestors = ancestors.dropLast ++ [block] := hc.ancestors_eq
  rw [← hsplit] at hsealed
  rw [← hsealed]
  show isExported ⟨n, ancestors ++ outer⟩ = _
  rw [hsplit]
  simp

end Seal

/-- **Blocks seal exports.** What is strictly below a block in a tree is, node by node, what is below
    the block when it stands alone, and each node is exported in the tree exactly if it is exported
    there. So in any other tree, too, a block has the same exported declarations. -/
theorem block_seals_exports (b : Cursor) (hblock : b.kind = .statementBlock) :
    b.below = (root b.node).below.map (under b.ancestors) ∧
    (∀ x ∈ (root b.node).below, (x.under b.ancestors).isExported = x.isExported) ∧
    ∀ b' : Cursor, b'.node = b.node →
      List.Forall₂ (fun x y => x.node = y.node ∧ x.isExported = y.isExported) b.below b'.below := by
  have hbelow (c : Cursor) : c.below = (root c.node).below.map (under c.ancestors) :=
    below_under c.ancestors (root c.node)
  have hsame (outer : List Node) (x : Cursor) (hx : x ∈ (root b.node).below) :
      (x.under outer).isExported = x.isExported :=
    isExported_under hblock outer (isBelow_of_mem_below hx)
  refine ⟨hbelow b, hsame b.ancestors, ?_⟩
  intro b' hnode
  -- both are compared with the block on its own
  rw [hbelow b, hbelow b', hnode, List.forall₂_map_left_iff, List.forall₂_map_right_iff,
    List.forall₂_same]
  intro x hx
  exact ⟨rfl, (hsame b.ancestors x hx).trans (hsame b'.ancestors x hx).symm⟩

/-- The block of `export function f() { function g() {} function h() {} export { h } }` in a program
    that ends with `export { g }`. -/
def exportedFunctionBlock : Cursor :=
  let block : Node := .mk .statementBlock true (some .body) "..."
    [Outline.functionNamed "g", Outline.functionNamed "h", Outline.exportListOf ["h"]]
  let declaration : Node := .mk .functionDeclaration true none "function f() ..."
    [.mk .identifier true (some .name) "f" [], block]
  let statement : Node := .mk .exportStatement true none "export function f() ..." [declaration]
  ⟨block, [declaration, statement,
    .mk .program true none "..." [statement, Outline.exportListOf ["g"]]]⟩

/-- Neither the exported function nor the clause of the program exports `g`, but the clause in the block
    exports `h`, as they do in the block alone. -/
theorem exportedFunctionBlock_sealed :
    let b := exportedFunctionBlock
    b.kind = .statementBlock ∧ b.parent?.map Cursor.isExported = some true ∧
      (b.children.map Cursor.isExported).take 2 = [false, true] ∧
      ∀ x ∈ (root b.node).below, (x.under b.ancestors).isExported = x.isExported :=
  ⟨rfl, by decide +kernel, by decide +kernel, (block_seals_exports exportedFunctionBlock rfl).2.1⟩

end TsOutline.Cursor
