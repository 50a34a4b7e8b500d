import TsOutline.Syntax.Node

/-!
# Nodes in Context

A cursor is a node together with the nodes above it, nearest first. What a declaration is called
and whether it is exported depends on its surroundings, and a cursor holds exactly those.
-/

namespace TsOutline

/-- A node and its ancestors, the parent first and the root last. -/
structure Cursor where
  node : Node
  ancestors : List Node

namespace Cursor

/-- The root of a tree has nothing above it. -/
def root (n : Node) : Cursor :=
  ⟨n, []⟩

/-- The parent in its own context. -/
def parent? (c : Cursor) : Option Cursor :=
  match c.ancestors with
  | [] => none
  | p :: ps => some ⟨p, ps⟩

/-- The children in their context, from left to right. -/
def children (c : Cursor) : List Cursor :=
  c.node.children.map fun n => ⟨n, c.node :: c.ancestors⟩

/-- The kind of the node. -/
def kind (c : Cursor) : Kind :=
  c.node.kind

/-- The node is the child that its parent has in the given role. The role of the node tells, since no
    other child is in that role. -/
def isIn (c : Cursor) (role : Field) : Bool :=
  c.node.field == some role

@[simp] theorem isIn_iff {c : Cursor} {role : Field} :
    c.isIn role = true ↔ c.node.field = some role := by
  rw [isIn, beq_iff_eq]

/-- The kind of the parent. -/
def parentKind? (c : Cursor) : Option Kind :=
  c.ancestors.head?.map Node.kind

/-- The node and everything above it, nearest first, each in its own context. -/
def upwards : (n : Node) → (ancestors : List Node) → List Cursor
  | n, [] => [⟨n, []⟩]
  | n, p :: ps => ⟨n, p :: ps⟩ :: upwards p ps

/-- The cursor and the cursors of its ancestors, nearest first. -/
def chain (c : Cursor) : List Cursor :=
  upwards c.node c.ancestors

theorem size_lt_of_mem_children {d c : Cursor} (h : d ∈ c.children) :
    d.node.size < c.node.size := by
  obtain ⟨n, hn, rfl⟩ := List.mem_map.mp h
  exact Node.size_lt_of_mem_children hn

/-- The node and everything below it in pre-order, each in its context. -/
def preorder (c : Cursor) : List Cursor :=
  c :: c.children.attach.flatMap fun ⟨d, _h⟩ => preorder d
termination_by c.node.size
decreasing_by exact size_lt_of_mem_children _h

theorem preorder_eq (c : Cursor) : c.preorder = c :: c.children.flatMap preorder := by
  rw [preorder, List.flatMap_subtype, List.unattach_attach]
  exact fun _ _ => rfl

end Cursor

end TsOutline
