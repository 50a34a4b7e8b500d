import TsOutline.Callable
import TsOutline.Declaration
import TsOutline.Router

/-!
# Outlines

The outline of a file: its callables, procedures and type declarations, in the order of the source.
It is collected in one walk over the tree with an explicit list of pending nodes, each with the name
of the router that is active there. A variable statement that binds a router hands the name to its
own subtree; the router's object ends it for everything below once its procedures are listed.
-/

namespace TsOutline

/-- The signatures of one file, each list in source order. -/
structure Outline where
  functions : List FunctionSignature
  types : List TypeSignature

namespace Outline

/-- Nothing listed. -/
def empty : Outline :=
  ⟨[], []⟩

/-- One outline after another. -/
def append (a b : Outline) : Outline :=
  ⟨a.functions ++ b.functions, a.types ++ b.types⟩

instance : Append Outline := ⟨append⟩

/-- An outline as a document. -/
def toJson (o : Outline) : Json :=
  .obj [("functions", .arr (o.functions.map FunctionSignature.toJson)),
        ("types", .arr (o.types.map TypeSignature.toJson))]

/-! ## §1 Options -/

/-- What a walk needs to know besides the tree. -/
structure Options where
  /-- The path recorded on every signature. -/
  path : String
  /-- The depth budget of type expressions. -/
  depth : Budget
  /-- The callees that make a router. -/
  factories : List String
  /-- The file is a view file, where components are recognised. -/
  view : Bool

/-! ## §2 One node -/

/-- A method in the body of a declared class. It belongs to the signature of the class; an anonymous
    class behind `export default` is declared too, although it has no signature. -/
def isClassMember (c : Cursor) : Bool :=
  c.kind == .methodDefinition &&
    match c.ancestors with
    | body :: owner :: above =>
      body.kind == .classBody &&
        (owner.kind.isClassDeclaration ||
          (owner.kind == .classExpression &&
            match above with
            | p :: _ => p.kind == .exportStatement
            | [] => false))
    | _ => false

/-- The router that is active at a node, given the one that was active above it. -/
def activeAt (o : Options) (c : Cursor) (above : Option String) : Option String :=
  match Router.boundName? o.factories c.node with
  | some name => if name = "" then above else some name
  | none => above

/-- The signature of the node itself, if it is a callable to be listed. -/
def functionAt (o : Options) (c : Cursor) (active : Option String) : Option FunctionSignature :=
  if c.kind.isCallable && !isClassMember c && !Router.isWiring o.factories c then
    Callable.signature? c o.path active o.view
  else
    none

/-- The procedures that the node lists, if it is the object of the active router. -/
def proceduresAt (o : Options) (c : Cursor) (active : Option String) : List FunctionSignature :=
  match active with
  | some router =>
    if Router.isRouterObject o.factories c then Router.procedures c.node o.path router else []
  | none => []

/-- What the node contributes. -/
def entriesAt (o : Options) (c : Cursor) (active : Option String) : Outline :=
  ⟨(functionAt o c active).toList ++ proceduresAt o c active,
   (Declaration.signature? c o.path o.depth).toList⟩

/-- The router that is active below a node, given the one at the node. -/
def activeBelow (o : Options) (c : Cursor) (active : Option String) : Option String :=
  if Router.isRouterObject o.factories c then none else active

/-! ## §3 The walk -/

/-- A node that is still to be visited, with the router that is active above it. -/
abbrev Pending := Cursor × Option String

/-- The number of nodes that are still to be visited. -/
def pendingSize : List Pending → Nat
  | [] => 0
  | p :: ps => p.1.node.size + pendingSize ps

theorem pendingSize_append (ps qs : List Pending) :
    pendingSize (ps ++ qs) = pendingSize ps + pendingSize qs := by
  induction ps with
  | nil => simp [pendingSize]
  | cons p ps ih => simp only [List.cons_append, pendingSize, ih]; omega

theorem pendingSize_map (ns : List Node) (above : List Node) (active : Option String) :
    pendingSize (ns.map fun n => ((⟨n, above⟩ : Cursor), active)) = Node.sizeAll ns := by
  induction ns with
  | nil => rfl
  | cons n ns ih => simp only [List.map_cons, pendingSize, Node.sizeAll, ih]

/-- The children of a node as pending nodes. -/
def pendingChildren (c : Cursor) (active : Option String) : List Pending :=
  c.children.map fun d => (d, active)

theorem pendingSize_pendingChildren (c : Cursor) (active : Option String) :
    pendingSize (pendingChildren c active) < c.node.size := by
  have : pendingChildren c active =
      c.node.children.map fun n => ((⟨n, c.node :: c.ancestors⟩ : Cursor), active) := by
    simp [pendingChildren, Cursor.children, Function.comp_def]
  rw [this, pendingSize_map, Node.size_eq]
  omega

/-- Visits the pending nodes in order, each before its children and those before what follows
    it. -/
def walk (o : Options) : (pending : List Pending) → Outline
  | [] => empty
  | (c, above) :: rest =>
    let active := activeAt o c above
    entriesAt o c active ++ walk o (pendingChildren c (activeBelow o c active) ++ rest)
termination_by pending => pendingSize pending
decreasing_by
  rw [pendingSize_append]
  have := pendingSize_pendingChildren c (activeBelow o c (activeAt o c above))
  simp only [pendingSize]
  omega

/-- The outline of a tree. -/
def ofTree (o : Options) (tree : Node) : Outline :=
  walk o [(.root tree, none)]

end Outline

end TsOutline
