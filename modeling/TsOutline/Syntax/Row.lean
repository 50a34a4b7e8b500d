import TsOutline.Syntax.Node

/-!
# Trees as Rows

A parser hands a tree over as the list of its nodes in pre-order, each with the number of its
children. `Node.ofRows?` reads such a list back to front: the nodes already read wait in a list,
and a row takes its children from the head of that list. `Node.rows` writes the list.

A grammar can give several children of a node one role, and then the role stands for the first of
them. The others lose it when the tree is read, so that a role always tells one child.
-/

namespace TsOutline

/-- One node of a tree in pre-order. -/
structure Row where
  kind : Kind
  named : Bool
  field : Option Field
  text : String
  /-- The number of direct children; their rows follow. -/
  arity : Nat

namespace Node

mutual

/-- The nodes of a tree in pre-order. -/
def rows : Node → List Row
  | mk k n f t cs => ⟨k, n, f, t, cs.length⟩ :: rowsAll cs

/-- The nodes of several trees, one tree after the other. -/
def rowsAll : List Node → List Row
  | [] => []
  | c :: cs => rows c ++ rowsAll cs

end

/-- The node without its role. -/
def withoutRole : Node → Node
  | mk k n _ t cs => mk k n none t cs

/-- Lets only the first of several children in one role keep it; the given roles are taken already. -/
def settleRoles (taken : List Field) : List Node → List Node
  | [] => []
  | c :: cs =>
    match c.field with
    | none => c :: settleRoles taken cs
    | some role =>
      if taken.contains role then c.withoutRole :: settleRoles taken cs
      else c :: settleRoles (role :: taken) cs

/-- One row put in front of the trees that follow it: it takes its children from their head. -/
def addRow (row : Row) (trees : List Node) : Option (List Node) :=
  if row.arity ≤ trees.length then
    some (mk row.kind row.named row.field row.text (settleRoles [] (trees.take row.arity)) ::
      trees.drop row.arity)
  else
    none

/-- The trees that a list of rows describes. -/
def forestOfRows? : List Row → Option (List Node)
  | [] => some []
  | row :: rest => (forestOfRows? rest).bind (addRow row)

/-- The tree that a list of rows describes, if it describes exactly one. -/
def ofRows? (rows : List Row) : Option Node :=
  match forestOfRows? rows with
  | some [n] => some n
  | _ => none

/-- The text between two byte offsets of a source. -/
def slice? (source : ByteArray) (start stop : Nat) : Option String :=
  String.fromUTF8? (source.extract start stop)

end Node

end TsOutline
