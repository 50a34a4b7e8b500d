import TsOutline.Syntax.Cursor

/-!
# Owners

Under which name a member is listed: the nearest class around it, or the variable whose object
literal holds it.
-/

namespace TsOutline.Cursor

/-- The variable declarator whose object literal holds the member. -/
def objectOwner? (c : Cursor) : Option Cursor :=
  match c.ancestors with
  | obj :: declarator :: rest =>
    if obj.kind == .objectLiteral && declarator.kind == .variableDeclarator then
      some ⟨declarator, rest⟩
    else
      none
  | _ => none

/-- The name that a node gives to what is inside it: a class gives its own name, and a property or
    method gives the plain name of the variable that owns its object. -/
def ownName? (c : Cursor) : Option String :=
  let fromClass :=
    if c.kind.isClassDeclaration || c.kind == .classExpression then c.node.name?.map Node.text
    else none
  match fromClass with
  | some name => some name
  | none =>
    if c.kind == .pair || c.kind == .methodDefinition then
      match c.objectOwner?.bind (·.node.name?) with
      | some name => if name.kind == .identifier then some name.text else none
      | none => none
    else
      none

/-- The name of the nearest owner, the node itself included. -/
def enclosingName? (c : Cursor) : Option String :=
  c.chain.findSome? ownName?

end TsOutline.Cursor
