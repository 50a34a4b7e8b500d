import TsOutline.Component
import TsOutline.Export
import TsOutline.Owner
import TsOutline.Signature

/-!
# Callables

Signatures of functions, methods and arrow functions. A callable is listed under the name it
declares, or under the variable or property it is bound to; a callable without such a name (an
inline callback, say) is not listed.
-/

namespace TsOutline.Callable

open Text (join collapseLines)

/-! ## §1 Identity -/

/-- Under which name a callable is listed, whether it is exported, and what it belongs to. -/
structure Identity where
  name : String
  isExported : Bool
  parentName : Option String

/-- The name of the nearest owner, or else the router around it. -/
def ownerOr (c : Cursor) (router : Option String) : Option String :=
  match c.enclosingName? with
  | some name => if name = "" then router else some name
  | none => router

/-- The identity of a callable that its parent, a variable or a property, has as its value. -/
def boundIdentity? (c : Cursor) (router : Option String) : Option Identity :=
  match c.parent? with
  | none => none
  | some parent =>
    if c.isIn .value then
      match parent.kind with
      | .variableDeclarator =>
        match parent.node.name? with
        | some name =>
          if name.kind == .identifier then
            some ⟨name.text, parent.isExported, ownerOr c router⟩
          else none
        | none => none
      | .pair =>
        match parent.node.child? .key with
        | some key =>
          if key.kind == .propertyIdentifier then
            some ⟨key.text, (parent.objectOwner?.map Cursor.isExported).getD false,
              ownerOr c router⟩
          else none
        | none => none
      | _ => none
    else none

/-- The identity of a callable: its own name where it declares one, else what it is bound to. -/
def identity? (c : Cursor) (router : Option String) : Option Identity :=
  let n := c.node
  match n.kind.isFunctionDeclaration, n.name? with
  | true, some name => some ⟨name.text, c.isExported, router⟩
  | _, own? =>
    if n.kind == .methodDefinition then
      match own? with
      | some name =>
        if name.kind == .propertyIdentifier then some ⟨name.text, false, ownerOr c router⟩
        else none
      | none => none
    else
      match n.kind.isFunctionExpression, own? with
      | true, some name => some ⟨name.text, false, ownerOr c router⟩
      | _, _ => boundIdentity? c router

/-! ## §2 Parameters and return type -/

/-- The type of a parameter without annotation. -/
def defaultParameterType : String := "any"

/-- The name of a parameter that has none. -/
def unnamedParameter : String := "_"

/-- The parameters of a callable, each type on one line. -/
def parameters (callable : Node) : List Parameter :=
  callable.parameterNodes.map fun p =>
    { name := if p.parameterName = "" then unnamedParameter else p.parameterName
      typeText := match p.parameterType? with
        | some t => collapseLines t.text
        | none => defaultParameterType }

/-- What a callable without annotation returns. -/
def defaultReturn : String := "void"

/-- What an arrow function with an expression body returns. -/
def inferredReturn : String := "inferred"

/-- What a component returns. -/
def elementReturn : String := "React.JSX.Element"

/-- The body of the callable is an expression. -/
def hasExpressionBody (callable : Node) : Bool :=
  callable.kind == .arrowFunction &&
    match callable.child? .body with
    | some body => body.kind != .statementBlock
    | none => false

/-- The return type: annotated, that of a component in a view file, or a default. -/
def returnType (callable : Node) (name : String) (view : Bool) : String :=
  match (callable.child? .returnType).bind Node.unwrap with
  | some ascribed => ascribed.text
  | none =>
    if view && Component.looksLikeComponent callable (some name) then elementReturn
    else if hasExpressionBody callable then inferredReturn
    else defaultReturn

/-! ## §3 The signature -/

/-- The text of a signature from its parts. -/
def signatureText (parentName : Option String) (name : String) (parameters : List Parameter)
    (returnType : String) : String :=
  let fullName :=
    match parentName with
    | some parent => if parent = "" then name else parent ++ "." ++ name
    | none => name
  fullName ++ "(" ++ join ", " (parameters.map fun p => p.name ++ ": " ++ p.typeText) ++ "): "
    ++ returnType

/-- The signature of a callable inside the given router; none if it has no name to be listed
    under. -/
def signature? (c : Cursor) (path : String) (router : Option String) (view : Bool) :
    Option FunctionSignature :=
  (identity? c router).map fun id =>
    let ps := parameters c.node
    let result := returnType c.node id.name view
    { name := id.name, parameters := ps, returnType := result,
      fullSignature := signatureText id.parentName id.name ps result,
      filePath := path, isExported := id.isExported, parentName := id.parentName,
      procedure := none }

end TsOutline.Callable
