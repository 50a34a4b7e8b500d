import TsOutline.Outline
import TsOutline.Request.Text

/-!
# Questions about Nodes

Everything that can be asked of a single node of a syntax tree. A question can be asked without a
node, too; few questions have an answer then. The depth and the factories of a question are looked at
only where the node calls for it.

The answers are those of the library. This module only picks the definition that is asked for: it
belongs to the outer layer, and no theorem reaches it.
-/

namespace TsOutline.Request

/-- A question about a node, with its further arguments. -/
inductive NodeQuery where
  | typeText (depth : Value)
  | memberText (depth : Value)
  | parametersText (depth : Value)
  | genericsText (depth : Value)
  | isMapped
  | isExported
  | hasExportModifier
  | isMarkup
  | returnsMarkup
  | looksLikeComponent (name : Value)
  | isRouterObject (factories : Value)
  | isWiring (factories : Value)
  | routerName (factories : Value)
  | enclosingName
  | objectOwner
  | calleeText
  | unwrapped
  | parameters
  | typeSignature (path depth : Value)
  | functionSignature (path router view : Value)
  | procedures (path router : Value)

/-! ## §1 Where the depth is looked at -/

/-- There is a type to be written. -/
def hasType (n? : Option Node) : Bool :=
  (n?.bind Node.unwrap).isSome

/-- A property with a type. -/
def hasMemberType (member : Node) : Bool :=
  hasType (member.child? .typeExpr)

/-- A callable one of whose parameters has a type. -/
def hasParameterType (callable : Node) : Bool :=
  callable.parameterNodes.any fun p => hasType p.parameterType?

/-- A declaration one of whose type parameters has a bound or a default. -/
def hasGenericPart (n : Node) : Bool :=
  (Node.membersOf (n.child? .typeParameters)).any fun p =>
    p.kind == .typeParameter &&
      p.members.any fun part => part.kind == .constraint || part.kind == .defaultType

/-- A member of an interface that is written within the depth. -/
def isDeepInterfaceMember (member : Node) : Bool :=
  match member.kind with
  | .propertySignature => hasMemberType member
  | .methodSignature | .indexSignature => true
  | _ => false

/-- A member of a class that is written within the depth. -/
def isDeepClassMember (member : Node) : Bool :=
  if member.kind == .publicFieldDefinition then hasMemberType member
  else member.kind.isClassMethod && !Declaration.isAccessor member

/-- A declaration that is written within the depth. -/
def isDeepDeclaration (n : Node) : Bool :=
  match n.kind with
  | .interfaceDeclaration =>
    hasGenericPart n || (Node.membersOf (n.child? .body)).any isDeepInterfaceMember
  | .typeAliasDeclaration => hasGenericPart n || hasType (n.child? .value)
  | .classDeclaration | .abstractClassDeclaration =>
    n.name?.isSome &&
      (hasGenericPart n || (Node.membersOf (n.child? .body)).any isDeepClassMember)
  | _ => false

/-- The budget of a depth. A depth that is no number is a fault only where it is looked at. -/
def budgetIf (looked : Bool) (depth : Value) : Except ArgumentFault Budget :=
  match depth.number? with
  | some n => .ok n.budget
  | none => if looked then .error .wrongType else .ok (.ofUnits 0)

/-! ## §2 Where the factories are looked at -/

/-- The beginnings of a row of characters, from the empty one on. -/
def beginnings : List Char → List (List Char)
  | [] => [[]]
  | c :: cs => [] :: (beginnings cs).map (c :: ·)

/-- The blocks of neighbours in a row of characters. -/
def blocks : List Char → List (List Char)
  | [] => [[]]
  | c :: cs => beginnings (c :: cs) ++ blocks cs

/-- The callees that factories name: the texts in a list or among keys, or whatever occurs in a
    text. -/
def calleesOf? : Value → Option (List String)
  | .text s => some ((blocks s.toList).map String.ofList)
  | v => v.members?.map Config.textsOf

/-- The callees, where they are looked at. -/
def calleesIf (looked : Bool) (factories : Value) : Except ArgumentFault (List String) :=
  match calleesOf? factories with
  | some callees => .ok callees
  | none => if looked then .error .wrongType else .ok []

/-- A variable statement that binds the value of a call. -/
def bindsCall (n : Node) : Bool :=
  match (n.memberOfKind? .variableDeclarator).bind fun d => d.child? .value with
  | some value => (Router.boundName? [value.calleeText] n).isSome
  | none => false

/-- An object literal among the arguments of a call. -/
def isCallObject (c : Cursor) : Bool :=
  match c.ancestors with
  | _ :: call :: _ => Router.isRouterObject [call.calleeText] c
  | _ => false

/-- The nearest call around a node belongs to no chain, so that its callee has to be known. -/
def isBelowPlainCall (c : Cursor) : Bool :=
  match c.ancestors.find? fun n => n.kind == .callExpression with
  | some call => !Router.isWiringCall [] call
  | none => false

/-! ## §3 Names and paths -/

/-- A record with the path that it was asked for. -/
def atPath (path : Value) (record : Json) : Value :=
  withField "file_path" path (valueOf record)

/-- The text of a router in front of a name; one that says nothing is left out. -/
def routerText? (router : Value) : Option String :=
  if router.isTruthy then some router.plain else none

/-- The record of a callable. The router is the parent where there is no other. -/
def functionRecord (c : Cursor) (path router : Value) (view : Bool) : Value :=
  match Callable.signature? c "" none view, Callable.signature? c "" (routerText? router) view with
  | some alone, some inside =>
    if alone.parentName.isSome then atPath path alone.toJson
    else withField "parent_name" router (atPath path inside.toJson)
  | _, _ => .null

/-- The records of the procedures of a router object. -/
def procedureRecords (n : Node) (path router : Value) : Value :=
  .list ((Router.procedures n "" router.plain).map fun f =>
    withField "parent_name" router (atPath path f.toJson))

/-! ## §4 Answers -/

/-- The answer without a node. -/
def NodeQuery.answerNone : NodeQuery → Except ArgumentFault Value
  | typeText _ => .ok (.text TypeText.placeholder)
  | isMarkup => .ok (.bool false)
  | enclosingName => .ok .null
  | unwrapped => .ok .null
  | procedures _ _ => .ok (.list [])
  | looksLikeComponent name =>
    match componentName name with
    | .ok true => .ok (.bool true)
    | .ok false => .error .noPart
    | .error fault => .error fault
  | _ => .error .noPart

/-- The answer for a node. -/
def NodeQuery.answerAt (c : Cursor) : NodeQuery → Except ArgumentFault Value
  | typeText depth =>
    (budgetIf (hasType (some c.node)) depth).map fun d => .text (TypeText.render c.node d)
  | memberText depth =>
    (budgetIf (hasMemberType c.node) depth).map fun d => .text (TypeText.renderMember c.node d)
  | parametersText depth =>
    (budgetIf (hasParameterType c.node) depth).map fun d =>
      .text (TypeText.renderParameters c.node d)
  | genericsText depth =>
    (budgetIf (hasGenericPart c.node) depth).map fun d =>
      .text (Declaration.renderGenerics c.node d)
  | isMapped => .ok (.bool (TypeText.isMapped c.node))
  | isExported => .ok (.bool c.isExported)
  | hasExportModifier => .ok (.bool c.hasExportModifier)
  | isMarkup => .ok (.bool (Component.isMarkup (some c.node)))
  | returnsMarkup => .ok (.bool (Component.returnsMarkup c.node))
  | looksLikeComponent name =>
    (componentName name).map fun named => .bool (named || Component.returnsMarkup c.node)
  | isRouterObject factories =>
    (calleesIf (isCallObject c) factories).map fun callees =>
      .bool (Router.isRouterObject callees c)
  | isWiring factories =>
    (calleesIf (isBelowPlainCall c) factories).map fun callees => .bool (Router.isWiring callees c)
  | routerName factories =>
    (calleesIf (bindsCall c.node) factories).map fun callees =>
      optionalText (Router.boundName? callees c.node)
  | enclosingName => .ok (optionalText c.enclosingName?)
  | objectOwner => .ok (optionalText (c.objectOwner?.map (·.node.text)))
  | calleeText => .ok (.text c.node.calleeText)
  | unwrapped => .ok (optionalText (c.node.unwrap.map Node.text))
  | parameters =>
    .ok (.list (c.node.parameterNodes.map fun p =>
      .list [.text p.parameterName, optionalText (p.parameterType?.map Node.text)]))
  | typeSignature path depth =>
    (budgetIf (isDeepDeclaration c.node) depth).map fun d =>
      match Declaration.signature? c "" d with
      | some t => atPath path t.toJson
      | none => .null
  | functionSignature path router view => .ok (functionRecord c path router view.isTruthy)
  | procedures path router => .ok (procedureRecords c.node path router)

/-- The answer to a question about a node, if there is one. -/
def NodeQuery.answer (c? : Option Cursor) (q : NodeQuery) : Except ArgumentFault Value :=
  match c? with
  | some c => q.answerAt c
  | none => q.answerNone

end TsOutline.Request
