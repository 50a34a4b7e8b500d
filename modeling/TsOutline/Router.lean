import TsOutline.Signature
import TsOutline.Syntax.Cursor

/-!
# Routers and Their Procedures

A router is a variable bound to a call of a router factory:

    export const users = createTRPCRouter({
      byId: publicProcedure.input(ById).query(async ({ input }) => load(input)),
    })

Each property of the factory's object argument is a chain of method calls on a procedure builder.
Read from the outermost call inward, the chain tells the kind of operation and the input schema.
-/

namespace TsOutline.Router

open Text (collapse endsWith contains)

/-! ## §1 Routers -/

/-- The factories that make a router where none are given. -/
def defaultFactories : List String := ["createTRPCRouter"]

/-- The name that a variable statement binds to a router: only its first variable counts. -/
def boundName? (factories : List String) (n : Node) : Option String :=
  if n.kind.isVariableStatement then
    match n.memberOfKind? .variableDeclarator with
    | none => none
    | some declarator =>
      match declarator.child? .value, declarator.name? with
      | some value, some name =>
        if value.kind == .callExpression && name.kind == .identifier
            && factories.contains value.calleeText then
          some name.text
        else none
      | _, _ => none
  else
    none

/-- An object literal that is an argument of a router factory. -/
def isRouterObject (factories : List String) (c : Cursor) : Bool :=
  match c.ancestors with
  | list :: call :: _ =>
    c.kind == .objectLiteral && list.kind == .argumentList && call.kind == .callExpression
      && factories.contains call.calleeText
  | _ => false

/-- The methods whose calls belong to a chain. -/
def chainSuffixes : List String := [".query", ".mutation", ".input", ".use"]

/-- A call that belongs to the making of a router or of a procedure. -/
def isWiringCall (factories : List String) (n : Node) : Bool :=
  n.kind == .callExpression &&
    (chainSuffixes.any (endsWith n.calleeText) || contains n.calleeText "Procedure"
      || factories.contains n.calleeText)

/-- A callable below such a call is wiring and no function of its own. -/
def isWiring (factories : List String) (c : Cursor) : Bool :=
  c.ancestors.any (isWiringCall factories)

/-! ## §2 Procedure chains -/

/-- What has been read of a chain so far, from the outermost call inward. -/
structure Reading where
  kind : Option ProcedureKind
  hasInput : Bool
  schemaName : Option String
  schemaText : Option String

/-- Before the first call. -/
def Reading.empty : Reading :=
  ⟨none, false, none, none⟩

/-- The schema given to an input call, by name or by text. -/
def Reading.withInput (r : Reading) (argument? : Option Node) : Reading :=
  match argument? with
  | some a =>
    if a.kind == .identifier then { r with hasInput := true, schemaName := some a.text }
    else { r with hasInput := true, schemaText := some (collapse a.text) }
  | none => { r with hasInput := true }

/-- One call of the chain: the outermost operation is applied last, so it is the one that
    counts. -/
def Reading.step (r : Reading) (method : String) (argument? : Option Node) : Reading :=
  if method = "input" then r.withInput argument?
  else
    match r.kind with
    | some _ => r
    | none => { r with kind := ProcedureKind.ofWord? method }

/-- Reads the rest of a chain, up to the first expression that is no method call. -/
def readChain (r : Reading) (expr : Node) : Reading :=
  if expr.kind == .callExpression then
    match _hc : expr.child? .function with
    | none => r
    | some callee =>
      if callee.kind == .memberExpression then
        let r' := r.step (Node.textOf (callee.child? .property))
          (Node.membersOf (expr.child? .arguments)).head?
        match _ho : callee.child? .object with
        | some inner => readChain r' inner
        | none => r'
      else r
  else r
termination_by expr.size
decreasing_by exact Nat.lt_trans (Node.size_lt_of_child? _ho) (Node.size_lt_of_child? _hc)

/-! ## §3 Signatures -/

/-- What a procedure returns is not looked into. -/
def procedureReturn : String := "unknown"

/-- The schema that is shown: the name, else the text. -/
def shownSchema? (p : Procedure) : Option String :=
  match p.schemaName with
  | some name => if name = "" then p.schemaText else some name
  | none => p.schemaText

/-- The part of a signature about the input. -/
def inputText (p : Procedure) : String :=
  if p.hasInput then
    match shownSchema? p with
    | some schema => if schema = "" then " (input)" else " (input: " ++ schema ++ ")"
    | none => " (input)"
  else
    ""

/-- The procedure that a property of a router object defines; none if its chain has no
    operation. -/
def procedure? (property : Node) (path router : String) : Option FunctionSignature :=
  let name := Node.textOf (property.child? .key)
  let r := match property.child? .value with
    | some expr => readChain .empty expr
    | none => .empty
  r.kind.map fun kind =>
    let p : Procedure := ⟨kind, r.hasInput, r.schemaName, r.schemaText⟩
    { name := name, parameters := [], returnType := procedureReturn,
      fullSignature := router ++ "." ++ name ++ ": " ++ kind.word ++ inputText p,
      filePath := path, isExported := false, parentName := some router, procedure := some p }

/-- A property with a plain name. -/
def isPlainPair (n : Node) : Bool :=
  n.kind == .pair &&
    match n.child? .key with
    | some key => key.kind == .propertyIdentifier
    | none => false

/-- The procedures of a router object in the order of its properties. -/
def procedures (routerObject : Node) (path router : String) : List FunctionSignature :=
  (routerObject.members.filter isPlainPair).filterMap fun p => procedure? p path router

end TsOutline.Router
