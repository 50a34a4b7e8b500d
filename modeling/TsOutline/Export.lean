import TsOutline.Syntax.Cursor

/-!
# Exported Declarations

Whether a declaration is visible outside its file, read off the tree alone: an `export` in front of
it, a clause `export { name }` in the scope that declares it, or an exported statement around it. A
statement block ends that search: nothing outside a block exports what is inside.
-/

namespace TsOutline.Cursor

/-! ## §1 The statement around a declaration -/

/-- The ancestors of the outermost `declare` wrapper directly around a node with the given
    ancestors. -/
def aboveAmbient : List Node → List Node
  | [] => []
  | p :: ps => if p.kind == .ambientDeclaration then aboveAmbient ps else p :: ps

/-- What lies above the statement that an export would hold. -/
def aboveStatement (c : Cursor) : List Node :=
  aboveAmbient c.ancestors

/-- The declaration stands right behind `export` or `export default`. -/
def hasExportModifier (c : Cursor) : Bool :=
  match c.aboveStatement with
  | p :: _ => p.kind == .exportStatement
  | [] => false

/-! ## §2 Export clauses -/

/-- The names that a statement exports from its own scope; a clause with a source re-exports names
    of another file. -/
def clauseNames (statement : Node) : List String :=
  if statement.kind == .exportStatement && (statement.child? .source).isNone then
    (statement.members.filter fun clause => clause.kind == .exportClause).flatMap fun clause =>
      clause.members.map Node.nameText
  else
    []

/-- The name is listed in an export clause directly in the scope. -/
def exportsName (scope : Node) (name : String) : Bool :=
  scope.members.any fun statement => (clauseNames statement).contains name

/-- The nearest scope among the given ancestors. -/
def scope? (ancestors : List Node) : Option Node :=
  ancestors.find? fun a => a.kind.isScope

/-- The declaration is named by an export clause of its scope, or is itself an entry of one. -/
def isClauseTarget (c : Cursor) : Bool :=
  if c.parentKind? == some .exportSpecifier then true
  else
    match c.node.name? with
    | none => false
    | some name =>
      if name.kind == .identifier || name.kind == .typeIdentifier then
        match scope? c.aboveStatement with
        | some scope => exportsName scope name.text
        | none => false
      else
        false

/-! ## §3 The rule -/

/-- The node or one of its ancestors, up to the nearest block or the program, is an exported
    statement. -/
def underExport : (n : Node) → (ancestors : List Node) → Bool
  | _, [] => false
  | n, p :: ps =>
    if n.kind == .program then false
    else if n.kind.isExportable && hasExportModifier ⟨n, p :: ps⟩ then true
    else if n.kind == .statementBlock then false
    else underExport p ps

/-- The node itself or a clause exports it. -/
def isExportedDirectly (c : Cursor) : Bool :=
  c.hasExportModifier || c.isClauseTarget

/-- The declaration is exported. A variable is exported with its statement. -/
def isExported (c : Cursor) : Bool :=
  if c.isExportedDirectly then true
  else
    match c.node.kind, c.parent? with
    | .variableDeclarator, some p =>
      if p.kind.isVariableStatement then
        p.isExportedDirectly || underExport p.node p.ancestors
      else
        underExport c.node c.ancestors
    | _, _ => underExport c.node c.ancestors

end TsOutline.Cursor
