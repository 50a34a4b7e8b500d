import TsOutline.Syntax.Node
import TsOutline.Text.Capital

/-!
# Components

In a view file a callable counts as a component if its name starts with a capital letter or if its
body returns markup at its top level. Nested code is never looked at.
-/

namespace TsOutline.Component

/-- The name of a component starts with a capital letter. -/
def hasComponentName (name? : Option String) : Bool :=
  match name? with
  | some name => Text.startsCapital name
  | none => false

/-- The node is markup, at most one pair of parentheses around it. -/
def isMarkup (n? : Option Node) : Bool :=
  match n?.bind Node.unwrapParentheses with
  | some n => n.kind.isMarkup
  | none => false

/-- A return statement whose value is markup. -/
def isMarkupReturn (statement : Node) : Bool :=
  statement.kind == .returnStatement && isMarkup statement.first?

/-- The body of the callable is markup, or one of its own statements returns markup. -/
def returnsMarkup (callable : Node) : Bool :=
  match callable.child? .body with
  | none => false
  | some body =>
    if body.kind == .statementBlock then body.members.any isMarkupReturn
    else isMarkup (some body)

/-- The callable looks like a component. -/
def looksLikeComponent (callable : Node) (name? : Option String) : Bool :=
  hasComponentName name? || returnsMarkup callable

end TsOutline.Component
