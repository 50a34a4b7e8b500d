import TsOutline.Syntax.Kind
import TsOutline.Text.Line

/-!
# Syntax Nodes

The tree that a parser makes of a source, and the ways in which an outline reads it: by field, by
position among the named children, and by keyword. Comments are named children of the tree, and
`Node.members` is the one place that leaves them out.

A node carries its piece of the source, so that nothing here needs the source beside the tree.
Every accessor that descends has a lemma that the result is smaller, which is what recursion on
trees rests on.
-/

namespace TsOutline

/-- A node of a syntax tree: its kind, whether it is a construct of the grammar (rather than a
    keyword or a punctuation mark), its role for its parent, its piece of the source, and its
    children from left to right. -/
inductive Node where
  | mk (kind : Kind) (named : Bool) (field : Option Field) (text : String) (children : List Node)

namespace Node

/-! ## §1 Parts and size -/

/-- The kind of a node. -/
def kind : Node → Kind
  | mk k _ _ _ _ => k

/-- The node is a construct of the grammar. -/
def named : Node → Bool
  | mk _ n _ _ _ => n

/-- The role of the node for its parent. One child at most is in a role: where the grammar repeats a
    role, the first child keeps it when the tree is read. -/
def field : Node → Option Field
  | mk _ _ f _ _ => f

/-- The piece of the source that the node covers. -/
def text : Node → String
  | mk _ _ _ t _ => t

/-- The children of a node from left to right, keywords and comments included. -/
def children : Node → List Node
  | mk _ _ _ _ cs => cs

mutual

/-- The number of nodes of a tree. -/
def size : Node → Nat
  | mk _ _ _ _ cs => sizeAll cs + 1

/-- The number of nodes of several trees. -/
def sizeAll : List Node → Nat
  | [] => 0
  | c :: cs => size c + sizeAll cs

end

theorem size_eq (n : Node) : n.size = sizeAll n.children + 1 := by
  cases n; rfl

theorem size_pos (n : Node) : 0 < n.size := by
  rw [size_eq]; omega

theorem size_le_sizeAll {c : Node} {cs : List Node} (h : c ∈ cs) : c.size ≤ sizeAll cs := by
  induction cs with
  | nil => cases h
  | cons d ds ih =>
    rw [sizeAll]
    rcases List.mem_cons.mp h with rfl | h
    · omega
    · have := ih h; omega

theorem size_lt_of_mem_children {c n : Node} (h : c ∈ n.children) : c.size < n.size := by
  have := size_le_sizeAll h
  rw [size_eq n]; omega

/-! ## §2 Children by position, field and keyword -/

/-- The named children of a node, comments left out. -/
def members (n : Node) : List Node :=
  n.children.filter fun c => c.named && c.kind != .comment

/-- The first named child that is no comment. -/
def first? (n : Node) : Option Node :=
  n.members.head?

/-- The first member of the given kind. -/
def memberOfKind? (n : Node) (k : Kind) : Option Node :=
  n.members.find? fun c => c.kind == k

/-- The child in the given role, the first if there were several. -/
def child? (n : Node) (f : Field) : Option Node :=
  n.children.find? fun c => c.field == some f

/-- A keyword or mark of the given kind stands among the children. -/
def hasToken (n : Node) (k : Kind) : Bool :=
  n.children.any fun c => !c.named && c.kind == k

/-- The named children under a node that may be missing. -/
def membersOf : Option Node → List Node
  | some n => n.members
  | none => []

/-- The text of a node that may be missing. -/
def textOf : Option Node → String
  | some n => n.text
  | none => ""

/-- The node that carries the name of a declaration. -/
def name? (n : Node) : Option Node :=
  n.child? .name

/-- The name of a declaration, empty if it has none. -/
def nameText (n : Node) : String :=
  textOf n.name?

theorem mem_children_of_mem_members {c n : Node} (h : c ∈ n.members) : c ∈ n.children :=
  (List.mem_filter.mp h).1

theorem size_lt_of_mem_members {c n : Node} (h : c ∈ n.members) : c.size < n.size :=
  size_lt_of_mem_children (mem_children_of_mem_members h)

theorem size_lt_of_first? {c n : Node} (h : n.first? = some c) : c.size < n.size :=
  size_lt_of_mem_members (List.mem_of_mem_head? (Option.mem_def.mpr h))

theorem size_lt_of_child? {c n : Node} {f : Field} (h : n.child? f = some c) : c.size < n.size :=
  size_lt_of_mem_children (List.mem_of_find?_eq_some h)

theorem size_lt_of_mem_membersOf_child? {c n : Node} {f : Field}
    (h : c ∈ membersOf (n.child? f)) : c.size < n.size := by
  cases hp : n.child? f with
  | none => simp [hp, membersOf] at h
  | some p =>
    rw [hp] at h
    have := size_lt_of_mem_members (n := p) h
    have := size_lt_of_child? hp
    omega

/-! ## §3 Wrappers -/

/-- The node inside all annotation wrappers; none if the innermost wrapper is empty. -/
def unwrap (n : Node) : Option Node :=
  if n.kind.isAscription then
    match _h : n.first? with
    | some c => unwrap c
    | none => none
  else
    some n
termination_by n.size
decreasing_by exact size_lt_of_first? _h

/-- One step of looking through annotation wrappers. -/
theorem unwrap_eq (n : Node) :
    n.unwrap = if n.kind.isAscription then n.first?.bind unwrap else some n := by
  rw [unwrap]
  split
  · split
    · rename_i c hc
      rw [hc]
      rfl
    · rename_i hnone
      rw [hnone]
      rfl
  · rfl

/-- What is no wrapper is left as it is. -/
theorem unwrap_of_not_isAscription {n : Node} (h : n.kind.isAscription = false) :
    n.unwrap = some n := by
  rw [unwrap_eq, h, if_neg Bool.false_ne_true]

theorem size_le_of_unwrap {n m : Node} (h : n.unwrap = some m) : m.size ≤ n.size := by
  fun_induction unwrap n with
  | case1 n hk c hc ih =>
    have := ih h
    have := size_lt_of_first? hc
    omega
  | case2 => cases h
  | case3 => cases h; exact Nat.le_refl _

/-- The node inside one pair of parentheses, or the node itself. -/
def unwrapParentheses (n : Node) : Option Node :=
  if n.kind == .parenthesizedExpression then n.first? else some n

/-! ## §4 Calls and parameters -/

/-- The text of what a call calls, on one line. -/
def calleeText (call : Node) : String :=
  Text.collapse (textOf (call.child? .function))

/-- The parameters of a callable: the members of its parameter list without decorators, or its
    single bare parameter. -/
def parameterNodes (callable : Node) : List Node :=
  match callable.child? .parameters with
  | some ps => ps.members.filter fun p => p.kind != .decorator
  | none =>
    match callable.child? .parameter with
    | some p => [p]
    | none => []

/-- The node that names a parameter: its pattern, else its name, else its first member. -/
def parameterPattern? (p : Node) : Option Node :=
  match p.child? .pattern with
  | some q => some q
  | none =>
    match p.child? .name with
    | some q => some q
    | none => p.first?

/-- The name of a parameter, or the pattern that takes it apart. -/
def parameterName (p : Node) : String :=
  if p.kind == .identifier then p.text else textOf p.parameterPattern?

/-- The type a parameter is annotated with. -/
def parameterType? (p : Node) : Option Node :=
  if p.kind == .identifier then none else (p.child? .typeExpr).bind unwrap

theorem size_lt_of_mem_parameterNodes {p n : Node} (h : p ∈ n.parameterNodes) :
    p.size < n.size := by
  unfold parameterNodes at h
  split at h
  · rename_i ps hps
    have := size_lt_of_mem_members (List.mem_filter.mp h).1
    have := size_lt_of_child? hps
    omega
  · split at h
    · rename_i q hq
      rw [List.mem_singleton.mp h]
      exact size_lt_of_child? hq
    · cases h

theorem size_lt_of_parameterType? {t p : Node} (h : p.parameterType? = some t) :
    t.size < p.size := by
  unfold parameterType? at h
  split at h
  · cases h
  · obtain ⟨a, ha, hu⟩ := Option.bind_eq_some_iff.mp h
    have := size_le_of_unwrap hu
    have := size_lt_of_child? ha
    omega

end Node

end TsOutline
