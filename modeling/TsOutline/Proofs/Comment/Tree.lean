import TsOutline.Syntax.Node

/-!
# Trees without Their Comments

A comment is a named leaf without a role. `Node.withoutComments` deletes the comments at chosen
positions of a tree, and `Node.bare` deletes all of them. Every deletion leads to the same bare tree
(`bare_withoutComments`), so it is enough to compare a tree with its bare form.

Reading a tree commutes with `bare`: members, children by role, wrappers and parameters of the bare
tree are the bare forms of those of the tree. These are the simp lemmas of §3 to §5.
-/

namespace TsOutline.Node

/-! ## §1 Deleting comments -/

/-- A comment as a parser makes it: a named leaf without a role. -/
def isPlainComment (n : Node) : Bool :=
  n.kind == .comment && n.named && n.field.isNone && n.children.isEmpty

mutual

/-- The tree without its plain comments. -/
def bare : Node → Node
  | mk k n f t cs => mk k n f t (bareAll cs)

/-- Several trees without the plain comments among and inside them. -/
def bareAll : List Node → List Node
  | [] => []
  | c :: cs => if c.isPlainComment then bareAll cs else bare c :: bareAll cs

end

mutual

/-- The tree without the comments at the chosen positions. A position is the list of indices of
    children that leads from the root to a node. -/
def withoutComments (chosen : List Nat → Bool) : Node → Node
  | mk k n f t cs => mk k n f t (withoutCommentsAll chosen 0 cs)

/-- The children from index `i` on without the comments at the chosen positions. -/
def withoutCommentsAll (chosen : List Nat → Bool) (i : Nat) : List Node → List Node
  | [] => []
  | c :: cs =>
    if c.kind == .comment && chosen [i] then withoutCommentsAll chosen (i + 1) cs
    else withoutComments (fun p => chosen (i :: p)) c :: withoutCommentsAll chosen (i + 1) cs

end

mutual

/-- All comments of the tree are named leaves without a role. -/
def commentsPlain : Node → Bool
  | mk k n f t cs =>
    (k != .comment || isPlainComment (mk k n f t cs)) && commentsPlainAll cs

/-- All comments of several trees are named leaves without a role. -/
def commentsPlainAll : List Node → Bool
  | [] => true
  | c :: cs => commentsPlain c && commentsPlainAll cs

end

/-! ## §2 Every deletion has the same bare tree -/

theorem bareAll_eq (cs : List Node) :
    bareAll cs = (cs.filter fun c => !c.isPlainComment).map bare := by
  induction cs with
  | nil => rfl
  | cons c cs ih =>
    rw [bareAll, ih]
    by_cases hc : c.isPlainComment = true
    · simp [hc]
    · simp [hc]

/-- Deleting comments inside a node that is no comment does not make it one. -/
theorem isPlainComment_withoutComments {c : Node} (h : c.commentsPlain = true)
    (chosen : List Nat → Bool) :
    (withoutComments chosen c).isPlainComment = c.isPlainComment := by
  obtain ⟨k, n, f, t, cs⟩ := c
  cases cs with
  | nil => rfl
  | cons d ds =>
    -- with children it is no plain comment, so it must be of another kind
    have hkind : k ≠ .comment := by
      intro hk
      simp [commentsPlain, isPlainComment, hk, children] at h
    simp only [isPlainComment, withoutComments, kind, beq_eq_false_iff_ne.mpr hkind, Bool.false_and]

mutual

/-- **One bare tree**: whichever comments are deleted, the rest of them can be deleted as well. -/
theorem bare_withoutComments (chosen : List Nat → Bool) (n : Node)
    (h : n.commentsPlain = true) : (withoutComments chosen n).bare = n.bare := by
  match n with
  | mk k nm f t cs =>
    have hcs : commentsPlainAll cs = true := by
      simp only [commentsPlain, Bool.and_eq_true] at h
      exact h.2
    simp only [withoutComments, bare, bareAll_withoutCommentsAll chosen 0 cs hcs]

theorem bareAll_withoutCommentsAll (chosen : List Nat → Bool) (i : Nat) (cs : List Node)
    (h : commentsPlainAll cs = true) : bareAll (withoutCommentsAll chosen i cs) = bareAll cs := by
  match cs with
  | [] => rfl
  | c :: cs =>
    simp only [commentsPlainAll, Bool.and_eq_true] at h
    have hrest := bareAll_withoutCommentsAll chosen (i + 1) cs h.2
    by_cases hdelete : (c.kind == .comment && chosen [i]) = true
    · -- a deleted comment is plain, so the bare tree lacks it, too
      have hplain : c.isPlainComment = true := by
        obtain ⟨k, nm, f, t, ds⟩ := c
        simp only [kind, Bool.and_eq_true, beq_iff_eq] at hdelete
        have hc := h.1
        simp only [commentsPlain, hdelete.1, Bool.and_eq_true, Bool.or_eq_true, bne_self_eq_false,
          Bool.false_eq_true, false_or] at hc
        rw [hdelete.1]
        exact hc.1
      simp only [withoutCommentsAll, hdelete, if_true, bareAll, hplain, hrest]
    · have hcomment := isPlainComment_withoutComments h.1 fun p => chosen (i :: p)
      simp only [withoutCommentsAll, hdelete, Bool.false_eq_true, if_false, bareAll, hcomment, hrest,
        bare_withoutComments (fun p => chosen (i :: p)) c h.1]

end

/-! ## §3 Parts of the bare tree -/

@[simp] theorem kind_bare (n : Node) : n.bare.kind = n.kind := by cases n; rfl

@[simp] theorem named_bare (n : Node) : n.bare.named = n.named := by cases n; rfl

@[simp] theorem field_bare (n : Node) : n.bare.field = n.field := by cases n; rfl

@[simp] theorem text_bare (n : Node) : n.bare.text = n.text := by cases n; rfl

theorem children_bare (n : Node) :
    n.bare.children = (n.children.filter fun c => !c.isPlainComment).map bare := by
  obtain ⟨k, nm, f, t, cs⟩ := n
  exact bareAll_eq cs

/-- A plain comment is no member. -/
theorem member_not_comment (c : Node) :
    ((c.named && c.kind != .comment) && !c.isPlainComment) = (c.named && c.kind != .comment) := by
  by_cases hc : c.kind = .comment
  · simp [hc]
  · simp [isPlainComment, hc]

@[simp] theorem members_bare (n : Node) : n.bare.members = n.members.map bare := by
  unfold members
  rw [children_bare, List.filter_map, List.filter_filter]
  simp only [Function.comp_def, named_bare, kind_bare, member_not_comment]

@[simp] theorem child?_bare (n : Node) (f : Field) : n.bare.child? f = (n.child? f).map bare := by
  unfold child?
  rw [children_bare, List.find?_map, List.find?_filter]
  -- a plain comment plays no role, so the search passes over it
  congr 2
  funext c
  by_cases hc : c.field = some f
  · simp [isPlainComment, hc]
  · simp [hc]

@[simp] theorem hasToken_bare (n : Node) (k : Kind) : n.bare.hasToken k = n.hasToken k := by
  unfold hasToken
  rw [children_bare, List.any_map, List.any_filter]
  -- a plain comment is named, so it is no keyword
  congr 1
  funext c
  by_cases hc : c.named = true
  · simp [hc]
  · simp [isPlainComment, hc]

/-! ## §4 Members and names -/

@[simp] theorem first?_bare (n : Node) : n.bare.first? = n.first?.map bare := by
  simp [first?]

@[simp] theorem memberOfKind?_bare (n : Node) (k : Kind) :
    n.bare.memberOfKind? k = (n.memberOfKind? k).map bare := by
  simp only [memberOfKind?, members_bare, List.find?_map, Function.comp_def, kind_bare]

@[simp] theorem membersOf_bare (n? : Option Node) :
    membersOf (n?.map bare) = (membersOf n?).map bare := by
  cases n? with
  | none => rfl
  | some n => exact members_bare n

@[simp] theorem textOf_bare (n? : Option Node) : textOf (n?.map bare) = textOf n? := by
  cases n? with
  | none => rfl
  | some n => exact text_bare n

@[simp] theorem name?_bare (n : Node) : n.bare.name? = n.name?.map bare :=
  child?_bare n .name

@[simp] theorem nameText_bare (n : Node) : n.bare.nameText = n.nameText := by
  simp [nameText]

@[simp] theorem calleeText_bare (n : Node) : n.bare.calleeText = n.calleeText := by
  simp [calleeText]

/-! ## §5 Wrappers and parameters -/

/-- A comment inside a wrapper, even in front of the type, does not hide the type. -/
@[simp] theorem unwrap_bare (n : Node) : n.bare.unwrap = n.unwrap.map bare := by
  rw [unwrap_eq, unwrap_eq, kind_bare, first?_bare]
  split
  · cases hc : n.first? with
    | none => rfl
    | some c => exact unwrap_bare c
  · rfl
termination_by n.size
decreasing_by exact size_lt_of_first? hc

@[simp] theorem unwrapParentheses_bare (n : Node) :
    n.bare.unwrapParentheses = n.unwrapParentheses.map bare := by
  unfold unwrapParentheses
  by_cases hn : n.kind = .parenthesizedExpression
  · simp [hn]
  · simp [hn]

/-- The type inside an annotation that may be missing. -/
@[simp] theorem bind_unwrap_bare (n? : Option Node) :
    (n?.map bare).bind unwrap = (n?.bind unwrap).map bare := by
  cases n? with
  | none => rfl
  | some n => exact unwrap_bare n

@[simp] theorem parameterNodes_bare (n : Node) :
    n.bare.parameterNodes = n.parameterNodes.map bare := by
  unfold parameterNodes
  rw [child?_bare, child?_bare]
  cases n.child? .parameters with
  | some ps => simp [List.filter_map, Function.comp_def]
  | none =>
    cases n.child? .parameter with
    | some p => rfl
    | none => rfl

theorem parameterPattern?_bare (p : Node) :
    p.bare.parameterPattern? = p.parameterPattern?.map bare := by
  unfold parameterPattern?
  rw [child?_bare, child?_bare, first?_bare]
  cases p.child? .pattern with
  | some q => rfl
  | none =>
    cases p.child? .name with
    | some q => rfl
    | none => rfl

@[simp] theorem parameterName_bare (p : Node) : p.bare.parameterName = p.parameterName := by
  simp [parameterName, parameterPattern?_bare]

@[simp] theorem parameterType?_bare (p : Node) :
    p.bare.parameterType? = p.parameterType?.map bare := by
  unfold parameterType?
  by_cases hp : p.kind = .identifier
  · simp [hp]
  · simp [hp]

end TsOutline.Node
