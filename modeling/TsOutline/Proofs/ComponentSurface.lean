import TsOutline.Callable

/-!
# Components Are Told at the Surface

Whether a callable counts as a component is told by a thin slice of its body. In a block these are the
top nodes of what its own return statements return; of any other body it is the top node. One pair of
parentheses is looked through in both. This module says that the return type of a callable depends on
its body through nothing else.

- **Rewriting** (`Component.Rewritten`, `Component.SameSurface`): what may become of a body. Statements
  that return nothing come, go and change, with all the code that is nested in them, and so does
  everything below the top node of a returned expression.
- **In its place** (`Node.Replaced`): the rewritten callable takes the place of the old one in the tree,
  where it is listed under the same name.
-/

namespace TsOutline

/-! ## §1 One child in another's place -/

namespace Node

variable {p q n n' : Node} {before after : List Node} {f : Field}

/-- A child in another role does not matter for the child in a role. -/
theorem child?_of_children (hp : p.children = before ++ n :: after) (hn : n.field ≠ some f) :
    p.child? f = (before ++ after).find? fun c => c.field == some f := by
  rw [child?, hp, List.find?_append, List.find?_append, List.find?_cons_of_neg (by simpa using hn)]

/-- Two nodes that differ in one child, in another role, have the same child in a role. -/
theorem child?_replace (hp : p.children = before ++ n :: after)
    (hq : q.children = before ++ n' :: after) (hn : n.field ≠ some f) (hn' : n'.field ≠ some f) :
    p.child? f = q.child? f := by
  rw [child?_of_children hp hn, child?_of_children hq hn']

/-- The nodes `bs` are the nodes `as` above `n`, nearest first, after `n'` has taken the place of `n`.
    The source that they cover has changed, so their texts may be any. -/
inductive Replaced : (n n' : Node) → (as bs : List Node) → Prop where
  | root {n n' : Node} : Replaced n n' [] []
  | under {n n' p q : Node} {before after as bs : List Node} : p.kind = q.kind → p.field = q.field →
      p.children = before ++ n :: after → q.children = before ++ n' :: after → Replaced p q as bs →
      Replaced n n' (p :: as) (q :: bs)

end Node

/-! ## §2 What is looked at -/

namespace Component

/-- The kind of the top node, one pair of parentheses taken away. -/
def topKind? (n? : Option Node) : Option Kind :=
  (n?.bind Node.unwrapParentheses).map Node.kind

/-- A node that is a return statement. -/
def isReturn (n : Node) : Bool :=
  n.named && n.kind == .returnStatement

/-- The kinds at the top of what the return statements among some nodes return, in order. -/
def returnedKinds (cs : List Node) : List (Option Kind) :=
  (cs.filter isReturn).map fun r => topKind? r.first?

/-- There is a top node, and it is markup. -/
def showsMarkup (k? : Option Kind) : Bool :=
  (k?.map Kind.isMarkup).getD false

theorem isMarkup_eq (n? : Option Node) : isMarkup n? = showsMarkup (topKind? n?) := by
  unfold isMarkup topKind?
  cases n?.bind Node.unwrapParentheses <;> rfl

theorem any_isMarkupReturn (cs : List Node) :
    (cs.filter fun c => c.named && c.kind != .comment).any isMarkupReturn =
      (returnedKinds cs).any showsMarkup := by
  rw [returnedKinds, List.any_map, List.any_filter, List.any_filter]
  congr 1
  funext c
  -- a return statement is no comment
  by_cases hreturn : c.kind = .returnStatement
  · have hmember : (c.kind != .comment) = true := by rw [hreturn]; rfl
    rw [isMarkupReturn, isReturn, isMarkup_eq, hmember, Bool.and_true, Bool.and_assoc]
    rfl
  · have hother : (c.kind == .returnStatement) = false := beq_eq_false_iff_ne.mpr hreturn
    rw [isMarkupReturn, isReturn, hother, Bool.false_and, Bool.and_false, Bool.and_false,
      Bool.false_and]

/-- **What counts as a component by its body**: one of the block's own return statements returns
    markup, or the body is markup. -/
theorem returnsMarkup_eq {n b : Node} (hbody : n.child? .body = some b) :
    returnsMarkup n =
      if b.kind == .statementBlock then (returnedKinds b.children).any showsMarkup
      else showsMarkup (topKind? (some b)) := by
  rw [returnsMarkup, hbody]
  dsimp only
  rw [Node.members, any_isMarkupReturn, isMarkup_eq]

/-! ## §3 Rewriting a body -/

/-- The nodes of a block before and after it was rewritten: return statements stay, in their order, and
    keep the kind at the top of what they return; anything else is added or removed. -/
inductive Rewritten : List Node → List Node → Prop where
  | nil : Rewritten [] []
  | keep {r r' : Node} {cs ds : List Node} : isReturn r = true → isReturn r' = true →
      topKind? r.first? = topKind? r'.first? → Rewritten cs ds → Rewritten (r :: cs) (r' :: ds)
  | remove {s : Node} {cs ds : List Node} : isReturn s = false → Rewritten cs ds →
      Rewritten (s :: cs) ds
  | add {s : Node} {cs ds : List Node} : isReturn s = false → Rewritten cs ds →
      Rewritten cs (s :: ds)

/-- The same is returned at the top. -/
theorem Rewritten.returnedKinds_eq {cs ds : List Node} (h : Rewritten cs ds) :
    returnedKinds cs = returnedKinds ds := by
  induction h with
  | nil => rfl
  | keep hr hr' htop _ ih =>
    unfold returnedKinds at ih ⊢
    rw [List.filter_cons_of_pos hr, List.filter_cons_of_pos hr', List.map_cons, List.map_cons, htop,
      ih]
  | remove hs _ ih =>
    unfold returnedKinds at ih ⊢
    rw [List.filter_cons_of_neg (by simp [hs]), ih]
  | add hs _ ih =>
    unfold returnedKinds at ih ⊢
    rw [List.filter_cons_of_neg (by simp [hs]), ih]

theorem Rewritten.refl (cs : List Node) : Rewritten cs cs := by
  induction cs with
  | nil => exact .nil
  | cons c cs ih =>
    by_cases hc : isReturn c = true
    · exact .keep hc hc rfl ih
    · rw [Bool.not_eq_true] at hc
      exact .remove hc (.add hc ih)

/-- Two bodies that cannot be told apart at the surface. -/
inductive SameSurface : Node → Node → Prop where
  | block {b b' : Node} : b.kind = .statementBlock → b'.kind = .statementBlock →
      Rewritten b.children b'.children → SameSurface b b'
  | expression {b b' : Node} : b.kind ≠ .statementBlock → b'.kind ≠ .statementBlock →
      topKind? (some b) = topKind? (some b') → SameSurface b b'

theorem SameSurface.refl (b : Node) : SameSurface b b := by
  by_cases hblock : b.kind = .statementBlock
  · exact .block hblock hblock (.refl b.children)
  · exact .expression hblock hblock rfl

/-- The two bodies are blocks, or neither is one. -/
theorem SameSurface.isBlock_eq {b b' : Node} (h : SameSurface b b') :
    (b.kind == .statementBlock) = (b'.kind == .statementBlock) := by
  cases h with
  | block hb hb' _ => rw [hb, hb']
  | expression hb hb' _ => rw [beq_eq_false_iff_ne.mpr hb, beq_eq_false_iff_ne.mpr hb']

theorem SameSurface.returnsMarkup_eq {n n' b b' : Node} (h : SameSurface b b')
    (hbody : n.child? .body = some b) (hbody' : n'.child? .body = some b') :
    returnsMarkup n = returnsMarkup n' := by
  rw [Component.returnsMarkup_eq hbody, Component.returnsMarkup_eq hbody', ← h.isBlock_eq]
  cases h with
  | block hb _ hrewritten =>
    rw [if_pos (by simp [hb]), if_pos (by simp [hb]), hrewritten.returnedKinds_eq]
  | expression hb _ htop => rw [if_neg (by simp [hb]), if_neg (by simp [hb]), htop]

/-- A callable before and after its body was rewritten at most below the surface. -/
structure BodyRewritten (n n' : Node) : Prop where
  kind : n.kind = n'.kind
  field : n.field = n'.field
  body : ∃ before after b b', n.children = before ++ b :: after ∧
    n'.children = before ++ b' :: after ∧ b.field = some .body ∧ b'.field = some .body ∧
    SameSurface b b'

namespace BodyRewritten

variable {n n' : Node}

/-- All children in other roles are the same. -/
theorem child?_eq (h : BodyRewritten n n') {f : Field} (hf : f ≠ .body) :
    n.child? f = n'.child? f := by
  obtain ⟨before, after, b, b', hn, hn', hb, hb', -⟩ := h.body
  have hother : some Field.body ≠ some f := fun heq => hf (Option.some.inj heq).symm
  exact Node.child?_replace hn hn' (hb ▸ hother) (hb' ▸ hother)

/-- The bodies that are looked at have the same surface. -/
theorem exists_body (h : BodyRewritten n n') :
    ∃ b b', n.child? .body = some b ∧ n'.child? .body = some b' ∧ SameSurface b b' := by
  obtain ⟨before, after, b, b', hn, hn', hb, hb', hsurface⟩ := h.body
  have hfind {m x : Node} (hm : m.children = before ++ x :: after) (hx : x.field = some .body) :
      m.child? .body = (before.find? fun c => c.field == some .body).or (some x) := by
    rw [Node.child?, hm, List.find?_append, List.find?_cons_of_pos (by simpa using hx)]
  rw [hfind hn hb, hfind hn' hb']
  cases before.find? fun c => c.field == some .body with
  | some earlier => exact ⟨earlier, earlier, rfl, rfl, .refl earlier⟩
  | none => exact ⟨b, b', rfl, rfl, hsurface⟩

/-- **The return type** of a callable stays, whatever its name is. -/
theorem returnType_eq (h : BodyRewritten n n') (name : String) (view : Bool) :
    Callable.returnType n name view = Callable.returnType n' name view := by
  obtain ⟨b, b', hb, hb', hsurface⟩ := h.exists_body
  have hmarkup : looksLikeComponent n (some name) = looksLikeComponent n' (some name) := by
    rw [looksLikeComponent, looksLikeComponent, hsurface.returnsMarkup_eq hb hb']
  have hexpression : Callable.hasExpressionBody n = Callable.hasExpressionBody n' := by
    have hblock : (b.kind != .statementBlock) = (b'.kind != .statementBlock) :=
      congrArg not hsurface.isBlock_eq
    rw [Callable.hasExpressionBody, Callable.hasExpressionBody, hb, hb', h.kind]
    exact congrArg (n'.kind == .arrowFunction && ·) hblock
  rw [Callable.returnType, Callable.returnType, h.child?_eq (by decide), hmarkup, hexpression]

end BodyRewritten

end Component

namespace Callable

open Component (BodyRewritten)
open Node (Replaced)

variable {n n' : Node} {as bs : List Node} {router : Option String}

/-! ## §4 Names -/

/-- The value of a variable or of a property is listed under the same name after it was replaced. -/
theorem map_name_boundIdentity? (h : Replaced n n' as bs) (hfield : n.field = n'.field) :
    (boundIdentity? ⟨n, as⟩ router).map (·.name) = (boundIdentity? ⟨n', bs⟩ router).map (·.name) := by
  cases h with
  | root => rfl
  | @under _ _ p q before after as bs hkind _ hp hq _ =>
    unfold boundIdentity?
    simp only [Cursor.parent?, Cursor.kind, Cursor.isIn, ← hfield, ← hkind]
    by_cases hvalue : n.field = some .value
    · -- the name and the key of the parent are other children than its value
      have hother {f : Field} (hf : f ≠ .value) : p.child? f = q.child? f := by
        have hne : some Field.value ≠ some f := fun heq => hf (Option.some.inj heq).symm
        exact Node.child?_replace hp hq (hvalue ▸ hne) (hfield ▸ hvalue ▸ hne)
      have hname : p.name? = q.name? := hother (by decide)
      have hkey : p.child? .key = q.child? .key := hother (by decide)
      have hbound : (n.field == some .value) = true := by simp [hvalue]
      simp only [hname, hkey, hbound, if_true]
      split
      · cases q.name? with
        | none => rfl
        | some name => by_cases hkind : name.kind = .identifier <;> simp [hkind]
      · cases q.child? .key with
        | none => rfl
        | some key => by_cases hkind : key.kind = .propertyIdentifier <;> simp [hkind]
      · rfl
    · simp [hvalue]

/-- **Names**: a callable is listed under the same name after its body was rewritten, or again under
    none. -/
theorem map_name_identity? (h : Replaced n n' as bs) (hn : BodyRewritten n n') :
    (identity? ⟨n, as⟩ router).map (·.name) = (identity? ⟨n', bs⟩ router).map (·.name) := by
  have hbound : (boundIdentity? ⟨n, as⟩ router).map (·.name) =
      (boundIdentity? ⟨n', bs⟩ router).map (·.name) := map_name_boundIdentity? h hn.field
  have hname : n.name? = n'.name? := hn.child?_eq (by decide)
  unfold identity?
  simp only [← hn.kind, ← hname]
  -- the ways to a name of one's own, and the variable or property behind them
  cases n.name? with
  | none => by_cases hmethod : n.kind = .methodDefinition <;> simp [hmethod, hbound]
  | some own =>
    cases n.kind.isFunctionDeclaration with
    | true => rfl
    | false =>
      by_cases hmethod : n.kind = .methodDefinition
      · by_cases hproperty : own.kind = .propertyIdentifier <;> simp [hmethod, hproperty]
      · cases n.kind.isFunctionExpression <;> simp [hmethod, hbound]

/-! ## §5 The return type in its place -/

/-- **Components are told at the surface.** Rewrite the body of a callable: in a block, add, remove and
    replace statements that return nothing, whatever is nested in them, and whatever lies below the top
    node of a returned expression; of a body that is no block, keep the kind of the top node. Then the
    return type is the same under every name, and so is that of the signature which the callable has in
    its place in the tree, if it has one. -/
theorem return_type_told_at_surface (path : String) (router : Option String) (view : Bool)
    (h : Replaced n n' as bs) (hn : BodyRewritten n n') :
    (∀ name, returnType n name view = returnType n' name view) ∧
      (signature? ⟨n, as⟩ path router view).map (·.returnType) =
        (signature? ⟨n', bs⟩ path router view).map (·.returnType) := by
  refine ⟨fun name => hn.returnType_eq name view, ?_⟩
  have hsignature (c : Cursor) : (signature? c path router view).map (·.returnType) =
      ((identity? c router).map (·.name)).map fun name => returnType c.node name view := by
    simp [signature?, Function.comp_def]
  have hsame : (fun name => returnType n name view) = fun name => returnType n' name view :=
    funext fun name => hn.returnType_eq name view
  rw [hsignature, hsignature, map_name_identity? h hn, hsame]

/-- A return statement. -/
def returning (value : Node) : Node :=
  .mk .returnStatement true none ("return " ++ value.text)
    [.mk (.other "return") false none "return" [], value]

/-- An arrow function with a block as the value of a variable. -/
def arrowValue (statements : List Node) : Node :=
  .mk .arrowFunction true (some .value) "() => ..."
    [.mk .statementBlock true (some .body) "..." statements]

/-- A variable with a value. -/
def variableOf (value : Node) : Node :=
  .mk .variableDeclarator true none ("rows = " ++ value.text)
    [.mk .identifier true (some .name) "rows" [], value]

/-- A callback that returns markup is put in front of a return statement, whose value changes below its
    top node. The function around it becomes no component. -/
theorem callback_markup_not_attributed :
    let call (text : String) : Node := .mk .callExpression true none text []
    let inParentheses (e : Node) : Node := .mk .parenthesizedExpression true none e.text [e]
    let callback := arrowValue [returning (.mk .jsxElement true none "<li></li>" [])]
    let n := arrowValue [returning (inParentheses (call "f()"))]
    let n' := arrowValue [.mk (.other "expression_statement") true none "run(...)" [callback],
      returning (inParentheses (call "g(<b></b>)"))]
    Replaced n n' [variableOf n] [variableOf n'] ∧ BodyRewritten n n' ∧
      (signature? ⟨n', [variableOf n']⟩ "/p/a.tsx" none true).map (·.returnType) = some "void" := by
  intro call inParentheses callback n n'
  let name : Node := .mk .identifier true (some .name) "rows" []
  have hchildren (value : Node) : (variableOf value).children = [name] ++ value :: [] := rfl
  have hplace : Replaced n n' [variableOf n] [variableOf n'] :=
    .under rfl rfl (hchildren n) (hchildren n') .root
  have hbody : BodyRewritten n n' :=
    ⟨rfl, rfl, [], [], _, _, rfl, rfl, rfl, rfl, .block rfl rfl (.add rfl (.keep rfl rfl rfl .nil))⟩
  refine ⟨hplace, hbody, ?_⟩
  rw [← (return_type_told_at_surface "/p/a.tsx" none true hplace hbody).2]
  decide +kernel

end Callable

end TsOutline
