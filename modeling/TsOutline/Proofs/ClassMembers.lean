import TsOutline.Proofs.Wiring

/-!
# Who Lists the Members of a Class

Two parts of an outline could list a method: the record of its class and the walk itself. They decide
without asking each other, and this module compares them.

- **The record of a class** (`classMember?_cases`, `signature?_of_isClassDeclaration`): one entry for
  each field and each method that is no accessor, in the order of the body, and nothing else.
- **The walk** (`recordsAt_of_isClassMember`, `recordsAt_of_other_class`): no method of a declared
  class is listed, and every method with a plain name of any other class is, unless the class stands
  directly behind `export`. There it need not be anonymous: a named class in `export = class Name { }`
  has no record either, so its methods are listed nowhere.
-/

namespace TsOutline

/-! ## §1 The record of a class -/

namespace Declaration

open Text (join)
open TypeText (renderMember renderParameters)

/-- A member that the record of a class lists: a field, or a method (defined, overloaded or abstract)
    without a `get` or `set` in front. -/
def IsListedMember (m : Node) : Prop :=
  m.kind = .publicFieldDefinition ∨
    m.kind ∈ [Kind.methodDefinition, .methodSignature, .abstractMethodSignature] ∧
      ∀ token ∈ m.children, token.named = false →
        token.kind ≠ .getToken ∧ token.kind ≠ .setToken

instance (m : Node) : Decidable (IsListedMember m) :=
  inferInstanceAs (Decidable (_ ∨ _))

/-- How a listed member is written: a field with its type, a constructor with its parameters, and any
    other method with its parameters and its result. -/
inductive MemberEntry (d : Budget) (m : Node) : String → Prop where
  | field : m.kind = .publicFieldDefinition →
      MemberEntry d m (staticMark m ++ renderMember m d)
  | constructor : m.kind.isClassMethod = true → m.nameText = "constructor" →
      MemberEntry d m ("constructor(" ++ renderParameters m d.spend ++ ")")
  | method : m.kind.isClassMethod = true → m.nameText ≠ "constructor" →
      MemberEntry d m (staticMark m ++ renderMethod m d)

theorem isClassMethod_iff {k : Kind} :
    k.isClassMethod = true ↔ k ∈ [Kind.methodDefinition, .methodSignature, .abstractMethodSignature] := by
  cases k <;> simp [Kind.isClassMethod]

theorem isAccessor_eq_false_iff {m : Node} :
    isAccessor m = false ↔ ∀ token ∈ m.children, token.named = false →
      token.kind ≠ .getToken ∧ token.kind ≠ .setToken := by
  simp only [isAccessor, Node.hasToken, Bool.or_eq_false_iff, List.any_eq_false, Bool.and_eq_true,
    Bool.not_eq_true', beq_iff_eq, not_and]
  exact ⟨fun h token ht hn => ⟨h.1 token ht hn, h.2 token ht hn⟩,
    fun h => ⟨fun token ht hn => (h token ht hn).1, fun token ht hn => (h token ht hn).2⟩⟩

/-- A member has an entry exactly if it is listed, and the entry is written as it should be. -/
theorem classMember?_cases (d : Budget) (m : Node) :
    (IsListedMember m ∧ ∃ entry, classMember? d m = some entry ∧ MemberEntry d m entry) ∨
      ¬ IsListedMember m ∧ classMember? d m = none := by
  unfold classMember?
  by_cases hfield : m.kind = .publicFieldDefinition
  · rw [if_pos (by simpa using hfield)]
    exact .inl ⟨.inl hfield, _, rfl, .field hfield⟩
  · rw [if_neg (by simpa using hfield)]
    by_cases hmethod : (m.kind.isClassMethod && !isAccessor m) = true
    · rw [if_pos hmethod]
      rw [Bool.and_eq_true, Bool.not_eq_true'] at hmethod
      refine .inl ⟨.inr ⟨isClassMethod_iff.mp hmethod.1, isAccessor_eq_false_iff.mp hmethod.2⟩, ?_⟩
      split
      · exact ⟨_, rfl, .constructor hmethod.1 (by assumption)⟩
      · exact ⟨_, rfl, .method hmethod.1 (by assumption)⟩
    · rw [if_neg hmethod]
      refine .inr ⟨?_, rfl⟩
      rintro (hlisted | ⟨hkind, htokens⟩)
      · exact hfield hlisted
      · apply hmethod
        rw [isClassMethod_iff.mpr hkind, isAccessor_eq_false_iff.mpr htokens]
        rfl

/-- The entries of the members, one for each that is listed, in order. -/
theorem forall₂_memberEntry (d : Budget) (members : List Node) :
    List.Forall₂ (MemberEntry d) (members.filter fun m => IsListedMember m)
      (members.filterMap (classMember? d)) := by
  induction members with
  | nil => exact .nil
  | cons m rest ih =>
    rcases classMember?_cases d m with ⟨hlisted, entry, hentry, hwritten⟩ | ⟨hunlisted, hnone⟩
    · rw [List.filter_cons_of_pos (by simpa using hlisted), List.filterMap_cons_some hentry]
      exact .cons hwritten ih
    · rw [List.filter_cons_of_neg (by simpa using hunlisted), List.filterMap_cons_none hnone]
      exact ih

/-- The record of a class under its name: its member part has one entry for each listed member of the
    body, in order, and nothing else. -/
structure IsClassRecord (n : Node) (title : String) (d : Budget) (t : TypeSignature) : Prop where
  kind : t.kind = .classKind
  name : t.name = title
  text : ∃ entries, t.fullSignature =
      "class " ++ title ++ renderGenerics n d ++ classHeritage n ++ " \x7b " ++
        join "; " entries ++ " \x7d" ∧
    List.Forall₂ (MemberEntry d)
      ((Node.membersOf (n.child? .body)).filter fun m => IsListedMember m) entries

theorem heading?_of_isClassDeclaration {n : Node} (h : n.kind.isClassDeclaration = true)
    (d : Budget) :
    heading? n d = n.name?.map fun name => ⟨name.text, .classKind, classText n name.text d⟩ := by
  unfold heading?
  generalize n.kind = k at h
  cases k <;> first | rfl | cases h

/-- **The record of a class**: a named class has one, and a class without a name has none. -/
theorem signature?_of_isClassDeclaration {c : Cursor} (h : c.kind.isClassDeclaration = true)
    (path : String) (d : Budget) :
    (∀ name, c.node.name? = some name →
        ∃ t, signature? c path d = some t ∧ IsClassRecord c.node name.text d t) ∧
      (c.node.name? = none → signature? c path d = none) := by
  unfold signature?
  rw [heading?_of_isClassDeclaration h d]
  constructor
  · intro name hname
    rw [hname]
    refine ⟨_, rfl, rfl, rfl, _, ?_, forall₂_memberEntry d _⟩
    simp only [classText, braced, String.append_assoc]
    rfl
  · intro hname
    rw [hname]
    rfl

end Declaration

/-! ## §2 Methods in the walk -/

namespace Outline

open Router (WiringCallee isWiringCall_iff)

/-- The type declarations that the walk lists at a node. -/
def typesAt (o : Options) (c : Cursor) : List TypeSignature :=
  (entriesAt o c (activeRouter? o c)).types

/-- The node is a method directly in the body of a class. -/
structure IsMethodOf (c owner : Cursor) : Prop where
  isMethod : c.kind = .methodDefinition
  inBody : ∃ body, body.kind = .classBody ∧ c.ancestors = body :: owner.node :: owner.ancestors

/-- A method is listed as a callable or not at all. -/
theorem recordsAt_of_method {o : Options} {c : Cursor} (h : c.kind = .methodDefinition) :
    recordsAt o c = (functionAt o c (activeRouter? o c)).toList := by
  have hobject : Router.isRouterObject o.factories c = false := by
    unfold Router.isRouterObject
    split
    · simp [h]
    · rfl
  have hnone : proceduresAt o c (activeRouter? o c) = [] := by
    unfold proceduresAt
    split
    · rw [hobject]
      rfl
    · rfl
  show (functionAt o c (activeRouter? o c)).toList ++ proceduresAt o c (activeRouter? o c) = _
  rw [hnone, List.append_nil]

/-- Whether a method belongs to a declared class is decided by the class, and by what is around it
    where the class is an expression. -/
theorem IsMethodOf.isClassMember_iff {c owner : Cursor} (h : IsMethodOf c owner) :
    isClassMember c = true ↔
      owner.kind.isClassDeclaration = true ∨
        owner.kind = .classExpression ∧ owner.parentKind? = some .exportStatement := by
  obtain ⟨hmethod, body, hbody, hancestors⟩ := h
  obtain ⟨ownerNode, above⟩ := owner
  unfold isClassMember
  rw [hancestors, hmethod]
  -- only the parent of the class counts of what is above it
  cases above with
  | nil => simp [hbody, Cursor.kind, Cursor.parentKind?]
  | cons p ps => simp [hbody, Cursor.kind, Cursor.parentKind?]

theorem recordsAt_of_isClassMember {o : Options} {c : Cursor} (hmethod : c.kind = .methodDefinition)
    (h : isClassMember c = true) : recordsAt o c = [] := by
  rw [recordsAt_of_method hmethod, functionAt, h]
  simp

/-- A method with a plain name can be listed under it. -/
theorem signature?_of_method {c : Cursor} {name : Node} (hmethod : c.kind = .methodDefinition)
    (hname : c.node.name? = some name) (hplain : name.kind = .propertyIdentifier) (path : String)
    (router : Option String) (view : Bool) :
    ∃ f, Callable.signature? c path router view = some f ∧ f.name = name.text ∧
      f.isProcedure = false := by
  have hkind : c.node.kind = .methodDefinition := hmethod
  have hidentity : Callable.identity? c router =
      some ⟨name.text, false, Callable.ownerOr c router⟩ := by
    simp [Callable.identity?, hkind, hname, hplain, Kind.isFunctionDeclaration]
  unfold Callable.signature?
  rw [hidentity]
  exact ⟨_, rfl, rfl, rfl⟩

/-- A method with a plain name that belongs to no declared class and is no wiring is listed once. -/
theorem recordsAt_of_other_class {o : Options} {c : Cursor} {name : Node}
    (hmethod : c.kind = .methodDefinition) (hmember : isClassMember c = false)
    (hname : c.node.name? = some name) (hplain : name.kind = .propertyIdentifier)
    (hwiring : ∀ a ∈ c.ancestors, a.kind = .callExpression →
      ¬ WiringCallee o.factories a.calleeText) :
    ∃ f, recordsAt o c = [f] ∧ f.name = name.text ∧ f.isProcedure = false := by
  have hcallable : c.kind.isCallable = true := by
    rw [hmethod]
    rfl
  have hunwired : Router.isWiring o.factories c = false := by
    rw [Router.isWiring, List.any_eq_false]
    intro a ha hcall
    obtain ⟨hkind, hcallee⟩ := isWiringCall_iff.mp hcall
    exact hwiring a ha hkind hcallee
  obtain ⟨f, hf, hrecord⟩ := signature?_of_method hmethod hname hplain o.path (activeRouter? o c) o.view
  refine ⟨f, ?_, hrecord⟩
  rw [recordsAt_of_method hmethod, functionAt, hcallable, hmember, hunwired, hf]
  rfl

/-! ## §3 Ownership -/

/-- **Members have one owner.** The walk lists a class declaration once if it has a name, with one
    entry for each field and each method that is no accessor, and not at all otherwise. It lists no
    method of a class declaration, nor of a class expression that stands directly in an `export`,
    anonymous or not. A method with a plain name of any class expression, outside of wiring, is listed
    exactly once if the class does not stand directly in an `export`, and only then. -/
theorem class_members_owned_once (o : Options) (tree : Node) :
    (ofTree o tree).types = (Cursor.root tree).preorder.flatMap (typesAt o) ∧
    (ofTree o tree).functions = (Cursor.root tree).preorder.flatMap (recordsAt o) ∧
    (∀ c ∈ (Cursor.root tree).preorder, c.kind.isClassDeclaration = true →
      (∀ name, c.node.name? = some name →
        ∃ t, typesAt o c = [t] ∧ Declaration.IsClassRecord c.node name.text o.depth t) ∧
      (c.node.name? = none → typesAt o c = [])) ∧
    ∀ c ∈ (Cursor.root tree).preorder, ∀ owner, IsMethodOf c owner →
      (owner.kind.isClassDeclaration = true → recordsAt o c = []) ∧
      (owner.kind = .classExpression → owner.parentKind? = some .exportStatement →
        recordsAt o c = []) ∧
      ∀ name, owner.kind = .classExpression → c.node.name? = some name →
        name.kind = .propertyIdentifier →
        (∀ a ∈ c.ancestors, a.kind = .callExpression → ¬ WiringCallee o.factories a.calleeText) →
        ((∃ f, recordsAt o c = [f] ∧ f.name = name.text ∧ f.isProcedure = false) ↔
          owner.parentKind? ≠ some .exportStatement) := by
  refine ⟨by rw [ofTree_eq_listing]; rfl, functions_ofTree o tree, ?_, ?_⟩
  · intro c _ hclass
    obtain ⟨hnamed, hanonymous⟩ := Declaration.signature?_of_isClassDeclaration hclass o.path o.depth
    constructor
    · intro name hname
      obtain ⟨t, ht, hrecord⟩ := hnamed name hname
      refine ⟨t, ?_, hrecord⟩
      show (Declaration.signature? c o.path o.depth).toList = [t]
      rw [ht]
      rfl
    · intro hname
      show (Declaration.signature? c o.path o.depth).toList = []
      rw [hanonymous hname]
      rfl
  · intro c _ owner hmethod
    refine ⟨fun hclass => ?_, fun hexpr hexport => ?_, ?_⟩
    · exact recordsAt_of_isClassMember hmethod.isMethod (hmethod.isClassMember_iff.mpr (.inl hclass))
    · exact recordsAt_of_isClassMember hmethod.isMethod
        (hmethod.isClassMember_iff.mpr (.inr ⟨hexpr, hexport⟩))
    · intro name hexpr hname hplain hwiring
      constructor
      · rintro ⟨f, hf, _⟩ hexport
        rw [recordsAt_of_isClassMember hmethod.isMethod
          (hmethod.isClassMember_iff.mpr (.inr ⟨hexpr, hexport⟩))] at hf
        cases hf
      · intro hexport
        have hmember : isClassMember c = false := by
          rw [Bool.eq_false_iff, ne_eq, hmethod.isClassMember_iff, hexpr]
          rintro (hclass | ⟨_, hparent⟩)
          · cases hclass
          · exact hexport hparent
        exact recordsAt_of_other_class hmethod.isMethod hmember hname hplain hwiring

/-- The method `m() { }`, or the accessor `get m() { }`. -/
def methodM (tokens : List Node) : Node :=
  .mk .methodDefinition true none "m() ..." (tokens ++
    [.mk .propertyIdentifier true (some .name) "m" [],
     .mk .formalParameters true (some .parameters) "()" [],
     .mk .statementBlock true (some .body) "..." []])

/-- The body of a class with the given members. -/
def classBodyOf (members : List Node) : Node :=
  .mk .classBody true (some .body) "..." members

/-- The statement `class A { m() { } get m() { } }`. -/
def declaredA : Node :=
  .mk .classDeclaration true none "class A ..."
    [.mk .typeIdentifier true (some .name) "A" [],
     classBodyOf [methodM [], methodM [.mk .getToken false none "get" []]]]

/-- The variable `b = class { m() { } }`. -/
def variableB : Node :=
  .mk .variableDeclarator true none "b = class ..."
    [.mk .identifier true (some .name) "b" [],
     .mk .classExpression true (some .value) "class ..." [classBodyOf [methodM []]]]

/-- A declared class owns its method and leaves the accessor out; the method of the other class is a
    function. -/
theorem declared_and_bound_class_members :
    let statement : Node := .mk .lexicalDeclaration true none "const b = ..." [variableB]
    let tree : Node := .mk .program true none "..." [declaredA, statement]
    let inA : Cursor := ⟨methodM [], [declaredA.children[1], declaredA, tree]⟩
    let inB : Cursor := ⟨methodM [], [classBodyOf [methodM []], variableB.children[1], variableB,
      statement, tree]⟩
    (ofTree makeOptions tree).types.map (·.fullSignature) = ["class A \x7b m(): void \x7d"] ∧
      (ofTree makeOptions tree).functions.map (·.fullSignature) = ["m(): void"] ∧
      recordsAt makeOptions inA = [] ∧ ∃ f, recordsAt makeOptions inB = [f] := by
  intro statement tree inA inB
  obtain ⟨_, _, _, hmethods⟩ := class_members_owned_once makeOptions tree
  have hinA : inA ∈ (Cursor.root tree).preorder := by
    refine Cursor.mem_preorder_of_mem_children (d := ⟨declaredA, [tree]⟩) (List.mem_cons_self ..) ?_
    refine Cursor.mem_preorder_of_mem_children (List.mem_cons_of_mem _ (List.mem_cons_self ..)) ?_
    exact Cursor.mem_preorder_of_mem_children (List.mem_cons_self ..) (Cursor.self_mem_preorder _)
  have hinB : inB ∈ (Cursor.root tree).preorder := by
    refine Cursor.mem_preorder_of_mem_children (d := ⟨statement, [tree]⟩)
      (List.mem_cons_of_mem _ (List.mem_cons_self ..)) ?_
    refine Cursor.mem_preorder_of_mem_children (d := ⟨variableB, [statement, tree]⟩)
      (List.mem_cons_self ..) ?_
    refine Cursor.mem_preorder_of_mem_children (List.mem_cons_of_mem _ (List.mem_cons_self ..)) ?_
    refine Cursor.mem_preorder_of_mem_children (List.mem_cons_self ..) ?_
    exact Cursor.mem_preorder_of_mem_children (List.mem_cons_self ..) (Cursor.self_mem_preorder _)
  refine ⟨by decide +kernel, by decide +kernel, ?_, ?_⟩
  · exact (hmethods inA hinA ⟨declaredA, [tree]⟩ ⟨rfl, _, rfl, rfl⟩).1 rfl
  · have hcalls : ∀ a ∈ inB.ancestors, a.kind ≠ .callExpression := by decide
    have hlisted := (hmethods inB hinB ⟨variableB.children[1], [variableB, statement, tree]⟩
      ⟨rfl, _, rfl, rfl⟩).2.2 _ rfl rfl rfl fun a ha hcall => absurd hcall (hcalls a ha)
    obtain ⟨f, hf, _⟩ := hlisted.mpr (by decide)
    exact ⟨f, hf⟩

/-- The program `export = class Foo { m() { } }`. -/
def exportedFoo : Node :=
  .mk .program true none "export = class Foo ..."
    [.mk .exportStatement true none "export = class Foo ..."
      [.mk (.other "export") false none "export" [], .mk (.other "=") false none "=" [],
       .mk .classExpression true none "class Foo ..."
        [.mk .typeIdentifier true (some .name) "Foo" [], classBodyOf [methodM []]]]]

/-- **A named class that is exported as a value loses its methods**: the class is no declaration, so
    nothing lists it, and its method is not listed as a function either. -/
theorem exported_named_class_loses_method :
    let statement := exportedFoo.children[0]
    let foo := statement.children[2]
    let owner : Cursor := ⟨foo, [statement, exportedFoo]⟩
    let c : Cursor := ⟨methodM [], [classBodyOf [methodM []], foo, statement, exportedFoo]⟩
    c ∈ (Cursor.root exportedFoo).preorder ∧ IsMethodOf c owner ∧
      owner.kind = .classExpression ∧ owner.node.name?.map Node.text = some "Foo" ∧
      c.node.name?.map Node.kind = some .propertyIdentifier ∧
      (∀ a ∈ c.ancestors, a.kind ≠ .callExpression) ∧ recordsAt makeOptions c = [] ∧
      (ofTree makeOptions exportedFoo).functions = [] ∧
      (ofTree makeOptions exportedFoo).types = [] := by
  intro statement foo owner c
  have hmem : c ∈ (Cursor.root exportedFoo).preorder := by
    refine Cursor.mem_preorder_of_mem_children (List.mem_cons_self ..) ?_
    refine Cursor.mem_preorder_of_mem_children
      (List.mem_cons_of_mem _ (List.mem_cons_of_mem _ (List.mem_cons_self ..))) ?_
    refine Cursor.mem_preorder_of_mem_children (List.mem_cons_of_mem _ (List.mem_cons_self ..)) ?_
    exact Cursor.mem_preorder_of_mem_children (List.mem_cons_self ..) (Cursor.self_mem_preorder _)
  have hmethod : IsMethodOf c owner := ⟨rfl, _, rfl, rfl⟩
  have hnone : recordsAt makeOptions c = [] :=
    recordsAt_of_isClassMember rfl (hmethod.isClassMember_iff.mpr (.inr ⟨rfl, rfl⟩))
  exact ⟨hmem, hmethod, rfl, rfl, rfl, by decide, hnone, by decide +kernel, by decide +kernel⟩

end Outline

end TsOutline
