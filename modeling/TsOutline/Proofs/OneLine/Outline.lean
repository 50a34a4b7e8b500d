import TsOutline.Proofs.Depth.Outline
import TsOutline.Proofs.OneLine.Declaration
import TsOutline.Proofs.Wiring

/-!
# Signatures on One Line

Which line feeds of the source get into an outline. Names and keywords have none, so all that matters
is what else is copied as it stands:

- procedures copy names only; a schema that is no name is collapsed, so their signatures are always on
  one line;
- functions copy the pattern of a parameter and the return type; the types of parameters are collapsed;
- type declarations copy what `Declaration.headingPieces` lists, enum values among it.

The main theorem says that these are all, and that each of them counts.
-/

namespace TsOutline

open Text (OneLine)

/-! ## §1 Tokens -/

namespace Node

/-- A keyword or mark, or a name of one word. -/
def IsToken (n : Node) : Prop :=
  n.named = false ∨ n.kind = .identifier ∨ n.kind = .typeIdentifier ∨ n.kind = .propertyIdentifier

/-- No token of the tree has a line feed. -/
def TokensOneLine (tree : Node) : Prop :=
  ∀ x, tree.Inside x → x.IsToken → OneLine x.text

/-- The nodes of a tree are its root and the nodes of its children. -/
theorem inside_iff {tree x : Node} :
    tree.Inside x ↔ x = tree ∨ ∃ c ∈ tree.children, c.Inside x := by
  constructor
  · intro h
    induction h with
    | root => exact .inl rfl
    | @child n c hn hc ih =>
      rcases ih with rfl | ⟨b, hb, hinside⟩
      · exact .inr ⟨c, hc, .root⟩
      · exact .inr ⟨b, hb, hinside.child hc⟩
  · rintro (rfl | ⟨c, hc, hinside⟩)
    · exact .root
    · exact (Inside.root.child hc).trans hinside

/-- What holds of all nodes of a tree holds of its root and of all nodes of its children. -/
theorem forall_inside_mk {P : Node → Prop} {k : Kind} {named : Bool} {f : Option Field}
    {text : String} {children : List Node} :
    (∀ x, (mk k named f text children).Inside x → P x) ↔
      P (mk k named f text children) ∧ ∀ c ∈ children, ∀ x, c.Inside x → P x := by
  constructor
  · exact fun h => ⟨h _ .root, fun c hc x hx => h x (inside_iff.mpr (.inr ⟨c, hc, hx⟩))⟩
  · rintro ⟨hself, hchildren⟩ x hx
    rcases inside_iff.mp hx with rfl | ⟨c, hc, hinside⟩
    · exact hself
    · exact hchildren c hc x hinside

@[simp] theorem tokensOneLine_mk {k : Kind} {named : Bool} {f : Option Field} {text : String}
    {children : List Node} :
    (mk k named f text children).TokensOneLine ↔
      ((mk k named f text children).IsToken → OneLine text) ∧
        ∀ c ∈ children, c.TokensOneLine :=
  forall_inside_mk

end Node

/-- Everything above a node of a tree is a node of the tree. -/
theorem Cursor.inside_of_mem_ancestors {tree : Node} {c e : Cursor} (hc : tree.Inside c.node)
    (habove : ∀ a ∈ c.ancestors, tree.Inside a) (he : e ∈ c.preorder) :
    ∀ a ∈ e.ancestors, tree.Inside a := by
  rw [Cursor.preorder_eq] at he
  rcases List.mem_cons.mp he with rfl | hbelow
  · exact habove
  · obtain ⟨child, hchild, hmem⟩ := List.mem_flatMap.mp hbelow
    have hlt := Cursor.size_lt_of_mem_children hchild
    obtain ⟨m, hm, rfl⟩ := List.mem_map.mp hchild
    refine Cursor.inside_of_mem_ancestors (hc.child hm) ?_ hmem
    exact List.forall_mem_cons.mpr ⟨hc, habove⟩
termination_by c.node.size

/-! ## §2 Functions -/

namespace Callable

/-- The nodes that the signature of a callable copies: what names its parameters, and what it
    returns. -/
def copiedNodes (callable : Node) : List Node :=
  callable.parameterNodes.filterMap Node.parameterNameNode? ++
    ((callable.child? .returnType).bind Node.unwrap).toList

theorem inside_of_mem_copiedNodes {callable x : Node} (h : x ∈ copiedNodes callable) :
    callable.Inside x := by
  rcases List.mem_append.mp h with hname | hresult
  · obtain ⟨p, hp, hx⟩ := List.mem_filterMap.mp hname
    exact (Node.within_of_parameterNameNode? (Node.within_of_mem_parameterNodes hp) hx).inside
  · obtain ⟨ascription, hchild, hx⟩ := Option.bind_eq_some_iff.mp (Option.mem_toList.mp hresult)
    exact (Node.Inside.root.of_child? hchild).of_unwrap hx

theorem oneLine_signatureText {parentName : Option String} {name : String}
    {parameters : List Parameter} {result : String} :
    OneLine (signatureText parentName name parameters result) ↔
      OneLine name ∧ (∀ parent ∈ parentName, OneLine parent) ∧
        (∀ p ∈ parameters, OneLine p.name ∧ OneLine p.typeText) ∧ OneLine result := by
  have hcomma : OneLine ", " := by decide
  unfold signatureText
  cases parentName with
  | none => simp +decide [Text.oneLine_join hcomma, and_assoc]
  | some parent =>
    by_cases hparent : parent = ""
    · simp +decide [hparent, Text.oneLine_join hcomma, and_assoc]
    · simp +decide [hparent, Text.oneLine_join hcomma, and_assoc, and_left_comm]

theorem oneLine_parameters (callable : Node) :
    (∀ p ∈ parameters callable, OneLine p.name ∧ OneLine p.typeText) ↔
      ∀ x ∈ callable.parameterNodes.filterMap Node.parameterNameNode?, OneLine x.text := by
  -- the name that stands in for an empty one is on one line, as the empty one is
  have hname (p : Node) :
      OneLine (if p.parameterName = "" then unnamedParameter else p.parameterName) ↔
        ∀ x, p.parameterNameNode? = some x → OneLine x.text := by
    rw [Node.parameterName_eq]
    cases p.parameterNameNode? with
    | none => simp +decide
    | some x => by_cases hx : x.text = "" <;> simp +decide [Node.textOf, hx]
  have htype {p : Parameter} (hp : p ∈ parameters callable) : OneLine p.typeText :=
    newline_not_mem_of_mem_parameters hp
  constructor
  · intro h x hx
    obtain ⟨p, hp, hx⟩ := List.mem_filterMap.mp hx
    exact (hname p).mp (h _ (List.mem_map_of_mem hp)).1 x hx
  · intro h p hp
    refine ⟨?_, htype hp⟩
    obtain ⟨q, hq, rfl⟩ := List.mem_map.mp hp
    exact (hname q).mpr fun x hx => h x (List.mem_filterMap.mpr ⟨q, hq, hx⟩)

theorem oneLine_returnType (callable : Node) (name : String) (view : Bool) :
    OneLine (returnType callable name view) ↔
      ∀ x ∈ ((callable.child? .returnType).bind Node.unwrap).toList, OneLine x.text := by
  unfold returnType
  cases (callable.child? .returnType).bind Node.unwrap with
  | some ascribed => simp
  | none =>
    dsimp only
    split
    · simp +decide
    · split <;> simp +decide

/-- **A function is on one line** exactly if its name, its owner and what it copies are. -/
theorem oneLine_signature? {c : Cursor} {path : String} {router : Option String} {view : Bool}
    {f : FunctionSignature} (h : signature? c path router view = some f) :
    OneLine f.fullSignature ↔
      OneLine f.name ∧ (∀ parent ∈ f.parentName, OneLine parent) ∧
        ∀ x ∈ copiedNodes c.node, OneLine x.text := by
  obtain ⟨id, _, rfl⟩ := Option.map_eq_some_iff.mp h
  dsimp only
  rw [oneLine_signatureText, oneLine_parameters, oneLine_returnType, copiedNodes,
    List.forall_mem_append]

end Callable

/-! ## §3 Procedures -/

namespace Router

/-- The schemas that were read so far are on one line. -/
structure Reading.SchemasOneLine (r : Reading) : Prop where
  name : ∀ s ∈ r.schemaName, OneLine s
  text : ∀ s ∈ r.schemaText, OneLine s

variable {tree : Node} {r : Reading}

/-- One call of a chain: a schema is a name of one word, or it is collapsed. -/
theorem Reading.SchemasOneLine.step (h : r.SchemasOneLine) (method : String)
    {argument? : Option Node}
    (hargument : ∀ a ∈ argument?, a.kind = .identifier → OneLine a.text) :
    (r.step method argument?).SchemasOneLine := by
  unfold Reading.step
  split
  · unfold Reading.withInput
    split
    · rename_i a
      split
      · rename_i hkind
        refine ⟨?_, h.text⟩
        rintro _ ⟨⟩
        exact hargument a rfl (beq_iff_eq.mp hkind)
      · refine ⟨h.name, ?_⟩
        rintro _ ⟨⟩
        exact Text.oneLine_collapse a.text
    · exact ⟨h.name, h.text⟩
  · split
    · exact h
    · exact ⟨h.name, h.text⟩

/-- The whole chain. -/
theorem readChain_schemasOneLine (htokens : tree.TokensOneLine) {expr : Node}
    (hexpr : tree.Inside expr) (h : r.SchemasOneLine) : (readChain r expr).SchemasOneLine := by
  -- what is called with an argument inside the tree has it collapsed or named by a token
  have hargument {e : Node} (he : tree.Inside e) (a : Node)
      (ha : a ∈ (Node.membersOf (e.child? .arguments)).head?) (hkind : a.kind = .identifier) :
      OneLine a.text := by
    have hmem := List.mem_of_mem_head? ha
    exact htokens a (.of_mem_membersOf (fun _ hc => he.of_child? hc) hmem) (.inr (.inl hkind))
  fun_induction readChain r expr with
  | case1 => exact h
  | case2 r expr _ callee hcallee _ _ inner hinner ih =>
    exact ih ((hexpr.of_child? hcallee).of_child? hinner) (h.step _ (hargument hexpr))
  | case3 r expr => exact h.step _ (hargument hexpr)
  | case4 => exact h
  | case5 => exact h

theorem oneLine_inputText (h : r.SchemasOneLine) (kind : ProcedureKind) :
    OneLine (inputText ⟨kind, r.hasInput, r.schemaName, r.schemaText⟩) := by
  have hshown : ∀ s ∈ shownSchema? ⟨kind, r.hasInput, r.schemaName, r.schemaText⟩, OneLine s := by
    unfold shownSchema?
    split
    · rename_i name hsome
      split
      · exact h.text
      · rintro _ ⟨⟩
        exact h.name name hsome
    · exact h.text
  unfold inputText
  split
  · split
    · rename_i schema hsome
      split
      · decide
      · simp +decide [hshown schema hsome]
    · decide
  · decide

/-- **A procedure is on one line**, if the name of its router is. -/
theorem oneLine_of_mem_procedures (htokens : tree.TokensOneLine) {object : Node}
    (hobject : tree.Inside object) {path router : String} (hrouter : OneLine router)
    {f : FunctionSignature} (h : f ∈ procedures object path router) : OneLine f.fullSignature := by
  obtain ⟨property, hmem, hproperty⟩ := List.mem_filterMap.mp h
  obtain ⟨hmember, hplain⟩ := List.mem_filter.mp hmem
  have hinside : tree.Inside property := hobject.of_mem_members hmember
  -- the key is a name of one word
  have hkey : OneLine (Node.textOf (property.child? .key)) := by
    unfold isPlainPair at hplain
    cases hchild : property.child? .key with
    | none => simp [hchild] at hplain
    | some key =>
      have hkind : key.kind = .propertyIdentifier := by
        simpa [hchild] using (Bool.and_eq_true_iff.mp hplain).2
      exact htokens key (hinside.of_child? hchild) (.inr (.inr (.inr hkind)))
  have hempty : Reading.empty.SchemasOneLine := ⟨nofun, nofun⟩
  obtain ⟨kind, _, rfl⟩ := Option.map_eq_some_iff.mp hproperty
  have hword : OneLine kind.word := by cases kind <;> decide
  show OneLine (router ++ "." ++ _ ++ ": " ++ kind.word ++ inputText _)
  simp +decide only [Text.oneLine_append, hrouter, hkey, hword, true_and]
  apply oneLine_inputText
  split
  · rename_i expr hexpr
    exact readChain_schemasOneLine htokens (hinside.of_child? hexpr) hempty
  · exact hempty

theorem oneLine_boundName? (htokens : tree.TokensOneLine) {factories : List String} {n : Node}
    (hn : tree.Inside n) {name : String} (h : boundName? factories n = some name) :
    OneLine name := by
  unfold boundName? at h
  split at h
  · split at h
    · cases h
    · rename_i declarator hdeclarator
      split at h
      · rename_i value x _ hname
        split at h
        · rename_i hkinds
          cases h
          have hkind : x.kind = .identifier := by
            simp only [Bool.and_eq_true, beq_iff_eq] at hkinds
            exact hkinds.1.2
          have hinside := hn.of_mem_members (List.mem_of_find?_eq_some hdeclarator)
          exact htokens x (hinside.of_child? hname) (.inr (.inl hkind))
        · cases h
      · cases h
  · cases h

end Router

/-! ## §4 Outlines -/

namespace Outline

variable {o : Options} {tree : Node} {c : Cursor}

theorem oneLine_activeRouter? (htokens : tree.TokensOneLine)
    (hc : c ∈ (Cursor.root tree).preorder) {r : String} (h : activeRouter? o c = some r) :
    OneLine r := by
  obtain ⟨nearer, statement, hbound⟩ := activeRouter?_eq_some_iff.mp h
  obtain ⟨above, hchain⟩ := hbound.onChain
  -- the statement is the node itself or stands above it, so it is in the tree
  have hmem : statement.node ∈ c.node :: c.ancestors := by
    rw [← c.map_node_chain, hchain]
    simp
  have hinside : tree.Inside statement.node := by
    rcases List.mem_cons.mp hmem with heq | habove
    · rw [heq]
      exact Cursor.inside_of_mem_preorder .root hc
    · exact Cursor.inside_of_mem_ancestors (c := .root tree) .root
        (fun _ ha => absurd ha List.not_mem_nil) hc _ habove
  have hbinds := hbound.binds
  unfold bindingName? at hbinds
  split at hbinds
  · rename_i name hname
    split at hbinds
    · cases hbinds
    · cases hbinds
      exact Router.oneLine_boundName? htokens hinside hname
  · cases hbinds

theorem oneLine_of_isProcedure (htokens : tree.TokensOneLine)
    (hc : c ∈ (Cursor.root tree).preorder) {f : FunctionSignature} (hf : f ∈ recordsAt o c)
    (hprocedure : f.isProcedure = true) : OneLine f.fullSignature := by
  rcases mem_recordsAt_iff.mp hf with hfunction | hmem
  · rw [isProcedure_of_functionAt hfunction] at hprocedure
    cases hprocedure
  · obtain ⟨r, hactive, _, hmem⟩ := mem_proceduresAt_iff.mp hmem
    exact Router.oneLine_of_mem_procedures htokens (Cursor.inside_of_mem_preorder .root hc)
      (oneLine_activeRouter? htokens hc hactive) hmem

theorem oneLine_of_plain {f : FunctionSignature} (hf : f ∈ recordsAt o c)
    (hplain : f.isProcedure = false) :
    OneLine f.fullSignature ↔
      OneLine f.name ∧ (∀ parent ∈ f.parentName, OneLine parent) ∧
        ∀ x ∈ Callable.copiedNodes c.node, OneLine x.text := by
  rcases mem_recordsAt_iff.mp hf with hfunction | hmem
  · obtain ⟨_, _, hsignature⟩ := functionAt_eq_some hfunction
    exact Callable.oneLine_signature? hsignature
  · obtain ⟨r, _, _, hmem⟩ := mem_proceduresAt_iff.mp hmem
    rw [(parentName_of_mem_procedures hmem).1] at hplain
    cases hplain

/-- **When signatures are on one line.** Let no token of the tree have a line feed. The signature of a
    procedure has none. The signature of a function has none exactly if its name, its owner, and the
    other nodes that name its parameters or say what it returns have none. The signature of a type
    declaration has none exactly if no node that is copied into it, and is no token, has one. -/
theorem signatures_oneLine_iff (o : Options) (tree : Node) (htokens : tree.TokensOneLine) :
    (ofTree o tree).functions = (Cursor.root tree).preorder.flatMap (recordsAt o) ∧
    (ofTree o tree).types = ((Cursor.root tree).preorder.filterMap fun c =>
      Declaration.signature? c o.path o.depth) ∧
    ∀ c ∈ (Cursor.root tree).preorder,
      (∀ f ∈ recordsAt o c, f.isProcedure = true → OneLine f.fullSignature) ∧
      (∀ f ∈ recordsAt o c, f.isProcedure = false →
        (OneLine f.fullSignature ↔
          OneLine f.name ∧ (∀ parent ∈ f.parentName, OneLine parent) ∧
            ∀ x ∈ Callable.copiedNodes c.node, ¬x.IsToken → OneLine x.text)) ∧
      ∀ t, Declaration.signature? c o.path o.depth = some t →
        (OneLine t.fullSignature ↔
          ∀ p ∈ Declaration.headingPieces c.node o.depth, ∀ x, p.Copies x → ¬x.IsToken →
            OneLine x.text) := by
  refine ⟨functions_ofTree o tree, types_ofTree o tree, fun c hc => ?_⟩
  have hinside : tree.Inside c.node := Cursor.inside_of_mem_preorder .root hc
  -- a token inside the tree is on one line anyway
  have htoken {x : Node} (hx : c.node.Inside x) :
      OneLine x.text ↔ (¬x.IsToken → OneLine x.text) := by
    by_cases hx' : x.IsToken
    · simp [hx', htokens x (hinside.trans hx) hx']
    · simp [hx']
  refine ⟨fun f hf => oneLine_of_isProcedure htokens hc hf, fun f hf hplain => ?_, fun t ht => ?_⟩
  · rw [oneLine_of_plain hf hplain]
    refine and_congr_right fun _ => and_congr_right fun _ => forall₂_congr fun x hx => ?_
    exact htoken (Callable.inside_of_mem_copiedNodes hx)
  · obtain ⟨h, hh, rfl⟩ := Option.map_eq_some_iff.mp ht
    have hmade := Declaration.heading?_madeOf hh
    refine hmade.oneLine.trans (forall₂_congr fun p hp => ?_)
    rw [p.oneLine_iff]
    exact forall₂_congr fun x hx => htoken ((hmade.inside p hp).trans hx.inside)

/-- The statement `function f(x: A<B>): C`, with a line feed in the type of the parameter. -/
def brokenParameter : Node :=
  .mk .functionSignature true none "function f(x: A<\n  B>): C;"
    [.mk .identifier true (some .name) "f" [],
     .mk .formalParameters true (some .parameters) "(x: A<\n  B>)"
      [.mk (.other "required_parameter") true none "x: A<\n  B>"
        [.mk .identifier true (some .pattern) "x" [],
         .mk .typeAscription true (some .typeExpr) ": A<\n  B>"
          [.mk .genericType true none "A<\n  B>"
            [.mk .typeIdentifier true (some .name) "A" [],
             .mk (.other "type_arguments") true (some .typeArguments) "<\n  B>"
              [.mk .typeIdentifier true none "B" []]]]]],
     .mk .typeAscription true (some .returnType) ": C" [.mk .typeIdentifier true none "C" []]]

/-- The line feed in the type of a parameter is collapsed. -/
theorem brokenParameter_oneLine :
    let tree : Node := .mk .program true none brokenParameter.text [brokenParameter]
    let c : Cursor := ⟨brokenParameter, [tree]⟩
    tree.TokensOneLine ∧ ¬OneLine brokenParameter.text ∧
      (recordsAt makeOptions c).map (·.fullSignature) = ["f(x: A< B>): C"] ∧
      ∀ f ∈ recordsAt makeOptions c, OneLine f.fullSignature := by
  intro tree c
  have htokens : tree.TokensOneLine := by
    simp +decide [tree, brokenParameter, Node.IsToken]
  have hc : c ∈ (Cursor.root tree).preorder :=
    Cursor.mem_preorder_of_mem_children (List.mem_cons_self ..) (Cursor.self_mem_preorder _)
  obtain ⟨-, -, hall⟩ := signatures_oneLine_iff makeOptions tree htokens
  obtain ⟨-, hplain, -⟩ := hall c hc
  refine ⟨htokens, by decide, by decide +kernel, fun f hf => ?_⟩
  have hcopied : ∀ x ∈ Callable.copiedNodes c.node, OneLine x.text := by decide +kernel
  have hnames : ∀ f ∈ recordsAt makeOptions c,
      f.isProcedure = false ∧ OneLine f.name ∧ ∀ parent ∈ f.parentName, OneLine parent := by
    decide +kernel
  obtain ⟨hprocedure, hname, hparent⟩ := hnames f hf
  exact (hplain f hf hprocedure).mpr ⟨hname, hparent, fun x hx _ => hcopied x hx⟩

/-- The statement `enum E { A = 1 + 2 }`, with a line feed in the value. -/
def brokenEnum : Node :=
  .mk .enumDeclaration true none "enum E \x7b A = 1 +\n2 \x7d"
    [.mk (.other "enum") false none "enum" [],
     .mk .identifier true (some .name) "E" [],
     .mk (.other "enum_body") true (some .body) "\x7b A = 1 +\n2 \x7d"
      [.mk (.other "\x7b") false none "\x7b" [],
       .mk .enumAssignment true none "A = 1 +\n2"
        [.mk .propertyIdentifier true (some .name) "A" [],
         .mk (.other "=") false none "=" [],
         .mk (.other "binary_expression") true (some .value) "1 +\n2"
          [.mk (.other "number") true (some .left) "1" [],
           .mk (.other "+") false (some (.other "operator")) "+" [],
           .mk (.other "number") true (some .right) "2" []]],
       .mk (.other "\x7d") false none "\x7d" []]]

/-- **The value of an enum is copied** with its line feed, and so the signature is on two lines. -/
theorem brokenEnum_two_lines :
    let tree : Node := .mk .program true none brokenEnum.text [brokenEnum]
    tree.TokensOneLine ∧
      (ofTree makeOptions tree).types.map (·.fullSignature) =
        ["enum E \x7b A = 1 +\n2 \x7d"] ∧
      ∃ t ∈ (ofTree makeOptions tree).types, ¬OneLine t.fullSignature := by
  intro tree
  refine ⟨?_, by decide +kernel, by decide +kernel⟩
  simp +decide [tree, brokenEnum, Node.IsToken]

end Outline

end TsOutline
