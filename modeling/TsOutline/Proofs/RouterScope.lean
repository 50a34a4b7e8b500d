import TsOutline.Proofs.Walk

/-!
# The Reach of a Router's Name

A statement that binds a router hands its name to everything below it, until the object of a router
ends it. The reach of the name is the statement, and so it is wider than the router's own initializer,
the call that makes the router.

- **Confinement** (`activeRouter?_eq_some_iff`): a router's name is only ever taken from the nearest
  statement above that binds one, and never across the object of a router.
- **Attribution** (`attributed_iff`): which nodes are listed under the name of a router.
- **Callables** (`not_inInitializerOf_of_listed`): inside an initializer every callable is wiring, so
  a callable that is listed under a router's name always lies outside of it.
- **Reach** (`attributed_within_statement`): what is listed under a name stands below a statement
  that binds it, and all that stands there and has no owner is listed under it.
-/

namespace TsOutline.Outline

/-! ## §1 Routers and their initializers -/

/-- A variable of the given name whose value is a call of a router factory. -/
structure IsRouterVariable (factories : List String) (r : String) (declarator value : Node) :
    Prop where
  isDeclarator : declarator.kind = .variableDeclarator
  value_eq : declarator.child? .value = some value
  name_eq : declarator.name?.map Node.text = some r
  isCall : value.kind = .callExpression
  isFactory : factories.contains value.calleeText = true

/-- The node lies in the value of a router variable of the given name. -/
def InInitializerOf (factories : List String) (r : String) (c : Cursor) : Prop :=
  ∃ nearer value declarator above, c.chain = nearer ++ value :: declarator :: above ∧
    IsRouterVariable factories r declarator.node value.node

/-- A variable statement one of whose variables is a router of the given name. -/
def Binds (factories : List String) (r : String) (statement : Node) : Prop :=
  statement.kind.isVariableStatement = true ∧
    ∃ declarator ∈ statement.members, ∃ value, IsRouterVariable factories r declarator value

/-- The statement binds routers under the given name and under no other. -/
def BindsOnly (factories : List String) (r : String) (statement : Node) : Prop :=
  Binds factories r statement ∧ ∀ r', Binds factories r' statement → r' = r

/-- The name that the walk takes from a statement is that of one of its routers. -/
theorem binds_of_bindingName? {o : Options} {n : Node} {r : String}
    (h : bindingName? o n = some r) : Binds o.factories r n := by
  unfold bindingName? Router.boundName? at h
  -- a statement that lacks any of the parts binds nothing
  by_cases hstatement : n.kind.isVariableStatement = true
  · cases hfirst : n.memberOfKind? .variableDeclarator with
    | none => simp [hstatement, hfirst] at h
    | some declarator =>
      have hkind : declarator.kind = .variableDeclarator := by
        simpa using List.find?_some hfirst
      cases hvalue : declarator.child? .value with
      | none => simp [hstatement, hfirst, hvalue] at h
      | some value =>
        cases hname : declarator.name? with
        | none => simp [hstatement, hfirst, hvalue, hname] at h
        | some name =>
          simp only [hstatement, hfirst, hvalue, hname, if_true] at h
          by_cases hmade : (value.kind == .callExpression && name.kind == .identifier
              && o.factories.contains value.calleeText) = true
          · have hr : name.text = r := by
              simp only [hmade, if_true] at h
              split at h
              · cases h
              · exact Option.some.inj h
            simp only [Bool.and_eq_true, beq_iff_eq] at hmade
            exact ⟨hstatement, declarator, List.mem_of_find?_eq_some hfirst, value,
              ⟨hkind, hvalue, by simp [hname, hr], hmade.1.1, hmade.2⟩⟩
          · rw [if_neg hmade] at h
            cases h
  · simp [hstatement] at h

/-! ## §2 The statement that a name comes from -/

/-- The nearest statement above a node, or the node itself, that binds a router, with nothing between
    them that binds or ends one. -/
structure BoundBy (o : Options) (c : Cursor) (r : String) (nearer : List Cursor)
    (statement : Cursor) : Prop where
  /-- The statement stands on the way up, after `nearer`. -/
  onChain : ∃ above, c.chain = nearer ++ statement :: above
  binds : bindingName? o statement.node = some r
  /-- No statement on the way binds another router. -/
  unbound : ∀ d ∈ nearer, bindingName? o d.node = none
  /-- No object on the way, the node itself apart, ends the router. -/
  unended : ∀ d ∈ nearer.tail, Router.isRouterObject o.factories d = false

theorem landmark?_eq_none_iff {o : Options} {c : Cursor} :
    landmark? o c = none ↔
      bindingName? o c.node = none ∧ Router.isRouterObject o.factories c = false := by
  unfold landmark?
  cases bindingName? o c.node with
  | none => simp
  | some name => simp

theorem landmark?_eq_binding_iff {o : Options} {c : Cursor} {r : String} :
    landmark? o c = some (.binding r) ↔ bindingName? o c.node = some r := by
  unfold landmark?
  cases bindingName? o c.node with
  | none => simp
  | some name => simp

/-- **Confinement**: a router is active at a node exactly if the nearest statement above that binds
    one binds it, and no router object lies between. -/
theorem activeRouter?_eq_some_iff {o : Options} {c : Cursor} {r : String} :
    activeRouter? o c = some r ↔ ∃ nearer statement, BoundBy o c r nearer statement := by
  unfold activeRouter? nearestLandmark?
  cases hself : bindingName? o c.node with
  | some name =>
    constructor
    · intro h
      cases Option.some.inj h
      exact ⟨[], c, ⟨c.above, c.chain_eq⟩, hself, by simp, by simp⟩
    · rintro ⟨nearer, statement, ⟨above, hchain⟩, hbinds, hunbound, _⟩
      -- the node binds a router itself, so nothing can be nearer than it
      rw [Cursor.chain_eq] at hchain
      cases nearer with
      | nil =>
        obtain ⟨rfl, _⟩ := List.cons.inj hchain
        rw [hself] at hbinds
        exact hbinds
      | cons d ds =>
        obtain ⟨rfl, _⟩ := List.cons.inj hchain
        rw [hunbound c (List.mem_cons_self ..)] at hself
        cases hself
  | none =>
    constructor
    · -- the first landmark on the way up splits the chain into what is nearer and what is above
      intro h
      obtain ⟨mark, hfound, hname⟩ := Option.bind_eq_some_iff.mp h
      cases mark with
      | routerObject => cases hname
      | binding name =>
        cases Option.some.inj hname
        obtain ⟨nearer, statement, above, habove, hmark, hnone⟩ :=
          List.findSome?_eq_some_iff.mp hfound
        refine ⟨c :: nearer, statement, ⟨above, by rw [Cursor.chain_eq, habove]; rfl⟩,
          landmark?_eq_binding_iff.mp hmark, ?_, ?_⟩
        · intro d hd
          rcases List.mem_cons.mp hd with rfl | hd
          · exact hself
          · exact (landmark?_eq_none_iff.mp (hnone d hd)).1
        · intro d hd
          exact (landmark?_eq_none_iff.mp (hnone d hd)).2
    · rintro ⟨nearer, statement, ⟨above, hchain⟩, hbinds, hunbound, hunended⟩
      rw [Cursor.chain_eq] at hchain
      cases nearer with
      | nil =>
        obtain ⟨rfl, _⟩ := List.cons.inj hchain
        rw [hself] at hbinds
        cases hbinds
      | cons d ds =>
        obtain ⟨_, habove⟩ := List.cons.inj hchain
        have hfound : c.above.findSome? (landmark? o) = some (.binding r) := by
          refine List.findSome?_eq_some_iff.mpr ⟨ds, statement, above, habove,
            landmark?_eq_binding_iff.mpr hbinds, ?_⟩
          intro e he
          exact landmark?_eq_none_iff.mpr ⟨hunbound e (List.mem_cons_of_mem _ he), hunended e he⟩
        simp only [hfound]
        rfl

/-! ## §3 What is listed under a router's name -/

/-- Nothing around the callable gives it a name to be listed under. -/
def IsOwnerless (c : Cursor) : Prop :=
  c.enclosingName? = none ∨ c.enclosingName? = some ""

/-- The functions and procedures that the walk lists at a node. -/
def recordsAt (o : Options) (c : Cursor) : List FunctionSignature :=
  (entriesAt o c (activeRouter? o c)).functions

/-- The node is listed under the name of a router: its procedures are, or it is a callable without
    an owner of its own and the name stands in for one. -/
inductive Attributed (o : Options) (c : Cursor) (r : String) : Prop where
  | procedure (f : FunctionSignature) (mem : f ∈ recordsAt o c) (kind : f.isProcedure = true)
      (parent : f.parentName = some r)
  | fallback (f : FunctionSignature) (mem : f ∈ recordsAt o c) (kind : f.isProcedure = false)
      (ownerless : IsOwnerless c) (parent : f.parentName = some r)

theorem ownerOr_of_isOwnerless {c : Cursor} (h : IsOwnerless c) (router : Option String) :
    Callable.ownerOr c router = router := by
  unfold Callable.ownerOr
  rcases h with h | h
  · rw [h]
  · rw [h]; rfl

theorem boundIdentity?_parentName {c : Cursor} {router : Option String} {id : Callable.Identity}
    (h : Callable.boundIdentity? c router = some id) :
    id.parentName = Callable.ownerOr c router := by
  unfold Callable.boundIdentity? at h
  grind

/-- A callable takes its parent from its owner, or it is a declaration right under the router. -/
theorem identity?_parentName {c : Cursor} {router : Option String} {id : Callable.Identity}
    (h : Callable.identity? c router = some id) :
    id.parentName = router ∨ id.parentName = Callable.ownerOr c router := by
  unfold Callable.identity? at h
  grind [boundIdentity?_parentName]

theorem signature?_parentName {c : Cursor} {path : String} {router : Option String} {view : Bool}
    {f : FunctionSignature} (h : Callable.signature? c path router view = some f)
    (hown : IsOwnerless c) : f.parentName = router := by
  obtain ⟨id, hid, rfl⟩ := Option.map_eq_some_iff.mp h
  show id.parentName = router
  rcases identity?_parentName hid with hparent | hparent
  · exact hparent
  · rw [hparent, ownerOr_of_isOwnerless hown]

/-- A callable that is listed is a callable, and no call above it makes a router. -/
theorem functionAt_eq_some {o : Options} {c : Cursor} {active : Option String}
    {f : FunctionSignature} (h : functionAt o c active = some f) :
    c.kind.isCallable = true ∧ Router.isWiring o.factories c = false ∧
      Callable.signature? c o.path active o.view = some f := by
  unfold functionAt at h
  split at h
  · rename_i hlisted
    simp only [Bool.and_eq_true, Bool.not_eq_true'] at hlisted
    exact ⟨hlisted.1.1, hlisted.2, h⟩
  · cases h

theorem isProcedure_of_functionAt {o : Options} {c : Cursor} {active : Option String}
    {f : FunctionSignature} (h : functionAt o c active = some f) : f.isProcedure = false := by
  obtain ⟨_, _, hsig⟩ := functionAt_eq_some h
  obtain ⟨id, _, rfl⟩ := Option.map_eq_some_iff.mp hsig
  rfl

/-- Every procedure of a router's object is listed under the name of the router. -/
theorem parentName_of_mem_procedures {object : Node} {path r : String} {f : FunctionSignature}
    (h : f ∈ Router.procedures object path r) :
    f.isProcedure = true ∧ f.parentName = some r := by
  obtain ⟨property, _, hproperty⟩ := List.mem_filterMap.mp h
  obtain ⟨kind, _, rfl⟩ := Option.map_eq_some_iff.mp hproperty
  exact ⟨rfl, rfl⟩

theorem mem_proceduresAt_iff {o : Options} {c : Cursor} {active : Option String}
    {f : FunctionSignature} :
    f ∈ proceduresAt o c active ↔
      ∃ r, active = some r ∧ Router.isRouterObject o.factories c = true ∧
        f ∈ Router.procedures c.node o.path r := by
  unfold proceduresAt
  cases active with
  | none => simp
  | some r =>
    by_cases hobj : Router.isRouterObject o.factories c = true
    · simp [hobj]
    · simp [hobj]

theorem mem_recordsAt_iff {o : Options} {c : Cursor} {f : FunctionSignature} :
    f ∈ recordsAt o c ↔
      functionAt o c (activeRouter? o c) = some f ∨ f ∈ proceduresAt o c (activeRouter? o c) := by
  simp [recordsAt, entriesAt]

/-- Under an active router, the object of a router lists all its procedures. -/
theorem procedures_subset_recordsAt {o : Options} {c : Cursor} {r : String}
    (hactive : activeRouter? o c = some r) (hobj : Router.isRouterObject o.factories c = true) :
    Router.procedures c.node o.path r ⊆ recordsAt o c := by
  intro f hf
  exact mem_recordsAt_iff.mpr (Or.inr (mem_proceduresAt_iff.mpr ⟨r, hactive, hobj, hf⟩))

/-- Under an active router, procedures and callables without an owner have it as their parent. -/
theorem parentName_of_mem_recordsAt {o : Options} {c : Cursor} {r : String} {f : FunctionSignature}
    (hactive : activeRouter? o c = some r) (hf : f ∈ recordsAt o c)
    (h : f.isProcedure = true ∨ IsOwnerless c) : f.parentName = some r := by
  rcases mem_recordsAt_iff.mp hf with hfun | hproc
  · rcases h with hkind | hown
    · rw [isProcedure_of_functionAt hfun] at hkind
      cases hkind
    · rw [hactive] at hfun
      exact signature?_parentName (functionAt_eq_some hfun).2.2 hown
  · obtain ⟨name, hname, _, hmem⟩ := mem_proceduresAt_iff.mp hproc
    rw [hactive] at hname
    cases hname
    exact (parentName_of_mem_procedures hmem).2

/-- **Attribution**: the nodes that are listed under a router's name are, in the reach of a statement
    that binds it, the router objects with procedures and the listed callables without an owner. -/
theorem attributed_iff {o : Options} {c : Cursor} {r : String} :
    Attributed o c r ↔
      (∃ nearer statement, BoundBy o c r nearer statement) ∧
        (Router.isRouterObject o.factories c = true ∧ Router.procedures c.node o.path r ≠ [] ∨
          IsOwnerless c ∧ (functionAt o c (some r)).isSome = true) := by
  rw [← activeRouter?_eq_some_iff]
  constructor
  · intro h
    cases h with
    | procedure f mem kind parent =>
      -- callables are no procedures, so the record was read from the object
      rcases mem_recordsAt_iff.mp mem with hfun | hproc
      · rw [isProcedure_of_functionAt hfun] at kind
        cases kind
      · obtain ⟨name, hactive, hobj, hf⟩ := mem_proceduresAt_iff.mp hproc
        have hname : some name = some r := (parentName_of_mem_procedures hf).2.symm.trans parent
        cases Option.some.inj hname
        exact ⟨hactive, Or.inl ⟨hobj, List.ne_nil_of_mem hf⟩⟩
    | fallback f mem kind ownerless parent =>
      -- without an owner, the parent of a callable is whatever router is active
      rcases mem_recordsAt_iff.mp mem with hfun | hproc
      · have hactive : activeRouter? o c = some r := by
          rw [← parent, signature?_parentName (functionAt_eq_some hfun).2.2 ownerless]
        rw [hactive] at hfun
        exact ⟨hactive, Or.inr ⟨ownerless, by rw [hfun]; rfl⟩⟩
      · obtain ⟨name, _, _, hf⟩ := mem_proceduresAt_iff.mp hproc
        rw [(parentName_of_mem_procedures hf).1] at kind
        cases kind
  · rintro ⟨hactive, ⟨hobj, hne⟩ | ⟨hown, hlisted⟩⟩
    · obtain ⟨f, hf⟩ := List.exists_mem_of_ne_nil _ hne
      have hmem : f ∈ recordsAt o c := procedures_subset_recordsAt hactive hobj hf
      exact .procedure f hmem (parentName_of_mem_procedures hf).1 (parentName_of_mem_procedures hf).2
    · obtain ⟨f, hf⟩ := Option.isSome_iff_exists.mp hlisted
      have hmem : f ∈ recordsAt o c := mem_recordsAt_iff.mpr (Or.inl (by rw [hactive]; exact hf))
      exact .fallback f hmem (isProcedure_of_functionAt hf) hown
        (signature?_parentName (functionAt_eq_some hf).2.2 hown)

/-! ## §4 The reach of a name and the initializers in it -/

/-- **Callables**: a listed callable lies in no initializer of a router, since the call that makes
    the router would turn it into wiring. -/
theorem not_inInitializerOf_of_listed {o : Options} {c : Cursor} {r : String}
    {active : Option String} {f : FunctionSignature} (h : functionAt o c active = some f) :
    ¬ InInitializerOf o.factories r c := by
  obtain ⟨hcallable, hwiring, _⟩ := functionAt_eq_some h
  rintro ⟨nearer, value, declarator, above, hchain, hrouter⟩
  have hcall : Router.isWiringCall o.factories value.node = true := by
    unfold Router.isWiringCall
    rw [hrouter.isCall, hrouter.isFactory, Bool.or_true]
    rfl
  have hmem : value ∈ c :: c.above := by
    rw [← Cursor.chain_eq, hchain]
    simp
  rcases List.mem_cons.mp hmem with rfl | habove
  · -- the callable itself would be the call
    have hkind : value.kind = .callExpression := hrouter.isCall
    rw [hkind] at hcallable
    cases hcallable
  · have hwired : Router.isWiring o.factories c = true :=
      List.any_eq_true.mpr ⟨value.node, Cursor.node_mem_ancestors_of_mem_above habove, hcall⟩
    rw [hwiring] at hwired
    cases hwired

/-- The way up to a statement, `nearer`, ends with the value of a router variable of the statement. -/
def ThroughRouter (factories : List String) (r : String) (nearer : List Cursor)
    (statement : Cursor) : Prop :=
  ∃ inside value declarator, nearer = inside ++ [value, declarator] ∧
    declarator.node ∈ statement.node.members ∧
    IsRouterVariable factories r declarator.node value.node

theorem ThroughRouter.binds {factories : List String} {r : String} {nearer : List Cursor}
    {statement : Cursor} (h : ThroughRouter factories r nearer statement)
    (hstatement : statement.node.kind.isVariableStatement = true) :
    Binds factories r statement.node := by
  obtain ⟨_, value, declarator, _, hmem, hrouter⟩ := h
  exact ⟨hstatement, declarator.node, hmem, value.node, hrouter⟩

theorem ThroughRouter.inInitializerOf {factories : List String} {r : String} {c statement : Cursor}
    {nearer above : List Cursor} (h : ThroughRouter factories r nearer statement)
    (hchain : c.chain = nearer ++ statement :: above) : InInitializerOf factories r c := by
  obtain ⟨inside, value, declarator, rfl, _, hrouter⟩ := h
  exact ⟨inside, value, declarator, statement :: above, by rw [hchain]; simp, hrouter⟩

/-- **Reach**: whatever is listed under a router's name stands below the nearest statement that binds
    a router, with no router's object in between, and the name is that of a router of the statement.
    It is either a router's object, which lies in the initializer of that name if it lies in one of
    the statement's initializers and these have no other name, or it is a callable, which lies in no
    initializer. And where the statement binds no other name, the objects that stand there list all
    their procedures, and all of these and all callables without an owner are listed under the name.
    Which name counts in a statement that binds several is left open. -/
theorem attributed_within_statement (o : Options) :
    (∀ tree, (ofTree o tree).functions = (Cursor.root tree).preorder.flatMap (recordsAt o)) ∧
    (∀ c r, Attributed o c r →
      ∃ nearer statement, BoundBy o c r nearer statement ∧ Binds o.factories r statement.node ∧
        (Router.isRouterObject o.factories c = true ∧
            (∀ r', ThroughRouter o.factories r' nearer statement →
              BindsOnly o.factories r statement.node → InInitializerOf o.factories r c) ∨
          IsOwnerless c ∧ ∀ r', ¬ InInitializerOf o.factories r' c)) ∧
    (∀ c r nearer statement, BoundBy o c r nearer statement →
      BindsOnly o.factories r statement.node →
      (Router.isRouterObject o.factories c = true →
        Router.procedures c.node o.path r ⊆ recordsAt o c) ∧
      ∀ f ∈ recordsAt o c, f.isProcedure = true ∨ IsOwnerless c → f.parentName = some r) := by
  refine ⟨fun tree => by rw [ofTree_eq_listing]; rfl, ?_, ?_⟩
  · intro c r h
    obtain ⟨⟨nearer, statement, hbound⟩, hlisted⟩ := attributed_iff.mp h
    have hbinds := binds_of_bindingName? hbound.binds
    refine ⟨nearer, statement, hbound, hbinds, ?_⟩
    rcases hlisted with ⟨hobj, _⟩ | ⟨hown, hfun⟩
    · refine Or.inl ⟨hobj, fun r' hthrough honly => ?_⟩
      -- the initializer belongs to a router of the statement, and there is one name for those
      have hname : r' = r := honly.2 r' (hthrough.binds hbinds.1)
      obtain ⟨above, hchain⟩ := hbound.onChain
      exact hname ▸ hthrough.inInitializerOf hchain
    · obtain ⟨f, hf⟩ := Option.isSome_iff_exists.mp hfun
      exact Or.inr ⟨hown, fun r' => not_inInitializerOf_of_listed hf⟩
  · intro c r nearer statement hbound _
    have hactive := activeRouter?_eq_some_iff.mpr ⟨nearer, statement, hbound⟩
    exact ⟨procedures_subset_recordsAt hactive, fun f hf => parentName_of_mem_recordsAt hactive hf⟩

/-- The arrow function `() => 1` as the value of a variable. -/
def plainArrow : Node :=
  .mk .arrowFunction true (some .value) "() => 1"
    [.mk .formalParameters true (some .parameters) "()" [],
     .mk (.other "=>") false none "=>" [],
     .mk (.other "number") true (some .body) "1" []]

/-- The variable `y = () => 1`. -/
def arrowVariable : Node :=
  .mk .variableDeclarator true none "y = () => 1"
    [.mk .identifier true (some .name) "y" [], .mk (.other "=") false none "=" [], plainArrow]

/-- The statement `var q = make({}), y = () => 1`: a router, and beside it a variable that is none. -/
def routerBesideArrow : Node :=
  .mk .variableDeclaration true none "var q = make(...), y = () => 1"
    [.mk (.other "var") false none "var" [],
     factoryVariable "q" (.mk .objectLiteral true none "..." []),
     .mk (.other ",") false none "," [], arrowVariable]

/-- The walk over a file in which `make` makes routers. -/
def makeOptions : Options := ⟨"/a.ts", .ofUnits 2, ["make"], false⟩

/-- The arrow function in its place beside the router. -/
def arrowBesideRouter : Cursor := ⟨plainArrow, [arrowVariable, routerBesideArrow]⟩

/-- The arrow function stands below the statement that binds `q`. -/
theorem boundBy_arrow_beside_router :
    BoundBy makeOptions arrowBesideRouter "q"
      [arrowBesideRouter, ⟨arrowVariable, [routerBesideArrow]⟩] ⟨routerBesideArrow, []⟩ where
  onChain := ⟨[], rfl⟩
  binds := by decide
  unbound := by decide
  unended := by decide

/-- The arrow function takes the name of the router beside it. -/
theorem attributed_arrow_beside_router : Attributed makeOptions arrowBesideRouter "q" :=
  attributed_iff.mpr ⟨⟨_, _, boundBy_arrow_beside_router⟩, Or.inr ⟨Or.inl rfl, rfl⟩⟩

/-- **A variable that is no router is listed under the router beside it**: its function lies in no
    initializer of that name. -/
theorem arrow_beside_router_outside_initializer :
    ∃ c ∈ (Cursor.root routerBesideArrow).preorder,
      Attributed makeOptions c "q" ∧ ¬ InInitializerOf makeOptions.factories "q" c := by
  refine ⟨arrowBesideRouter, ?_, attributed_arrow_beside_router, ?_⟩
  · have hvariable : (⟨arrowVariable, [routerBesideArrow]⟩ : Cursor) ∈
        (Cursor.root routerBesideArrow).children := by
      simp [Cursor.children, Cursor.root, routerBesideArrow, Node.children]
    have harrow : arrowBesideRouter ∈ Cursor.children ⟨arrowVariable, [routerBesideArrow]⟩ :=
      List.mem_map.mpr ⟨plainArrow, by simp [arrowVariable, Node.children], rfl⟩
    exact Cursor.mem_preorder_of_mem_children hvariable
      (Cursor.mem_preorder_of_mem_children harrow (Cursor.self_mem_preorder _))
  · have hlisted : (functionAt makeOptions arrowBesideRouter (some "q")).isSome = true := rfl
    obtain ⟨f, hf⟩ := Option.isSome_iff_exists.mp hlisted
    exact not_inInitializerOf_of_listed hf

/-- The statement has no other router than `q`. -/
theorem bindsOnly_routerBesideArrow : BindsOnly makeOptions.factories "q" routerBesideArrow := by
  refine ⟨binds_of_bindingName? boundBy_arrow_beside_router.binds, ?_⟩
  rintro r' ⟨_, declarator, hmem, value, hrouter⟩
  have hvariables : routerBesideArrow.members =
      [factoryVariable "q" (.mk .objectLiteral true none "..." []), arrowVariable] := rfl
  rw [hvariables, List.mem_cons, List.mem_singleton] at hmem
  rcases hmem with rfl | rfl
  · exact (Option.some.inj hrouter.name_eq).symm
  · -- the value of the other variable is no call
    have hvalue : plainArrow = value := Option.some.inj hrouter.value_eq
    have hcall := hrouter.isCall
    rw [← hvalue] at hcall
    cases hcall

/-- The reach of `q`, read at the arrow function beside it. -/
theorem arrow_beside_router_within_statement :
    (∃ nearer statement, BoundBy makeOptions arrowBesideRouter "q" nearer statement ∧
      Binds makeOptions.factories "q" statement.node) ∧
      ∀ f ∈ recordsAt makeOptions arrowBesideRouter, f.parentName = some "q" := by
  obtain ⟨_, hwithin, hall⟩ := attributed_within_statement makeOptions
  obtain ⟨nearer, statement, hbound, hbinds, _⟩ := hwithin _ "q" attributed_arrow_beside_router
  obtain ⟨_, hparent⟩ := hall _ "q" _ _ boundBy_arrow_beside_router bindsOnly_routerBesideArrow
  exact ⟨⟨nearer, statement, hbound, hbinds⟩, fun f hf => hparent f hf (Or.inr (Or.inl rfl))⟩

end TsOutline.Outline
