import TsOutline.Proofs.ClassMembers

/-!
# Where a Record Comes From

Every record of an outline is read from one node of the tree, and its name from another. This module
says which: `origins` lists the records with their nodes, `Callable.Introduced` gives the ways in which
a callable comes to a name, and `NamesFunction` and `NamesType` all the nodes that a name is taken
from.

The walk asks whether the node of a name is there, and of which kind it is, but not whether it has any
text. The parser of a broken source puts in nodes of no width, so a record can be listed under the
empty name; this module says exactly when that happens.
-/

namespace TsOutline

/-! ## §1 How a callable gets its name -/

namespace Callable

/-- A callable that can only be listed under what it is bound to: no method, and no function with a
    name of its own. -/
def IsAnonymous (c : Cursor) : Prop :=
  c.kind ≠ .methodDefinition ∧
    (c.kind.isFunctionDeclaration = true ∨ c.kind.isFunctionExpression = true → c.node.name? = none)

/-- **How a callable gets its name**: the node that names it, and the declaration that decides whether
    it is exported. A callable without such a declaration never is. -/
inductive Introduced (c : Cursor) : Node → Option Cursor → Prop where
  /-- A function that is declared under its name. -/
  | declared {name : Node} : c.kind.isFunctionDeclaration = true → c.node.name? = some name →
      Introduced c name (some c)
  /-- A method with a plain name. -/
  | method {name : Node} : c.kind = .methodDefinition → c.node.name? = some name →
      name.kind = .propertyIdentifier → Introduced c name none
  /-- A function expression with a name of its own. -/
  | expression {name : Node} : c.kind.isFunctionExpression = true → c.node.name? = some name →
      Introduced c name none
  /-- The value of a variable. -/
  | ofVariable {p : Cursor} {name : Node} : IsAnonymous c → c.node.field = some .value →
      c.parent? = some p → p.kind = .variableDeclarator → p.node.name? = some name →
      name.kind = .identifier → Introduced c name (some p)
  /-- The value of a property, which is exported with the variable that owns the object. -/
  | ofProperty {p : Cursor} {name : Node} : IsAnonymous c → c.node.field = some .value →
      c.parent? = some p → p.kind = .pair → p.node.child? .key = some name →
      name.kind = .propertyIdentifier → Introduced c name p.objectOwner?

/-- What a callable belongs to: a declaration belongs to the router around it, and everything else
    first to its nearest owner. -/
def parentFor (c : Cursor) (router : Option String) : Option String :=
  if c.kind.isFunctionDeclaration = true ∧ c.node.name?.isSome = true then router
  else ownerOr c router

/-- The identity of a callable that was introduced in one of these ways. -/
def identityOf (c : Cursor) (router : Option String) (name : Node) (governing : Option Cursor) :
    Identity :=
  ⟨name.text, (governing.map Cursor.isExported).getD false, parentFor c router⟩

theorem identity?_of_isAnonymous {c : Cursor} (h : IsAnonymous c) (router : Option String) :
    identity? c router = boundIdentity? c router := by
  have hmethod : (c.node.kind == .methodDefinition) = false := beq_eq_false_iff_ne.mpr h.1
  unfold identity?
  simp only [hmethod]
  by_cases hown : c.node.kind.isFunctionDeclaration = true ∨ c.node.kind.isFunctionExpression = true
  · -- a function that could have a name has none
    rw [h.2 hown]
    simp
  · obtain ⟨hdeclaration, hexpression⟩ := not_or.mp hown
    simp [hdeclaration, hexpression]

theorem isFunctionDeclaration_of_expression {k : Kind} (h : k.isFunctionExpression = true) :
    k.isFunctionDeclaration = false := by
  cases k <;> first | rfl | cases h

theorem parentFor_of_isAnonymous {c : Cursor} (h : IsAnonymous c) (router : Option String) :
    parentFor c router = ownerOr c router := by
  apply if_neg
  rintro ⟨hdeclaration, hname⟩
  rw [h.2 (.inl hdeclaration)] at hname
  cases hname

/-- A callable that is introduced in one of the ways is listed accordingly. -/
theorem Introduced.identity?_eq {c : Cursor} {name : Node} {governing : Option Cursor}
    (h : Introduced c name governing) (router : Option String) :
    identity? c router = some (identityOf c router name governing) := by
  cases h with
  | declared hkind hname =>
    rw [Cursor.kind] at hkind
    simp [identity?, identityOf, parentFor, Cursor.kind, hkind, hname]
  | method hkind hname hplain =>
    rw [Cursor.kind] at hkind
    simp [identity?, identityOf, parentFor, Cursor.kind, hkind, hname, hplain,
      Kind.isFunctionDeclaration]
  | expression hkind hname =>
    rw [Cursor.kind] at hkind
    have hdeclaration := isFunctionDeclaration_of_expression hkind
    have hmethod : c.node.kind ≠ .methodDefinition := by
      intro hmethod
      rw [hmethod] at hkind
      cases hkind
    simp [identity?, identityOf, parentFor, Cursor.kind, hkind, hname, hdeclaration, hmethod]
  | ofVariable hanonymous hvalue hp hkind hname hplain =>
    rw [identity?_of_isAnonymous hanonymous, identityOf, parentFor_of_isAnonymous hanonymous]
    simp [boundIdentity?, hp, hvalue, hkind, hname, hplain]
  | ofProperty hanonymous hvalue hp hkind hname hplain =>
    rw [identity?_of_isAnonymous hanonymous, identityOf, parentFor_of_isAnonymous hanonymous]
    simp [boundIdentity?, hp, hvalue, hkind, hname, hplain]

/-- A callable without a name of its own is listed only if it is bound to a variable or property. -/
theorem exists_introduced_of_boundIdentity? {c : Cursor} {router : Option String} {id : Identity}
    (hanonymous : IsAnonymous c) (h : boundIdentity? c router = some id) :
    ∃ name governing, Introduced c name governing := by
  unfold boundIdentity? at h
  cases hp : c.parent? with
  | none => simp [hp] at h
  | some p =>
    by_cases hvalue : c.node.field = some .value
    · simp only [hp, Cursor.isIn_iff.mpr hvalue, if_true] at h
      split at h
      · -- the value of a variable
        rename_i hkind
        cases hname : p.node.name? with
        | none => simp [hname] at h
        | some name =>
          by_cases hplain : name.kind = .identifier
          · exact ⟨name, some p, .ofVariable hanonymous hvalue hp hkind hname hplain⟩
          · simp [hname, hplain] at h
      · -- the value of a property
        rename_i hkind
        cases hname : p.node.child? .key with
        | none => simp [hname] at h
        | some name =>
          by_cases hplain : name.kind = .propertyIdentifier
          · exact ⟨name, p.objectOwner?, .ofProperty hanonymous hvalue hp hkind hname hplain⟩
          · simp [hname, hplain] at h
      · cases h
    · simp [hp, hvalue] at h

/-- A callable that is listed was introduced in one of the ways. -/
theorem exists_introduced {c : Cursor} {router : Option String} {id : Identity}
    (h : identity? c router = some id) : ∃ name governing, Introduced c name governing := by
  by_cases hanonymous : IsAnonymous c
  · rw [identity?_of_isAnonymous hanonymous] at h
    exact exists_introduced_of_boundIdentity? hanonymous h
  · by_cases hmethod : c.kind = .methodDefinition
    · -- a method needs a plain name
      have hkind : c.node.kind = .methodDefinition := hmethod
      cases hname : c.node.name? with
      | none => simp [identity?, hkind, hname, Kind.isFunctionDeclaration] at h
      | some name =>
        by_cases hplain : name.kind = .propertyIdentifier
        · exact ⟨name, none, .method hmethod hname hplain⟩
        · simp [identity?, hkind, hname, hplain, Kind.isFunctionDeclaration] at h
    · -- any other callable that is not anonymous has a name of its own
      obtain ⟨hown, hnamed⟩ := Classical.not_imp.mp fun hnone => hanonymous ⟨hmethod, hnone⟩
      obtain ⟨name, hname⟩ := Option.ne_none_iff_exists'.mp hnamed
      rcases hown with hdeclaration | hexpression
      · exact ⟨name, some c, .declared hdeclaration hname⟩
      · exact ⟨name, none, .expression hexpression hname⟩

/-- **Identities**: a callable is listed exactly if it is introduced in one of the ways, and then under
    the text of the node that names it. -/
theorem identity?_eq_some_iff {c : Cursor} {router : Option String} {id : Identity} :
    identity? c router = some id ↔
      ∃ name governing, Introduced c name governing ∧ id = identityOf c router name governing := by
  constructor
  · intro h
    obtain ⟨name, governing, hintro⟩ := exists_introduced h
    refine ⟨name, governing, hintro, ?_⟩
    rw [hintro.identity?_eq router] at h
    exact (Option.some.inj h).symm
  · rintro ⟨name, governing, hintro, rfl⟩
    exact hintro.identity?_eq router

end Callable

/-! ## §2 Records and their nodes -/

namespace Outline

/-- The functions and procedures of an outline, each with the node it was read from. -/
def origins (o : Options) (tree : Node) : List (Cursor × FunctionSignature) :=
  (Cursor.root tree).preorder.flatMap fun c => (recordsAt o c).map fun f => (c, f)

/-- The types of an outline, each with its declaration. -/
def typeOrigins (o : Options) (tree : Node) : List (Cursor × TypeSignature) :=
  (Cursor.root tree).preorder.flatMap fun c => (typesAt o c).map fun t => (c, t)

theorem map_snd_origins (o : Options) (tree : Node) :
    (origins o tree).map Prod.snd = (ofTree o tree).functions := by
  rw [functions_ofTree, origins, List.map_flatMap]
  simp only [List.map_map, Function.comp_def, List.map_id']

/-- The types of an outline, node by node. -/
theorem types_eq_flatMap (o : Options) (tree : Node) :
    (ofTree o tree).types = (Cursor.root tree).preorder.flatMap (typesAt o) := by
  rw [ofTree_eq_listing]
  rfl

theorem map_snd_typeOrigins (o : Options) (tree : Node) :
    (typeOrigins o tree).map Prod.snd = (ofTree o tree).types := by
  rw [types_eq_flatMap, typeOrigins, List.map_flatMap]
  simp only [List.map_map, Function.comp_def, List.map_id']

/-- Two walks over the same nodes are compared node by node. -/
theorem forall₂_flatMap {α β γ : Type} {R : β → γ → Prop} {l : List α} {f : α → List β}
    {g : α → List γ} (h : ∀ x ∈ l, List.Forall₂ R (f x) (g x)) :
    List.Forall₂ R (l.flatMap f) (l.flatMap g) := by
  induction l with
  | nil => exact .nil
  | cons x xs ih =>
    rw [List.flatMap_cons, List.flatMap_cons]
    exact List.rel_append (h x (List.mem_cons_self ..)) (ih fun y hy => h y (List.mem_cons_of_mem _ hy))

theorem forall₂_toList {α β : Type} {R : α → β → Prop} {a? : Option α} {b? : Option β}
    (h : Option.Rel R a? b?) : List.Forall₂ R a?.toList b?.toList := by
  cases h with
  | none => exact .nil
  | some hab => exact .cons hab .nil

/-! ## §3 The nodes that names are taken from -/

/-- The node gives its text as the name of a function or procedure that is listed at the cursor. -/
inductive NamesFunction (o : Options) (c : Cursor) (name : Node) : Prop where
  /-- A callable that is listed on its own. -/
  | callable {governing : Option Cursor} : c.kind.isCallable = true → isClassMember c = false →
      Router.isWiring o.factories c = false → Callable.Introduced c name governing →
      NamesFunction o c name
  /-- A property of a router's object that defines a procedure. -/
  | procedure {router : String} {pair : Node} : activeRouter? o c = some router →
      Router.isRouterObject o.factories c = true → pair ∈ c.node.members → pair.kind = .pair →
      pair.child? .key = some name → name.kind = .propertyIdentifier →
      (Router.procedure? pair o.path router).isSome = true → NamesFunction o c name

/-- The node, if there is one, gives its text as the name of the type that the cursor declares. The
    augmentation of the global scope is not here, since its name is fixed. -/
inductive NamesType (c : Cursor) : Option Node → Prop where
  /-- Interfaces, aliases and enums are listed with or without a name. -/
  | always : c.kind ∈ [Kind.interfaceDeclaration, .typeAliasDeclaration, .enumDeclaration] →
      NamesType c c.node.name?
  /-- Classes, namespaces and modules are listed only if they have one. -/
  | ifNamed {name : Node} : c.kind ∈ [Kind.classDeclaration, .abstractClassDeclaration,
      .namespaceDeclaration, .moduleDeclaration] → c.node.name? = some name →
      NamesType c (some name)

/-- A callable is listed exactly if nothing else owns it and it has a signature. -/
theorem functionAt_eq_some_iff {o : Options} {c : Cursor} {active : Option String}
    {f : FunctionSignature} :
    functionAt o c active = some f ↔
      c.kind.isCallable = true ∧ isClassMember c = false ∧ Router.isWiring o.factories c = false ∧
        Callable.signature? c o.path active o.view = some f := by
  unfold functionAt
  split
  · rename_i h
    simp only [Bool.and_eq_true, Bool.not_eq_true'] at h
    simp [h]
  · rename_i h
    simp only [Bool.and_eq_true, Bool.not_eq_true', not_and] at h
    simp only [reduceCtorEq, false_iff]
    rintro ⟨hcallable, hmember, hwiring, _⟩
    exact h ⟨hcallable, hmember⟩ hwiring

theorem isPlainPair_iff {n : Node} :
    Router.isPlainPair n = true ↔
      n.kind = .pair ∧ ∃ key, n.child? .key = some key ∧ key.kind = .propertyIdentifier := by
  unfold Router.isPlainPair
  cases n.child? .key with
  | none => simp
  | some key => simp

/-- A procedure has the name of its key. -/
theorem name_of_procedure? {pair key : Node} {path router : String} {f : FunctionSignature}
    (h : Router.procedure? pair path router = some f) (hkey : pair.child? .key = some key) :
    f.name = key.text := by
  obtain ⟨kind, _, rfl⟩ := Option.map_eq_some_iff.mp h
  show Node.textOf (pair.child? .key) = key.text
  rw [hkey]
  rfl

/-- **Names of functions**: the names at a node are the texts of the nodes that they are taken from. -/
theorem exists_name_recordsAt_iff {o : Options} {c : Cursor} {s : String} :
    (∃ f ∈ recordsAt o c, f.name = s) ↔ ∃ name, NamesFunction o c name ∧ name.text = s := by
  constructor
  · rintro ⟨f, hf, rfl⟩
    rcases mem_recordsAt_iff.mp hf with hfunction | hprocedure
    · obtain ⟨hcallable, hmember, hwiring, hsignature⟩ := functionAt_eq_some_iff.mp hfunction
      obtain ⟨id, hid, rfl⟩ := Option.map_eq_some_iff.mp hsignature
      obtain ⟨name, governing, hintro, rfl⟩ := Callable.identity?_eq_some_iff.mp hid
      exact ⟨name, .callable hcallable hmember hwiring hintro, rfl⟩
    · obtain ⟨router, hactive, hobject, hmem⟩ := mem_proceduresAt_iff.mp hprocedure
      obtain ⟨pair, hpair, hf⟩ := List.mem_filterMap.mp hmem
      obtain ⟨hmember, hplain⟩ := List.mem_filter.mp hpair
      obtain ⟨hkind, key, hkey, hident⟩ := isPlainPair_iff.mp hplain
      refine ⟨key, .procedure hactive hobject hmember hkind hkey hident ?_,
        (name_of_procedure? hf hkey).symm⟩
      rw [hf]
      rfl
  · rintro ⟨name, hname, rfl⟩
    cases hname with
    | callable hcallable hmember hwiring hintro =>
      have hid := hintro.identity?_eq (activeRouter? o c)
      have hsignature : Callable.signature? c o.path (activeRouter? o c) o.view = some _ :=
        Option.map_eq_some_iff.mpr ⟨_, hid, rfl⟩
      have hfunction := functionAt_eq_some_iff.mpr ⟨hcallable, hmember, hwiring, hsignature⟩
      exact ⟨_, mem_recordsAt_iff.mpr (.inl hfunction), rfl⟩
    | @procedure router pair hactive hobject hmember hkind hkey hident hsome =>
      obtain ⟨f, hf⟩ := Option.isSome_iff_exists.mp hsome
      refine ⟨f, mem_recordsAt_iff.mpr (.inr (mem_proceduresAt_iff.mpr ⟨router, hactive, hobject, ?_⟩)),
        name_of_procedure? hf hkey⟩
      refine List.mem_filterMap.mpr ⟨pair, List.mem_filter.mpr ⟨hmember, ?_⟩, hf⟩
      exact isPlainPair_iff.mpr ⟨hkind, name, hkey, hident⟩

/-- A namespace or module has the name of its node, whichever of the two it is. -/
theorem exists_name_scopeHeading?_iff {n : Node} {s : String} :
    (∃ h, Declaration.scopeHeading? n = some h ∧ h.name = s) ↔
      ∃ name, n.name? = some name ∧ name.text = s := by
  unfold Declaration.scopeHeading?
  cases n.name? with
  | none => simp
  | some name => by_cases hquoted : name.kind = .stringLiteral <;> simp [hquoted]

/-- **Names of types**: the name of the declaration at a node is the text of the node it is taken
    from, or the fixed name of the global scope. -/
theorem exists_name_typesAt_iff {o : Options} {c : Cursor} {s : String} :
    (∃ t ∈ typesAt o c, t.name = s) ↔
      (∃ name?, NamesType c name? ∧ Node.textOf name? = s) ∨
        c.kind = .ambientDeclaration ∧ c.node.hasToken .globalToken = true ∧
          Declaration.globalName = s := by
  have hheading : (∃ t ∈ typesAt o c, t.name = s) ↔
      ∃ h, Declaration.heading? c.node o.depth = some h ∧ h.name = s := by
    simp [typesAt, entriesAt, Declaration.signature?]
  rw [hheading]
  constructor
  · rintro ⟨h, hh, rfl⟩
    unfold Declaration.heading? at hh
    split at hh
    case h_1 hkind | h_2 hkind | h_3 hkind =>
      cases hh
      exact .inl ⟨_, .always (by simp [Cursor.kind, hkind]), rfl⟩
    case h_4 hkind | h_5 hkind =>
      obtain ⟨name, hname, rfl⟩ := Option.map_eq_some_iff.mp hh
      exact .inl ⟨_, .ifNamed (by simp [Cursor.kind, hkind]) hname, rfl⟩
    case h_6 hkind | h_7 hkind =>
      obtain ⟨name, hname, htext⟩ := exists_name_scopeHeading?_iff.mp ⟨h, hh, rfl⟩
      exact .inl ⟨_, .ifNamed (by simp [Cursor.kind, hkind]) hname, htext⟩
    case h_8 hkind =>
      unfold Declaration.globalHeading? at hh
      split at hh
      · cases hh
        exact .inr ⟨hkind, by assumption, rfl⟩
      · cases hh
    case h_9 => cases hh
  · rintro (⟨name?, hname, rfl⟩ | ⟨hkind, htoken, rfl⟩)
    · cases hname with
      | always hkind =>
        simp only [Cursor.kind, List.mem_cons, List.not_mem_nil, or_false] at hkind
        rcases hkind with hkind | hkind | hkind
        all_goals simp [Declaration.heading?, hkind, Node.nameText]
      | ifNamed hkind hname =>
        simp only [Cursor.kind, List.mem_cons, List.not_mem_nil, or_false] at hkind
        have hscope := exists_name_scopeHeading?_iff.mpr ⟨_, hname, rfl⟩
        rcases hkind with hkind | hkind | hkind | hkind
        · simp [Declaration.heading?, hkind, hname, Node.textOf]
        · simp [Declaration.heading?, hkind, hname, Node.textOf]
        · simpa [Declaration.heading?, hkind, Node.textOf] using hscope
        · simpa [Declaration.heading?, hkind, Node.textOf] using hscope
    · have hkind' : c.node.kind = .ambientDeclaration := hkind
      simp [Declaration.heading?, Declaration.globalHeading?, hkind', htoken]

/-! ## §4 Empty names -/

/-- The names of functions and procedures. -/
theorem function_names_nonempty_iff (o : Options) (tree : Node) :
    (∀ f ∈ (ofTree o tree).functions, f.name ≠ "") ↔
      ∀ c ∈ (Cursor.root tree).preorder, ∀ name, NamesFunction o c name → name.text ≠ "" := by
  rw [functions_ofTree]
  constructor
  · intro h c hc name hname hempty
    obtain ⟨f, hf, hnone⟩ := exists_name_recordsAt_iff.mpr ⟨name, hname, hempty⟩
    exact h f (List.mem_flatMap.mpr ⟨c, hc, hf⟩) hnone
  · intro h f hf hempty
    obtain ⟨c, hc, hmem⟩ := List.mem_flatMap.mp hf
    obtain ⟨name, hname, htext⟩ := exists_name_recordsAt_iff.mp ⟨f, hmem, hempty⟩
    exact h c hc name hname htext

/-- The names of types; the fixed name of the global scope is not empty. -/
theorem type_names_nonempty_iff (o : Options) (tree : Node) :
    (∀ t ∈ (ofTree o tree).types, t.name ≠ "") ↔
      ∀ c ∈ (Cursor.root tree).preorder,
        ∀ name?, NamesType c name? → ∃ name, name? = some name ∧ name.text ≠ "" := by
  rw [types_eq_flatMap]
  constructor
  · intro h c hc name? hname
    have htext : Node.textOf name? ≠ "" := by
      intro hempty
      obtain ⟨t, ht, hnone⟩ := (exists_name_typesAt_iff (o := o)).mpr (.inl ⟨name?, hname, hempty⟩)
      exact h t (List.mem_flatMap.mpr ⟨c, hc, ht⟩) hnone
    cases name? with
    | none => exact absurd rfl htext
    | some name => exact ⟨name, rfl, htext⟩
  · intro h t ht hempty
    obtain ⟨c, hc, hmem⟩ := List.mem_flatMap.mp ht
    rcases exists_name_typesAt_iff.mp ⟨t, hmem, hempty⟩ with ⟨name?, hname, htext⟩ | ⟨_, _, hglobal⟩
    · obtain ⟨name, rfl, hne⟩ := h c hc name? hname
      exact hne htext
    · exact absurd hglobal (by decide)

/-- **Names are not empty**, of any function, procedure or type, exactly if every node that a name is
    taken from is there and has a text. -/
theorem names_nonempty_iff (o : Options) (tree : Node) :
    ((∀ f ∈ (ofTree o tree).functions, f.name ≠ "") ∧ ∀ t ∈ (ofTree o tree).types, t.name ≠ "") ↔
      ∀ c ∈ (Cursor.root tree).preorder,
        (∀ name, NamesFunction o c name → name.text ≠ "") ∧
          ∀ name?, NamesType c name? → ∃ name, name? = some name ∧ name.text ≠ "" := by
  rw [function_names_nonempty_iff, type_names_nonempty_iff]
  constructor
  · rintro ⟨hfunctions, htypes⟩ c hc
    exact ⟨hfunctions c hc, htypes c hc⟩
  · intro h
    exact ⟨fun c hc => (h c hc).1, fun c hc => (h c hc).2⟩

/-- The program `declare module`, whose name the parser puts in without any text. -/
def unnamedModule : Node :=
  .mk .program true none "declare module"
    [.mk .ambientDeclaration true none "declare module"
      [.mk (.other "declare") false none "declare" [],
       .mk .moduleDeclaration true none "module"
        [.mk .moduleDeclaration false none "module" [],
         .mk .identifier true (some .name) "" []]]]

/-- **A module whose name is missing is listed under the empty name**: its node is there, of the right
    kind, and has no text. -/
theorem unnamedModule_listed :
    (ofTree makeOptions unnamedModule).types.map (fun t => (t.name, t.fullSignature)) =
        [("", "namespace  \x7b ... \x7d")] ∧
      ¬ ∀ t ∈ (ofTree makeOptions unnamedModule).types, t.name ≠ "" := by
  constructor <;> decide +kernel

end Outline

end TsOutline
