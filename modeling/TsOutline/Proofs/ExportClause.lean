import TsOutline.Proofs.Isolation
import TsOutline.Proofs.OneLine.Outline
import TsOutline.Proofs.Origin

/-!
# The Effect of an Export Clause

A statement `export { a, b as c }` among the statements of a program lists names that its declarations
may have. This module compares a program with and without such a statement.

- **Rerooting** (`Cursor.reroot`): all that changes above a node is the program itself, and only its
  export clauses can be seen from below.
- **One declaration** (`isExported_reroot`): with the clause it is exported if it was before, or if
  the clause lists its name and the program is the scope that declares it.
- **One node** (`recordsAt_reroot`, `typesAt_reroot`): its records stay what they are but for their
  exports, which follow the declaration that governs the record.
- **The outline**: nothing is listed at the statement itself, so the records of the two programs are
  compared node by node. A clause that exports from another file has no effect at all.
-/

namespace TsOutline

/-! ## §1 The same node under another root -/

namespace Cursor

/-- The node in its context, with another root in place of the old one. -/
def reroot (root : Node) (c : Cursor) : Cursor :=
  ⟨c.node, c.ancestors.dropLast ++ [root]⟩

/-- The node lies below the root of the tree. -/
def IsBelow (tree : Node) (c : Cursor) : Prop :=
  c.ancestors.getLast? = some tree

section Reroot

variable {tree root : Node} {c p : Cursor}

theorem kind_reroot : (c.reroot root).kind = c.kind := rfl

theorem IsBelow.ancestors_eq (h : c.IsBelow tree) : c.ancestors = c.ancestors.dropLast ++ [tree] :=
  (List.dropLast_append_getLast? tree h).symm

/-- Two programs are akin, and below them nothing has changed. -/
theorem IsBelow.akin_reroot (h : c.IsBelow tree) (hkind : tree.kind = .program)
    (hkind' : root.kind = .program) : c.Akin (c.reroot root) := by
  refine ⟨.refl _, ?_⟩
  rw [h.ancestors_eq]
  show List.Forall₂ _ _ (c.ancestors.dropLast ++ [root])
  exact List.rel_append (List.forall₂_same.mpr fun a _ => .refl a)
    (.cons (.of_program hkind hkind') .nil)

theorem parent?_eq_some_iff : c.parent? = some p ↔ c.ancestors = p.node :: p.ancestors := by
  obtain ⟨n, ancestors⟩ := c
  obtain ⟨m, above⟩ := p
  cases ancestors with
  | nil => simp [Cursor.parent?]
  | cons a as => simp [Cursor.parent?]

/-- The owner of an object is the variable right above it. -/
theorem ancestors_of_objectOwner? (h : c.objectOwner? = some p) :
    p.kind = .variableDeclarator ∧ ∃ object, c.ancestors = object :: p.node :: p.ancestors := by
  obtain ⟨n, ancestors⟩ := c
  unfold Cursor.objectOwner? at h
  split at h
  · rename_i object declarator rest hancestors
    split at h
    · rename_i howner
      cases h
      rw [Bool.and_eq_true, beq_iff_eq, beq_iff_eq] at howner
      exact ⟨howner.2, object, hancestors⟩
    · cases h
  · cases h

/-- What stands above a node below the root is the root itself or below it. -/
theorem IsBelow.of_ancestors (h : c.IsBelow tree) (hkind : tree.kind = .program) (nearer : List Node)
    (hp : c.ancestors = nearer ++ p.node :: p.ancestors) (hne : p.kind ≠ .program) :
    p.IsBelow tree := by
  obtain ⟨m, above⟩ := p
  unfold IsBelow at h ⊢
  rw [hp, List.getLast?_append, List.getLast?_cons] at h
  cases habove : above.getLast? with
  | some a => simpa [habove] using h
  | none =>
    -- with nothing above it the node would be the root
    obtain rfl : m = tree := by simpa [habove] using h
    exact absurd hkind hne

/-- Below the root the parent of a node is rerooted with it. -/
theorem IsBelow.parent?_reroot (h : c.IsBelow tree) (hkind : tree.kind = .program) (root : Node)
    (hp : c.parent? = some p) (hne : p.kind ≠ .program) :
    (c.reroot root).parent? = some (p.reroot root) := by
  rw [parent?_eq_some_iff] at hp ⊢
  have hpbelow := h.of_ancestors hkind [] hp hne
  obtain ⟨m, above⟩ := p
  cases above with
  | nil => cases hpbelow
  | cons a as => simp [reroot, hp]

/-- The owner of an object is a variable and no program, so it is rerooted with the object. -/
theorem IsBelow.objectOwner?_reroot (h : c.IsBelow tree) (hkind : tree.kind = .program)
    (hkind' : root.kind = .program) :
    (c.reroot root).objectOwner? = c.objectOwner?.map (reroot root) := by
  obtain ⟨n, ancestors⟩ := c
  -- only the two nodes right above are looked at, and a program is neither of the two that count
  match ancestors, h with
  | [a], _ => rfl
  | [a, b], h =>
    obtain rfl : b = tree := by simpa [IsBelow] using h
    simp [reroot, Cursor.objectOwner?, hkind, hkind']
  | a :: b :: e :: es, h =>
    by_cases howner : (a.kind == .objectLiteral && b.kind == .variableDeclarator) = true
    · simp [reroot, Cursor.objectOwner?, howner]
    · simp [reroot, Cursor.objectOwner?, howner]

/-- Below the root the children of a node are rerooted with it. -/
theorem IsBelow.children_reroot (h : c.IsBelow tree) :
    (c.reroot root).children = c.children.map (reroot root) := by
  obtain ⟨n, ancestors⟩ := c
  cases ancestors with
  | nil => cases h
  | cons a as =>
    simp only [Cursor.children, List.map_map]
    rfl

theorem IsBelow.of_mem_children {d : Cursor} (h : c.IsBelow tree) (hd : d ∈ c.children) :
    d.IsBelow tree := by
  obtain ⟨n, _, rfl⟩ := List.mem_map.mp hd
  unfold IsBelow at h ⊢
  rw [List.getLast?_cons, h]
  rfl

end Reroot

/-- Everything below a node is rerooted with it. -/
theorem IsBelow.preorder_reroot {tree : Node} (root : Node) {c : Cursor} (h : c.IsBelow tree) :
    (c.reroot root).preorder = c.preorder.map (reroot root) ∧
      ∀ d ∈ c.preorder, d.IsBelow tree := by
  -- by induction on the size of the node
  have hchildren (d : Cursor) (hd : d ∈ c.children) :
      (d.reroot root).preorder = d.preorder.map (reroot root) ∧ ∀ e ∈ d.preorder, e.IsBelow tree :=
    have := size_lt_of_mem_children hd
    IsBelow.preorder_reroot root (h.of_mem_children hd)
  rw [preorder_eq, preorder_eq c, h.children_reroot, List.map_cons, List.map_flatMap,
    List.flatMap_map]
  constructor
  · congr 1
    exact List.flatMap_congr fun d hd => (hchildren d hd).1
  · intro d hd
    rcases List.mem_cons.mp hd with rfl | hbelow
    · exact h
    · obtain ⟨e, he, hmem⟩ := List.mem_flatMap.mp hbelow
      exact (hchildren e he).2 d hmem
termination_by c.node.size

/-! ## §2 Exports under another root -/

/-- The declaration is named by an identifier among the given names, and the program is its scope: no
    block (and no second program, if a tree had one) stands between it and the root. -/
structure ExportedBy (names : List String) (d : Cursor) : Prop where
  named : ∃ name, d.node.name? = some name ∧
    (name.kind = .identifier ∨ name.kind = .typeIdentifier) ∧ name.text ∈ names
  unblocked : ∀ a ∈ d.ancestors.dropLast, a.kind ≠ .statementBlock ∧ a.kind ≠ .program

/-- A `declare` around a declaration is no scope. -/
theorem scope?_aboveAmbient (ancestors : List Node) :
    scope? (aboveAmbient ancestors) = scope? ancestors := by
  induction ancestors with
  | nil => rfl
  | cons p ps ih =>
    unfold aboveAmbient
    by_cases hambient : p.kind = .ambientDeclaration
    · rw [if_pos (by simpa using hambient), ih]
      simp [scope?, hambient, Kind.isScope]
    · rw [if_neg (by simpa using hambient)]

/-- A declaration is the target of a clause if it is an entry of one, or if its scope exports the name
    it has. -/
theorem isClauseTarget_iff {c : Cursor} :
    c.isClauseTarget = true ↔
      c.parentKind? = some .exportSpecifier ∨
        ∃ name, c.node.name? = some name ∧
          (name.kind = .identifier ∨ name.kind = .typeIdentifier) ∧
          ∃ scope, scope? c.ancestors = some scope ∧ exportsName scope name.text = true := by
  unfold isClauseTarget aboveStatement
  rw [scope?_aboveAmbient]
  by_cases hparent : c.parentKind? = some .exportSpecifier
  · simp [hparent]
  · cases hname : c.node.name? with
    | none => simp [hparent]
    | some name =>
      by_cases hkind : name.kind = .identifier ∨ name.kind = .typeIdentifier
      · cases hscope : scope? c.ancestors with
        | none => simp [hparent]
        | some scope => simp [hparent, hkind]
      · simp [hparent, hkind]

theorem isScope_eq_false_iff {k : Kind} :
    k.isScope = false ↔ k ≠ .statementBlock ∧ k ≠ .program := by
  cases k <;> simp [Kind.isScope]

/-- The nearest scope below a program is the program, unless something nearer is one. -/
theorem scope?_concat {tree : Node} (hkind : tree.kind = .program) (outer : List Node) :
    scope? (outer ++ [tree]) = (scope? outer).or (some tree) := by
  have hscope : tree.kind.isScope = true := by rw [hkind]; rfl
  rw [scope?, List.find?_append, List.find?_singleton, hscope]
  rfl

theorem scope?_eq_none_iff {ancestors : List Node} :
    scope? ancestors = none ↔
      ∀ a ∈ ancestors, a.kind ≠ .statementBlock ∧ a.kind ≠ .program := by
  simp only [scope?, List.find?_eq_none, Bool.not_eq_true, isScope_eq_false_iff]

/-- Two programs, the second of which exports what the first one does and the given names. -/
structure Extends (tree root : Node) (names : List String) : Prop where
  program : tree.kind = .program
  program' : root.kind = .program
  exports : ∀ name, exportsName root name = true ↔ exportsName tree name = true ∨ name ∈ names

section Clause

variable {tree root : Node} {names : List String} {c : Cursor}

/-- The scope of a node exports what it did, and if it is the program, also what the program's new
    clauses list. -/
theorem IsBelow.scope_reroot (h : c.IsBelow tree) (hext : Extends tree root names)
    (name : String) :
    (∃ scope, scope? (c.reroot root).ancestors = some scope ∧ exportsName scope name = true) ↔
      (∃ scope, scope? c.ancestors = some scope ∧ exportsName scope name = true) ∨
        name ∈ names ∧ ∀ a ∈ c.ancestors.dropLast, a.kind ≠ .statementBlock ∧ a.kind ≠ .program := by
  rw [← scope?_eq_none_iff, reroot, scope?_concat hext.program']
  -- both roots are asked only if nothing below them is a scope
  have hold : scope? c.ancestors = (scope? c.ancestors.dropLast).or (some tree) := by
    rw [← scope?_concat hext.program, ← h.ancestors_eq]
  rw [hold]
  cases scope? c.ancestors.dropLast with
  | some scope => simp
  | none => simp [hext.exports]

/-- **Clauses**: a declaration is the target of a clause as before, or the program's new clauses export
    it. -/
theorem IsBelow.isClauseTarget_reroot (h : c.IsBelow tree) (hext : Extends tree root names) :
    (c.reroot root).isClauseTarget = true ↔ c.isClauseTarget = true ∨ c.ExportedBy names := by
  have hparent := parentKind?_akin (h.akin_reroot hext.program hext.program').ancestors
  rw [isClauseTarget_iff, isClauseTarget_iff, ← hparent]
  constructor
  · rintro (hentry | ⟨name, hname, hident, hscope⟩)
    · exact .inl (.inl hentry)
    · rcases (h.scope_reroot hext name.text).mp hscope with hold | ⟨hmem, hfree⟩
      · exact .inl (.inr ⟨name, hname, hident, hold⟩)
      · exact .inr ⟨⟨name, hname, hident, hmem⟩, hfree⟩
  · rintro ((hentry | ⟨name, hname, hident, hscope⟩) | ⟨⟨name, hname, hident, hmem⟩, hfree⟩)
    · exact .inl hentry
    · exact .inr ⟨name, hname, hident, (h.scope_reroot hext _).mpr (.inl hscope)⟩
    · exact .inr ⟨name, hname, hident, (h.scope_reroot hext _).mpr (.inr ⟨hmem, hfree⟩)⟩

theorem IsBelow.isExportedDirectly_reroot (h : c.IsBelow tree) (hext : Extends tree root names) :
    (c.reroot root).isExportedDirectly = true ↔
      c.isExportedDirectly = true ∨ c.ExportedBy names := by
  unfold isExportedDirectly
  rw [← hasExportModifier_akin (h.akin_reroot hext.program hext.program').ancestors,
    Bool.or_eq_true, Bool.or_eq_true, h.isClauseTarget_reroot hext, or_assoc]

theorem exportCarrier_of_variable {n p : Node} {ps : List Node}
    (h : n.kind = .variableDeclarator ∧ p.kind.isVariableStatement = true) :
    exportCarrier ⟨n, p :: ps⟩ = ⟨p, ps⟩ :=
  if_pos h

theorem exportCarrier_of_other {n p : Node} {ps : List Node}
    (h : ¬ (n.kind = .variableDeclarator ∧ p.kind.isVariableStatement = true)) :
    exportCarrier ⟨n, p :: ps⟩ = ⟨n, p :: ps⟩ :=
  if_neg h

/-- What carries the export of a node below the root is below the root, too. -/
theorem IsBelow.exportCarrier_reroot (h : c.IsBelow tree) (hkind : tree.kind = .program)
    (hkind' : root.kind = .program) :
    c.exportCarrier.IsBelow tree ∧
      (c.reroot root).exportCarrier = c.exportCarrier.reroot root := by
  obtain ⟨n, ancestors⟩ := c
  match ancestors, h with
  | [a], h =>
    -- a program is no variable statement
    obtain rfl : a = tree := by simpa [IsBelow] using h
    have hcarrier (r : Node) (hr : r.kind = .program) : exportCarrier ⟨n, [r]⟩ = ⟨n, [r]⟩ :=
      exportCarrier_of_other (by simp [hr, Kind.isVariableStatement])
    rw [hcarrier a hkind]
    exact ⟨h, hcarrier root hkind'⟩
  | a :: b :: bs, h =>
    by_cases hvariable : n.kind = .variableDeclarator ∧ a.kind.isVariableStatement = true
    · rw [exportCarrier_of_variable hvariable]
      exact ⟨by simpa [IsBelow] using h, exportCarrier_of_variable hvariable⟩
    · rw [exportCarrier_of_other hvariable]
      exact ⟨h, exportCarrier_of_other hvariable⟩

/-- The export of a node is carried by the node itself or by the variable statement around it. -/
theorem exportCarrier_cases (c : Cursor) :
    c.exportCarrier = c ∨
      c.exportCarrier.node ∈ c.ancestors ∧ c.exportCarrier.kind.isVariableStatement = true := by
  obtain ⟨n, ancestors⟩ := c
  cases ancestors with
  | nil => exact .inl rfl
  | cons p ps =>
    by_cases hvariable : n.kind = .variableDeclarator ∧ p.kind.isVariableStatement = true
    · rw [exportCarrier_of_variable hvariable]
      exact .inr ⟨List.mem_cons_self .., hvariable.2⟩
    · exact .inl (exportCarrier_of_other hvariable)

/-- **Exports**: a declaration is exported as before, or because the program's new clauses export it. -/
theorem IsBelow.isExported_reroot (h : c.IsBelow tree) (hext : Extends tree root names)
    (hvariables : ∀ a ∈ c.ancestors, a.kind.isVariableStatement = true → a.name? = none) :
    (c.reroot root).isExported = true ↔ c.isExported = true ∨ c.ExportedBy names := by
  obtain ⟨hbelow, hcarrier⟩ := h.exportCarrier_reroot hext.program hext.program'
  have hunder : underExport c.exportCarrier.node (c.exportCarrier.reroot root).ancestors =
      underExport c.exportCarrier.node c.exportCarrier.ancestors :=
    (underExport_akin (hbelow.akin_reroot hext.program hext.program').ancestors rfl).symm
  -- a variable statement has no name, so no clause exports it
  have hnamed : c.exportCarrier.ExportedBy names → c.ExportedBy names := by
    rcases exportCarrier_cases c with hself | ⟨hmem, hstatement⟩
    · rw [hself]
      exact id
    · rintro ⟨⟨name, hname, _⟩, _⟩
      rw [hvariables _ hmem hstatement] at hname
      cases hname
  rw [isExported_eq, isExported_eq c, hcarrier]
  show (_ || (_ || underExport c.exportCarrier.node (c.exportCarrier.reroot root).ancestors)) = true ↔ _
  rw [hunder, Bool.or_eq_true, Bool.or_eq_true, Bool.or_eq_true, Bool.or_eq_true,
    h.isExportedDirectly_reroot hext, hbelow.isExportedDirectly_reroot hext]
  tauto

end Clause

theorem isBelow_reroot (root : Node) (c : Cursor) : (c.reroot root).IsBelow root := by
  simp [IsBelow, reroot]

/-- Going back to the old root undoes rerooting. -/
theorem IsBelow.reroot_reroot {tree : Node} {c : Cursor} (h : c.IsBelow tree) (root : Node) :
    (c.reroot root).reroot tree = c := by
  obtain ⟨n, ancestors⟩ := c
  simp only [reroot, List.dropLast_concat]
  rw [← h.ancestors_eq]

end Cursor

/-! ## §3 Records under another root -/

namespace Callable

variable {tree root : Node} {c : Cursor} {name : Node} {governing : Option Cursor}

/-- A callable is introduced in the same way under another root. -/
theorem Introduced.reroot (h : Introduced c name governing) (hbelow : c.IsBelow tree)
    (hkind : tree.kind = .program) (hkind' : root.kind = .program) :
    Introduced (c.reroot root) name (governing.map (Cursor.reroot root)) := by
  cases h with
  | declared hdeclaration hname => exact .declared hdeclaration hname
  | method hmethod hname hplain => exact .method hmethod hname hplain
  | expression hexpression hname => exact .expression hexpression hname
  | ofVariable hanonymous hvalue hp hvariable hname hplain =>
    have hparent := hbelow.parent?_reroot hkind root hp (by rw [hvariable]; decide)
    exact .ofVariable hanonymous hvalue hparent hvariable hname hplain
  | @ofProperty p _ hanonymous hvalue hp hpair hkey hplain =>
    have hne : p.kind ≠ .program := by rw [hpair]; decide
    have hpbelow := hbelow.of_ancestors hkind [] (Cursor.parent?_eq_some_iff.mp hp) hne
    rw [← hpbelow.objectOwner?_reroot hkind hkind']
    exact .ofProperty hanonymous hvalue (hbelow.parent?_reroot hkind root hp hne) hpair hkey hplain

/-- What governs a callable is the callable itself or a variable above it. -/
theorem Introduced.governing_cases {d : Cursor} (h : Introduced c name (some d)) :
    d = c ∨ d.kind = .variableDeclarator ∧
      ∃ nearer, c.ancestors = nearer ++ d.node :: d.ancestors := by
  generalize hd : some d = governing at h
  cases h with
  | declared => exact .inl (Option.some.inj hd)
  | method => cases hd
  | expression => cases hd
  | ofVariable _ _ hp hvariable =>
    cases hd
    exact .inr ⟨hvariable, [], Cursor.parent?_eq_some_iff.mp hp⟩
  | @ofProperty p _ _ _ hp =>
    obtain ⟨hvariable, object, howner⟩ := Cursor.ancestors_of_objectOwner? hd.symm
    refine .inr ⟨hvariable, [p.node, object], ?_⟩
    rw [Cursor.parent?_eq_some_iff.mp hp, howner]
    rfl

/-- Methods and named function expressions are governed by nothing. -/
theorem Introduced.ungoverned (h : Introduced c name governing)
    (hkind : c.kind = .methodDefinition ∨
      c.kind.isFunctionExpression = true ∧ c.node.name?.isSome = true) : governing = none := by
  have hnamed : ¬ IsAnonymous c := by
    rintro ⟨hmethod, hname⟩
    rcases hkind with hkind | ⟨hexpression, hsome⟩
    · exact hmethod hkind
    · rw [hname (.inr hexpression)] at hsome
      cases hsome
  cases h with
  | declared hdeclaration =>
    rcases hkind with hkind | ⟨hexpression, _⟩
    · rw [hkind] at hdeclaration
      cases hdeclaration
    · rw [isFunctionDeclaration_of_expression hexpression] at hdeclaration
      cases hdeclaration
  | method => rfl
  | expression => rfl
  | ofVariable hanonymous => exact absurd hanonymous hnamed
  | ofProperty hanonymous => exact absurd hanonymous hnamed

end Callable

namespace Outline

/-- A record without and with a clause that exports the given names: it differs at most in its export,
    and it is exported if it was before, or if the clause exports what governs it. Procedures, methods
    and named function expressions stay as they are. -/
structure Reexported (names : List String) (c : Cursor) (f g : FunctionSignature) : Prop where
  others : g = { f with isExported := g.isExported }
  isExported : g.isExported = true ↔
    f.isExported = true ∨ f.isProcedure = false ∧
      ∃ name d, Callable.Introduced c name (some d) ∧ d.ExportedBy names
  untouched : f.isProcedure = true ∨ c.kind = .methodDefinition ∨
    c.kind.isFunctionExpression = true ∧ c.node.name?.isSome = true → g = f

/-- A type without and with a clause that exports the given names. -/
structure TypeReexported (names : List String) (c : Cursor) (t u : TypeSignature) : Prop where
  others : u = { t with isExported := u.isExported }
  isExported : u.isExported = true ↔ t.isExported = true ∨ c.ExportedBy names

theorem Reexported.of_isProcedure (names : List String) (c : Cursor) {f : FunctionSignature}
    (h : f.isProcedure = true) : Reexported names c f f := by
  refine ⟨rfl, ⟨.inl, ?_⟩, fun _ => rfl⟩
  rintro (hexported | ⟨hplain, _⟩)
  · exact hexported
  · rw [h] at hplain
    cases hplain

section Records

variable {tree root : Node} {names : List String} {c : Cursor}

theorem parentFor_reroot (hbelow : c.IsBelow tree) (hkind : tree.kind = .program)
    (hkind' : root.kind = .program) (router : Option String) :
    Callable.parentFor (c.reroot root) router = Callable.parentFor c router := by
  unfold Callable.parentFor
  rw [← (hbelow.akin_reroot hkind hkind').ownerOr router]
  rfl

/-- What governs a callable is exported as before, or because the program's new clauses export it. -/
theorem isExported_governing {name : Node} {d : Cursor} (h : Callable.Introduced c name (some d))
    (hbelow : c.IsBelow tree) (hext : Cursor.Extends tree root names)
    (hvariables : ∀ a ∈ c.ancestors, a.kind.isVariableStatement = true → a.name? = none) :
    (d.reroot root).isExported = true ↔ d.isExported = true ∨ d.ExportedBy names := by
  rcases h.governing_cases with rfl | ⟨hvariable, nearer, hancestors⟩
  · exact hbelow.isExported_reroot hext hvariables
  · have hne : d.kind ≠ .program := by rw [hvariable]; decide
    -- what stands above the variable stands above the callable
    refine (hbelow.of_ancestors hext.program nearer hancestors hne).isExported_reroot hext ?_
    intro a ha
    apply hvariables a
    rw [hancestors]
    exact List.mem_append_right _ (List.mem_cons_of_mem _ ha)

/-- **One callable**: it is listed under both roots or under none, and only its export can differ. -/
theorem signature?_reroot (hbelow : c.IsBelow tree) (hext : Cursor.Extends tree root names)
    (hvariables : ∀ a ∈ c.ancestors, a.kind.isVariableStatement = true → a.name? = none)
    (path : String) (router : Option String) (view : Bool) :
    Option.Rel (Reexported names c) (Callable.signature? c path router view)
      (Callable.signature? (c.reroot root) path router view) := by
  unfold Callable.signature?
  cases hid : Callable.identity? c router with
  | none =>
    -- a name under the new root would also be one under the old root
    cases hid' : Callable.identity? (c.reroot root) router with
    | none => exact .none
    | some id =>
      obtain ⟨name, governing, hintro⟩ := Callable.exists_introduced hid'
      have hback := hintro.reroot (Cursor.isBelow_reroot root c) hext.program' hext.program
      rw [hbelow.reroot_reroot root] at hback
      rw [hback.identity?_eq router] at hid
      cases hid
  | some id =>
    obtain ⟨name, governing, hintro, rfl⟩ := Callable.identity?_eq_some_iff.mp hid
    have hid' := (hintro.reroot hbelow hext.program hext.program').identity?_eq router
    rw [hid']
    simp only [Callable.identityOf, parentFor_reroot hbelow hext.program hext.program', Option.map_some]
    refine .some ⟨rfl, ⟨?_, ?_⟩, ?_⟩
    · intro hexported
      cases governing with
      | none => cases hexported
      | some d =>
        rcases (isExported_governing hintro hbelow hext hvariables).mp hexported with
          hbefore | hclause
        · exact .inl hbefore
        · exact .inr ⟨rfl, name, d, hintro, hclause⟩
    · rintro (hbefore | ⟨_, name', d, hgoverned, hclause⟩)
      · cases governing with
        | none => cases hbefore
        | some d =>
          exact (isExported_governing hintro hbelow hext hvariables).mpr (.inl hbefore)
      · -- whatever governs the callable, the identity is the same
        have hsame := (hgoverned.reroot hbelow hext.program hext.program').identity?_eq router
        rw [hid'] at hsame
        refine (congrArg Callable.Identity.isExported (Option.some.inj hsame)).trans ?_
        exact (isExported_governing hgoverned hbelow hext hvariables).mpr (.inr hclause)
    · rintro (hprocedure | hungoverned)
      · cases hprocedure
      · rw [hintro.ungoverned hungoverned]
        rfl

/-- **One node**: its functions and procedures. -/
theorem recordsAt_reroot (hbelow : c.IsBelow tree) (hext : Cursor.Extends tree root names)
    (hvariables : ∀ a ∈ c.ancestors, a.kind.isVariableStatement = true → a.name? = none)
    (o : Options) :
    List.Forall₂ (Reexported names c) (recordsAt o c) (recordsAt o (c.reroot root)) := by
  have hakin := hbelow.akin_reroot hext.program hext.program'
  have hfunction : Option.Rel (Reexported names c) (functionAt o c (activeRouter? o c))
      (functionAt o (c.reroot root) (activeRouter? o c)) := by
    unfold functionAt
    rw [← hakin.isClassMember, ← hakin.isWiring, Cursor.kind_reroot]
    split
    · exact signature?_reroot hbelow hext hvariables _ _ _
    · exact .none
  have hprocedures : proceduresAt o (c.reroot root) (activeRouter? o c) =
      proceduresAt o c (activeRouter? o c) := by
    unfold proceduresAt
    rw [← hakin.isRouterObject]
    rfl
  unfold recordsAt
  rw [← hakin.activeRouter? o]
  show List.Forall₂ _ ((functionAt o c _).toList ++ proceduresAt o c _)
    ((functionAt o (c.reroot root) _).toList ++ proceduresAt o (c.reroot root) _)
  rw [hprocedures]
  -- procedures are read from the router's object alone, so they are the same records
  refine List.rel_append (forall₂_toList hfunction) (List.forall₂_same.mpr fun f hf => ?_)
  obtain ⟨router, _, _, hmem⟩ := mem_proceduresAt_iff.mp hf
  exact .of_isProcedure names c (parentName_of_mem_procedures hmem).1

/-- **One node**: the type it declares. -/
theorem typesAt_reroot (hbelow : c.IsBelow tree) (hext : Cursor.Extends tree root names)
    (hvariables : ∀ a ∈ c.ancestors, a.kind.isVariableStatement = true → a.name? = none)
    (o : Options) :
    List.Forall₂ (TypeReexported names c) (typesAt o c) (typesAt o (c.reroot root)) := by
  have htype : Option.Rel (TypeReexported names c) (Declaration.signature? c o.path o.depth)
      (Declaration.signature? (c.reroot root) o.path o.depth) := by
    unfold Declaration.signature?
    show Option.Rel _ _ ((Declaration.heading? c.node o.depth).map _)
    cases Declaration.heading? c.node o.depth with
    | none => exact .none
    | some h => exact .some ⟨rfl, hbelow.isExported_reroot hext hvariables⟩
  exact forall₂_toList htype

end Records

/-! ## §4 A program with one more statement -/

/-- The names that the clauses of a statement list, before any `as`. -/
def specifierNames (statement : Node) : List String :=
  (statement.members.filter fun clause => clause.kind == .exportClause).flatMap fun clause =>
    clause.members.map Node.nameText

/-- The kinds of nodes that a record can be read from. -/
def isRecordKind (k : Kind) : Bool :=
  k.isCallable || k ∈ [Kind.objectLiteral, .interfaceDeclaration, .typeAliasDeclaration,
    .enumDeclaration, .classDeclaration, .abstractClassDeclaration, .namespaceDeclaration,
    .moduleDeclaration, .ambientDeclaration]

/-- A statement `export { ... }` or `export { ... } from "..."`: an export that consists of clauses,
    names and marks, and declares nothing itself. -/
structure IsExportList (s : Node) : Prop where
  kind : s.kind = .exportStatement
  named : s.named = true
  bare : ∀ n, s.Inside n → isRecordKind n.kind = false

/-- A node of another kind contributes nothing. -/
theorem entriesAt_of_kind (o : Options) {c : Cursor} (active : Option String)
    (h : isRecordKind c.kind = false) : entriesAt o c active = empty := by
  simp only [isRecordKind, Bool.or_eq_false_iff, decide_eq_false_iff_not, List.mem_cons,
    List.not_mem_nil, or_false, not_or] at h
  obtain ⟨hcallable, hobject, hinterface, halias, henum, hclass, habstract, hnamespace, hmodule,
    hambient⟩ := h
  apply entriesAt_eq_empty o active hcallable hobject
  unfold Declaration.heading?
  split <;> simp_all [Cursor.kind]

/-- The statements of a program, each with everything below it. -/
def belowProgram (program : Node) (statements : List Node) : List Cursor :=
  statements.flatMap fun s => Cursor.preorder ⟨s, [program]⟩

section Insertion

variable {tree tree' s : Node} {xs ys : List Node}

theorem exportsName_insert (hchildren : tree.children = xs ++ ys)
    (hchildren' : tree'.children = xs ++ [s] ++ ys) (hs : IsExportList s) (name : String) :
    Cursor.exportsName tree' name = true ↔
      Cursor.exportsName tree name = true ∨ name ∈ Cursor.clauseNames s := by
  have hmember : (s.named && s.kind != .comment) = true := by
    rw [hs.named, hs.kind]
    rfl
  unfold Cursor.exportsName Node.members
  rw [hchildren, hchildren']
  simp only [List.filter_append, List.any_append, List.filter_cons, hmember, List.filter_nil, if_true,
    List.any_cons, List.any_nil, Bool.or_false, Bool.or_eq_true, List.contains_iff_mem]
  tauto

/-- Nothing is listed at or below the new statement. -/
theorem entriesAt_exportList (hs : IsExportList s) {c : Cursor}
    (hc : c ∈ Cursor.preorder ⟨s, [tree']⟩) (o : Options) (active : Option String) :
    entriesAt o c active = empty :=
  entriesAt_of_kind o active (hs.bare _ (Cursor.inside_of_mem_preorder (c := ⟨s, [tree']⟩) .root hc))

theorem belowProgram_reroot (tree tree' : Node) (statements : List Node) :
    belowProgram tree' statements = (belowProgram tree statements).map (Cursor.reroot tree') := by
  rw [belowProgram, belowProgram, List.map_flatMap]
  apply List.flatMap_congr
  intro s _
  exact (Cursor.IsBelow.preorder_reroot tree' (c := ⟨s, [tree]⟩) rfl).1

/-- The nodes of the program with the new statement are those of the program without it, under the new
    root, and those of the statement, of which nothing is read. -/
theorem flatMap_belowProgram_insert {α : Type} (tree : Node) (read : Cursor → List α)
    (hread : ∀ c ∈ Cursor.preorder ⟨s, [tree']⟩, read c = []) :
    (belowProgram tree' (xs ++ [s] ++ ys)).flatMap read =
      (belowProgram tree (xs ++ ys)).flatMap fun c => read (c.reroot tree') := by
  have hnothing : (belowProgram tree' [s]).flatMap read = [] := by
    rw [List.flatMap_eq_nil_iff]
    intro c hc
    exact hread c (by simpa [belowProgram] using hc)
  have happend (root : Node) (us vs : List Node) :
      belowProgram root (us ++ vs) = belowProgram root us ++ belowProgram root vs :=
    List.flatMap_append
  -- what stands in front of the statement and behind it is put together again
  rw [happend, happend, List.flatMap_append, List.flatMap_append, hnothing, List.append_nil,
    ← List.flatMap_append, ← happend, belowProgram_reroot tree, List.flatMap_map]

theorem functions_program (o : Options) (hkind : tree.kind = .program) :
    (ofTree o tree).functions = (belowProgram tree tree.children).flatMap (recordsAt o) := by
  rw [ofTree_program o hkind]
  rfl

theorem types_program (o : Options) (hkind : tree.kind = .program) :
    (ofTree o tree).types = (belowProgram tree tree.children).flatMap (typesAt o) := by
  rw [ofTree_program o hkind]
  rfl

theorem origins_program (o : Options) (hkind : tree.kind = .program) :
    origins o tree =
      (belowProgram tree tree.children).flatMap fun c => (recordsAt o c).map fun f => (c, f) := by
  have hroot : recordsAt o (.root tree) = [] := congrArg Outline.functions (entriesAt_program o hkind _)
  rw [origins, Cursor.root, preorder_mk, List.flatMap_cons, ← Cursor.root, hroot]
  rfl

theorem typeOrigins_program (o : Options) (hkind : tree.kind = .program) :
    typeOrigins o tree =
      (belowProgram tree tree.children).flatMap fun c => (typesAt o c).map fun t => (c, t) := by
  have hroot : typesAt o (.root tree) = [] := congrArg Outline.types (entriesAt_program o hkind _)
  rw [typeOrigins, Cursor.root, preorder_mk, List.flatMap_cons, ← Cursor.root, hroot]
  rfl

/-- The nodes below a program, and everything above them, are nodes of the tree. -/
theorem inside_of_mem_belowProgram {c : Cursor} (hc : c ∈ belowProgram tree tree.children) :
    c.IsBelow tree ∧ ∀ a ∈ c.ancestors, tree.Inside a := by
  obtain ⟨s, hs, hmem⟩ := List.mem_flatMap.mp hc
  refine ⟨(Cursor.IsBelow.preorder_reroot tree (c := ⟨s, [tree]⟩) rfl).2 c hmem, ?_⟩
  refine Cursor.inside_of_mem_ancestors (Node.Inside.root.child hs) ?_ hmem
  intro a ha
  rw [List.mem_singleton.mp ha]
  exact .root

end Insertion

/-- The names that a statement without a source exports are those of its specifiers. -/
theorem clauseNames_of_local {s : Node} (hs : IsExportList s) (hsource : s.child? .source = none) :
    Cursor.clauseNames s = specifierNames s := by
  simp [Cursor.clauseNames, hs.kind, hsource, specifierNames]

/-- A statement with a source exports no name of the program. -/
theorem clauseNames_of_source {s : Node} (hsource : s.child? .source ≠ none) :
    Cursor.clauseNames s = [] := by
  obtain ⟨source, hsome⟩ := Option.ne_none_iff_exists'.mp hsource
  simp [Cursor.clauseNames, hsome]

/-- Where the clause exports nothing, no record changes. -/
theorem Reexported.eq_of_nil {c : Cursor} {f g : FunctionSignature} (h : Reexported [] c f g) :
    f = g := by
  have hexported : g.isExported = f.isExported := by
    rw [Bool.eq_iff_iff, h.isExported]
    constructor
    · rintro (hbefore | ⟨_, _, _, _, hclause⟩)
      · exact hbefore
      · obtain ⟨_, _, _, hmem⟩ := hclause.named
        cases hmem
    · exact .inl
  rw [h.others, hexported]

theorem TypeReexported.eq_of_nil {c : Cursor} {t u : TypeSignature} (h : TypeReexported [] c t u) :
    t = u := by
  have hexported : u.isExported = t.isExported := by
    rw [Bool.eq_iff_iff, h.isExported]
    constructor
    · rintro (hbefore | hclause)
      · exact hbefore
      · obtain ⟨_, _, _, hmem⟩ := hclause.named
        cases hmem
    · exact .inl
  rw [h.others, hexported]

section Insertion

variable {tree tree' s : Node} {xs ys : List Node}

/-- **Inserting a statement**: what is read from the nodes of a program is compared node by node with
    what is read under the new root, if nothing is read from the new statement. -/
theorem forall₂_insert {α : Type} {read : Cursor → List α} {R : Cursor → α → α → Prop}
    (hchildren : tree.children = xs ++ ys) (hchildren' : tree'.children = xs ++ [s] ++ ys)
    (hnothing : ∀ c ∈ Cursor.preorder ⟨s, [tree']⟩, read c = [])
    (hread : ∀ c, c.IsBelow tree → (∀ a ∈ c.ancestors, tree.Inside a) →
      List.Forall₂ (R c) (read c) (read (c.reroot tree'))) :
    List.Forall₂ (fun p y => R p.1 p.2 y)
      ((belowProgram tree tree.children).flatMap fun c => (read c).map fun x => (c, x))
      ((belowProgram tree' tree'.children).flatMap read) := by
  rw [hchildren', flatMap_belowProgram_insert tree read hnothing, ← hchildren]
  refine forall₂_flatMap fun c hc => ?_
  obtain ⟨hbelow, habove⟩ := inside_of_mem_belowProgram hc
  rw [List.forall₂_map_left_iff]
  exact hread c hbelow habove

theorem functions_insert (o : Options) (hkind : tree.kind = .program) (hkind' : tree'.kind = .program)
    (hchildren : tree.children = xs ++ ys) (hchildren' : tree'.children = xs ++ [s] ++ ys)
    (hvariables : ∀ n, tree.Inside n → n.kind.isVariableStatement = true → n.name? = none)
    (hs : IsExportList s) :
    List.Forall₂ (fun p g => Reexported (Cursor.clauseNames s) p.1 p.2 g) (origins o tree)
      (ofTree o tree').functions := by
  have hext : Cursor.Extends tree tree' (Cursor.clauseNames s) :=
    ⟨hkind, hkind', exportsName_insert hchildren hchildren' hs⟩
  rw [origins_program o hkind, functions_program o hkind']
  apply forall₂_insert hchildren hchildren'
  · exact fun c hc => congrArg Outline.functions (entriesAt_exportList hs hc o _)
  · exact fun c hbelow habove =>
      recordsAt_reroot hbelow hext (fun a ha => hvariables a (habove a ha)) o

theorem types_insert (o : Options) (hkind : tree.kind = .program) (hkind' : tree'.kind = .program)
    (hchildren : tree.children = xs ++ ys) (hchildren' : tree'.children = xs ++ [s] ++ ys)
    (hvariables : ∀ n, tree.Inside n → n.kind.isVariableStatement = true → n.name? = none)
    (hs : IsExportList s) :
    List.Forall₂ (fun p u => TypeReexported (Cursor.clauseNames s) p.1 p.2 u) (typeOrigins o tree)
      (ofTree o tree').types := by
  have hext : Cursor.Extends tree tree' (Cursor.clauseNames s) :=
    ⟨hkind, hkind', exportsName_insert hchildren hchildren' hs⟩
  rw [typeOrigins_program o hkind, types_program o hkind']
  apply forall₂_insert hchildren hchildren'
  · exact fun c hc => congrArg Outline.types (entriesAt_exportList hs hc o none)
  · exact fun c hbelow habove =>
      typesAt_reroot hbelow hext (fun a ha => hvariables a (habove a ha)) o

end Insertion

/-- **The effect of an export clause.** Inserting a statement `export { ... }` among those of a program
    leaves all records as they are, in the same order, but for their exports: a record is exported with
    the statement if it was without it, or if its governing declaration is named by an identifier of
    the clause and no block stands between it and the program. With a source, as in
    `export { ... } from "..."`, the statement changes nothing. -/
theorem export_clause_effect (o : Options) (tree tree' s : Node) (xs ys : List Node)
    (hkind : tree.kind = .program) (hkind' : tree'.kind = .program)
    (hchildren : tree.children = xs ++ ys) (hchildren' : tree'.children = xs ++ [s] ++ ys)
    (hvariables : ∀ n, tree.Inside n → n.kind.isVariableStatement = true → n.name? = none)
    (hs : IsExportList s) :
    (s.child? .source = none →
      (origins o tree).map Prod.snd = (ofTree o tree).functions ∧
      List.Forall₂ (fun p g => Reexported (specifierNames s) p.1 p.2 g) (origins o tree)
        (ofTree o tree').functions ∧
      (typeOrigins o tree).map Prod.snd = (ofTree o tree).types ∧
      List.Forall₂ (fun p u => TypeReexported (specifierNames s) p.1 p.2 u) (typeOrigins o tree)
        (ofTree o tree').types) ∧
    (s.child? .source ≠ none →
      (ofTree o tree').functions = (ofTree o tree).functions ∧
      (ofTree o tree').types = (ofTree o tree).types) := by
  have hfunctions := functions_insert o hkind hkind' hchildren hchildren' hvariables hs
  have htypes := types_insert o hkind hkind' hchildren hchildren' hvariables hs
  constructor
  · intro hsource
    rw [clauseNames_of_local hs hsource] at hfunctions htypes
    exact ⟨map_snd_origins o tree, hfunctions, map_snd_typeOrigins o tree, htypes⟩
  · intro hsource
    -- a clause with a source exports no name, so no record can change
    rw [clauseNames_of_source hsource] at hfunctions htypes
    constructor
    · rw [← map_snd_origins o tree, eq_comm, ← List.forall₂_eq_eq_eq, List.forall₂_map_left_iff]
      exact hfunctions.imp fun _ _ => Reexported.eq_of_nil
    · rw [← map_snd_typeOrigins o tree, eq_comm, ← List.forall₂_eq_eq_eq, List.forall₂_map_left_iff]
      exact htypes.imp fun _ _ => TypeReexported.eq_of_nil

/-! ## §5 A clause for given names -/

/-- The entry of a clause that lists a name. -/
def specifierOf (name : String) : Node :=
  .mk .exportSpecifier true none "" [.mk .identifier true (some .name) name []]

/-- The statement that exports the given names. -/
def exportListOf (names : List String) : Node :=
  .mk .exportStatement true none "" [.mk .exportClause true none "" (names.map specifierOf)]

theorem isExportList_exportListOf (names : List String) : IsExportList (exportListOf names) := by
  refine ⟨rfl, rfl, Node.forall_inside_mk.mpr ⟨rfl, ?_⟩⟩
  rw [List.forall_mem_singleton, Node.forall_inside_mk]
  refine ⟨rfl, fun entry hentry => ?_⟩
  obtain ⟨name, _, rfl⟩ := List.mem_map.mp hentry
  simp only [specifierOf, Node.forall_inside_mk, List.forall_mem_singleton]
  exact ⟨rfl, rfl, List.forall_mem_nil _⟩

/-- Every list of names is that of a clause. -/
theorem specifierNames_exportListOf (names : List String) :
    specifierNames (exportListOf names) = names := by
  have hmembers : Node.members (.mk .exportClause true none "" (names.map specifierOf)) =
      names.map specifierOf := by
    refine List.filter_eq_self.mpr fun entry hentry => ?_
    obtain ⟨name, _, rfl⟩ := List.mem_map.mp hentry
    rfl
  show (Node.members (.mk .exportClause true none "" (names.map specifierOf))).map Node.nameText
    ++ [] = names
  rw [hmembers, List.append_nil, List.map_map]
  exact List.map_id names

/-- With `export { y }` between them, `y = () => 1` and the function `g` keep their records up to
    the export of `y`. -/
theorem exportListOf_between_declarations :
    let o : Options := ⟨"/a.ts", .ofUnits 2, [], false⟩
    let arrows : Node := .mk .lexicalDeclaration true none "const y = () => 1" [arrowVariable]
    let tree : Node := .mk .program true none "" [arrows, functionNamed "g"]
    let tree' : Node := .mk .program true none "" [arrows, exportListOf ["y"], functionNamed "g"]
    List.Forall₂ (fun p g => Reexported ["y"] p.1 p.2 g) (origins o tree)
      (ofTree o tree').functions := by
  intro o arrows tree tree'
  have hvariables : ∀ n, tree.Inside n → n.kind.isVariableStatement = true → n.name? = none := by
    simp [tree, arrows, arrowVariable, plainArrow, functionNamed, Node.forall_inside_mk,
      Node.kind, Kind.isVariableStatement, Node.name?, Node.child?, Node.children, Node.field]
  have heffect := (export_clause_effect o tree tree' (exportListOf ["y"]) [arrows]
    [functionNamed "g"] rfl rfl rfl rfl hvariables (isExportList_exportListOf ["y"])).1 rfl
  rw [specifierNames_exportListOf] at heffect
  exact heffect.2.1

end Outline

end TsOutline
