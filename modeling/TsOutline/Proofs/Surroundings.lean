import Mathlib.Data.List.Forall2
import TsOutline.Proofs.Walk

/-!
# What Can Be Seen of the Surroundings

Whether a declaration is exported, what owns it, whether it is wiring and which router is active there
all depend on the nodes above it. They depend on little of each of them: its kind, its name, its key,
what it calls, the router it binds, and the names that its export clauses list. Two nodes are `Akin`
if they agree in all of these but the last, and `Alike` if they agree in the export clauses, too; of a
program, which has no name or key of its own, only the export clauses count.

The main statements say that each question asked upwards has the same answer in surroundings that are
akin (`Cursor.Akin.enclosingName?`, `Cursor.Akin.isWiring`, `Cursor.Akin.activeRouter?`), or, where
exports count, alike (`Cursor.Alike.isExported`, `Cursor.Alike.identity?`).
-/

namespace TsOutline

/-! ## §1 Nodes that look alike from below -/

namespace Node

/-- What is seen of a name: its kind and its text. -/
def label (n : Node) : Kind × String :=
  (n.kind, n.text)

/-- Two nodes have the same name, the same key, call the same and bind the same routers. -/
structure SameParts (a b : Node) : Prop where
  name : a.name?.map label = b.name?.map label
  key : (a.child? .key).map label = (b.child? .key).map label
  callee : a.calleeText = b.calleeText
  bound : ∀ factories, Router.boundName? factories a = Router.boundName? factories b

/-- Two nodes cannot be told apart from below, except perhaps by what their clauses export. -/
structure Akin (a b : Node) : Prop where
  kind : a.kind = b.kind
  parts : a.kind ≠ .program → SameParts a b

/-- Two nodes cannot be told apart from below. -/
structure Alike (a b : Node) : Prop where
  kind : a.kind = b.kind
  exports : ∀ name, Cursor.exportsName a name = Cursor.exportsName b name
  -- what a program's statements are must stay invisible, even if one of them had a role
  parts : a.kind ≠ .program → SameParts a b

theorem Akin.refl (a : Node) : a.Akin a :=
  ⟨rfl, fun _ => ⟨rfl, rfl, rfl, fun _ => rfl⟩⟩

theorem Alike.refl (a : Node) : a.Alike a :=
  ⟨rfl, fun _ => rfl, (Akin.refl a).parts⟩

theorem Alike.akin {a b : Node} (h : a.Alike b) : a.Akin b :=
  ⟨h.kind, h.parts⟩

/-- Any two programs are akin. -/
theorem Akin.of_program {a b : Node} (ha : a.kind = .program) (hb : b.kind = .program) : a.Akin b :=
  ⟨by rw [ha, hb], fun hne => absurd ha hne⟩

/-- Two programs are alike if their export clauses list the same names. -/
theorem Alike.of_program {a b : Node} (ha : a.kind = .program) (hb : b.kind = .program)
    (h : ∀ name, Cursor.exportsName a name = Cursor.exportsName b name) : a.Alike b :=
  ⟨by rw [ha, hb], h, fun hne => absurd ha hne⟩

/-- Equal labels come from two missing nodes, or from two nodes of one kind and text. -/
theorem label_cases {p q : Option Node} (h : p.map label = q.map label) :
    (p = none ∧ q = none) ∨
      ∃ a b, p = some a ∧ q = some b ∧ a.kind = b.kind ∧ a.text = b.text := by
  cases p with
  | none =>
    cases q with
    | none => exact Or.inl ⟨rfl, rfl⟩
    | some b => cases h
  | some a =>
    cases q with
    | none => cases h
    | some b =>
      have hlabel := Option.some.inj h
      exact Or.inr ⟨a, b, rfl, rfl, congrArg Prod.fst hlabel, congrArg Prod.snd hlabel⟩

theorem map_text_of_label {p q : Option Node} (h : p.map label = q.map label) :
    p.map text = q.map text := by
  rcases label_cases h with ⟨rfl, rfl⟩ | ⟨a, b, rfl, rfl, _, htext⟩
  · rfl
  · exact congrArg some htext

/-- A call that makes a router or a procedure is one from below, too. -/
theorem Akin.isWiringCall {a b : Node} (h : a.Akin b) (factories : List String) :
    Router.isWiringCall factories a = Router.isWiringCall factories b := by
  unfold Router.isWiringCall
  rw [← h.kind]
  by_cases hcall : a.kind = .callExpression
  · rw [(h.parts (by simp [hcall])).callee]
  · rw [beq_eq_false_iff_ne.mpr hcall, Bool.false_and, Bool.false_and]

theorem Akin.boundName? {a b : Node} (h : a.Akin b) (factories : List String) :
    Router.boundName? factories a = Router.boundName? factories b := by
  by_cases hprogram : a.kind = .program
  · have hb : b.kind = .program := h.kind ▸ hprogram
    simp [Router.boundName?, hprogram, hb, Kind.isVariableStatement]
  · exact (h.parts hprogram).bound factories

end Node

namespace Cursor

/-- Two nodes are akin, and so are the nodes above them, one by one. -/
structure Akin (c d : Cursor) : Prop where
  node : c.node.Akin d.node
  ancestors : List.Forall₂ Node.Akin c.ancestors d.ancestors

/-- Two nodes are alike, and so are the nodes above them, one by one. -/
structure Alike (c d : Cursor) : Prop where
  node : c.node.Alike d.node
  ancestors : List.Forall₂ Node.Alike c.ancestors d.ancestors

theorem Alike.akin {c d : Cursor} (h : c.Alike d) : c.Akin d :=
  ⟨h.node.akin, h.ancestors.imp fun _ _ => Node.Alike.akin⟩

/-! ## §2 Exports -/

/-- The `declare` wrappers are told by their kind, so what is above them stays related. -/
theorem forall₂_aboveAmbient {R : Node → Node → Prop} (hkind : ∀ a b, R a b → a.kind = b.kind)
    {as bs : List Node} (h : List.Forall₂ R as bs) :
    List.Forall₂ R (aboveAmbient as) (aboveAmbient bs) := by
  induction h with
  | nil => exact .nil
  | @cons a b as bs hab hrest ih =>
    unfold aboveAmbient
    rw [← hkind a b hab]
    by_cases hambient : a.kind = .ambientDeclaration
    · simpa [hambient] using ih
    · simpa [hambient] using ⟨hab, hrest⟩

theorem hasExportModifier_akin {c d : Cursor}
    (h : List.Forall₂ Node.Akin c.ancestors d.ancestors) :
    c.hasExportModifier = d.hasExportModifier := by
  have habove := forall₂_aboveAmbient (fun _ _ => Node.Akin.kind) h
  unfold hasExportModifier aboveStatement
  generalize aboveAmbient c.ancestors = as at habove ⊢
  generalize aboveAmbient d.ancestors = bs at habove ⊢
  cases habove with
  | nil => rfl
  | cons hab _ => simp only [hab.kind]

theorem parentKind?_akin {c d : Cursor} (h : List.Forall₂ Node.Akin c.ancestors d.ancestors) :
    c.parentKind? = d.parentKind? := by
  obtain ⟨n, as⟩ := c
  obtain ⟨m, bs⟩ := d
  cases h with
  | nil => rfl
  | cons hab _ => exact congrArg some hab.kind

/-- The nearest scope exports the same names. -/
theorem scope?_alike {as bs : List Node} (h : List.Forall₂ Node.Alike as bs) (name : String) :
    (scope? as).elim false (exportsName · name) = (scope? bs).elim false (exportsName · name) := by
  induction h with
  | nil => rfl
  | @cons a b as bs hab _ ih =>
    unfold scope? at ih ⊢
    rw [List.find?_cons, List.find?_cons, ← hab.kind]
    by_cases hscope : a.kind.isScope = true
    · simpa [hscope] using hab.exports name
    · simpa [hscope] using ih

theorem isClauseTarget_alike {c d : Cursor}
    (hname : c.node.name?.map Node.label = d.node.name?.map Node.label)
    (h : List.Forall₂ Node.Alike c.ancestors d.ancestors) :
    c.isClauseTarget = d.isClauseTarget := by
  unfold isClauseTarget
  rw [parentKind?_akin (h.imp fun _ _ => Node.Alike.akin)]
  rcases Node.label_cases hname with ⟨hc, hd⟩ | ⟨a, b, hc, hd, hkind, htext⟩
  · rw [hc, hd]
  · rw [hc, hd]
    simp only [hkind, htext]
    -- what is left to compare is the clause of the nearest scope
    have hclause := scope?_alike (forall₂_aboveAmbient (fun _ _ => Node.Alike.kind) h) b.text
    unfold aboveStatement
    generalize scope? (aboveAmbient c.ancestors) = s at hclause ⊢
    generalize scope? (aboveAmbient d.ancestors) = t at hclause ⊢
    cases s with
    | none =>
      cases t with
      | none => rfl
      | some scope => simp only [← show false = exportsName scope b.text from hclause]
    | some scope =>
      cases t with
      | none => simp only [show exportsName scope b.text = false from hclause]
      | some scope' => simp only [show exportsName scope b.text = exportsName scope' b.text from hclause]

theorem underExport_akin {as bs : List Node} (h : List.Forall₂ Node.Akin as bs) {n m : Node}
    (hkind : n.kind = m.kind) : underExport n as = underExport m bs := by
  induction h generalizing n m with
  | nil => rfl
  | @cons a b as bs hab hrest ih =>
    have hmodifier : hasExportModifier ⟨n, a :: as⟩ = hasExportModifier ⟨m, b :: bs⟩ :=
      hasExportModifier_akin (.cons hab hrest)
    unfold underExport
    rw [hkind, hmodifier, ih hab.kind]

/-- The declaration that carries the `export` for a node: the statement of a variable, else the node
    itself. -/
def exportCarrier (c : Cursor) : Cursor :=
  match c.ancestors with
  | p :: ps =>
    if c.kind = .variableDeclarator ∧ p.kind.isVariableStatement = true then ⟨p, ps⟩ else c
  | [] => c

/-- A node is exported by itself, or by its carrier or something around the carrier. -/
theorem isExported_eq (c : Cursor) :
    c.isExported = (c.isExportedDirectly || (c.exportCarrier.isExportedDirectly ||
      underExport c.exportCarrier.node c.exportCarrier.ancestors)) := by
  obtain ⟨n, as⟩ := c
  unfold isExported exportCarrier
  by_cases hdirect : isExportedDirectly ⟨n, as⟩ = true
  · simp [hdirect]
  · cases as with
    | nil => simp [hdirect, parent?]
    | cons p ps =>
      by_cases hvariable : n.kind = .variableDeclarator
      · by_cases hstatement : p.kind.isVariableStatement = true
        · simp [hdirect, hvariable, hstatement, parent?, Cursor.kind]
        · simp [hdirect, hvariable, hstatement, parent?, Cursor.kind]
      · simp [hdirect, hvariable, parent?, Cursor.kind]

theorem Alike.isExportedDirectly {c d : Cursor} (h : c.Alike d) (hne : c.kind ≠ .program) :
    c.isExportedDirectly = d.isExportedDirectly := by
  unfold Cursor.isExportedDirectly
  rw [hasExportModifier_akin h.akin.ancestors,
    isClauseTarget_alike (h.node.parts hne).name h.ancestors]

theorem Alike.exportCarrier {c d : Cursor} (h : c.Alike d) :
    c.exportCarrier.Alike d.exportCarrier := by
  obtain ⟨n, as⟩ := c
  obtain ⟨m, bs⟩ := d
  obtain ⟨hnode, hancestors⟩ := h
  cases hancestors with
  | nil => exact ⟨hnode, .nil⟩
  | @cons p q ps qs hpq hrest =>
    have hkind : n.kind = m.kind := hnode.kind
    unfold Cursor.exportCarrier
    by_cases hstatement : n.kind = .variableDeclarator ∧ p.kind.isVariableStatement = true
    · have hstatement' : m.kind = .variableDeclarator ∧ q.kind.isVariableStatement = true := by
        rwa [← hkind, ← hpq.kind]
      simp only [Cursor.kind, hstatement, hstatement', and_self, if_true]
      exact ⟨hpq, hrest⟩
    · have hstatement' : ¬ (m.kind = .variableDeclarator ∧ q.kind.isVariableStatement = true) := by
        rwa [← hkind, ← hpq.kind]
      simp only [Cursor.kind, hstatement, hstatement', if_false]
      exact ⟨hnode, .cons hpq hrest⟩

/-- The carrier of an export is a program only for a program. -/
theorem exportCarrier_kind_ne {c : Cursor} (hne : c.kind ≠ .program) :
    c.exportCarrier.kind ≠ .program := by
  obtain ⟨n, as⟩ := c
  unfold exportCarrier
  cases as with
  | nil => exact hne
  | cons p ps =>
    by_cases hstatement : n.kind = .variableDeclarator ∧ p.kind.isVariableStatement = true
    · simp only [Cursor.kind, hstatement, and_self, if_true]
      -- a program is no variable statement
      intro hprogram
      rw [hprogram] at hstatement
      cases hstatement.2
    · simp only [Cursor.kind, hstatement, if_false]
      exact hne

/-- **Exports**: a declaration is exported or not, whichever of two alike surroundings it has. -/
theorem Alike.isExported {c d : Cursor} (h : c.Alike d) (hne : c.kind ≠ .program) :
    c.isExported = d.isExported := by
  rw [isExported_eq, isExported_eq, h.isExportedDirectly hne,
    h.exportCarrier.isExportedDirectly (exportCarrier_kind_ne hne),
    underExport_akin h.exportCarrier.akin.ancestors h.exportCarrier.node.kind]

/-! ## §3 Owners -/

/-- The owners of two objects are told by kinds, so they stay related, or both are missing. -/
theorem forall₂_objectOwner? {R : Node → Node → Prop} (hkind : ∀ a b, R a b → a.kind = b.kind)
    {c d : Cursor} (h : List.Forall₂ R c.ancestors d.ancestors) :
    (c.objectOwner? = none ∧ d.objectOwner? = none) ∨
      ∃ a b, c.objectOwner? = some a ∧ d.objectOwner? = some b ∧ R a.node b.node ∧
        List.Forall₂ R a.ancestors b.ancestors ∧ a.kind = .variableDeclarator := by
  obtain ⟨n, as⟩ := c
  obtain ⟨m, bs⟩ := d
  unfold Cursor.objectOwner?
  cases h with
  | nil => exact Or.inl ⟨rfl, rfl⟩
  | @cons obj obj' as bs hobj hrest =>
    cases hrest with
    | nil => exact Or.inl ⟨rfl, rfl⟩
    | @cons declarator declarator' as bs hdeclarator hrest =>
      simp only [← hkind _ _ hobj, ← hkind _ _ hdeclarator]
      by_cases howner : obj.kind = .objectLiteral ∧ declarator.kind = .variableDeclarator
      · refine Or.inr ⟨⟨declarator, as⟩, ⟨declarator', bs⟩, ?_, ?_, hdeclarator, hrest, howner.2⟩
        · simp [howner]
        · simp [howner]
      · refine Or.inl ⟨?_, ?_⟩
        · simpa using howner
        · simpa using howner

/-- A node gives the same name to what is inside it. -/
theorem Akin.ownName? {c d : Cursor} (h : c.Akin d) : c.ownName? = d.ownName? := by
  have hkind : c.kind = d.kind := h.node.kind
  -- a class gives its own name
  have hclass : (if c.kind.isClassDeclaration || c.kind == .classExpression then
        c.node.name?.map Node.text else none) =
      (if d.kind.isClassDeclaration || d.kind == .classExpression then
        d.node.name?.map Node.text else none) := by
    rw [← hkind]
    by_cases hisClass : (c.kind.isClassDeclaration || c.kind == .classExpression) = true
    · have hne : c.node.kind ≠ .program := by
        intro hprogram
        rw [show c.kind = Kind.program from hprogram] at hisClass
        cases hisClass
      rw [if_pos hisClass, if_pos hisClass, Node.map_text_of_label (h.node.parts hne).name]
    · rw [if_neg hisClass, if_neg hisClass]
  -- a property or method gives the name of the variable that owns its object
  have howner : (c.objectOwner?.bind (·.node.name?)).map Node.label =
      (d.objectOwner?.bind (·.node.name?)).map Node.label := by
    rcases forall₂_objectOwner? (fun _ _ => Node.Akin.kind) h.ancestors with
      ⟨hc, hd⟩ | ⟨a, b, hc, hd, hab, _, hdeclarator⟩
    · rw [hc, hd]
    · have hne : a.node.kind ≠ .program := by
        rw [show a.node.kind = .variableDeclarator from hdeclarator]
        decide
      rw [hc, hd]
      exact (hab.parts hne).name
  unfold Cursor.ownName?
  rw [hclass, hkind]
  rcases Node.label_cases howner with ⟨hc, hd⟩ | ⟨a, b, hc, hd, hlabel, htext⟩
  · rw [hc, hd]
  · rw [hc, hd]
    simp only [hlabel, htext]

/-- The cursors on the way up from akin nodes are akin, one by one. -/
theorem Akin.chain {c d : Cursor} (h : c.Akin d) : List.Forall₂ Akin c.chain d.chain := by
  obtain ⟨n, as⟩ := c
  obtain ⟨m, bs⟩ := d
  obtain ⟨hnode, hancestors⟩ := h
  change List.Forall₂ Node.Akin as bs at hancestors
  induction hancestors generalizing n m with
  | nil => exact .cons ⟨hnode, .nil⟩ .nil
  | @cons p q ps qs hpq hrest ih => exact .cons ⟨hnode, .cons hpq hrest⟩ (ih p q hpq)

/-- A search on the way up that cannot tell akin cursors apart finds the same. -/
theorem findSome?_akin {α : Type} {f : Cursor → Option α}
    (hf : ∀ c d : Cursor, c.Akin d → f c = f d) {cs ds : List Cursor}
    (h : List.Forall₂ Akin cs ds) : cs.findSome? f = ds.findSome? f := by
  induction h with
  | nil => rfl
  | cons hcd _ ih => rw [List.findSome?_cons, List.findSome?_cons, hf _ _ hcd, ih]

/-- **Owners**: the nearest owner has the same name in akin surroundings. -/
theorem Akin.enclosingName? {c d : Cursor} (h : c.Akin d) :
    c.enclosingName? = d.enclosingName? :=
  findSome?_akin (fun _ _ hcd => hcd.ownName?) h.chain

/-! ## §4 Wiring, class members, router objects -/

theorem Akin.isWiring {c d : Cursor} (h : c.Akin d) (factories : List String) :
    Router.isWiring factories c = Router.isWiring factories d := by
  have hancestors := h.ancestors
  unfold Router.isWiring
  generalize c.ancestors = as at hancestors ⊢
  generalize d.ancestors = bs at hancestors ⊢
  induction hancestors with
  | nil => rfl
  | cons hab _ ih => rw [List.any_cons, List.any_cons, hab.isWiringCall, ih]

theorem Akin.isClassMember {c d : Cursor} (h : c.Akin d) :
    Outline.isClassMember c = Outline.isClassMember d := by
  have hkind : c.kind = d.kind := h.node.kind
  have hancestors := h.ancestors
  unfold Outline.isClassMember
  rw [hkind]
  generalize c.ancestors = as at hancestors ⊢
  generalize d.ancestors = bs at hancestors ⊢
  -- the body, the class and what holds the class are looked at, each by its kind
  cases hancestors with
  | nil => rfl
  | cons hbody hrest =>
    cases hrest with
    | nil => rfl
    | cons howner habove =>
      cases habove with
      | nil => simp only [hbody.kind, howner.kind]
      | cons hholder _ => simp only [hbody.kind, howner.kind, hholder.kind]

theorem Akin.isRouterObject {c d : Cursor} (h : c.Akin d) (factories : List String) :
    Router.isRouterObject factories c = Router.isRouterObject factories d := by
  have hkind : c.kind = d.kind := h.node.kind
  have hancestors := h.ancestors
  unfold Router.isRouterObject
  rw [hkind]
  generalize c.ancestors = as at hancestors ⊢
  generalize d.ancestors = bs at hancestors ⊢
  -- the list of arguments counts by its kind, the call also by what it calls
  cases hancestors with
  | nil => rfl
  | cons hlist hrest =>
    cases hrest with
    | nil => rfl
    | @cons call call' as bs hcall _ =>
      simp only [hlist.kind, ← hcall.kind]
      by_cases hisCall : call.kind = .callExpression
      · rw [(hcall.parts (by simp [hisCall])).callee]
      · simp only [beq_eq_false_iff_ne.mpr hisCall, Bool.and_false, Bool.false_and]

/-! ## §5 The active router -/

theorem Akin.landmark? {c d : Cursor} (h : c.Akin d) (o : Outline.Options) :
    Outline.landmark? o c = Outline.landmark? o d := by
  unfold Outline.landmark? Outline.bindingName?
  rw [h.node.boundName?, h.isRouterObject]

/-- **Routers**: the same router is active in akin surroundings. -/
theorem Akin.activeRouter? {c d : Cursor} (h : c.Akin d) (o : Outline.Options) :
    Outline.activeRouter? o c = Outline.activeRouter? o d := by
  have habove : List.Forall₂ Akin c.above d.above := by
    have hchain := h.chain
    rw [Cursor.chain_eq, Cursor.chain_eq] at hchain
    cases hchain with
    | cons _ hrest => exact hrest
  unfold Outline.activeRouter? Outline.nearestLandmark? Outline.bindingName?
  rw [h.node.boundName?, findSome?_akin (fun _ _ hcd => hcd.landmark? o) habove]

/-! ## §6 Identities and entries -/

theorem Akin.ownerOr {c d : Cursor} (h : c.Akin d) (router : Option String) :
    Callable.ownerOr c router = Callable.ownerOr d router := by
  unfold Callable.ownerOr
  rw [h.enclosingName?]

/-- The owner of an object is exported or not, as seen from one of its members. -/
theorem Alike.isExported_objectOwner? {c d : Cursor} (h : c.Alike d) :
    c.objectOwner?.map Cursor.isExported = d.objectOwner?.map Cursor.isExported := by
  rcases forall₂_objectOwner? (fun _ _ => Node.Alike.kind) h.ancestors with
    ⟨hc, hd⟩ | ⟨a, b, hc, hd, hnode, hancestors, hdeclarator⟩
  · rw [hc, hd]
  · have hne : a.kind ≠ .program := by rw [hdeclarator]; decide
    have hab : a.Alike b := ⟨hnode, hancestors⟩
    rw [hc, hd]
    exact congrArg some (hab.isExported hne)

theorem Alike.boundIdentity? {c d : Cursor} (h : c.Alike d)
    (hfield : c.node.field = d.node.field) (router : Option String) :
    Callable.boundIdentity? c router = Callable.boundIdentity? d router := by
  have howner := h.akin.ownerOr router
  obtain ⟨n, as⟩ := c
  obtain ⟨m, bs⟩ := d
  unfold Callable.boundIdentity?
  cases h.ancestors with
  | nil => rfl
  | @cons p q ps qs hpq hrest =>
    have hparent : Cursor.Alike ⟨p, ps⟩ ⟨q, qs⟩ := ⟨hpq, hrest⟩
    have hvalue : isIn ⟨n, p :: ps⟩ .value = isIn ⟨m, q :: qs⟩ .value := by rw [isIn, isIn, hfield]
    simp only [parent?, howner, hvalue, Cursor.kind, ← hpq.kind]
    split
    · split
      · -- the value of a variable
        rename_i hkind
        have hne : p.kind ≠ .program := by rw [hkind]; decide
        rw [hparent.isExported hne]
        rcases Node.label_cases (hpq.parts hne).name with ⟨hp, hq⟩ | ⟨a, b, hp, hq, hlabel, htext⟩
        · rw [hp, hq]
        · simp only [hp, hq, hlabel, htext]
      · -- the value of a property
        rename_i hkind
        have hne : p.kind ≠ .program := by rw [hkind]; decide
        rw [hparent.isExported_objectOwner?]
        rcases Node.label_cases (hpq.parts hne).key with ⟨hp, hq⟩ | ⟨a, b, hp, hq, hlabel, htext⟩
        · rw [hp, hq]
        · simp only [hp, hq, hlabel, htext]
      · rfl
    · rfl

/-- **Identities**: a callable in the same role is listed under the same name, owner and export. -/
theorem Alike.identity? {c d : Cursor} (h : c.Alike d) (hne : c.kind ≠ .program)
    (hfield : c.node.field = d.node.field) (router : Option String) :
    Callable.identity? c router = Callable.identity? d router := by
  unfold Callable.identity?
  simp only [← h.node.kind, h.isExported hne, h.boundIdentity? hfield, h.akin.ownerOr]
  rcases Node.label_cases (h.node.parts hne).name with ⟨hc, hd⟩ | ⟨a, b, hc, hd, hlabel, htext⟩
  · rw [hc, hd]
  · rw [hc, hd]
    -- with or without a name of its own, by the kind of callable
    cases c.node.kind.isFunctionDeclaration with
    | true => simp only [htext]
    | false =>
      cases c.node.kind.isFunctionExpression with
      | true => simp only [hlabel, htext]
      | false => simp only [hlabel, htext]

/-- Two nodes say the same about themselves: their role, their parameters and return type, their
    heading and their procedures. -/
structure SameInside (o : Outline.Options) (a b : Node) : Prop where
  field : a.field = b.field
  parameters : Callable.parameters a = Callable.parameters b
  returnType : ∀ name, Callable.returnType a name o.view = Callable.returnType b name o.view
  heading : Declaration.heading? a o.depth = Declaration.heading? b o.depth
  procedures : ∀ router, Router.procedures a o.path router = Router.procedures b o.path router

theorem SameInside.refl (o : Outline.Options) (a : Node) : SameInside o a a :=
  ⟨rfl, rfl, fun _ => rfl, rfl, fun _ => rfl⟩

theorem Alike.functionAt {o : Outline.Options} {c d : Cursor} (h : c.Alike d)
    (hinside : SameInside o c.node d.node) (active : Option String) :
    Outline.functionAt o c active = Outline.functionAt o d active := by
  have hkind : c.kind = d.kind := h.node.kind
  unfold Outline.functionAt
  rw [← hkind, ← h.akin.isClassMember, ← h.akin.isWiring]
  by_cases hcallable : c.kind.isCallable = true
  · have hne : c.kind ≠ .program := by
      intro hprogram
      rw [hprogram] at hcallable
      cases hcallable
    unfold Callable.signature?
    rw [h.identity? hne hinside.field, hinside.parameters]
    simp only [hinside.returnType]
  · simp [hcallable]

theorem Alike.declaration {o : Outline.Options} {c d : Cursor} (h : c.Alike d)
    (hinside : SameInside o c.node d.node) :
    Declaration.signature? c o.path o.depth = Declaration.signature? d o.path o.depth := by
  unfold Declaration.signature?
  rw [← hinside.heading]
  by_cases hprogram : c.node.kind = .program
  · -- a program declares nothing
    have hnone : Declaration.heading? c.node o.depth = none := by
      simp [Declaration.heading?, hprogram]
    rw [hnone]
    rfl
  · rw [h.isExported hprogram]

/-- **Entries**: alike nodes that say the same about themselves contribute the same. -/
theorem Alike.entriesAt {o : Outline.Options} {c d : Cursor} (h : c.Alike d)
    (hinside : SameInside o c.node d.node) :
    Outline.entriesAt o c (Outline.activeRouter? o c) =
      Outline.entriesAt o d (Outline.activeRouter? o d) := by
  unfold Outline.entriesAt Outline.proceduresAt
  rw [h.akin.activeRouter?, h.functionAt hinside, h.declaration hinside, h.akin.isRouterObject]
  simp only [hinside.procedures]

end Cursor

end TsOutline
