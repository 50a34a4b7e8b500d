import TsOutline.Proofs.Surroundings

/-!
# Statements of a Program Do Not Influence Each Other

Two programs that differ in one statement have the same entries from all their other statements. The
argument has two halves:

- **Downwards** (`listing_preorder_alike`): a subtree lists the same below surroundings that are
  alike, by induction on the subtree.
- **Upwards** (`alike_program`): all that a statement can see of its program are the export clauses,
  so replacing a statement that exports nothing gives a program that is alike.
-/

namespace TsOutline.Outline

/-! ## §1 A subtree in alike surroundings -/

/-- A node that is no callable, no object and no declaration contributes nothing. -/
theorem entriesAt_eq_empty (o : Options) {c : Cursor} (active : Option String)
    (hcallable : c.kind.isCallable = false) (hobject : c.kind ≠ .objectLiteral)
    (hheading : Declaration.heading? c.node o.depth = none) : entriesAt o c active = empty := by
  have hrouter : Router.isRouterObject o.factories c = false := by
    unfold Router.isRouterObject
    split
    · simp [hobject]
    · rfl
  unfold entriesAt functionAt proceduresAt Declaration.signature?
  rw [hcallable, hrouter, hheading]
  cases active with
  | none => rfl
  | some router => rfl

/-- Listings are compared part by part. -/
theorem listing_flatMap_congr {α : Type} {o : Options} {xs : List α} {f g : α → List Cursor}
    (h : ∀ x ∈ xs, listing o (f x) = listing o (g x)) :
    listing o (xs.flatMap f) = listing o (xs.flatMap g) := by
  induction xs with
  | nil => rfl
  | cons x xs ih =>
    rw [List.flatMap_cons, List.flatMap_cons, listing_append, listing_append,
      h x (List.mem_cons_self ..), ih fun y hy => h y (List.mem_cons_of_mem _ hy)]

/-- The subtrees of the children of a node, each in its context. -/
theorem preorder_mk (n : Node) (above : List Node) :
    Cursor.preorder ⟨n, above⟩ =
      ⟨n, above⟩ :: n.children.flatMap fun m => Cursor.preorder ⟨m, n :: above⟩ := by
  rw [Cursor.preorder_eq, Cursor.children, List.flatMap_map]

/-- **Downwards**: a subtree lists the same entries below ancestors that are alike. -/
theorem listing_preorder_alike (o : Options) (n : Node) {as bs : List Node}
    (h : List.Forall₂ Node.Alike as bs) :
    listing o (Cursor.preorder ⟨n, as⟩) = listing o (Cursor.preorder ⟨n, bs⟩) := by
  have halike : Cursor.Alike ⟨n, as⟩ ⟨n, bs⟩ := ⟨Node.Alike.refl n, h⟩
  rw [preorder_mk, preorder_mk, listing_cons, listing_cons,
    halike.entriesAt (Cursor.SameInside.refl o n)]
  congr 1
  apply listing_flatMap_congr
  intro m hm
  -- below the node, its children have one more ancestor in common
  exact listing_preorder_alike o m (.cons (Node.Alike.refl n) h)
termination_by n.size
decreasing_by exact Node.size_lt_of_mem_children hm

/-! ## §2 A program with one statement replaced -/

/-- A statement that is no export lists no names. -/
theorem clauseNames_of_ne {s : Node} (h : s.kind ≠ .exportStatement) :
    Cursor.clauseNames s = [] := by
  simp [Cursor.clauseNames, h]

/-- A statement that is no export does not matter for the names that a scope exports. -/
theorem exportsName_of_children {scope s : Node} {xs ys : List Node}
    (hchildren : scope.children = xs ++ [s] ++ ys) (hs : s.kind ≠ .exportStatement)
    (name : String) :
    Cursor.exportsName scope name =
      ((xs ++ ys).filter fun c => c.named && c.kind != .comment).any fun statement =>
        (Cursor.clauseNames statement).contains name := by
  unfold Cursor.exportsName Node.members
  rw [hchildren]
  simp only [List.filter_append, List.any_append, List.filter_cons, List.filter_nil]
  -- whether or not the statement is a member, it names nothing
  split
  · simp [clauseNames_of_ne hs]
  · simp

/-- **Upwards**: two programs that differ in one statement, no export before or after, are alike. -/
theorem alike_program {tree tree' s s' : Node} {xs ys : List Node}
    (hkind : tree.kind = .program) (hkind' : tree'.kind = .program)
    (hchildren : tree.children = xs ++ [s] ++ ys) (hchildren' : tree'.children = xs ++ [s'] ++ ys)
    (hs : s.kind ≠ .exportStatement) (hs' : s'.kind ≠ .exportStatement) :
    tree.Alike tree' := by
  refine .of_program hkind hkind' ?_
  intro name
  rw [exportsName_of_children hchildren hs, exportsName_of_children hchildren' hs']

/-! ## §3 The records of the other statements -/

/-- What some statements of a program contribute to its outline. -/
def statementEntries (o : Options) (program : Node) (statements : List Node) : Outline :=
  listing o (statements.flatMap fun s => Cursor.preorder ⟨s, [program]⟩)

theorem statementEntries_append (o : Options) (program : Node) (xs ys : List Node) :
    statementEntries o program (xs ++ ys) =
      statementEntries o program xs ++ statementEntries o program ys := by
  rw [statementEntries, List.flatMap_append, listing_append]
  rfl

theorem statementEntries_alike (o : Options) {program program' : Node}
    (h : program.Alike program') (statements : List Node) :
    statementEntries o program statements = statementEntries o program' statements :=
  listing_flatMap_congr fun s _ => listing_preorder_alike o s (.cons h .nil)

theorem entriesAt_program {tree : Node} (o : Options) (hkind : tree.kind = .program)
    (active : Option String) : entriesAt o (.root tree) active = empty := by
  have hkind' : (Cursor.root tree).kind = .program := hkind
  apply entriesAt_eq_empty
  · rw [hkind']
    rfl
  · rw [hkind']
    decide
  · simp [Cursor.root, Declaration.heading?, hkind]

/-- A program itself contributes nothing: its outline is that of its statements. -/
theorem ofTree_program {tree : Node} (o : Options) (hkind : tree.kind = .program) :
    ofTree o tree = statementEntries o tree tree.children := by
  have hentries := entriesAt_program o hkind (activeRouter? o (.root tree))
  rw [ofTree_eq_listing, Cursor.root, preorder_mk, listing_cons]
  rw [show entriesAt o ⟨tree, []⟩ (activeRouter? o ⟨tree, []⟩) = empty from hentries]
  rfl

/-- The outline of a program, split at one of its statements. -/
theorem ofTree_split {tree s : Node} {xs ys : List Node} (o : Options)
    (hkind : tree.kind = .program) (hchildren : tree.children = xs ++ [s] ++ ys) :
    ofTree o tree = statementEntries o tree xs ++ statementEntries o tree [s] ++
      statementEntries o tree ys := by
  rw [ofTree_program o hkind, hchildren, statementEntries_append, statementEntries_append]

/-- **Isolation**: replacing one statement of a program, no export before or after, changes the
    entries of that statement only. The entries of the statements in front of it and behind it are
    the same in both programs, field for field. -/
theorem statements_isolated (o : Options) (tree tree' s s' : Node) (xs ys : List Node)
    (hkind : tree.kind = .program) (hkind' : tree'.kind = .program)
    (hchildren : tree.children = xs ++ [s] ++ ys) (hchildren' : tree'.children = xs ++ [s'] ++ ys)
    (hs : s.kind ≠ .exportStatement) (hs' : s'.kind ≠ .exportStatement) :
    ((ofTree o tree).functions =
        (statementEntries o tree xs).functions ++ (statementEntries o tree [s]).functions ++
          (statementEntries o tree ys).functions ∧
      (ofTree o tree').functions =
        (statementEntries o tree' xs).functions ++ (statementEntries o tree' [s']).functions ++
          (statementEntries o tree' ys).functions) ∧
    ((ofTree o tree).types =
        (statementEntries o tree xs).types ++ (statementEntries o tree [s]).types ++
          (statementEntries o tree ys).types ∧
      (ofTree o tree').types =
        (statementEntries o tree' xs).types ++ (statementEntries o tree' [s']).types ++
          (statementEntries o tree' ys).types) ∧
    statementEntries o tree xs = statementEntries o tree' xs ∧
    statementEntries o tree ys = statementEntries o tree' ys := by
  -- seen from any statement but the replaced one, the two programs are the same
  have halike : tree.Alike tree' := alike_program hkind hkind' hchildren hchildren' hs hs'
  have hsplit := ofTree_split o hkind hchildren
  have hsplit' := ofTree_split o hkind' hchildren'
  refine ⟨⟨?_, ?_⟩, ⟨?_, ?_⟩, statementEntries_alike o halike xs, statementEntries_alike o halike ys⟩
  · rw [hsplit]; rfl
  · rw [hsplit']; rfl
  · rw [hsplit]; rfl
  · rw [hsplit']; rfl

/-- The declaration of a function with the given name. -/
def functionNamed (name : String) : Node :=
  .mk .functionDeclaration true none "" [.mk .identifier true (some .name) name []]

/-- Replacing a function by a router leaves the function behind it as it was. -/
theorem function_behind_router_isolated :
    let o : Options := ⟨"/a.ts", .ofUnits 2, ["make"], false⟩
    let router : Node := .mk .lexicalDeclaration true none ""
      [factoryVariable "app" (.mk .objectLiteral true none "" [])]
    let tree : Node := .mk .program true none "f g" [functionNamed "f", functionNamed "g"]
    let tree' : Node := .mk .program true none "app g" [router, functionNamed "g"]
    statementEntries o tree [functionNamed "g"] = statementEntries o tree' [functionNamed "g"] :=
  (statements_isolated _ _ _ (functionNamed "f") _ [] [functionNamed "g"] rfl rfl rfl rfl
    (by decide) (by decide)).2.2.2

end TsOutline.Outline
