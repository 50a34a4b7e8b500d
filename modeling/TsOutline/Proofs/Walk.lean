import Mathlib.Data.List.Basic
import TsOutline.Outline

/-!
# The Walk over a Tree in Pre-Order

`Outline.walk` takes its nodes from a list of pending nodes and carries a router name beside each of
them. This module says what the walk computes without the list: every node of the tree in pre-order
contributes its entries, and the router that counts at a node is read off its ancestors.

- **The nearest landmark** (`nearestLandmark?`): going up from a node, the first statement that binds
  a router or the first object that ends one.
- **The stack invariant** (`Settled`): every pending node carries the router that its ancestors give.
- **The run** (`walk_eq_listing`): from settled pending nodes, the walk lists their subtrees in
  pre-order.
-/

namespace TsOutline

/-! ## §1 The nodes above a node -/

/-- The cursors of the ancestors, nearest first. -/
def Cursor.above (c : Cursor) : List Cursor :=
  match c.parent? with
  | some p => p.chain
  | none => []

theorem Cursor.chain_eq (c : Cursor) : c.chain = c :: c.above := by
  obtain ⟨n, ancestors⟩ := c
  cases ancestors with
  | nil => rfl
  | cons p ps => rfl

theorem Cursor.above_mk (n p : Node) (ps : List Node) :
    Cursor.above ⟨n, p :: ps⟩ = Cursor.chain ⟨p, ps⟩ := rfl

theorem Cursor.above_of_mem_children {c d : Cursor} (h : d ∈ c.children) : d.above = c.chain := by
  obtain ⟨n, _, rfl⟩ := List.mem_map.mp h
  rfl

theorem Cursor.self_mem_preorder (c : Cursor) : c ∈ c.preorder := by
  rw [Cursor.preorder_eq]
  exact List.mem_cons_self ..

theorem Cursor.mem_preorder_of_mem_children {c d e : Cursor} (hd : d ∈ c.children)
    (he : e ∈ d.preorder) : e ∈ c.preorder := by
  rw [Cursor.preorder_eq]
  exact List.mem_cons_of_mem _ (List.mem_flatMap.mpr ⟨d, hd, he⟩)

/-- The nodes of the cursors on the way up are the node and its ancestors. -/
theorem Cursor.map_node_chain (c : Cursor) : c.chain.map Cursor.node = c.node :: c.ancestors := by
  obtain ⟨n, ancestors⟩ := c
  induction ancestors generalizing n with
  | nil => rfl
  | cons p ps ih => exact congrArg (n :: ·) (ih p)

theorem Cursor.node_mem_ancestors_of_mem_above {c d : Cursor} (h : d ∈ c.above) :
    d.node ∈ c.ancestors := by
  have hmap := c.map_node_chain
  rw [Cursor.chain_eq, List.map_cons] at hmap
  rw [← (List.cons.inj hmap).2]
  exact List.mem_map_of_mem h

namespace Outline

/-! ## §2 The active router, read off the ancestors -/

/-- What a node changes about the router that is active below it. -/
inductive Landmark where
  /-- A variable statement binds a router under a name. -/
  | binding (name : String)
  /-- The object of a router ends it. -/
  | routerObject
  deriving Repr, DecidableEq

/-- The name under which a variable statement binds a router; the empty name binds nothing. -/
def bindingName? (o : Options) (n : Node) : Option String :=
  match Router.boundName? o.factories n with
  | some name => if name = "" then none else some name
  | none => none

/-- The landmark that a node is for what lies below it. -/
def landmark? (o : Options) (c : Cursor) : Option Landmark :=
  match bindingName? o c.node with
  | some name => some (.binding name)
  | none => if Router.isRouterObject o.factories c then some .routerObject else none

/-- The nearest landmark of a node. The node itself counts only if it binds a router: a router's
    object ends the router below itself. -/
def nearestLandmark? (o : Options) (c : Cursor) : Option Landmark :=
  match bindingName? o c.node with
  | some name => some (.binding name)
  | none => c.above.findSome? (landmark? o)

/-- The name that a landmark leaves active. -/
def Landmark.name? : Landmark → Option String
  | .binding name => some name
  | .routerObject => none

/-- The router that is active at a node: the nearest landmark is there, and it is a binding. -/
def activeRouter? (o : Options) (c : Cursor) : Option String :=
  (nearestLandmark? o c).bind Landmark.name?

/-- The router that the ancestors of a node leave active for it. -/
def inheritedRouter? (o : Options) (c : Cursor) : Option String :=
  (c.above.findSome? (landmark? o)).bind Landmark.name?

/-- A router object is no variable statement, so it binds nothing. -/
theorem bindingName?_of_isRouterObject {o : Options} {c : Cursor}
    (h : Router.isRouterObject o.factories c = true) : bindingName? o c.node = none := by
  have hkind : c.node.kind = .objectLiteral := by
    unfold Router.isRouterObject at h
    split at h
    · simp only [Bool.and_eq_true, beq_iff_eq] at h
      exact h.1.1.1
    · cases h
  simp [bindingName?, Router.boundName?, hkind, Kind.isVariableStatement]

/-- One step of the walk from above computes the active router. -/
theorem activeAt_inheritedRouter? (o : Options) (c : Cursor) :
    activeAt o c (inheritedRouter? o c) = activeRouter? o c := by
  unfold activeAt activeRouter? nearestLandmark? inheritedRouter? bindingName?
  cases Router.boundName? o.factories c.node with
  | none => rfl
  | some name =>
    by_cases hname : name = ""
    · simp [hname]
    · simp [hname, Landmark.name?]

/-- What a node leaves active is what its children inherit. -/
theorem activeBelow_activeRouter? {o : Options} {c d : Cursor} (h : d ∈ c.children) :
    activeBelow o c (activeRouter? o c) = inheritedRouter? o d := by
  unfold inheritedRouter?
  rw [Cursor.above_of_mem_children h, Cursor.chain_eq]
  unfold activeBelow activeRouter? nearestLandmark?
  by_cases hobj : Router.isRouterObject o.factories c = true
  · -- the object ends the router, and it cannot bind another one
    simp [hobj, landmark?, bindingName?_of_isRouterObject hobj, Landmark.name?]
  · cases hbind : bindingName? o c.node with
    | some name => simp [hobj, landmark?, hbind]
    | none => simp [hobj, landmark?, hbind]

/-! ## §3 Listings -/

/-- What the given nodes contribute, one after the other, each under the router active there. -/
def listing (o : Options) (cs : List Cursor) : Outline :=
  ⟨cs.flatMap fun c => (entriesAt o c (activeRouter? o c)).functions,
   cs.flatMap fun c => (entriesAt o c (activeRouter? o c)).types⟩

theorem append_def (a b : Outline) :
    a ++ b = ⟨a.functions ++ b.functions, a.types ++ b.types⟩ := rfl

theorem listing_cons (o : Options) (c : Cursor) (cs : List Cursor) :
    listing o (c :: cs) = entriesAt o c (activeRouter? o c) ++ listing o cs := rfl

theorem listing_append (o : Options) (cs ds : List Cursor) :
    listing o (cs ++ ds) = listing o cs ++ listing o ds := by
  simp only [listing, append_def, List.flatMap_append]

/-! ## §4 The run of the walk -/

/-- **The stack invariant**: every pending node carries the router that its ancestors leave
    active. -/
def Settled (o : Options) (pending : List Pending) : Prop :=
  ∀ p ∈ pending, p.2 = inheritedRouter? o p.1

/-- The invariant holds at the start: nothing is above the root. -/
theorem settled_root (o : Options) (tree : Node) : Settled o [(.root tree, none)] := by
  intro p hp
  rw [List.mem_singleton.mp hp]
  rfl

/-- One visit keeps the invariant: the children come in front of what was pending, with the router
    that the visited node leaves active. -/
theorem settled_step {o : Options} {c : Cursor} {above : Option String} {rest : List Pending}
    (h : Settled o ((c, above) :: rest)) :
    Settled o (pendingChildren c (activeBelow o c (activeAt o c above)) ++ rest) := by
  have habove : above = inheritedRouter? o c := h (c, above) (List.mem_cons_self ..)
  intro p hp
  rcases List.mem_append.mp hp with hchild | hrest
  · obtain ⟨d, hd, rfl⟩ := List.mem_map.mp hchild
    show activeBelow o c (activeAt o c above) = inheritedRouter? o d
    rw [habove, activeAt_inheritedRouter?]
    exact activeBelow_activeRouter? hd
  · exact h p (List.mem_cons_of_mem _ hrest)

theorem flatMap_preorder_pendingChildren (c : Cursor) (active : Option String) :
    (pendingChildren c active).flatMap (fun p => p.1.preorder) =
      c.children.flatMap Cursor.preorder := by
  rw [pendingChildren, List.flatMap_map]

/-- **The run of the walk**: from pending nodes that carry the right routers, the walk lists their
    subtrees in pre-order. -/
theorem walk_eq_listing (o : Options) (pending : List Pending) (h : Settled o pending) :
    walk o pending = listing o (pending.flatMap fun p => p.1.preorder) := by
  induction pending using walk.induct (o := o) with
  | case1 => rw [walk]; rfl
  | case2 c above rest active ih =>
    have habove : above = inheritedRouter? o c := h (c, above) (List.mem_cons_self ..)
    have hactive : activeAt o c above = activeRouter? o c := by
      rw [habove, activeAt_inheritedRouter?]
    rw [walk, ih (settled_step h)]
    -- the visited node stands first in its own pre-order, its children right behind it
    rw [List.flatMap_append, flatMap_preorder_pendingChildren, List.flatMap_cons,
      Cursor.preorder_eq, List.cons_append, listing_cons, hactive]

/-- The outline of a tree lists its nodes in pre-order. -/
theorem ofTree_eq_listing (o : Options) (tree : Node) :
    ofTree o tree = listing o (Cursor.root tree).preorder := by
  rw [ofTree, walk_eq_listing o _ (settled_root o tree)]
  simp only [List.flatMap_cons, List.flatMap_nil, List.append_nil]

/-! ## §5 The refinement -/

/-- Between two router objects, one inside the other, only a statement that binds a router can make
    one active again. -/
theorem activeRouter?_nested {o : Options} {inner outer : Node} {between above : List Node}
    (hinner : Router.isRouterObject o.factories ⟨inner, between ++ outer :: above⟩ = true)
    (houter : Router.isRouterObject o.factories ⟨outer, above⟩ = true)
    (hbetween : ∀ d ∈ between, bindingName? o d = none) :
    activeRouter? o ⟨inner, between ++ outer :: above⟩ = none := by
  have hbind : bindingName? o inner = none := bindingName?_of_isRouterObject hinner
  unfold activeRouter? nearestLandmark?
  simp only [hbind]
  clear hinner hbind
  -- going up through `between`, the first landmark can only be a router object
  induction between generalizing inner with
  | nil =>
    rw [List.nil_append, Cursor.above_mk, Cursor.chain_eq, List.findSome?_cons]
    simp [landmark?, bindingName?_of_isRouterObject houter, houter, Landmark.name?]
  | cons d ds ih =>
    have hd : bindingName? o d = none := hbetween d (List.mem_cons_self ..)
    have hds := @ih d (fun e he => hbetween e (List.mem_cons_of_mem _ he))
    rw [List.cons_append, Cursor.above_mk, Cursor.chain_eq, List.findSome?_cons]
    by_cases hobj : Router.isRouterObject o.factories ⟨d, ds ++ outer :: above⟩ = true
    · simp [landmark?, hd, hobj, Landmark.name?]
    · simpa [landmark?, hd, hobj] using hds

/-- **Walker refinement**: the walk with its list of pending nodes lists, over all nodes in
    pre-order, the type declarations, and for each node first the callable it is and then the
    procedures it holds, under the router that its nearest landmark binds. A router object inside
    another one adds nothing unless a statement between them binds a router anew. -/
theorem ofTree_refines_preorder (o : Options) (tree : Node) :
    (ofTree o tree).types =
      (Cursor.root tree).preorder.filterMap (fun c => Declaration.signature? c o.path o.depth) ∧
    (ofTree o tree).functions =
      (Cursor.root tree).preorder.flatMap (fun c =>
        (if c.kind.isCallable ∧ ¬ isClassMember c ∧ ¬ Router.isWiring o.factories c then
          (Callable.signature? c o.path (activeRouter? o c) o.view).toList
        else []) ++
        (if Router.isRouterObject o.factories c then
          (activeRouter? o c).toList.flatMap fun r => Router.procedures c.node o.path r
        else [])) ∧
    (∀ (inner outer : Node) (between above : List Node),
      Router.isRouterObject o.factories ⟨inner, between ++ outer :: above⟩ = true →
      Router.isRouterObject o.factories ⟨outer, above⟩ = true →
      (∀ d ∈ between, bindingName? o d = none) →
      proceduresAt o ⟨inner, between ++ outer :: above⟩
        (activeRouter? o ⟨inner, between ++ outer :: above⟩) = []) := by
  refine ⟨?_, ?_, ?_⟩
  · rw [ofTree_eq_listing, List.filterMap_eq_flatMap_toList]
    rfl
  · -- both sides go through the nodes in the same order, so one node at a time is enough
    rw [ofTree_eq_listing]
    show List.flatMap _ _ = List.flatMap _ _
    congr 1
    funext c
    show (functionAt o c (activeRouter? o c)).toList ++ proceduresAt o c (activeRouter? o c) = _
    congr 1
    · -- the three conditions on a callable, as a test and as a proposition
      unfold functionAt
      by_cases hlisted : c.kind.isCallable ∧ ¬ isClassMember c ∧ ¬ Router.isWiring o.factories c
      · simp [hlisted]
      · rw [if_neg hlisted, if_neg (by simpa [and_assoc] using hlisted)]
        rfl
    · unfold proceduresAt
      cases activeRouter? o c with
      | none => simp
      | some r => simp
  · intro inner outer between above hinner houter hbetween
    rw [activeRouter?_nested hinner houter hbetween]
    rfl

/-- A call `make(object)` in the given role. -/
def factoryCall (role : Option Field) (object : Node) : Node :=
  .mk .callExpression true role "make(...)"
    [.mk .identifier true (some .function) "make" [],
     .mk .argumentList true (some .arguments) "(...)" [object]]

/-- The property `sub: make(object)`. -/
def factoryPair (object : Node) : Node :=
  .mk .pair true none "sub: make(...)"
    [.mk .propertyIdentifier true (some .key) "sub" [], factoryCall (some .value) object]

/-- The variable `name = make(object)`. -/
def factoryVariable (name : String) (object : Node) : Node :=
  .mk .variableDeclarator true none "name = make(...)"
    [.mk .identifier true (some .name) name [], factoryCall (some .value) object]

/-- In `const app = make({ sub: make({}) })` the inner object lists nothing. -/
theorem ofTree_refines_preorder_nested :
    let o : Options := ⟨"/app.ts", .ofUnits 2, ["make"], false⟩
    let inner : Node := .mk .objectLiteral true none "" []
    let call := factoryCall (some .value) inner
    let outer : Node := .mk .objectLiteral true none "" [factoryPair inner]
    let app := factoryVariable "app" outer
    let statement : Node := .mk .lexicalDeclaration true none "" [app]
    let between := call.children.drop 1 ++ [call, factoryPair inner]
    let above := (factoryCall (some .value) outer).children.drop 1 ++
      [factoryCall (some .value) outer, app, statement]
    activeRouter? o ⟨outer, above⟩ = some "app" ∧
      proceduresAt o ⟨inner, between ++ outer :: above⟩
        (activeRouter? o ⟨inner, between ++ outer :: above⟩) = [] := by
  intro o inner call outer app statement between above
  refine ⟨by decide, ?_⟩
  exact (ofTree_refines_preorder o statement).2.2 inner outer between above (by decide) (by decide)
    (by decide)

end Outline

end TsOutline
