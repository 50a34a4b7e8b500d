import TsOutline.Proofs.Walk
import TsOutline.Syntax.Row

/-!
# Roles of Children

A role tells one child. Where rows give several children of a node the same role, reading leaves it to
the first of them, which is the child that is found in the role, and changes nothing else. So in a tree
that was read, a node is in some role of its parent exactly if it is the child that its parent has there.

- **One step** (`map_withoutRole_settleRoles`, `child?_settleRoles`, `nodup_roles_settleRoles`): settling
  changes nothing but roles, what is found in a role stays, and then each role is that of one child.
- **Reading** (`isSettled_of_ofRows?`): in every tree that was read, roles are settled all the way down.
- **In a role** (`isIn_iff_child?`): looking at a node and looking at its parent come to the same.
-/

namespace TsOutline

namespace Node

/-! ## §1 One step -/

variable {c n : Node} {cs : List Node} {taken : List Field} {role : Field}

@[simp] theorem field_withoutRole (n : Node) : n.withoutRole.field = none := by
  cases n; rfl

@[simp] theorem withoutRole_withoutRole (n : Node) : n.withoutRole.withoutRole = n.withoutRole := by
  cases n; rfl

/-- Settling takes nothing from the children but roles. -/
theorem map_withoutRole_settleRoles (taken : List Field) (cs : List Node) :
    (settleRoles taken cs).map withoutRole = cs.map withoutRole := by
  fun_induction settleRoles taken cs with
  | case1 => rfl
  | case2 taken c cs _ ih => rw [List.map_cons, List.map_cons, ih]
  | case3 taken c cs role _ _ ih =>
    rw [List.map_cons, List.map_cons, ih, withoutRole_withoutRole]
  | case4 taken c cs role _ _ ih => rw [List.map_cons, List.map_cons, ih]

theorem find?_field_cons (c : Node) (cs : List Node) (role : Field) :
    (c :: cs).find? (fun d => d.field == some role) =
      if c.field = some role then some c else cs.find? fun d => d.field == some role := by
  by_cases h : c.field = some role <;> simp [h]

/-- The first child in a role that is not taken yet keeps it, and is found as before. -/
theorem find?_settleRoles (taken : List Field) (cs : List Node) (role : Field) :
    (settleRoles taken cs).find? (fun c => c.field == some role) =
      if role ∈ taken then none else cs.find? fun c => c.field == some role := by
  fun_induction settleRoles taken cs with
  | case1 => simp
  | case2 taken c cs hnone ih => simp [hnone, ih]
  | case3 taken c cs other hsome htaken ih =>
    rw [find?_field_cons, find?_field_cons, field_withoutRole, if_neg (by simp), ih, hsome]
    split
    · rfl
    · -- the role of the child is taken, so it is another one
      rename_i hfree
      have hne : other ≠ role := by
        rintro rfl
        exact hfree (List.contains_iff_mem.mp htaken)
      rw [if_neg fun heq => hne (Option.some.inj heq)]
  | case4 taken c cs other hsome hfree ih =>
    rw [find?_field_cons, find?_field_cons, ih, hsome]
    by_cases hrole : other = role
    · have hfree' : role ∉ taken := by
        rw [← hrole]
        exact fun h => hfree (List.contains_iff_mem.mpr h)
      simp [hrole, hfree']
    · simp [hrole, Ne.symm hrole]

/-- What is found in a role is what was found there before settling. -/
theorem child?_settleRoles (kind : Kind) (named : Bool) (field? : Option Field) (text : String)
    (cs : List Node) (role : Field) :
    (mk kind named field? text (settleRoles [] cs)).child? role =
      (mk kind named field? text cs).child? role := by
  rw [child?, child?, children, find?_settleRoles, if_neg List.not_mem_nil]
  rfl

/-- Settled children have different roles, and none that was taken. -/
theorem nodup_roles_settleRoles (taken : List Field) (cs : List Node) :
    ((settleRoles taken cs).filterMap field).Nodup ∧
      ∀ role ∈ (settleRoles taken cs).filterMap field, role ∉ taken := by
  fun_induction settleRoles taken cs with
  | case1 => simp
  | case2 taken c cs hnone ih =>
    rw [List.filterMap_cons_none hnone]
    exact ih
  | case3 taken c cs role _ _ ih =>
    rw [List.filterMap_cons_none (field_withoutRole c)]
    exact ih
  | case4 taken c cs role hsome hfree ih =>
    obtain ⟨hnodup, hother⟩ := ih
    rw [List.filterMap_cons_some hsome]
    constructor
    · exact List.nodup_cons.mpr ⟨fun h => hother role h (List.mem_cons_self ..), hnodup⟩
    · intro r hr
      rcases List.mem_cons.mp hr with rfl | hr
      · exact fun h => hfree (List.contains_iff_mem.mpr h)
      · exact fun h => hother r hr (List.mem_cons_of_mem _ h)

/-! ## §2 Reading -/

/-- A tree in which no two children of a node are in the same role. -/
inductive IsSettled : Node → Prop where
  | mk {kind : Kind} {named : Bool} {field? : Option Field} {text : String} {children : List Node}
      (roles : (children.filterMap field).Nodup) (below : ∀ c ∈ children, IsSettled c) :
      IsSettled (.mk kind named field? text children)

theorem IsSettled.roles (h : n.IsSettled) : (n.children.filterMap field).Nodup := by
  cases h with
  | mk roles below => exact roles

theorem IsSettled.child (h : n.IsSettled) (hc : c ∈ n.children) : c.IsSettled := by
  cases h with
  | mk roles below => exact below c hc

theorem IsSettled.withoutRole (h : n.IsSettled) : n.withoutRole.IsSettled := by
  cases h with
  | mk roles below => exact .mk roles below

theorem isSettled_of_mem_settleRoles (hcs : ∀ c ∈ cs, c.IsSettled) (h : c ∈ settleRoles taken cs) :
    c.IsSettled := by
  have hmem : c.withoutRole ∈ cs.map Node.withoutRole := by
    rw [← map_withoutRole_settleRoles taken cs]
    exact List.mem_map_of_mem h
  obtain ⟨d, hd, heq⟩ := List.mem_map.mp hmem
  -- but for the role, the child is one of those before
  obtain ⟨_, _, _, _, _⟩ := c
  have hsettled := (hcs d hd).withoutRole
  rw [heq] at hsettled
  exact .mk hsettled.roles fun e he => hsettled.child he

/-- One row makes a settled tree out of settled trees. -/
theorem isSettled_addRow {row : Row} {trees trees' : List Node} (h : addRow row trees = some trees')
    (htrees : ∀ n ∈ trees, n.IsSettled) : ∀ n ∈ trees', n.IsSettled := by
  unfold addRow at h
  split at h
  · cases h
    intro n hn
    rcases List.mem_cons.mp hn with rfl | hrest
    · refine .mk (nodup_roles_settleRoles [] _).1 fun c hc => ?_
      exact isSettled_of_mem_settleRoles (fun d hd => htrees d (List.mem_of_mem_take hd)) hc
    · exact htrees n (List.mem_of_mem_drop hrest)
  · cases h

theorem isSettled_of_forestOfRows? {rows : List Row} {trees : List Node}
    (h : forestOfRows? rows = some trees) : ∀ n ∈ trees, n.IsSettled := by
  induction rows generalizing trees with
  | nil =>
    cases h
    exact fun n hn => absurd hn List.not_mem_nil
  | cons row rest ih =>
    obtain ⟨below, hbelow, hrow⟩ := Option.bind_eq_some_iff.mp h
    exact isSettled_addRow hrow (ih hbelow)

/-- **Reading** settles the roles of a tree. -/
theorem isSettled_of_ofRows? {rows : List Row} {tree : Node} (h : ofRows? rows = some tree) :
    tree.IsSettled := by
  unfold ofRows? at h
  split at h
  · rename_i hforest
    cases h
    exact isSettled_of_forestOfRows? hforest tree (List.mem_singleton_self tree)
  · cases h

/-! ## §3 In a role -/

/-- Among children in different roles, each is the one that is found in its role. -/
theorem find?_of_mem_of_field (hroles : (cs.filterMap field).Nodup) (hc : c ∈ cs)
    (hrole : c.field = some role) : cs.find? (fun d => d.field == some role) = some c := by
  induction cs with
  | nil => cases hc
  | cons d ds ih =>
    rcases List.mem_cons.mp hc with rfl | hmem
    · rw [find?_field_cons, if_pos hrole]
    · have hother : d.field ≠ some role := by
        intro hd
        rw [List.filterMap_cons_some hd, List.nodup_cons] at hroles
        exact hroles.1 (List.mem_filterMap.mpr ⟨c, hmem, hrole⟩)
      have hrest : (ds.filterMap field).Nodup :=
        hroles.sublist ((List.sublist_cons_self d ds).filterMap field)
      rw [find?_field_cons, if_neg hother]
      exact ih hrest hmem

theorem IsSettled.child?_eq_some_iff (h : n.IsSettled) (hc : c ∈ n.children) :
    n.child? role = some c ↔ c.field = some role := by
  constructor
  · intro hchild
    simpa using List.find?_some hchild
  · exact find?_of_mem_of_field h.roles hc

end Node

namespace Cursor

/-- Below a settled node, parents are settled and have the nodes as children. -/
theorem eq_or_isSettled_parent {c d : Cursor} (hc : c.node.IsSettled) (h : d ∈ c.preorder) :
    d = c ∨ ∃ p, d.parent? = some p ∧ p.node.IsSettled ∧ d.node ∈ p.node.children := by
  rw [preorder_eq] at h
  rcases List.mem_cons.mp h with rfl | hbelow
  · exact .inl rfl
  · obtain ⟨e, he, hmem⟩ := List.mem_flatMap.mp hbelow
    have hlt := size_lt_of_mem_children he
    obtain ⟨n, hn, rfl⟩ := List.mem_map.mp he
    rcases eq_or_isSettled_parent (hc.child hn) hmem with rfl | hparent
    · exact .inr ⟨c, rfl, hc, hn⟩
    · exact .inr hparent
termination_by c.node.size

/-- **In a role**: in a tree that was read, a node is in a role if it is the child that its parent has
    in that role. -/
theorem isIn_iff_child? {rows : List Row} {tree : Node} (hread : Node.ofRows? rows = some tree)
    {c p : Cursor} (hc : c ∈ (root tree).preorder) (hp : c.parent? = some p) (role : Field) :
    c.isIn role = true ↔ p.node.child? role = some c.node := by
  rcases eq_or_isSettled_parent (Node.isSettled_of_ofRows? hread) hc with rfl | ⟨q, hq, hsettled, hmem⟩
  · -- the root has no parent
    cases hp
  · obtain rfl : p = q := Option.some.inj (hp.symm.trans hq)
    rw [isIn_iff, hsettled.child?_eq_some_iff hmem]

end Cursor

end TsOutline
