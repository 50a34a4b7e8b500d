import TsOutline.Proofs.Path
import TsOutline.Proofs.Rendering

/-!
# Chains of One Operator

A union of three types is parsed as a union of unions, and brackets aside there is more than one tree
for the same three. The text is made from the operands of the whole chain at once. This module says
that this cannot be told from writing every union by itself, and the same of intersections.

- **The operands** (`TypeText.Opens`, `TypeText.opens_iff`): the members from left to right, those of
  the kind of the chain replaced by their own operands.
- **One level** (`TypeText.render_chain`): the operands of the members, joined group by group, are the
  operands of the chain joined at once. An empty chain among the members would leave a gap between two
  operators, so there must be none.
-/

namespace TsOutline

namespace Text

variable {separator : String} {xs ys : List String}

/-! ## §1 Joining groups -/

/-- Groups that are not empty can be joined one by one. -/
theorem join_flatMap {α : Type} {f : α → List String} {items : List α}
    (h : ∀ x ∈ items, f x ≠ []) :
    join separator (items.flatMap f) = join separator (items.map fun x => join separator (f x)) := by
  induction items with
  | nil => rfl
  | cons x rest ih =>
    have hrest : ∀ y ∈ rest, f y ≠ [] := fun y hy => h y (List.mem_cons_of_mem _ hy)
    rw [List.flatMap_cons, List.map_cons]
    by_cases hlast : rest = []
    · rw [hlast, List.flatMap_nil, List.append_nil]
      rfl
    · have hmore : rest.flatMap f ≠ [] := by
        obtain ⟨y, hy⟩ := List.exists_mem_of_ne_nil rest hlast
        obtain ⟨t, ht⟩ := List.exists_mem_of_ne_nil _ (hrest y hy)
        exact List.ne_nil_of_mem (List.mem_flatMap.mpr ⟨y, hy, ht⟩)
      rw [join_append (h x (List.mem_cons_self ..)) hmore, ih hrest,
        Text.join_cons (by simpa using hlast)]

end Text

namespace TypeText

open Text (join)

variable {k : Kind} {op : String} {u v x : Node} {cs ms : List Node} {d : Budget}

/-! ## §2 Operands -/

/-- The members `cs`, from left to right and with every one of kind `k` replaced by what its own
    members open to, are `ms`. -/
inductive Opens (k : Kind) : List Node → List Node → Prop where
  | nil : Opens k [] []
  | operand {c : Node} {cs ms : List Node} : c.kind ≠ k → Opens k cs ms → Opens k (c :: cs) (c :: ms)
  | chain {c : Node} {cs inner ms : List Node} : c.kind = k → Opens k c.members inner →
      Opens k cs ms → Opens k (c :: cs) (inner ++ ms)

/-- What one member contributes to the operands of a chain. -/
def operandsOf (k : Kind) (c : Node) : List Node :=
  if c.kind == k then operands k c else [c]

theorem operands_eq_flatMap (k : Kind) (n : Node) : operands k n = n.members.flatMap (operandsOf k) :=
  operands_eq k n

theorem operandsOf_chain (h : v.kind = k) : operandsOf k v = operands k v := by
  rw [operandsOf, if_pos (beq_iff_eq.mpr h)]

theorem operandsOf_operand (h : v.kind ≠ k) : operandsOf k v = [v] := by
  rw [operandsOf, if_neg (by simpa using h)]

theorem Opens.flatMap_eq (h : Opens k cs ms) : cs.flatMap (operandsOf k) = ms := by
  induction h with
  | nil => rfl
  | operand hc _ ih => rw [List.flatMap_cons, operandsOf_operand hc, ih, List.singleton_append]
  | chain hc _ _ ihinner ih =>
    rw [List.flatMap_cons, operandsOf_chain hc, operands_eq_flatMap, ihinner, ih]

/-- Members open to their operands if the chains among them do. -/
theorem opens_flatMap (h : ∀ c ∈ cs, c.kind = k → Opens k c.members (operands k c)) :
    Opens k cs (cs.flatMap (operandsOf k)) := by
  induction cs with
  | nil => exact .nil
  | cons c cs ih =>
    have hrest := ih fun e he => h e (List.mem_cons_of_mem _ he)
    rw [List.flatMap_cons]
    by_cases hc : c.kind = k
    · rw [operandsOf_chain hc]
      exact .chain hc (h c (List.mem_cons_self ..) hc) hrest
    · rw [operandsOf_operand hc]
      exact .operand hc hrest

theorem opens_operands (k : Kind) (n : Node) : Opens k n.members (operands k n) := by
  rw [operands_eq_flatMap]
  exact opens_flatMap fun c _ _ => opens_operands k c
termination_by n.size
decreasing_by exact Node.size_lt_of_mem_members ‹_›

/-- **The operands** are what the members of a chain open to, and nothing else is. -/
theorem opens_iff : Opens k u.members ms ↔ operands k u = ms := by
  constructor
  · intro h
    rw [operands_eq_flatMap, h.flatMap_eq]
  · rintro rfl
    exact opens_operands k u

/-- No operand is a chain itself. -/
theorem Opens.kind_ne (h : Opens k cs ms) : ∀ m ∈ ms, m.kind ≠ k := by
  induction h with
  | nil => nofun
  | operand hc _ ih =>
    rw [List.forall_mem_cons]
    exact ⟨hc, ih⟩
  | chain _ _ _ ihinner ih =>
    intro m hm
    rcases List.mem_append.mp hm with hinner | hrest
    · exact ihinner m hinner
    · exact ih m hrest

/-! ## §3 Chains within a chain -/

/-- A node of kind `k` below `u` with none but nodes of kind `k` between them. -/
inductive Reaches (k : Kind) : Node → Node → Prop where
  | member {u v : Node} : v ∈ u.members → v.kind = k → Reaches k u v
  | step {u v x : Node} : v ∈ u.members → v.kind = k → Reaches k v x → Reaches k u x

theorem not_reaches (h : ∀ c ∈ u.members, c.kind ≠ k) : ¬Reaches k u x := by
  intro hx
  cases hx with
  | member hmem hkind => exact h x hmem hkind
  | step hmem hkind _ => exact h _ hmem hkind

/-- A chain has operands if neither it nor a chain within it is empty. -/
theorem operands_ne_nil {u : Node} (hu : u.members ≠ []) (h : ∀ x, Reaches k u x → x.members ≠ []) :
    operands k u ≠ [] := by
  -- the first member contributes something
  obtain ⟨c, hc⟩ := List.exists_mem_of_ne_nil _ hu
  have hfirst : operandsOf k c ≠ [] := by
    by_cases hkind : c.kind = k
    · rw [operandsOf_chain hkind]
      exact operands_ne_nil (h c (.member hc hkind)) fun x hx => h x (.step hc hkind hx)
    · rw [operandsOf_operand hkind]
      exact List.cons_ne_nil c []
  obtain ⟨m, hm⟩ := List.exists_mem_of_ne_nil _ hfirst
  rw [operands_eq_flatMap]
  exact List.ne_nil_of_mem (List.mem_flatMap.mpr ⟨c, hc, hm⟩)
termination_by u.size
decreasing_by exact Node.size_lt_of_mem_members hc

/-! ## §4 The text of a chain -/

/-- The operator of a chain, with its spaces. -/
def operator? : Kind → Option String
  | .unionType => some " | "
  | .intersectionType => some " & "
  | _ => none

/-- The text of a chain: a placeholder for a budget that is used up, and else its operands with the
    operator between them. -/
theorem render_of_operator (hk : operator? k = some op) (hu : u.kind = k)
    (hover : d.isOverdrawn = false) :
    render u d =
      if d.isUsedUp then placeholder else join op ((operands k u).map fun c => render c d) := by
  have hplain : u.kind.isAscription = false := by
    rw [hu]
    cases k <;> first | rfl | cases hk
  have hshape : render u d = renderShape u d :=
    render_of_unwrap (Node.unwrap_of_not_isAscription hplain) hover
  rw [hshape, renderShape, hu]
  unfold operator? at hk
  split at hk
  · cases hk
    rfl
  · cases hk
    rfl
  · cases hk

/-- **One level**: a chain is written as its members are, with the operator between them, whether or
    not some of them are chains of the same kind. -/
theorem render_chain (hk : operator? k = some op) (hu : u.kind = k) (hused : d.isUsedUp = false)
    (hover : d.isOverdrawn = false) (hinner : ∀ x, Reaches k u x → x.members ≠ []) :
    render u d = join op (u.members.map fun c => render c d) := by
  have hwhole {n : Node} (hn : n.kind = k) :
      render n d = join op ((operands k n).map fun c => render c d) := by
    rw [render_of_operator hk hn hover, hused, if_neg Bool.false_ne_true]
  -- every member has at least one operand, and is written as its operands are
  have hgroup (c : Node) (hc : c ∈ u.members) :
      operandsOf k c ≠ [] ∧ join op ((operandsOf k c).map fun m => render m d) = render c d := by
    by_cases hkind : c.kind = k
    · rw [operandsOf_chain hkind, ← hwhole hkind]
      exact ⟨operands_ne_nil (hinner c (.member hc hkind)) fun x hx => hinner x (.step hc hkind hx),
        rfl⟩
    · rw [operandsOf_operand hkind]
      exact ⟨List.cons_ne_nil c [], rfl⟩
  calc render u d
      = join op ((u.members.flatMap (operandsOf k)).map fun m => render m d) := by
        rw [hwhole hu, operands_eq_flatMap]
    _ = join op (u.members.flatMap fun c => (operandsOf k c).map fun m => render m d) := by
        rw [List.map_flatMap]
    _ = join op (u.members.map fun c => join op ((operandsOf k c).map fun m => render m d)) := by
        refine Text.join_flatMap fun c hc hempty => ?_
        exact (hgroup c hc).1 (List.map_eq_nil_iff.mp hempty)
    _ = join op (u.members.map fun c => render c d) := by
        rw [List.map_congr_left fun c hc => (hgroup c hc).2]

/-- **Flattening is invisible.** Take a union or an intersection. While some of the budget is left, and
    if no union (no intersection) within it is empty, its text is that of its own members with the
    operator between them, those that are unions (intersections) themselves included. Its operands are
    exactly the nodes that its members open to from left to right, none of them of its own kind; and two
    trees that open to the same nodes, nested to the left, to the right or both, have the same text
    within every budget. -/
theorem flattening_invisible {k : Kind} {op : String} (hk : operator? k = some op) (u : Node)
    (hu : u.kind = k) :
    (∀ d : Budget, d.isUsedUp = false → d.isOverdrawn = false →
      (∀ x, Reaches k u x → x.members ≠ []) →
      render u d = join op (u.members.map fun c => render c d)) ∧
    (∀ ms, Opens k u.members ms ↔ operands k u = ms) ∧
    (∀ m ∈ operands k u, m.kind ≠ k) ∧
    (∀ (v : Node) (ms : List Node) (d : Budget), v.kind = k → Opens k u.members ms →
      Opens k v.members ms → render v d = render u d) := by
  refine ⟨fun d hused hover hinner => render_chain hk hu hused hover hinner, fun ms => opens_iff,
    (opens_operands k u).kind_ne, ?_⟩
  intro v ms d hv hopens hopens'
  by_cases hover : d.isOverdrawn = true
  · rw [render_of_isOverdrawn hover v, render_of_isOverdrawn hover u]
  · rw [Bool.not_eq_true] at hover
    rw [render_of_operator hk hv hover, render_of_operator hk hu hover, opens_iff.mp hopens,
      opens_iff.mp hopens']

/-- A name as a type. -/
def namedType (name : String) : Node :=
  .mk .typeIdentifier true none name []

/-- Two types with a bar between them. -/
def unionOf (a b : Node) : Node :=
  .mk .unionType true none (a.text ++ " | " ++ b.text)
    [a, .mk (.other "|") false none "|" [], b]

/-- Three names united from the left and from the right. -/
theorem unionOf_left_and_right :
    let a := namedType "A"
    let b := namedType "B"
    let c := namedType "C"
    let left := unionOf (unionOf a b) c
    let right := unionOf a (unionOf b c)
    (∀ x, Reaches .unionType left x → x.members ≠ []) ∧
      render left (.ofUnits 1) =
        render (unionOf a b) (.ofUnits 1) ++ " | " ++ render c (.ofUnits 1) ∧
      Opens .unionType left.members [a, b, c] ∧ Opens .unionType right.members [a, b, c] ∧
      render right (.ofUnits 1) = render left (.ofUnits 1) := by
  intro a b c left right
  have hname (n : String) : (namedType n).kind ≠ .unionType := nofun
  have hflat (n m : String) : ∀ e ∈ (unionOf (namedType n) (namedType m)).members,
      e.kind ≠ .unionType := by
    show ∀ e ∈ [namedType n, namedType m], e.kind ≠ .unionType
    simp [hname]
  have hpair (n m : String) : Opens .unionType (unionOf (namedType n) (namedType m)).members
      [namedType n, namedType m] := .operand (hname n) (.operand (hname m) .nil)
  have hleft : Opens .unionType left.members ([a, b] ++ [c]) :=
    .chain rfl (hpair "A" "B") (.operand (hname "C") .nil)
  have hright : Opens .unionType right.members (a :: ([b, c] ++ [])) :=
    .operand (hname "A") (.chain rfl (hpair "B" "C") .nil)
  have hinner : ∀ x, Reaches .unionType left x → x.members ≠ [] := by
    have honly : ∀ e ∈ left.members, e.kind = .unionType → e = unionOf a b := by
      show ∀ e ∈ [unionOf a b, c], e.kind = .unionType → e = unionOf a b
      simp [c, hname]
    intro x hx
    cases hx with
    | member hmem hkind =>
      obtain rfl := honly x hmem hkind
      exact List.cons_ne_nil a [b]
    | step hmem hkind hbelow =>
      obtain rfl := honly _ hmem hkind
      exact absurd hbelow (not_reaches (hflat "A" "B"))
  obtain ⟨hlevel, -, -, hsame⟩ := flattening_invisible rfl left rfl
  exact ⟨hinner, hlevel (.ofUnits 1) rfl rfl hinner, hleft, hright,
    hsame right _ (.ofUnits 1) rfl hleft hright⟩

end TypeText

end TsOutline
