import Mathlib.Order.Bounds.Basic
import TsOutline.Proofs.OneLine.Type

/-!
# Enough Budget Writes a Type in Full

Some shapes of a type spend a unit of the budget on their parts and others pass it on, and the parts
stand one, two or more nodes further down. This module shows that no shape spends more than it
descends, so that a budget as large as the type is high never runs out.

- **Height** (`Node.height`): the number of nodes on the longest path downwards.
- **The text in full** (`TypeText.renderFull`): the same shapes without any budget.
- **One step** (`TypeText.renderShape_eq_fullShape`): a shape that is open writes the same fixed parts
  in both, and each part has enough budget left.
- **The run** (`TypeText.render_eq_renderFull`): by induction on the size of the type.
-/

namespace TsOutline

/-! ## §1 Height -/

namespace Node

mutual

/-- The number of nodes on the longest path downwards. -/
def height : Node → Nat
  | mk _ _ _ _ cs => heightAll cs + 1

/-- The greatest height among several trees. -/
def heightAll : List Node → Nat
  | [] => 0
  | c :: cs => max (height c) (heightAll cs)

end

theorem height_eq (n : Node) : n.height = heightAll n.children + 1 := by
  cases n; rfl

theorem height_le_heightAll {c : Node} {cs : List Node} (h : c ∈ cs) : c.height ≤ heightAll cs := by
  induction cs with
  | nil => cases h
  | cons d ds ih =>
    rw [heightAll]
    rcases List.mem_cons.mp h with rfl | h
    · exact Nat.le_max_left _ _
    · exact Nat.le_trans (ih h) (Nat.le_max_right _ _)

theorem height_lt_of_mem_children {c n : Node} (h : c ∈ n.children) : c.height < n.height := by
  have := height_le_heightAll h
  rw [height_eq n]; omega

/-- Some tree is as high as several trees are together. -/
theorem exists_height_eq_heightAll {cs : List Node} (h : cs ≠ []) :
    ∃ c ∈ cs, c.height = heightAll cs := by
  induction cs with
  | nil => exact absurd rfl h
  | cons c cs ih =>
    rw [heightAll]
    by_cases hle : heightAll cs ≤ c.height
    · exact ⟨c, List.mem_cons_self .., (Nat.max_eq_left hle).symm⟩
    · -- the first tree is not the highest one, so there are others
      have hne : cs ≠ [] := by
        rintro rfl
        exact hle (Nat.zero_le _)
      obtain ⟨d, hd, heq⟩ := ih hne
      exact ⟨d, List.mem_cons_of_mem _ hd, by omega⟩

/-- A path downwards: a node, one of its children, one of that one's children, and so on, broken off
    anywhere. -/
inductive Descent : Node → List Node → Prop where
  | last (n : Node) : Descent n [n]
  | step {n c : Node} {path : List Node} : c ∈ n.children → Descent c path → Descent n (n :: path)

theorem Descent.length_le {n : Node} {path : List Node} (h : n.Descent path) :
    path.length ≤ n.height := by
  induction h with
  | last n =>
    rw [height_eq]
    simp
  | step hc _ ih =>
    have hlt := height_lt_of_mem_children hc
    rw [List.length_cons]
    omega

theorem exists_descent (n : Node) : ∃ path, n.Descent path ∧ path.length = n.height := by
  by_cases hleaf : n.children = []
  · refine ⟨[n], .last n, ?_⟩
    rw [height_eq, hleaf]
    rfl
  · -- follow the highest of the children
    obtain ⟨c, hc, hheight⟩ := exists_height_eq_heightAll hleaf
    have hlt := size_lt_of_mem_children hc
    obtain ⟨path, hpath, hlength⟩ := exists_descent c
    refine ⟨n :: path, .step hc hpath, ?_⟩
    rw [List.length_cons, hlength, height_eq n, hheight]
termination_by n.size

/-- **Height** is the length of the longest path downwards. -/
theorem height_isGreatest (n : Node) :
    IsGreatest {k | ∃ path, n.Descent path ∧ path.length = k} n.height := by
  refine ⟨n.exists_descent, ?_⟩
  rintro k ⟨path, hpath, rfl⟩
  exact hpath.length_le

theorem Inside.eq_or_height_lt {m x : Node} (h : m.Inside x) : x = m ∨ x.height < m.height := by
  induction h with
  | root => exact .inl rfl
  | child _ hc ih =>
    have hlt := height_lt_of_mem_children hc
    right
    rcases ih with rfl | hbelow
    · exact hlt
    · exact Nat.lt_trans hlt hbelow

/-- What lies within a node is lower than the node. -/
theorem Within.height_lt {m x : Node} (h : m.Within x) : x.height < m.height := by
  rcases h.inside.eq_or_height_lt with rfl | hlt
  · exact absurd h.smaller (Nat.lt_irrefl _)
  · exact hlt

theorem height_le_of_unwrap {n m : Node} (h : n.unwrap = some m) : m.height ≤ n.height := by
  rcases (Inside.root.of_unwrap h).eq_or_height_lt with rfl | hlt
  · exact Nat.le_refl _
  · exact Nat.le_of_lt hlt

end Node

/-! ## §2 Budgets that cover a node -/

namespace Budget

/-- The budget has a unit for every node on the longest path downwards. -/
def Covers (d : Budget) (n : Node) : Prop :=
  ofUnits n.height ≤ d

variable {d d' : Budget} {m n x : Node}

theorem covers_iff : d.Covers n ↔ 2 * (n.height : Int) ≤ d.halves :=
  Iff.rfl

/-- A node has a height, so a budget that covers it is neither used up nor overdrawn. -/
theorem Covers.left (h : d.Covers n) : d.isUsedUp = false ∧ d.isOverdrawn = false := by
  rw [covers_iff, Node.height_eq] at h
  exact ⟨decide_eq_false (by omega), decide_eq_false (by omega)⟩

theorem Covers.mono (h : d.Covers n) (hle : d ≤ d') : d'.Covers n :=
  Int.le_trans (covers_iff.mp h) hle

/-- One unit less is enough for what lies within the node. -/
theorem Covers.spend (h : d.Covers m) (hx : m.Within x) : d.spend.Covers x := by
  have hlt := hx.height_lt
  rw [covers_iff] at h ⊢
  show 2 * (x.height : Int) ≤ d.halves - 2
  omega

theorem Covers.of_within (h : d.Covers m) (hx : m.Within x) : d.Covers x := by
  have hlt := hx.height_lt
  rw [covers_iff] at h ⊢
  omega

theorem Covers.of_unwrap (h : d.Covers n) (hm : n.unwrap = some m) : d.Covers m := by
  have hle := Node.height_le_of_unwrap hm
  rw [covers_iff] at h ⊢
  omega

end Budget

namespace TypeText

open Text (join)

/-! ## §3 The text in full -/

/-- The text of a type node, or of the annotation that holds it, without any budget. -/
def renderFull (n : Node) : String :=
  match _hm : n.unwrap with
  | none => placeholder
  | some m =>
    match m.kind with
    | .genericType =>
      let arguments := Node.membersOf (m.child? .typeArguments)
      if arguments.isEmpty then m.nameText
      else m.nameText ++ "<" ++ join ", " (arguments.attach.map fun ⟨a, _h⟩ => renderFull a) ++ ">"
    | .arrayType => (m.first?.attach.map fun ⟨e, _h⟩ => renderFull e).getD placeholder ++ "[]"
    | .unionType => join " | " ((operands .unionType m).attach.map fun ⟨c, _h⟩ => renderFull c)
    | .intersectionType =>
      join " & " ((operands .intersectionType m).attach.map fun ⟨c, _h⟩ => renderFull c)
    | .objectType =>
      if isMapped m then brief mappedLimit m
      else
        "\x7b " ++ join "; " (m.members.attach.map fun ⟨p, _h⟩ =>
          if p.kind == .propertySignature then
            p.nameText ++ optionalMark p ++ ": " ++
              ((p.child? .typeExpr).attach.map fun ⟨t, _ht⟩ => renderFull t).getD placeholder
          else placeholder) ++ " \x7d"
    | .functionType =>
      "(" ++ join ", " (m.parameterNodes.attach.map fun ⟨p, _h⟩ =>
        p.parameterName ++ ": " ++
          (p.parameterType?.attach.map fun ⟨t, _ht⟩ => renderFull t).getD placeholder)
        ++ ") => " ++ ((returned? m).attach.map fun ⟨r, _h⟩ => renderFull r).getD placeholder
    | .tupleType => "[" ++ join ", " (m.members.attach.map fun ⟨e, _h⟩ => renderFull e) ++ "]"
    | .parenthesizedType =>
      "(" ++ (m.first?.attach.map fun ⟨e, _h⟩ => renderFull e).getD placeholder ++ ")"
    | .conditionalType =>
      ((m.child? .left).attach.map fun ⟨t, _h⟩ => renderFull t).getD placeholder ++ " extends " ++
        ((m.child? .right).attach.map fun ⟨t, _h⟩ => renderFull t).getD placeholder ++ " ? " ++
        ((m.child? .consequence).attach.map fun ⟨t, _h⟩ => renderFull t).getD placeholder ++ " : " ++
        ((m.child? .alternative).attach.map fun ⟨t, _h⟩ => renderFull t).getD placeholder
    | .lookupType =>
      match _h : m.members with
      | [a, b] => renderFull a ++ "[" ++ renderFull b ++ "]"
      | _ => brief copyLimit m
    | _ => brief copyLimit m
termination_by n.size
decreasing_by
  all_goals
    have hle := Node.size_le_of_unwrap _hm
    refine Nat.lt_of_lt_of_le ?_ hle
  · exact Node.size_lt_of_mem_membersOf_child? _h
  · exact Node.size_lt_of_first? _h
  · exact size_lt_of_mem_operands _h
  · exact size_lt_of_mem_operands _h
  · exact Nat.lt_trans (Node.size_lt_of_child? _ht) (Node.size_lt_of_mem_members _h)
  · exact Nat.lt_trans (Node.size_lt_of_parameterType? _ht) (Node.size_lt_of_mem_parameterNodes _h)
  · exact size_lt_of_returned? _h
  · exact Node.size_lt_of_mem_members _h
  · exact Node.size_lt_of_first? _h
  · exact Node.size_lt_of_child? _h
  · exact Node.size_lt_of_child? _h
  · exact Node.size_lt_of_child? _h
  · exact Node.size_lt_of_child? _h
  · exact Node.size_lt_of_mem_members (by simp [_h])
  · exact Node.size_lt_of_mem_members (by simp [_h])

/-- The full text of a type that may be missing. -/
def fullOption (n? : Option Node) : String :=
  (n?.map renderFull).getD placeholder

/-- The parameters of a callable, `name: type` each, in full. -/
def fullParameters (callable : Node) : String :=
  join ", " (callable.parameterNodes.map fun p =>
    p.parameterName ++ ": " ++ fullOption p.parameterType?)

/-- A property as `name: type`, in full. -/
def fullMember (member : Node) : String :=
  member.nameText ++ optionalMark member ++ ": " ++ fullOption (member.child? .typeExpr)

/-- The full text of a type without wrappers, one case per shape. -/
def fullShape (m : Node) : String :=
  match m.kind with
  | .genericType =>
    let arguments := Node.membersOf (m.child? .typeArguments)
    if arguments.isEmpty then m.nameText
    else m.nameText ++ "<" ++ join ", " (arguments.map renderFull) ++ ">"
  | .arrayType => fullOption m.first? ++ "[]"
  | .unionType => join " | " ((operands .unionType m).map renderFull)
  | .intersectionType => join " & " ((operands .intersectionType m).map renderFull)
  | .objectType =>
    if isMapped m then brief mappedLimit m
    else
      "\x7b " ++ join "; " (m.members.map fun p =>
        if p.kind == .propertySignature then fullMember p else placeholder) ++ " \x7d"
  | .functionType =>
    "(" ++ fullParameters m ++ ") => " ++ fullOption (returned? m)
  | .tupleType => "[" ++ join ", " (m.members.map renderFull) ++ "]"
  | .parenthesizedType => "(" ++ fullOption m.first? ++ ")"
  | .conditionalType =>
    fullOption (m.child? .left) ++ " extends " ++ fullOption (m.child? .right) ++ " ? " ++
      fullOption (m.child? .consequence) ++ " : " ++ fullOption (m.child? .alternative)
  | .lookupType =>
    match m.members with
    | [a, b] => renderFull a ++ "[" ++ renderFull b ++ "]"
    | _ => brief copyLimit m
  | _ => brief copyLimit m

/-- One step of the full text: unwrap, and write the shape. -/
theorem renderFull_eq (n : Node) : renderFull n = (n.unwrap.map fullShape).getD placeholder := by
  rw [renderFull]
  split
  · rename_i hnone
    rw [hnone]
    rfl
  · rename_i m hm
    rw [hm]
    show _ = fullShape m
    unfold fullShape
    split
    case h_10 =>
      -- an indexed access: the two parts are members
      split <;> simp_all
    all_goals simp [fullMember, fullParameters, fullOption, *]

/-! ## §4 One step -/

section Shape

variable {m : Node} {d : Budget}
variable (ih : ∀ (x : Node) (e : Budget), m.Within x → e.Covers x → render x e = renderFull x)

include ih

theorem renderOption_eq_fullOption_of_within (hd : ∀ x, m.Within x → d.Covers x) {x? : Option Node}
    (hx : ∀ x, x? = some x → m.Within x) : renderOption x? d = fullOption x? := by
  cases x? with
  | none => rfl
  | some x => exact ih x d (hx x rfl) (hd x (hx x rfl))

theorem map_render_eq_of_within (hd : ∀ x, m.Within x → d.Covers x) {xs : List Node}
    (hxs : ∀ x ∈ xs, m.Within x) : (xs.map fun x => render x d) = xs.map renderFull := by
  apply List.map_congr_left
  intro x hx
  exact ih x d (hxs x hx) (hd x (hxs x hx))

theorem renderMember_eq_fullMember_of_mem (hd : ∀ x, m.Within x → d.Covers x) {p : Node}
    (hp : p ∈ m.members) : renderMember p d = fullMember p := by
  unfold renderMember fullMember
  rw [renderOption_eq_fullOption_of_within ih hd]
  intro t ht
  -- the type of a member is two steps down
  exact (Node.within_of_mem_members hp).trans (Node.within_of_child? ht)

theorem renderParameters_eq_fullParameters_of_within (hd : ∀ x, m.Within x → d.Covers x) :
    renderParameters m d = fullParameters m := by
  unfold renderParameters fullParameters
  congr 1
  apply List.map_congr_left
  intro p hp
  rw [renderOption_eq_fullOption_of_within ih hd]
  intro t ht
  exact Node.within_of_parameterType? (Node.within_of_mem_parameterNodes hp) ht

/-- **One step**: a budget that covers a shape opens it, and covers its parts with what is left. -/
theorem renderShape_eq_fullShape (hd : d.Covers m) : renderShape m d = fullShape m := by
  have hkept (x : Node) (hx : m.Within x) : d.Covers x := hd.of_within hx
  have hspent (x : Node) (hx : m.Within x) : d.spend.Covers x := hd.spend hx
  unfold renderShape
  simp only [hd.left.1, Bool.false_eq_true, if_false]
  split
  case h_1 hk =>
    simp only [fullShape, hk]
    rw [map_render_eq_of_within ih hspent fun _ ha => Node.within_of_mem_membersOf ha]
  case h_2 hk =>
    -- an array passes its budget on
    simp only [fullShape, hk]
    rw [renderOption_eq_fullOption_of_within ih hkept fun _ he => Node.within_of_first? he]
  case h_3 hk =>
    -- all operands of a union get the whole budget, however deep they are nested
    simp only [fullShape, hk]
    rw [map_render_eq_of_within ih hkept fun _ hc => Node.within_of_mem_operands hc]
  case h_4 hk =>
    simp only [fullShape, hk]
    rw [map_render_eq_of_within ih hkept fun _ hc => Node.within_of_mem_operands hc]
  case h_5 hk =>
    have hmembers : (m.members.map fun p =>
        if p.kind == .propertySignature then renderMember p d.spend else placeholder) =
        m.members.map fun p =>
          if p.kind == .propertySignature then fullMember p else placeholder := by
      apply List.map_congr_left
      intro p hp
      rw [renderMember_eq_fullMember_of_mem ih hspent hp]
    simp only [fullShape, hk]
    rw [hmembers]
  case h_6 hk =>
    simp only [fullShape, hk]
    rw [renderParameters_eq_fullParameters_of_within ih hspent,
      renderOption_eq_fullOption_of_within ih hspent fun _ hr => Node.within_of_returned? hr]
  case h_7 hk =>
    simp only [fullShape, hk]
    rw [map_render_eq_of_within ih hspent fun _ he => Node.within_of_mem_members he]
  case h_8 hk =>
    -- parentheses pass their budget on
    simp only [fullShape, hk]
    rw [renderOption_eq_fullOption_of_within ih hkept fun _ he => Node.within_of_first? he]
  case h_9 hk =>
    have hpart (f : Field) : renderOption (m.child? f) d.spend = fullOption (m.child? f) :=
      renderOption_eq_fullOption_of_within ih hspent fun _ ht => Node.within_of_child? ht
    simp only [fullShape, hk]
    rw [hpart, hpart, hpart, hpart]
  case h_10 hk =>
    -- an indexed access passes its budget on to both parts
    simp only [fullShape, hk]
    by_cases htwo : ∃ a b, m.members = [a, b]
    · obtain ⟨a, b, hparts⟩ := htwo
      have ha : m.Within a := Node.within_of_mem_members (by simp [hparts])
      have hb : m.Within b := Node.within_of_mem_members (by simp [hparts])
      simp only [hparts, ih a d ha (hkept a ha), ih b d hb (hkept b hb)]
    · -- with any other number of parts it is copied from the source
      split <;> simp_all
  case h_11 =>
    unfold fullShape
    split <;> simp_all

end Shape

/-! ## §5 The run -/

/-- A budget that covers a type writes it in full. -/
theorem render_eq_renderFull {n : Node} {d : Budget} (hd : d.Covers n) :
    render n d = renderFull n := by
  rw [render_eq, renderFull_eq]
  cases hm : n.unwrap with
  | none => rfl
  | some m =>
    have hcovers := hd.of_unwrap hm
    have hsize := Node.size_le_of_unwrap hm
    dsimp only [Option.map_some, Option.getD_some]
    rw [hcovers.left.2, if_neg Bool.false_ne_true]
    apply renderShape_eq_fullShape _ hcovers
    intro x e hx he
    have hlt := hx.smaller
    exact render_eq_renderFull he
termination_by n.size

end TypeText

/-! ## §6 What is left on the way -/

namespace Piece

variable {x : Node} {d e : Budget}

theorem rendered_not_mem_ofName {x? : Option Node} : rendered x e ∉ ofName x? := by
  simp [ofName]

theorem rendered_mem_map_iff {xs : List Node} :
    rendered x e ∈ xs.map (fun n => rendered n d) ↔ x ∈ xs ∧ e = d := by
  simp [@eq_comm _ e]

theorem budget_of_mem_ofType {n? : Option Node} (h : rendered x e ∈ ofType n? d) : e = d :=
  (rendered_mem_map_iff.mp h).2

/-- Next to a type there may stand a name, which needs no budget. -/
theorem budget_of_mem_ofName_append {x? n? : Option Node}
    (h : rendered x e ∈ ofName x? ++ ofType n? d) : e = d := by
  rcases List.mem_append.mp h with h | h
  · exact absurd h rendered_not_mem_ofName
  · exact budget_of_mem_ofType h

end Piece

namespace TypeText

open Piece (budget_of_mem_ofType budget_of_mem_ofName_append rendered_mem_map_iff)

theorem budget_of_mem_parameterPieces {callable x : Node} {d e : Budget}
    (h : Piece.rendered x e ∈ parameterPieces callable d) : e = d := by
  obtain ⟨p, _, hp⟩ := List.mem_flatMap.mp h
  exact budget_of_mem_ofName_append hp

/-- A shape writes the types in it with the budget it has, or with one unit less. -/
theorem budget_of_mem_shapePieces {m x : Node} {d e : Budget}
    (h : Piece.rendered x e ∈ shapePieces m d) : e = d ∨ e = d.spend := by
  unfold shapePieces at h
  split at h
  case h_2 | h_3 =>
    -- arrays and parentheses, and then unions and intersections pass the budget on
    exact .inl (budget_of_mem_ofType h)
  case h_4 | h_5 =>
    split at h
    · cases h
    · exact .inl (rendered_mem_map_iff.mp h).2
  case h_10 =>
    -- so does an indexed access, if it has two parts
    split at h
    · rename_i a b _
      have hmap : Piece.rendered x e ∈ [a, b].map fun n => Piece.rendered n d := h
      exact .inl (rendered_mem_map_iff.mp hmap).2
    · cases h
  case h_11 => cases h
  case h_1 =>
    -- all other shapes spend a unit on each part
    rcases List.mem_append.mp h with h | h
    · exact absurd h Piece.rendered_not_mem_ofName
    · split at h
      · cases h
      · exact .inr (rendered_mem_map_iff.mp h).2
  case h_6 =>
    split at h
    · cases h
    · obtain ⟨p, _, hp⟩ := List.mem_flatMap.mp h
      exact .inr (budget_of_mem_ofName_append hp)
  case h_7 =>
    split at h
    · cases h
    · rcases List.mem_append.mp h with h | h
      · exact .inr (budget_of_mem_parameterPieces h)
      · exact .inr (budget_of_mem_ofType h)
  case h_8 =>
    split at h
    · cases h
    · exact .inr (rendered_mem_map_iff.mp h).2
  case h_9 =>
    split at h
    · cases h
    · obtain ⟨f, _, hf⟩ := List.mem_flatMap.mp h
      exact .inr (budget_of_mem_ofType hf)

/-- The types that are written on the way to the text of a type, each with the budget that is left for
    it. -/
inductive WrittenWith (n : Node) (d : Budget) : Node → Budget → Prop where
  | whole : WrittenWith n d n d
  | part {x y : Node} {e f : Budget} :
      WrittenWith n d x e → Piece.rendered y f ∈ typePieces x e → WrittenWith n d y f

/-- One step on the way: a budget that covers a type leaves enough for the types in it. -/
theorem covers_of_mem_typePieces {x y : Node} {e f : Budget} (he : e.Covers x)
    (h : Piece.rendered y f ∈ typePieces x e) : f.Covers y := by
  unfold typePieces at h
  split at h
  · cases h
  · rename_i m hm
    have hcovers := he.of_unwrap hm
    rw [if_neg (by simp [hcovers.left.2])] at h
    have hwithin : m.Within y := within_of_mem_shapePieces h
    rcases budget_of_mem_shapePieces h with rfl | rfl
    · exact hcovers.of_within hwithin
    · exact hcovers.spend hwithin

theorem WrittenWith.covers {n x : Node} {d e : Budget} (hd : d.Covers n) (h : WrittenWith n d x e) :
    e.Covers x := by
  induction h with
  | whole => exact hd
  | part _ hpart ih => exact covers_of_mem_typePieces ih hpart

/-- **Enough budget is as good as none.** A budget of at least the height of a type, which is the
    number of nodes on the longest path downwards, writes the type in full. No type on the way is
    written with a budget that is used up or overdrawn, which is what all collapsed forms need, and a
    larger budget writes the same. -/
theorem enough_budget_writes_full (n : Node) :
    IsGreatest {k | ∃ path, n.Descent path ∧ path.length = k} n.height ∧
    ∀ d, Budget.ofUnits n.height ≤ d →
      render n d = renderFull n ∧
      (∀ x e, WrittenWith n d x e → e.isUsedUp = false ∧ e.isOverdrawn = false) ∧
      ∀ d', d ≤ d' → render n d' = render n d := by
  refine ⟨n.height_isGreatest, ?_⟩
  intro d hd
  have hfull : render n d = renderFull n := render_eq_renderFull hd
  refine ⟨hfull, ?_, ?_⟩
  · intro x e hwritten
    exact (hwritten.covers hd).left
  · intro d' hle
    have hcovers : d'.Covers n := Budget.Covers.mono hd hle
    rw [hfull, render_eq_renderFull hcovers]

/-- The annotation `: Map<A, B[]>`. -/
def mapAnnotation : Node :=
  .mk .typeAscription true none ": Map<A, B[]>"
    [.mk .genericType true none "Map<A, B[]>"
      [.mk .typeIdentifier true (some .name) "Map" [],
       .mk (.other "type_arguments") true (some .typeArguments) "<A, B[]>"
        [.mk .typeIdentifier true none "A" [],
         .mk .arrayType true none "B[]" [.mk .typeIdentifier true none "B" []]]]]

/-- Five units write this annotation in full, since it is five nodes high. -/
theorem mapAnnotation_in_full :
    Budget.ofUnits mapAnnotation.height ≤ .ofUnits 5 ∧
      render mapAnnotation (.ofUnits 5) = renderFull mapAnnotation ∧
      renderFull mapAnnotation = "Map<A, B[]>" ∧
      render mapAnnotation (.ofUnits 0) = "Map<...>" := by
  have hheight : Budget.ofUnits mapAnnotation.height ≤ .ofUnits 5 :=
    Budget.ofUnits_le_ofUnits.mpr (by decide)
  exact ⟨hheight, ((enough_budget_writes_full mapAnnotation).2 _ hheight).1, by decide +kernel,
    by decide +kernel⟩

end TypeText

end TsOutline
