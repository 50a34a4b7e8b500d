import Mathlib.Data.List.Forall2
import Mathlib.Data.List.Infix
import TsOutline.Proofs.Rendering

/-!
# A Smaller Budget Abbreviates

Two texts of one type, written with two budgets, differ only in pieces that the smaller budget leaves
out. This module says what that means and proves it for every type expression.

- **The relation** (`Abbreviates`): a text is cut into pieces, and each piece is kept or gives way to
  a placeholder; a mapped object type has a placeholder of its own.
- **One step** (`renderShape_abbreviates`): one case per shape of a type. A shape that is opened with
  the larger budget only has a collapsed form made of the same fixed parts.
- **The run** (`render_abbreviates`): by induction on the size of the type.
-/

namespace TsOutline

/-! ## §1 Nodes inside a tree -/

namespace Node

/-- The nodes of a tree: its root, and the children of its nodes. -/
inductive Inside (tree : Node) : Node → Prop where
  | root : Inside tree tree
  | child {n c : Node} : Inside tree n → c ∈ n.children → Inside tree c

namespace Inside

variable {tree n c : Node}

theorem of_mem_members (h : tree.Inside n) (hc : c ∈ n.members) : tree.Inside c :=
  h.child (mem_children_of_mem_members hc)

theorem of_first? (h : tree.Inside n) (hc : n.first? = some c) : tree.Inside c :=
  h.of_mem_members (List.mem_of_mem_head? (Option.mem_def.mpr hc))

theorem of_child? {f : Field} (h : tree.Inside n) (hc : n.child? f = some c) : tree.Inside c :=
  h.child (List.mem_of_find?_eq_some hc)

theorem of_mem_membersOf {n? : Option Node} (h : ∀ m, n? = some m → tree.Inside m)
    (hc : c ∈ membersOf n?) : tree.Inside c := by
  cases n? with
  | none => cases hc
  | some m => exact (h m rfl).of_mem_members hc

theorem of_unwrap (h : tree.Inside n) (hc : n.unwrap = some c) : tree.Inside c := by
  fun_induction unwrap n with
  | case1 n _ d hd ih => exact ih (h.of_first? hd) hc
  | case2 => cases hc
  | case3 => cases hc; exact h

theorem of_mem_parameterNodes (h : tree.Inside n) (hc : c ∈ n.parameterNodes) :
    tree.Inside c := by
  unfold parameterNodes at hc
  split at hc
  · rename_i ps hps
    exact (h.of_child? hps).of_mem_members (List.mem_filter.mp hc).1
  · split at hc
    · rename_i p hp
      rw [List.mem_singleton.mp hc]
      exact h.of_child? hp
    · cases hc

theorem of_parameterType? (h : tree.Inside n) (hc : n.parameterType? = some c) :
    tree.Inside c := by
  unfold parameterType? at hc
  split at hc
  · cases hc
  · obtain ⟨a, ha, hu⟩ := Option.bind_eq_some_iff.mp hc
    exact (h.of_child? ha).of_unwrap hu

theorem of_mem_operands {k : Kind} (h : tree.Inside n) (hc : c ∈ TypeText.operands k n) :
    tree.Inside c := by
  fun_induction TypeText.operands k n with
  | case1 n ih =>
    obtain ⟨⟨d, hd⟩, _, hmem⟩ := List.mem_flatMap.mp hc
    have hinside : tree.Inside d := h.of_mem_members hd
    dsimp only at hmem
    split at hmem
    · exact ih d hd hinside hmem
    · rw [List.mem_singleton.mp hmem]
      exact hinside

theorem of_returned? (h : tree.Inside n) (hc : TypeText.returned? n = some c) :
    tree.Inside c := by
  unfold TypeText.returned? at hc
  split at hc
  · rename_i r hr
    cases hc
    exact h.of_child? hr
  · exact h.of_mem_members (List.mem_filter.mp (List.mem_of_getLast? hc)).1

end Inside

end Node

/-! ## §2 Occurrences -/

namespace Text

theorem containsBlock_iff {part cs : List Char} : containsBlock part cs = true ↔ part <:+: cs := by
  induction cs with
  | nil => simp [containsBlock]
  | cons c cs ih => rw [containsBlock, Bool.or_eq_true, ih, List.isPrefixOf_iff_prefix,
      List.infix_cons_iff]

theorem contains_iff {s part : String} : contains s part = true ↔ part.toList <:+: s.toList :=
  containsBlock_iff

theorem contains_append_left {s part : String} (t : String) (h : contains s part = true) :
    contains (s ++ t) part = true := by
  rw [contains_iff, String.toList_append]
  exact (contains_iff.mp h).trans (List.prefix_append _ _).isInfix

theorem contains_append_right {t part : String} (s : String) (h : contains t part = true) :
    contains (s ++ t) part = true := by
  rw [contains_iff, String.toList_append]
  exact (contains_iff.mp h).trans (List.suffix_append _ _).isInfix

end Text

/-! ## §3 Abbreviations -/

/-- The smaller of two budgets grants fewer halves of a unit. -/
instance : LE Budget := ⟨fun d d' => d.halves ≤ d'.halves⟩

namespace Budget

@[simp] theorem ofUnits_le_ofUnits {n n' : Int} : ofUnits n ≤ ofUnits n' ↔ n ≤ n' := by
  show 2 * n ≤ 2 * n' ↔ n ≤ n'
  omega

theorem spend_le_spend {d d' : Budget} (h : d ≤ d') : d.spend ≤ d'.spend := by
  show d.halves - 2 ≤ d'.halves - 2
  have : d.halves ≤ d'.halves := h
  omega

/-- A budget above one that is not overdrawn is the same one, or it has something left. -/
theorem eq_or_left {d d' : Budget} (h : d ≤ d') (hd : d.isOverdrawn = false) :
    d = d' ∨ (d'.isUsedUp = false ∧ d'.isOverdrawn = false) := by
  have hle : d.halves ≤ d'.halves := h
  have hpos : ¬ d.halves < 0 := of_decide_eq_false hd
  by_cases heq : d.halves = d'.halves
  · left
    cases d
    cases d'
    exact congrArg Budget.mk heq
  · right
    exact ⟨decide_eq_false (by omega), decide_eq_false (by omega)⟩

end Budget

namespace TypeText

open Text (join contains)

/-- The collapsed form of a mapped object type. -/
def mappedPlaceholder : String := "\x7b [K in ...]: ... \x7d"

/-- **Abbreviation**: the second text is cut into disjoint pieces, and the first text is what remains
    when each piece is kept or gives way to a placeholder. -/
inductive Abbreviates (tree : Node) : String → String → Prop where
  /-- A piece is kept character for character. -/
  | kept (piece : String) : Abbreviates tree piece piece
  /-- A piece, perhaps an empty one, gives way to the placeholder. -/
  | omitted (piece : String) : Abbreviates tree placeholder piece
  /-- The text of a mapped object type of the tree gives way to its collapsed form. -/
  | collapsed {m : Node} : tree.Inside m → isMapped m = true →
      Abbreviates tree mappedPlaceholder (brief mappedLimit m)
  /-- Pieces stand one after the other. -/
  | append {s t s' t' : String} : Abbreviates tree s t → Abbreviates tree s' t' →
      Abbreviates tree (s ++ s') (t ++ t')

namespace Abbreviates

variable {tree : Node}

theorem join {separator : String} {ss ts : List String}
    (h : List.Forall₂ (Abbreviates tree) ss ts) :
    Abbreviates tree (Text.join separator ss) (Text.join separator ts) := by
  induction h with
  | nil => exact .kept _
  | cons hfirst hrest ih =>
    cases hrest with
    | nil => exact hfirst
    | cons hsecond hmore => exact (hfirst.append (.kept _)).append ih

/-- The same parts in the same order, each abbreviated. -/
theorem join_map {separator : String} {cs : List Node} {f g : Node → String}
    (h : ∀ c ∈ cs, Abbreviates tree (f c) (g c)) :
    Abbreviates tree (Text.join separator (cs.map f)) (Text.join separator (cs.map g)) := by
  apply join
  rw [List.forall₂_map_left_iff, List.forall₂_map_right_iff, List.forall₂_same]
  exact h

/-- Where no placeholder stands, nothing was left out. -/
theorem eq_of_not_contains {s t : String} (h : Abbreviates tree s t)
    (hs : contains s placeholder = false) : t = s := by
  -- both placeholders hold the dots, so only kept pieces are left, and these are equal
  induction h with
  | kept => rfl
  | omitted => exact absurd hs (by decide)
  | collapsed => exact absurd hs (by decide)
  | @append s t s' t' _ _ ih ih' =>
    have hleft : contains s placeholder = false := by
      by_contra hne
      rw [Text.contains_append_left s' (by simpa using hne)] at hs
      cases hs
    have hright : contains s' placeholder = false := by
      by_contra hne
      rw [Text.contains_append_right s (by simpa using hne)] at hs
      cases hs
    rw [ih hleft, ih' hright]

end Abbreviates

/-! ## §4 One step -/

section Shape

variable {tree m : Node} (hm : tree.Inside m)
variable (ih : ∀ (c : Node) (d d' : Budget), c.size < m.size → tree.Inside c → d ≤ d' →
  Abbreviates tree (render c d) (render c d'))
variable {d d' : Budget} (hle : d ≤ d')

include ih hle

theorem renderOption_abbreviates_of_smaller {c? : Option Node}
    (hc : ∀ c, c? = some c → c.size < m.size ∧ tree.Inside c) :
    Abbreviates tree (renderOption c? d) (renderOption c? d') := by
  cases c? with
  | none => exact .kept _
  | some c =>
    obtain ⟨hlt, hinside⟩ := hc c rfl
    exact ih c d d' hlt hinside hle

theorem join_render_abbreviates (separator : String) {cs : List Node}
    (hcs : ∀ c ∈ cs, c.size < m.size ∧ tree.Inside c) :
    Abbreviates tree (join separator (cs.map fun c => render c d))
      (join separator (cs.map fun c => render c d')) := by
  apply Abbreviates.join_map
  intro c hc
  obtain ⟨hlt, hinside⟩ := hcs c hc
  exact ih c d d' hlt hinside hle

include hm

theorem renderOption_child_abbreviates (f : Field) :
    Abbreviates tree (renderOption (m.child? f) d) (renderOption (m.child? f) d') := by
  apply renderOption_abbreviates_of_smaller ih hle
  intro c hc
  exact ⟨Node.size_lt_of_child? hc, hm.of_child? hc⟩

theorem renderOption_first_abbreviates :
    Abbreviates tree (renderOption m.first? d) (renderOption m.first? d') := by
  apply renderOption_abbreviates_of_smaller ih hle
  intro c hc
  exact ⟨Node.size_lt_of_first? hc, hm.of_first? hc⟩

theorem renderMember_abbreviates_of_mem {p : Node} (hp : p ∈ m.members) :
    Abbreviates tree (renderMember p d) (renderMember p d') := by
  have htype : Abbreviates tree (renderOption (p.child? .typeExpr) d)
      (renderOption (p.child? .typeExpr) d') := by
    apply renderOption_abbreviates_of_smaller ih hle
    intro t ht
    -- the type of a member is two steps down
    have hlt := Nat.lt_trans (Node.size_lt_of_child? ht) (Node.size_lt_of_mem_members hp)
    exact ⟨hlt, (hm.of_mem_members hp).of_child? ht⟩
  exact (Abbreviates.kept _).append htype

theorem renderParameters_abbreviates_of_smaller :
    Abbreviates tree (renderParameters m d) (renderParameters m d') := by
  apply Abbreviates.join_map
  intro p hp
  have htype : Abbreviates tree (renderOption p.parameterType? d)
      (renderOption p.parameterType? d') := by
    apply renderOption_abbreviates_of_smaller ih hle
    intro t ht
    have hlt := Nat.lt_trans (Node.size_lt_of_parameterType? ht)
      (Node.size_lt_of_mem_parameterNodes hp)
    exact ⟨hlt, (hm.of_mem_parameterNodes hp).of_parameterType? ht⟩
  exact (Abbreviates.kept _).append htype

/-- The shape of a type is abbreviated if all smaller types are. Only a budget that is used up to the
    point has collapsed forms, and each is made of the fixed parts of the open form. -/
theorem renderShape_abbreviates (hleft : d'.isUsedUp = false) :
    Abbreviates tree (renderShape m d) (renderShape m d') := by
  have hspend : d.spend ≤ d'.spend := Budget.spend_le_spend hle
  -- the larger budget opens every shape, so only the smaller one has two cases
  unfold renderShape
  simp only [hleft, Bool.false_eq_true, if_false]
  split
  · -- type arguments
    split
    · exact .kept _
    · split
      · exact ((Abbreviates.kept _).append (.omitted _)).append (.kept _)
      · refine ((Abbreviates.kept _).append (join_render_abbreviates ih hspend ", " ?_)).append
          (.kept _)
        intro c hc
        exact ⟨Node.size_lt_of_mem_membersOf_child? hc,
          .of_mem_membersOf (fun _ hp => hm.of_child? hp) hc⟩
  · -- an array passes its budget on
    exact (renderOption_first_abbreviates hm ih hle).append (.kept _)
  · -- a union, and then an intersection
    split
    · exact .omitted _
    · apply join_render_abbreviates ih hle
      intro c hc
      exact ⟨size_lt_of_mem_operands hc, hm.of_mem_operands hc⟩
  · split
    · exact .omitted _
    · apply join_render_abbreviates ih hle
      intro c hc
      exact ⟨size_lt_of_mem_operands hc, hm.of_mem_operands hc⟩
  · -- an object: a mapped one is opened as a whole, any other one member by member
    by_cases hmapped : isMapped m = true
    · simp only [hmapped, if_true]
      split
      · exact .collapsed hm hmapped
      · exact .kept _
    · simp only [hmapped, Bool.false_eq_true, if_false]
      split
      · exact ((Abbreviates.kept "\x7b ").append (.omitted _)).append (.kept " \x7d")
      · refine ((Abbreviates.kept _).append (.join_map ?_)).append (.kept _)
        intro p hp
        split
        · exact renderMember_abbreviates_of_mem hm ih hspend hp
        · exact .kept _
  · -- a function
    have hparameters := renderParameters_abbreviates_of_smaller hm ih hspend
    have hreturned : Abbreviates tree (renderOption (returned? m) d.spend)
        (renderOption (returned? m) d'.spend) := by
      apply renderOption_abbreviates_of_smaller ih hspend
      intro c hc
      exact ⟨size_lt_of_returned? hc, hm.of_returned? hc⟩
    split
    · exact (((Abbreviates.kept "(").append (.omitted _)).append (.kept ") => ")).append (.omitted _)
    · exact (((Abbreviates.kept _).append hparameters).append (.kept _)).append hreturned
  · -- a tuple
    split
    · exact ((Abbreviates.kept "[").append (.omitted _)).append (.kept "]")
    · refine ((Abbreviates.kept _).append (join_render_abbreviates ih hspend ", " ?_)).append
        (.kept _)
      intro c hc
      exact ⟨Node.size_lt_of_mem_members hc, hm.of_mem_members hc⟩
  · -- parentheses pass their budget on
    exact ((Abbreviates.kept _).append (renderOption_first_abbreviates hm ih hle)).append (.kept _)
  · -- a conditional type: the collapsed form has one placeholder for both sides of the test
    have hpart (f : Field) := renderOption_child_abbreviates hm ih hspend f
    split
    · exact ((((Abbreviates.omitted _).append (.kept " ? ")).append (.omitted _)).append
        (.kept " : ")).append (.omitted _)
    · exact (((((((hpart _).append (.kept _)).append (hpart _)).append (.kept _)).append
        (hpart _)).append (.kept _)).append (hpart _))
  · -- an indexed access passes its budget on to both parts
    split
    · rename_i a b hparts
      have ha : a ∈ m.members := by simp [hparts]
      have hb : b ∈ m.members := by simp [hparts]
      have hfirst := ih a d d' (Node.size_lt_of_mem_members ha) (hm.of_mem_members ha) hle
      have hsecond := ih b d d' (Node.size_lt_of_mem_members hb) (hm.of_mem_members hb) hle
      exact ((hfirst.append (.kept _)).append hsecond).append (.kept _)
    · exact .kept _
  · exact .kept _

end Shape

/-! ## §5 The run -/

/-- **Types**: a smaller budget abbreviates the text of a type. -/
theorem render_abbreviates {tree n : Node} {d d' : Budget} (hle : d ≤ d') (hn : tree.Inside n) :
    Abbreviates tree (render n d) (render n d') := by
  rw [render_eq, render_eq]
  cases hm : n.unwrap with
  | none => exact .kept _
  | some m =>
    have hsize := Node.size_le_of_unwrap hm
    show Abbreviates tree (if d.isOverdrawn then placeholder else renderShape m d)
      (if d'.isOverdrawn then placeholder else renderShape m d')
    by_cases hover : d.isOverdrawn = true
    · -- an overdrawn budget leaves the whole type out
      rw [if_pos hover]
      exact .omitted _
    · rcases Budget.eq_or_left hle (by simpa using hover) with rfl | ⟨hleft, hover'⟩
      · exact .kept _
      · -- the smaller budget is used up at most, the larger one is not
        rw [if_neg hover, hover', if_neg Bool.false_ne_true]
        exact renderShape_abbreviates (hn.of_unwrap hm)
          (fun c e e' hc hinside he => render_abbreviates he hinside) hle hleft
termination_by n.size
decreasing_by omega

variable {tree : Node} {d d' : Budget}

theorem renderOption_abbreviates (hle : d ≤ d') {n? : Option Node}
    (hn : ∀ n, n? = some n → tree.Inside n) :
    Abbreviates tree (renderOption n? d) (renderOption n? d') := by
  cases n? with
  | none => exact .kept _
  | some n => exact render_abbreviates hle (hn n rfl)

theorem renderParameters_abbreviates (hle : d ≤ d') {n : Node} (hn : tree.Inside n) :
    Abbreviates tree (renderParameters n d) (renderParameters n d') :=
  renderParameters_abbreviates_of_smaller hn
    (fun _ _ _ _ hinside he => render_abbreviates he hinside) hle

theorem renderMember_abbreviates (hle : d ≤ d') {n : Node} (hn : tree.Inside n) :
    Abbreviates tree (renderMember n d) (renderMember n d') :=
  (Abbreviates.kept _).append (renderOption_abbreviates hle fun _ ht => hn.of_child? ht)

end TypeText

end TsOutline
