import TsOutline.Proofs.Coherence
import TsOutline.Proofs.Depth.Abbreviation
import TsOutline.Proofs.Path

/-!
# Types on One Line

Which line feeds of the source get into the text of a type. A text is put together from fixed words and
from pieces: nodes whose text is copied as it stands, and types that are rendered in turn. Everything
else that is taken from the source is collapsed first.

- **Pieces** (`Piece`, `TypeText.shapePieces`): what the text of one type is put together from.
- **One step** (`TypeText.oneLine_renderShape_iff`): a shape is on one line exactly if its pieces are.
- **The run** (`Piece.oneLine_iff`): a piece is on one line exactly if every node is whose text is
  copied on the way down.
-/

namespace TsOutline

/-! ## §1 Texts without line feeds -/

namespace Text

/-- The text has no line feed. -/
def OneLine (s : String) : Prop :=
  '\n' ∉ s.toList

instance (s : String) : Decidable (OneLine s) :=
  inferInstanceAs (Decidable ('\n' ∉ s.toList))

variable {s t : String}

@[simp] theorem oneLine_append : OneLine (s ++ t) ↔ OneLine s ∧ OneLine t := by
  simp [OneLine]

theorem oneLine_join {separator : String} (h : OneLine separator) {parts : List String} :
    OneLine (join separator parts) ↔ ∀ p ∈ parts, OneLine p := by
  rw [OneLine, mem_toList_join h]
  simp [OneLine]

theorem newline_not_mem_collapseFrom ( inRun : Bool) (cs : List Char) :
    '\n' ∉ collapseFrom inRun cs := by
  fun_induction collapseFrom inRun cs with
  | case1 => exact List.not_mem_nil
  | case2 c cs _ ih => exact ih
  | case3 _ c cs _ _ ih =>
    intro hmem
    rcases List.mem_cons.mp hmem with hspace | hrest
    · exact absurd hspace (by decide)
    · exact ih hrest
  | case4 _ c cs hblank ih =>
    -- a line feed is a blank, so it is not kept here
    intro hmem
    rcases List.mem_cons.mp hmem with hfirst | hrest
    · exact hblank (hfirst ▸ by decide)
    · exact ih hrest

@[simp] theorem oneLine_collapse (s : String) : OneLine (collapse s) := by
  rw [OneLine, collapse, String.toList_ofList]
  exact newline_not_mem_collapseFrom false s.toList

theorem OneLine.clip (h : OneLine s) (limit : Int) : OneLine (Text.clip limit s) := by
  unfold Text.clip
  split
  · rw [oneLine_append]
    refine ⟨?_, by decide⟩
    rw [OneLine, String.toList_ofList]
    exact fun hmem => h (List.mem_of_mem_take hmem)
  · exact h

theorem OneLine.trim (h : OneLine s) : OneLine (Text.trim s) := by
  rw [OneLine, Text.trim, String.toList_ofList]
  intro hmem
  -- trimming drops characters and adds none
  have hdropped := List.mem_reverse.mp ((List.dropWhile_suffix _).mem (List.mem_reverse.mp hmem))
  exact h ((List.dropWhile_suffix _).mem hdropped)

end Text

open Text (OneLine)

/-! ## §2 Nodes within a node -/

namespace Node

variable {tree m n x : Node}

theorem Inside.trans (h : tree.Inside n) (hx : n.Inside x) : tree.Inside x := by
  induction hx with
  | root => exact h
  | child _ hc ih => exact ih.child hc

/-- The node lies inside another one and is smaller. -/
structure Within (m x : Node) : Prop where
  inside : m.Inside x
  smaller : x.size < m.size

theorem within_of_mem_members (h : x ∈ m.members) : m.Within x :=
  ⟨.of_mem_members .root h, size_lt_of_mem_members h⟩

theorem within_of_first? (h : m.first? = some x) : m.Within x :=
  ⟨.of_first? .root h, size_lt_of_first? h⟩

theorem within_of_child? {f : Field} (h : m.child? f = some x) : m.Within x :=
  ⟨.of_child? .root h, size_lt_of_child? h⟩

theorem within_of_mem_operands {k : Kind} (h : x ∈ TypeText.operands k m) : m.Within x :=
  ⟨.of_mem_operands .root h, TypeText.size_lt_of_mem_operands h⟩

theorem within_of_returned? (h : TypeText.returned? m = some x) : m.Within x :=
  ⟨.of_returned? .root h, TypeText.size_lt_of_returned? h⟩

theorem within_of_mem_parameterNodes (h : x ∈ m.parameterNodes) : m.Within x :=
  ⟨.of_mem_parameterNodes .root h, size_lt_of_mem_parameterNodes h⟩

theorem Within.trans (h : m.Within n) (hx : n.Within x) : m.Within x :=
  ⟨h.inside.trans hx.inside, Nat.lt_trans hx.smaller h.smaller⟩

theorem within_of_mem_membersOf {f : Field} (h : x ∈ membersOf (m.child? f)) : m.Within x := by
  cases hc : m.child? f with
  | none =>
    rw [hc] at h
    cases h
  | some n =>
    rw [hc] at h
    exact (within_of_child? hc).trans (within_of_mem_members h)

/-- The node whose text is the name of a parameter. -/
def parameterNameNode? (p : Node) : Option Node :=
  if p.kind == .identifier then some p else p.parameterPattern?

theorem parameterName_eq (p : Node) : p.parameterName = textOf p.parameterNameNode? := by
  unfold parameterName parameterNameNode?
  split <;> rfl

theorem within_of_parameterNameNode? {p : Node} (hp : m.Within p)
    (h : p.parameterNameNode? = some x) : m.Within x := by
  unfold parameterNameNode? parameterPattern? at h
  split at h
  · cases h
    exact hp
  · split at h
    · rename_i hpattern
      cases h
      exact hp.trans (within_of_child? hpattern)
    · split at h
      · rename_i hname
        cases h
        exact hp.trans (within_of_child? hname)
      · exact hp.trans (within_of_first? h)

theorem within_of_parameterType? {p : Node} (hp : m.Within p) (h : p.parameterType? = some x) :
    m.Within x :=
  hp.trans ⟨.of_parameterType? .root h, size_lt_of_parameterType? h⟩

end Node

/-! ## §3 Pieces -/

/-- A piece of a text: a node that is copied as it stands, or a type that is rendered within a
    budget. -/
inductive Piece where
  | copied (x : Node)
  | rendered (n : Node) (d : Budget)

namespace Piece

/-- The node that the piece is taken from. -/
def node : Piece → Node
  | copied x => x
  | rendered n _ => n

/-- What stands in the text. -/
def text : Piece → String
  | copied x => x.text
  | rendered n d => TypeText.render n d

/-- The text of a node that may be missing. -/
def ofName (x? : Option Node) : List Piece :=
  x?.toList.map copied

/-- A type that may be missing. -/
def ofType (n? : Option Node) (d : Budget) : List Piece :=
  n?.toList.map fun n => rendered n d

/-- No piece has a line feed. -/
def AllOneLine (ps : List Piece) : Prop :=
  ∀ p ∈ ps, OneLine p.text

section AllOneLine

variable {α : Type} {ps qs : List Piece}

@[simp] theorem allOneLine_nil : AllOneLine [] :=
  fun _ h => absurd h List.not_mem_nil

@[simp] theorem allOneLine_append : AllOneLine (ps ++ qs) ↔ AllOneLine ps ∧ AllOneLine qs :=
  List.forall_mem_append

@[simp] theorem allOneLine_flatMap (l : List α) (f : α → List Piece) :
    AllOneLine (l.flatMap f) ↔ ∀ a ∈ l, AllOneLine (f a) :=
  List.forall_mem_flatMap

@[simp] theorem allOneLine_rendered (l : List Node) (d : Budget) :
    AllOneLine (l.map fun n => rendered n d) ↔ ∀ n ∈ l, OneLine (TypeText.render n d) :=
  List.forall_mem_map

@[simp] theorem allOneLine_ofName (x? : Option Node) :
    AllOneLine (ofName x?) ↔ OneLine (Node.textOf x?) := by
  cases x? with
  | none => simp [ofName, Node.textOf, OneLine]
  | some x => simp [ofName, Node.textOf, AllOneLine, text]

@[simp] theorem allOneLine_ofType (n? : Option Node) (d : Budget) :
    AllOneLine (ofType n? d) ↔ OneLine (TypeText.renderOption n? d) := by
  cases n? with
  | none =>
    have hplaceholder : OneLine TypeText.placeholder := by decide
    simp [ofType, TypeText.renderOption, hplaceholder]
  | some n => simp [ofType, TypeText.renderOption, AllOneLine, text]

end AllOneLine

theorem within_of_mem_ofName {m : Node} {x? : Option Node} {p : Piece} (h : p ∈ ofName x?)
    (hx : ∀ x, x? = some x → m.Within x) : m.Within p.node := by
  obtain ⟨x, hmem, rfl⟩ := List.mem_map.mp h
  exact hx x (Option.mem_toList.mp hmem)

theorem within_of_mem_ofType {m : Node} {n? : Option Node} {d : Budget} {p : Piece}
    (h : p ∈ ofType n? d) (hn : ∀ n, n? = some n → m.Within n) : m.Within p.node := by
  obtain ⟨n, hmem, rfl⟩ := List.mem_map.mp h
  exact hn n (Option.mem_toList.mp hmem)

end Piece

namespace TypeText

open Piece (ofName ofType)

/-- The pieces of a parameter list. -/
def parameterPieces (callable : Node) (d : Budget) : List Piece :=
  callable.parameterNodes.flatMap fun p =>
    ofName p.parameterNameNode? ++ ofType p.parameterType? d

/-- The pieces of a property. -/
def memberPieces (member : Node) (d : Budget) : List Piece :=
  ofName member.name? ++ ofType (member.child? .typeExpr) d

/-- The pieces of a type without wrappers, one case per shape. Shapes that the budget collapses have
    none, and neither have those that are copied from the source on one line. -/
def shapePieces (m : Node) (d : Budget) : List Piece :=
  match m.kind with
  | .genericType =>
    ofName m.name? ++ if d.isUsedUp then []
      else (Node.membersOf (m.child? .typeArguments)).map fun a => .rendered a d.spend
  | .arrayType | .parenthesizedType => ofType m.first? d
  | .unionType => if d.isUsedUp then [] else (operands .unionType m).map fun c => .rendered c d
  | .intersectionType =>
    if d.isUsedUp then [] else (operands .intersectionType m).map fun c => .rendered c d
  | .objectType =>
    if isMapped m || d.isUsedUp then []
    else (m.members.filter fun p => p.kind == .propertySignature).flatMap fun p =>
      memberPieces p d.spend
  | .functionType =>
    if d.isUsedUp then [] else parameterPieces m d.spend ++ ofType (returned? m) d.spend
  | .tupleType => if d.isUsedUp then [] else m.members.map fun e => .rendered e d.spend
  | .conditionalType =>
    if d.isUsedUp then []
    else [Field.left, .right, .consequence, .alternative].flatMap fun f =>
      ofType (m.child? f) d.spend
  | .lookupType =>
    match m.members with
    | [a, b] => [.rendered a d, .rendered b d]
    | _ => []
  | _ => []

/-- The pieces of a type: those of its shape, unless the budget is overdrawn. -/
def typePieces (n : Node) (d : Budget) : List Piece :=
  match n.unwrap with
  | none => []
  | some m => if d.isOverdrawn then [] else shapePieces m d

@[simp] theorem allOneLine_parameterPieces (callable : Node) (d : Budget) :
    Piece.AllOneLine (parameterPieces callable d) ↔ OneLine (renderParameters callable d) := by
  have hcomma : OneLine ", " := by decide
  simp +decide [parameterPieces, renderParameters, Text.oneLine_join hcomma, Node.parameterName_eq]

@[simp] theorem allOneLine_memberPieces (member : Node) (d : Budget) :
    Piece.AllOneLine (memberPieces member d) ↔ OneLine (renderMember member d) := by
  have hmark : OneLine (optionalMark member) := by
    unfold optionalMark
    split <;> decide
  simp +decide [memberPieces, renderMember, hmark, Node.nameText]

theorem oneLine_brief (limit : Int) (n : Node) : OneLine (brief limit n) :=
  (Text.oneLine_collapse n.text).clip limit

/-- **One step**: the text of a shape is on one line exactly if its pieces are. -/
theorem oneLine_renderShape_iff (m : Node) (d : Budget) :
    OneLine (renderShape m d) ↔ Piece.AllOneLine (shapePieces m d) := by
  have hcomma : OneLine ", " := by decide
  have hsemicolon : OneLine "; " := by decide
  have hbar : OneLine " | " := by decide
  have hand : OneLine " & " := by decide
  unfold renderShape
  split
  case h_1 hk =>
    simp only [shapePieces, hk]
    by_cases hempty : Node.membersOf (m.child? .typeArguments) = []
    · simp [hempty, Node.nameText]
    · by_cases hused : d.isUsedUp = true
      · simp +decide [hempty, hused, Node.nameText]
      · simp +decide [hempty, hused, Node.nameText, Text.oneLine_join hcomma]
  case h_2 hk =>
    simp +decide [shapePieces, hk]
  case h_3 hk =>
    simp only [shapePieces, hk]
    split
    · simp +decide
    · simp [Text.oneLine_join hbar]
  case h_4 hk =>
    simp only [shapePieces, hk]
    split
    · simp +decide
    · simp [Text.oneLine_join hand]
  case h_5 hk =>
    simp only [shapePieces, hk]
    by_cases hmapped : isMapped m = true
    · by_cases hused : d.isUsedUp = true
      · simp +decide [hmapped, hused]
      · simp [hmapped, hused, oneLine_brief]
    · by_cases hused : d.isUsedUp = true
      · simp +decide [hmapped, hused]
      · -- members without a name and a type of their own are a placeholder
        have hmember (p : Node) : OneLine (if p.kind = .propertySignature then
            renderMember p d.spend else placeholder) ↔
            (p.kind = .propertySignature → OneLine (renderMember p d.spend)) := by
          by_cases hp : p.kind = .propertySignature <;> simp +decide [hp]
        simp +decide [hmapped, hused, Text.oneLine_join hsemicolon, hmember]
  case h_6 hk =>
    simp only [shapePieces, hk]
    split
    · simp +decide
    · simp +decide
  case h_7 hk =>
    simp only [shapePieces, hk]
    split
    · simp +decide
    · simp +decide [Text.oneLine_join hcomma]
  case h_8 hk =>
    simp +decide [shapePieces, hk]
  case h_9 hk =>
    simp only [shapePieces, hk]
    split
    · simp +decide
    · simp +decide [and_assoc]
  case h_10 hk =>
    -- only an indexed access of two parts is not copied
    simp only [shapePieces, hk]
    rcases m.members with _ | ⟨a, _ | ⟨b, _ | ⟨c, rest⟩⟩⟩
    · simp [oneLine_brief]
    · simp [oneLine_brief]
    · simp +decide [Piece.AllOneLine, Piece.text]
    · simp [oneLine_brief]
  case h_11 =>
    have hnone : shapePieces m d = [] := by
      unfold shapePieces
      split <;> simp_all
    simp [hnone, oneLine_brief]

theorem oneLine_render_iff (n : Node) (d : Budget) :
    OneLine (render n d) ↔ Piece.AllOneLine (typePieces n d) := by
  have hplaceholder : OneLine placeholder := by decide
  rw [render_eq, typePieces]
  cases n.unwrap with
  | none => simp [hplaceholder]
  | some m =>
    dsimp only
    split
    · simp [hplaceholder]
    · exact oneLine_renderShape_iff m d

/-! ## §4 Where the pieces come from -/

variable {m n : Node} {d : Budget} {p : Piece}

theorem within_of_mem_parameterPieces (h : p ∈ parameterPieces m d) : m.Within p.node := by
  obtain ⟨q, hq, hp⟩ := List.mem_flatMap.mp h
  have hwithin := Node.within_of_mem_parameterNodes hq
  rcases List.mem_append.mp hp with hname | htype
  · exact Piece.within_of_mem_ofName hname fun _ hx => Node.within_of_parameterNameNode? hwithin hx
  · exact Piece.within_of_mem_ofType htype fun _ ht => Node.within_of_parameterType? hwithin ht

theorem within_of_mem_memberPieces (h : p ∈ memberPieces m d) : m.Within p.node := by
  rcases List.mem_append.mp h with hname | htype
  · exact Piece.within_of_mem_ofName hname fun _ hx => Node.within_of_child? hx
  · exact Piece.within_of_mem_ofType htype fun _ ht => Node.within_of_child? ht

theorem within_of_mem_rendered {l : List Node} (h : p ∈ l.map fun n => Piece.rendered n d)
    (hl : ∀ n ∈ l, m.Within n) : m.Within p.node := by
  obtain ⟨n, hn, rfl⟩ := List.mem_map.mp h
  exact hl n hn

/-- The pieces of a shape are taken from within it. -/
theorem within_of_mem_shapePieces (h : p ∈ shapePieces m d) : m.Within p.node := by
  unfold shapePieces at h
  split at h
  case h_1 =>
    rcases List.mem_append.mp h with hname | harguments
    · exact Piece.within_of_mem_ofName hname fun _ hx => Node.within_of_child? hx
    · split at harguments
      · cases harguments
      · exact within_of_mem_rendered harguments fun _ ha => Node.within_of_mem_membersOf ha
  case h_2 | h_3 => exact Piece.within_of_mem_ofType h fun _ he => Node.within_of_first? he
  case h_4 | h_5 =>
    split at h
    · cases h
    · exact within_of_mem_rendered h fun _ hc => Node.within_of_mem_operands hc
  case h_6 =>
    split at h
    · cases h
    · obtain ⟨q, hq, hp⟩ := List.mem_flatMap.mp h
      have hwithin := Node.within_of_mem_members (List.mem_filter.mp hq).1
      exact hwithin.trans (within_of_mem_memberPieces hp)
  case h_7 =>
    split at h
    · cases h
    · rcases List.mem_append.mp h with hparameters | hresult
      · exact within_of_mem_parameterPieces hparameters
      · exact Piece.within_of_mem_ofType hresult fun _ hr => Node.within_of_returned? hr
  case h_8 =>
    split at h
    · cases h
    · exact within_of_mem_rendered h fun _ he => Node.within_of_mem_members he
  case h_9 =>
    split at h
    · cases h
    · obtain ⟨f, -, hp⟩ := List.mem_flatMap.mp h
      exact Piece.within_of_mem_ofType hp fun _ ht => Node.within_of_child? ht
  case h_10 =>
    split at h
    · rename_i a b hmembers
      have hwithin (n : Node) (hn : n ∈ [a, b]) : m.Within n :=
        Node.within_of_mem_members (hmembers ▸ hn)
      exact within_of_mem_rendered (l := [a, b]) h hwithin
    · cases h
  case h_11 => cases h

theorem within_of_mem_typePieces (h : p ∈ typePieces n d) : n.Within p.node := by
  unfold typePieces at h
  split at h
  · cases h
  · rename_i m hm
    split at h
    · cases h
    · have hwithin := within_of_mem_shapePieces h
      have hle := Node.size_le_of_unwrap hm
      exact ⟨(Node.Inside.root.of_unwrap hm).trans hwithin.inside,
        Nat.lt_of_lt_of_le hwithin.smaller hle⟩

end TypeText

/-! ## §5 What is copied -/

namespace Piece

/-- The text of a node is copied into the piece as it stands. -/
inductive Copies : Piece → Node → Prop where
  | here (x : Node) : Copies (.copied x) x
  | inner {n : Node} {d : Budget} {p : Piece} {x : Node} :
      p ∈ TypeText.typePieces n d → Copies p x → Copies (.rendered n d) x

/-- **The run**: a piece is on one line exactly if every node is that is copied into it. -/
theorem oneLine_iff (p : Piece) : OneLine p.text ↔ ∀ x, p.Copies x → OneLine x.text := by
  match p with
  | .copied x =>
    constructor
    · rintro h _ ⟨⟩
      exact h
    · exact fun h => h x (.here x)
  | .rendered n d =>
    -- by induction on the size of the type: its pieces are smaller
    have ih (q : Piece) (hq : q ∈ TypeText.typePieces n d) :
        OneLine q.text ↔ ∀ x, q.Copies x → OneLine x.text :=
      have hlt := (TypeText.within_of_mem_typePieces hq).smaller
      oneLine_iff q
    show OneLine (TypeText.render n d) ↔ _
    rw [TypeText.oneLine_render_iff]
    constructor
    · rintro h x (_ | ⟨hq, hx⟩)
      exact (ih _ hq).mp (h _ hq) x hx
    · exact fun h q hq => (ih q hq).mpr fun x hx => h x (.inner hq hx)
termination_by p.node.size
decreasing_by exact hlt

theorem Copies.inside {p : Piece} {x : Node} (h : p.Copies x) : p.node.Inside x := by
  induction h with
  | here x => exact .root
  | inner hp _ ih => exact (TypeText.within_of_mem_typePieces hp).inside.trans ih

end Piece

end TsOutline
