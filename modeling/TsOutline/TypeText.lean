import TsOutline.Budget
import TsOutline.Syntax.Node

/-!
# Type Expressions as Text

Writes a type expression on one line within a depth budget. Every structural descent (into type
arguments, object members, parameters, tuple elements, the parts of a conditional type) spends one
unit; at zero, nested structure collapses to a fixed placeholder. Unions, intersections, arrays,
parentheses and indexed access pass their budget on unchanged.

Kinds without a shape of their own are copied from the source, collapsed and clipped.
-/

namespace TsOutline.TypeText

open Text (join collapse clip ellipsis)

/-! ## §1 Constants and leaves -/

/-- The units of budget that are used where none are given. -/
def defaultDepth : Int := 2

/-- Stands for a type that is missing or beyond the budget. -/
def placeholder : String := ellipsis

/-- How much of the source is copied for a type without a shape of its own. -/
def copyLimit : Int := 60

/-- How much of the source is copied for a mapped object type. -/
def mappedLimit : Int := 80

/-- The source of a node on one line, clipped. -/
def brief (limit : Int) (n : Node) : String :=
  clip limit (collapse n.text)

/-- An object type whose member maps over the keys of another type. -/
def isMapped (n : Node) : Bool :=
  n.kind == .objectType && n.members.any fun m =>
    m.kind == .indexSignature && m.members.any fun c => c.kind == .mappedTypeClause

/-! ## §2 Parts of a type -/

/-- The operands of a chain of nested nodes of one kind, from left to right: `A | B | C` is parsed
    as `(A | B) | C`. -/
def operands (k : Kind) (n : Node) : List Node :=
  n.members.attach.flatMap fun ⟨c, _h⟩ => if c.kind == k then operands k c else [c]
termination_by n.size
decreasing_by exact Node.size_lt_of_mem_members _h

theorem operands_eq (k : Kind) (n : Node) :
    operands k n = n.members.flatMap fun c => if c.kind == k then operands k c else [c] := by
  rw [operands, List.flatMap_subtype, List.unattach_attach]
  exact fun _ _ => rfl

theorem size_lt_of_mem_operands {k : Kind} {c n : Node} (h : c ∈ operands k n) :
    c.size < n.size := by
  fun_induction operands k n with
  | case1 n ih =>
    obtain ⟨⟨d, hd⟩, _, hc⟩ := List.mem_flatMap.mp h
    have hlt := Node.size_lt_of_mem_members hd
    dsimp only at hc
    split at hc
    · have := ih d hd hc; omega
    · rw [List.mem_singleton.mp hc]; exact hlt

/-- The node that a function type returns: its return field, else its last member that is no
    parameter list. -/
def returned? (n : Node) : Option Node :=
  match n.child? .returnType with
  | some r => some r
  | none => (n.members.filter fun c =>
      c.kind != .typeParameters && c.kind != .formalParameters).getLast?

theorem size_lt_of_returned? {r n : Node} (h : returned? n = some r) : r.size < n.size := by
  unfold returned? at h
  split at h
  · cases h; exact Node.size_lt_of_child? (by assumption)
  · exact Node.size_lt_of_mem_members (List.mem_filter.mp (List.mem_of_getLast? h)).1

/-- The mark of an optional member. -/
def optionalMark (member : Node) : String :=
  if member.hasToken .optionalToken then "?" else ""

/-! ## §3 The bounded text -/

/-- The text of a type node, or of the annotation that holds it, within the budget `d`. -/
def render (n : Node) (d : Budget) : String :=
  match _hm : n.unwrap with
  | none => placeholder
  | some m =>
    if d.isOverdrawn then placeholder
    else
      match m.kind with
      | .genericType =>
        let arguments := Node.membersOf (m.child? .typeArguments)
        if arguments.isEmpty then m.nameText
        else if d.isUsedUp then m.nameText ++ "<" ++ placeholder ++ ">"
        else
          m.nameText ++ "<" ++ join ", " (arguments.attach.map fun ⟨a, _h⟩ => render a d.spend)
            ++ ">"
      | .arrayType =>
        (m.first?.attach.map fun ⟨e, _h⟩ => render e d).getD placeholder ++ "[]"
      | .unionType =>
        if d.isUsedUp then placeholder
        else join " | " ((operands .unionType m).attach.map fun ⟨c, _h⟩ => render c d)
      | .intersectionType =>
        if d.isUsedUp then placeholder
        else join " & " ((operands .intersectionType m).attach.map fun ⟨c, _h⟩ => render c d)
      | .objectType =>
        if isMapped m then
          if d.isUsedUp then "\x7b [K in ...]: ... \x7d" else brief mappedLimit m
        else if d.isUsedUp then "\x7b ... \x7d"
        else
          "\x7b " ++ join "; " (m.members.attach.map fun ⟨p, _h⟩ =>
            if p.kind == .propertySignature then
              p.nameText ++ optionalMark p ++ ": " ++
                ((p.child? .typeExpr).attach.map fun ⟨t, _ht⟩ => render t d.spend).getD placeholder
            else placeholder) ++ " \x7d"
      | .functionType =>
        if d.isUsedUp then "(...) => ..."
        else
          "(" ++ join ", " (m.parameterNodes.attach.map fun ⟨p, _h⟩ =>
            p.parameterName ++ ": " ++
              (p.parameterType?.attach.map fun ⟨t, _ht⟩ => render t d.spend).getD placeholder)
            ++ ") => " ++
            ((returned? m).attach.map fun ⟨r, _h⟩ => render r d.spend).getD placeholder
      | .tupleType =>
        if d.isUsedUp then "[...]"
        else "[" ++ join ", " (m.members.attach.map fun ⟨e, _h⟩ => render e d.spend) ++ "]"
      | .parenthesizedType =>
        "(" ++ (m.first?.attach.map fun ⟨e, _h⟩ => render e d).getD placeholder ++ ")"
      | .conditionalType =>
        if d.isUsedUp then "... ? ... : ..."
        else
          ((m.child? .left).attach.map fun ⟨t, _h⟩ => render t d.spend).getD placeholder
            ++ " extends " ++
            ((m.child? .right).attach.map fun ⟨t, _h⟩ => render t d.spend).getD placeholder
            ++ " ? " ++
            ((m.child? .consequence).attach.map fun ⟨t, _h⟩ => render t d.spend).getD placeholder
            ++ " : " ++
            ((m.child? .alternative).attach.map fun ⟨t, _h⟩ => render t d.spend).getD placeholder
      | .lookupType =>
        match _h : m.members with
        | [a, b] => render a d ++ "[" ++ render b d ++ "]"
        | _ => brief copyLimit m
      | _ => brief copyLimit m
termination_by n.size
decreasing_by
  all_goals
    have hle := Node.size_le_of_unwrap _hm
    refine Nat.lt_of_lt_of_le ?_ hle
  · exact Node.size_lt_of_mem_membersOf_child? _h
  · exact Node.size_lt_of_first? _h
  · exact size_lt_of_mem_operands _h
  · exact size_lt_of_mem_operands _h
  · exact Nat.lt_trans (Node.size_lt_of_child? _ht) (Node.size_lt_of_mem_members _h)
  · exact Nat.lt_trans (Node.size_lt_of_parameterType? _ht) (Node.size_lt_of_mem_parameterNodes _h)
  · exact size_lt_of_returned? _h
  · exact Node.size_lt_of_mem_members _h
  · exact Node.size_lt_of_first? _h
  · exact Node.size_lt_of_child? _h
  · exact Node.size_lt_of_child? _h
  · exact Node.size_lt_of_child? _h
  · exact Node.size_lt_of_child? _h
  · exact Node.size_lt_of_mem_members (by simp [_h])
  · exact Node.size_lt_of_mem_members (by simp [_h])

/-- The text of a type that may be missing. -/
def renderOption (n? : Option Node) (d : Budget) : String :=
  (n?.map fun n => render n d).getD placeholder

/-- The parameters of a callable, `name: type` each. -/
def renderParameters (callable : Node) (d : Budget) : String :=
  join ", " (callable.parameterNodes.map fun p =>
    p.parameterName ++ ": " ++ renderOption p.parameterType? d)

/-- A property as `name: type`, with the mark of an optional one. -/
def renderMember (member : Node) (d : Budget) : String :=
  member.nameText ++ optionalMark member ++ ": " ++ renderOption (member.child? .typeExpr) d

end TsOutline.TypeText
