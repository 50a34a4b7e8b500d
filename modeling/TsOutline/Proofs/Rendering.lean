import TsOutline.TypeText

/-!
# One Step of Rendering a Type

`TypeText.render` recurses on the size of the tree, and its equation carries the proofs that its parts
are smaller. `renderShape` is one step of it without these proofs, with the parts of a type written by
`render`, `renderOption`, `renderParameters` and `renderMember`; `render_eq` says that the step is
right. Facts about rendering are proved from this equation, and from induction on the size.
-/

namespace TsOutline.TypeText

open Text (join)

/-- The text of a type without wrappers, within a budget that is not overdrawn: one case per shape. -/
def renderShape (m : Node) (d : Budget) : String :=
  match m.kind with
  | .genericType =>
    let arguments := Node.membersOf (m.child? .typeArguments)
    if arguments.isEmpty then m.nameText
    else if d.isUsedUp then m.nameText ++ "<" ++ placeholder ++ ">"
    else m.nameText ++ "<" ++ join ", " (arguments.map fun a => render a d.spend) ++ ">"
  | .arrayType => renderOption m.first? d ++ "[]"
  | .unionType =>
    if d.isUsedUp then placeholder
    else join " | " ((operands .unionType m).map fun c => render c d)
  | .intersectionType =>
    if d.isUsedUp then placeholder
    else join " & " ((operands .intersectionType m).map fun c => render c d)
  | .objectType =>
    if isMapped m then
      if d.isUsedUp then "\x7b [K in ...]: ... \x7d" else brief mappedLimit m
    else if d.isUsedUp then "\x7b ... \x7d"
    else
      "\x7b " ++ join "; " (m.members.map fun p =>
        if p.kind == .propertySignature then renderMember p d.spend else placeholder) ++ " \x7d"
  | .functionType =>
    if d.isUsedUp then "(...) => ..."
    else "(" ++ renderParameters m d.spend ++ ") => " ++ renderOption (returned? m) d.spend
  | .tupleType =>
    if d.isUsedUp then "[...]"
    else "[" ++ join ", " (m.members.map fun e => render e d.spend) ++ "]"
  | .parenthesizedType => "(" ++ renderOption m.first? d ++ ")"
  | .conditionalType =>
    if d.isUsedUp then "... ? ... : ..."
    else
      renderOption (m.child? .left) d.spend ++ " extends " ++
        renderOption (m.child? .right) d.spend ++ " ? " ++
        renderOption (m.child? .consequence) d.spend ++ " : " ++
        renderOption (m.child? .alternative) d.spend
  | .lookupType =>
    match m.members with
    | [a, b] => render a d ++ "[" ++ render b d ++ "]"
    | _ => brief copyLimit m
  | _ => brief copyLimit m

/-- **One step of rendering**: unwrap, check the budget, and write the shape. -/
theorem render_eq (n : Node) (d : Budget) :
    render n d =
      match n.unwrap with
      | none => placeholder
      | some m => if d.isOverdrawn then placeholder else renderShape m d := by
  rw [render]
  split
  · rename_i hnone
    rw [hnone]
  · rename_i m hm
    rw [hm]
    by_cases hover : d.isOverdrawn = true
    · simp only [hover, if_true]
    · rw [if_neg hover]
      show _ = if d.isOverdrawn then placeholder else renderShape m d
      rw [if_neg hover]
      unfold renderShape
      split
      case h_10 =>
        -- an indexed access: the two parts are members
        split <;> simp_all
      all_goals simp [renderMember, renderParameters, renderOption, *]

/-- The rendering of a type within its budget is that of its shape. -/
theorem render_of_unwrap {n m : Node} {d : Budget} (hn : n.unwrap = some m)
    (hd : d.isOverdrawn = false) :
    render n d = renderShape m d := by
  rw [render_eq, hn]
  dsimp only
  rw [hd, if_neg Bool.false_ne_true]

theorem render_of_isOverdrawn {d : Budget} (h : d.isOverdrawn = true) (n : Node) :
    render n d = placeholder := by
  rw [render_eq]
  split
  · rfl
  · rw [if_pos h]

end TsOutline.TypeText
