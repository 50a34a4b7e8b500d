import TsOutline.Proofs.Depth.Outline
import TsOutline.Proofs.Origin

/-!
# Options Do Not Interfere

A walk is given the factories that make a router, and whether the file is a view file. Both travel
through the same walk as everything else, and this module says where they can be seen.

- **View files** (`recordsAt_view`): only in the return type of a callable that is not annotated, and
  at the end of its signature, which is that return type.
- **Whole outlines**: the types see neither of them, and the functions of
  two walks are compared record by record.
-/

namespace TsOutline

/-! ## §1 Return types -/

namespace Callable

/-- The callable has no annotated return type: no annotation, or one without a type in it. -/
def IsUnannotated (callable : Node) : Prop :=
  ∀ annotation, callable.child? .returnType = some annotation → annotation.unwrap = none

/-- The return type in a view file and in any other file: the same, or that of a component in place of
    a default. -/
theorem returnType_view (callable : Node) (name : String) :
    returnType callable name true = returnType callable name false ∨
      IsUnannotated callable ∧ returnType callable name true = "React.JSX.Element" ∧
        (returnType callable name false = "inferred" ∨ returnType callable name false = "void") := by
  unfold returnType
  cases hascribed : (callable.child? .returnType).bind Node.unwrap with
  | some ascribed => exact .inl rfl
  | none =>
    by_cases hcomponent : Component.looksLikeComponent callable (some name) = true
    · -- a component: outside of view files one of the two defaults stands in its place
      refine .inr ⟨fun annotation h => ?_, ?_, ?_⟩
      · rw [h] at hascribed
        exact hascribed
      · simp [hcomponent, elementReturn]
      · by_cases hbody : hasExpressionBody callable = true
        · exact .inl (by simp [hbody, inferredReturn])
        · exact .inr (by simp [hbody, defaultReturn])
    · exact .inl (by simp [hcomponent])

/-- A signature ends with the return type. -/
theorem signatureText_ends (parentName : Option String) (name : String) (ps : List Parameter) :
    ∃ start, ∀ result, signatureText parentName name ps result = start ++ result :=
  ⟨_, fun _ => rfl⟩

end Callable

namespace Outline

/-! ## §2 Records in view files -/

/-- The record of a node in a view file, against the one in any other file: only the return type can
    differ, and the end of the signature with it. -/
structure DiffersInReturn (n : Node) (plain view : FunctionSignature) : Prop where
  others : view = { plain with returnType := view.returnType, fullSignature := view.fullSignature }
  returns : view ≠ plain →
    Callable.IsUnannotated n ∧ view.returnType = "React.JSX.Element" ∧
      (plain.returnType = "inferred" ∨ plain.returnType = "void") ∧
      ∃ start, plain.fullSignature = start ++ plain.returnType ∧
        view.fullSignature = start ++ view.returnType

theorem DiffersInReturn.refl (n : Node) (f : FunctionSignature) : DiffersInReturn n f f :=
  ⟨rfl, fun hne => absurd rfl hne⟩

/-- **One callable**: the flag is seen in the return type, and with it at the end of the signature. -/
theorem signature?_view (c : Cursor) (path : String) (router : Option String) :
    Option.Rel (DiffersInReturn c.node) (Callable.signature? c path router false)
      (Callable.signature? c path router true) := by
  unfold Callable.signature?
  cases Callable.identity? c router with
  | none => exact .none
  | some id =>
    refine .some ⟨rfl, fun hne => ?_⟩
    rcases Callable.returnType_view c.node id.name with hsame | ⟨hbare, hview, hplain⟩
    · -- with the same return type nothing is left that could differ
      exact absurd (by simp only [hsame]) hne
    · obtain ⟨start, hstart⟩ := Callable.signatureText_ends id.parentName id.name
        (Callable.parameters c.node)
      exact ⟨hbare, hview, hplain, start, hstart _, hstart _⟩

/-- **One node**: its records, in a view file and in any other file. -/
theorem recordsAt_view (o : Options) (c : Cursor) :
    List.Forall₂ (DiffersInReturn c.node) (recordsAt { o with view := false } c)
      (recordsAt { o with view := true } c) := by
  have hfunction : Option.Rel (DiffersInReturn c.node)
      (functionAt { o with view := false } c (activeRouter? o c))
      (functionAt { o with view := true } c (activeRouter? o c)) := by
    unfold functionAt
    split
    · exact signature?_view c o.path _
    · exact .none
  -- procedures come from the chains alone, and neither the wiring nor the router asks for the flag
  exact List.rel_append (forall₂_toList hfunction) (List.forall₂_same.mpr fun f _ => .refl c.node f)

/-! ## §3 Outlines -/

/-- **Options do not interfere.** The types of an outline are the same whatever the factories are and
    whether or not the file is a view file. The functions are as many, node by node the same, in view
    files and in others, and agree in everything but the return type and the signature. Where they
    differ, the callable is not annotated, the view file has the return type of a component and the
    other file a default, and the signatures differ in that return type, which ends them. -/
theorem options_do_not_interfere (path : String) (depth : Budget) (tree : Node) :
    (∀ factories factories' view view',
      (ofTree ⟨path, depth, factories, view⟩ tree).types =
        (ofTree ⟨path, depth, factories', view'⟩ tree).types) ∧
    ∀ factories,
      let plain : Options := ⟨path, depth, factories, false⟩
      let view : Options := ⟨path, depth, factories, true⟩
      (origins plain tree).map Prod.snd = (ofTree plain tree).functions ∧
      (origins view tree).map Prod.snd = (ofTree view tree).functions ∧
      (ofTree plain tree).functions.length = (ofTree view tree).functions.length ∧
      List.Forall₂ (fun p q => p.1 = q.1 ∧ DiffersInReturn p.1.node p.2 q.2)
        (origins plain tree) (origins view tree) := by
  constructor
  · intro factories factories' view view'
    rw [types_ofTree, types_ofTree]
  · intro factories plain view
    have hrecords : List.Forall₂ (fun p q => p.1 = q.1 ∧ DiffersInReturn p.1.node p.2 q.2)
        (origins plain tree) (origins view tree) := by
      apply forall₂_flatMap
      intro c _
      rw [List.forall₂_map_left_iff, List.forall₂_map_right_iff]
      exact (recordsAt_view plain c).imp fun f g h => ⟨rfl, h⟩
    refine ⟨map_snd_origins plain tree, map_snd_origins view tree, ?_, hrecords⟩
    rw [← map_snd_origins plain, ← map_snd_origins view, List.length_map, List.length_map]
    exact hrecords.length_eq

end Outline

end TsOutline
