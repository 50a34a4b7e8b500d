import TsOutline.Grammar
import TsOutline.Proofs.RouterScope

/-!
# Coherent Records

A record carries its one-line text beside the fields that the text was made of, and callables,
procedures and the kinds of type declarations are put together in different places. This module says
what all of them have in common: the text can be read off the fields, the fields that only procedures
have are empty on all other records, and every record carries the path of its file.

- **One place each** (`signature?_coherent`, `procedure?_coherent`, `heading?_text`).
- **The whole outline** (`ofTree_coherent`), and from it every outline of a source.
-/

namespace TsOutline

/-! ## §1 What coherence means -/

namespace FunctionSignature

/-- The kind of operation, if the record describes a procedure. -/
def procedureKind? (f : FunctionSignature) : Option ProcedureKind :=
  f.procedure.map (·.kind)

/-- The record says that an input is validated. -/
def hasInput (f : FunctionSignature) : Bool :=
  (f.procedure.map (·.hasInput)).getD false

/-- The schema of the input, given by name. -/
def schemaName? (f : FunctionSignature) : Option String :=
  f.procedure.bind (·.schemaName)

/-- The schema of the input, given by its text. -/
def schemaText? (f : FunctionSignature) : Option String :=
  f.procedure.bind (·.schemaText)

/-- These four are what a document shows of a procedure. -/
theorem toJson_eq (f : FunctionSignature) :
    f.toJson = .obj [
      ("name", .str f.name), ("parameters", .arr (f.parameters.map Parameter.toJson)),
      ("return_type", .str f.returnType), ("full_signature", .str f.fullSignature),
      ("file_path", .str f.filePath), ("is_exported", .bool f.isExported),
      ("parent_name", .optional f.parentName), ("is_procedure", .bool f.isProcedure),
      ("procedure_kind", .optional (f.procedureKind?.map ProcedureKind.word)),
      ("has_input", .bool f.hasInput), ("input_schema_name", .optional f.schemaName?),
      ("input_schema_text", .optional f.schemaText?)] := by
  unfold toJson procedureKind?
  rw [Option.map_map]
  rfl

/-- The text is missing or empty. -/
def IsBare (text? : Option String) : Prop :=
  text? = none ∨ text? = some ""

/-- How a signature ends after the kind of operation: the schema is shown by its name, else by its
    text, else not at all. -/
inductive InputPart (f : FunctionSignature) : String → Prop where
  | noInput : f.hasInput = false → InputPart f ""
  | byName {schema : String} : f.hasInput = true → f.schemaName? = some schema → schema ≠ "" →
      InputPart f (" (input: " ++ schema ++ ")")
  | byText {schema : String} : f.hasInput = true → IsBare f.schemaName? →
      f.schemaText? = some schema → schema ≠ "" → InputPart f (" (input: " ++ schema ++ ")")
  | unshown : f.hasInput = true → IsBare f.schemaName? → IsBare f.schemaText? →
      InputPart f " (input)"

/-- The record of a procedure. -/
structure ProcedureCoherent (f : FunctionSignature) : Prop where
  parameters : f.parameters = []
  returnType : f.returnType = "unknown"
  isExported : f.isExported = false
  schema : f.hasInput = false → f.schemaName? = none ∧ f.schemaText? = none
  text : ∃ kind router input, f.procedureKind? = some kind ∧ f.parentName = some router ∧
    router ≠ "" ∧ f.InputPart input ∧
    f.fullSignature = router ++ "." ++ f.name ++ ": " ++ kind.word ++ input

/-- What stands in front of a name: the owner and a dot, if there is an owner. -/
def ownerPart : Option String → String
  | some parent => parent ++ "."
  | none => ""

/-- The record of a callable that is no procedure. -/
structure PlainCoherent (f : FunctionSignature) : Prop where
  kind : f.procedureKind? = none
  input : f.hasInput = false
  schema : f.schemaName? = none ∧ f.schemaText? = none
  parameterName : ∀ p ∈ f.parameters, p.name ≠ ""
  parameterType : ∀ p ∈ f.parameters, '\n' ∉ p.typeText.toList
  text : f.fullSignature = ownerPart f.parentName ++ f.name ++ "(" ++
    Text.join ", " (f.parameters.map fun p => p.name ++ ": " ++ p.typeText) ++ "): " ++ f.returnType

/-- **Coherence of a callable record** from the file with the given path. -/
structure Coherent (path : String) (f : FunctionSignature) : Prop where
  filePath : f.filePath = path
  parentName : f.parentName ≠ some ""
  procedure : f.isProcedure = true → f.ProcedureCoherent
  plain : f.isProcedure = false → f.PlainCoherent

end FunctionSignature

/-- The keyword that a type declaration of a kind starts with. -/
def TypeKind.keyword : TypeKind → String
  | .interfaceKind => "interface"
  | .typeAlias => "type"
  | .enumKind => "enum"
  | .classKind => "class"
  | .namespaceKind => "namespace"
  | .moduleKind => "declare module"

/-- **Coherence of a type record**: the text starts with the keyword of the kind and the name. -/
structure TypeSignature.Coherent (path : String) (t : TypeSignature) : Prop where
  filePath : t.filePath = path
  text : ∃ rest, t.fullSignature = t.kind.keyword ++ " " ++ t.name ++ rest

/-! ## §2 Callables -/

namespace Text

theorem newline_not_mem_collapseLinesFrom ( inRun : Bool) (cs : List Char) :
    '\n' ∉ collapseLinesFrom inRun cs := by
  fun_induction collapseLinesFrom inRun cs with
  | case1 => exact List.not_mem_nil
  | case2 _ c cs _ ih => exact ih
  | case3 _ cs _ ih =>
    -- the line feed itself is written as a space
    intro hmem
    rcases List.mem_cons.mp hmem with hspace | hrest
    · exact absurd hspace (by decide)
    · exact ih hrest
  | case4 _ c cs _ hne ih =>
    intro hmem
    rcases List.mem_cons.mp hmem with hfirst | hrest
    · exact hne hfirst.symm
    · exact ih hrest

theorem newline_not_mem_collapseLines (s : String) : '\n' ∉ (collapseLines s).toList := by
  rw [collapseLines, String.toList_ofList]
  exact newline_not_mem_collapseLinesFrom false s.toList

end Text

namespace Callable

/-- No parameter is without a name. -/
theorem name_ne_of_mem_parameters {callable : Node} {p : Parameter} (h : p ∈ parameters callable) :
    p.name ≠ "" := by
  obtain ⟨q, _, rfl⟩ := List.mem_map.mp h
  dsimp only
  split
  · decide
  · assumption

/-- The type of a parameter is on one line. -/
theorem newline_not_mem_of_mem_parameters {callable : Node} {p : Parameter}
    (h : p ∈ parameters callable) : '\n' ∉ p.typeText.toList := by
  obtain ⟨q, _, rfl⟩ := List.mem_map.mp h
  dsimp only
  split
  · exact Text.newline_not_mem_collapseLines _
  · decide

theorem ownerOr_ne_empty (c : Cursor) {router : Option String} (h : router ≠ some "") :
    ownerOr c router ≠ some "" := by
  unfold ownerOr
  split
  · split
    · exact h
    · rename_i hname
      exact fun heq => hname (Option.some.inj heq)
  · exact h

/-- An owner is shown with a dot; the name of an owner is never empty. -/
theorem signatureText_eq {parentName : Option String} (h : parentName ≠ some "") (name : String)
    (ps : List Parameter) (result : String) :
    signatureText parentName name ps result =
      FunctionSignature.ownerPart parentName ++ name ++ "(" ++
        Text.join ", " (ps.map fun p => p.name ++ ": " ++ p.typeText) ++ "): " ++ result := by
  unfold signatureText
  cases parentName with
  | none => simp [FunctionSignature.ownerPart]
  | some parent =>
    have hparent : parent ≠ "" := fun heq => h (congrArg some heq)
    simp [FunctionSignature.ownerPart, hparent]

/-- **Callables** give coherent records, provided the router around them has a name. -/
theorem signature?_coherent {c : Cursor} {path : String} {router : Option String} {view : Bool}
    {f : FunctionSignature} (h : signature? c path router view = some f) (hrouter : router ≠ some "") :
    f.Coherent path := by
  obtain ⟨id, hid, rfl⟩ := Option.map_eq_some_iff.mp h
  -- the parent is the router or the nearest owner, and an owner without a name does not count
  have hparent : id.parentName ≠ some "" := by
    rcases Outline.identity?_parentName hid with heq | heq
    · rw [heq]
      exact hrouter
    · rw [heq]
      exact ownerOr_ne_empty c hrouter
  refine ⟨rfl, hparent, (fun hproc => nomatch hproc), fun _ => ?_⟩
  exact {
    kind := rfl
    input := rfl
    schema := ⟨rfl, rfl⟩
    parameterName := fun _ hp => name_ne_of_mem_parameters hp
    parameterType := fun _ hp => newline_not_mem_of_mem_parameters hp
    text := signatureText_eq hparent _ _ _ }

end Callable

/-! ## §3 Procedures -/

namespace Router

/-- Nothing is known of a schema before an input was read. -/
def Reading.SchemaNeedsInput (r : Reading) : Prop :=
  r.hasInput = false → r.schemaName = none ∧ r.schemaText = none

/-- One call of a chain: a schema comes with the input that it is read from. -/
theorem Reading.SchemaNeedsInput.step {r : Reading} (h : r.SchemaNeedsInput) (method : String)
    (argument? : Option Node) : (r.step method argument?).SchemaNeedsInput := by
  unfold Reading.step
  split
  · -- an input call leaves `hasInput` set
    intro hinput
    unfold Reading.withInput at hinput
    split at hinput
    · split at hinput <;> cases hinput
    · cases hinput
  · split
    · exact h
    · exact h

/-- The whole chain. -/
theorem readChain_schemaNeedsInput {r : Reading} (h : r.SchemaNeedsInput) (expr : Node) :
    (readChain r expr).SchemaNeedsInput := by
  fun_induction readChain r expr with
  | case1 => exact h
  | case2 _ _ _ _ _ _ _ _ _ ih =>
    -- the outermost call is read first, and the chain goes on in its receiver
    exact ih (h.step _ _)
  | case3 => exact h.step _ _
  | case4 => exact h
  | case5 => exact h

/-- What the record shows of its input is what the chain was read to be. -/
theorem inputPart_inputText {f : FunctionSignature} {p : Procedure} (h : f.procedure = some p) :
    f.InputPart (inputText p) := by
  have hinput : f.hasInput = p.hasInput := by simp [FunctionSignature.hasInput, h]
  have hname : f.schemaName? = p.schemaName := by simp [FunctionSignature.schemaName?, h]
  have htext : f.schemaText? = p.schemaText := by simp [FunctionSignature.schemaText?, h]
  -- with no name to show, the text decides
  have hunnamed (hp : p.hasInput = true) (hbare : FunctionSignature.IsBare p.schemaName)
      (hshown : shownSchema? p = p.schemaText) : f.InputPart (inputText p) := by
    unfold inputText
    rw [if_pos hp, hshown]
    cases hschema : p.schemaText with
    | none => exact .unshown (hinput.trans hp) (hname ▸ hbare) (.inl (htext.trans hschema))
    | some schema =>
      by_cases hempty : schema = ""
      · subst hempty
        exact .unshown (hinput.trans hp) (hname ▸ hbare) (.inr (htext.trans hschema))
      · simp only [hempty, if_false]
        exact .byText (hinput.trans hp) (hname ▸ hbare) (htext.trans hschema) hempty
  by_cases hp : p.hasInput = true
  · cases hschema : p.schemaName with
    | none => exact hunnamed hp (.inl hschema) (by simp [shownSchema?, hschema])
    | some schema =>
      by_cases hempty : schema = ""
      · subst hempty
        exact hunnamed hp (.inr hschema) (by simp [shownSchema?, hschema])
      · have hshown : inputText p = " (input: " ++ schema ++ ")" := by
          simp [inputText, shownSchema?, hp, hschema, hempty]
        rw [hshown]
        exact .byName (hinput.trans hp) (hname.trans hschema) hempty
  · have hnone : inputText p = "" := by simp [inputText, hp]
    rw [hnone]
    exact .noInput (hinput.trans (by simpa using hp))

/-- **Procedures** give coherent records, provided their router has a name. -/
theorem procedure?_coherent {property : Node} {path router : String} {f : FunctionSignature}
    (h : procedure? property path router = some f) (hrouter : router ≠ "") : f.Coherent path := by
  unfold procedure? at h
  obtain ⟨kind, hkind, rfl⟩ := Option.map_eq_some_iff.mp h
  have hempty : Reading.empty.SchemaNeedsInput := fun _ => ⟨rfl, rfl⟩
  refine ⟨rfl, fun heq => hrouter (Option.some.inj heq), fun _ => ?_, (fun hplain => nomatch hplain)⟩
  refine ⟨rfl, rfl, rfl, ?_, kind, router, _, rfl, rfl, hrouter, inputPart_inputText rfl, rfl⟩
  -- a pair without a value has nothing to read
  show Reading.SchemaNeedsInput _
  split
  · exact readChain_schemaNeedsInput hempty _
  · exact hempty

end Router

/-! ## §4 Type declarations -/

namespace Declaration

/-- **Headings** start with the keyword of the kind and the name. -/
theorem heading?_text {n : Node} {d : Budget} {h : Heading} (hh : heading? n d = some h) :
    ∃ rest, h.text = h.kind.keyword ++ " " ++ h.name ++ rest := by
  -- namespaces and modules share one heading, whose kind picks the keyword
  have hscope : scopeHeading? n = some h → ∃ rest, h.text = h.kind.keyword ++ " " ++ h.name ++ rest := by
    intro hn
    obtain ⟨name, _, heq⟩ := Option.map_eq_some_iff.mp hn
    split at heq
    all_goals
      cases heq
      exact ⟨" \x7b " ++ contents (n.child? .body) ++ " \x7d",
        by simp [scopeText, TypeKind.keyword, String.append_assoc]⟩
  unfold heading? at hh
  split at hh
  · cases hh
    exact ⟨_, by simp only [interfaceText, TypeKind.keyword, String.append_assoc]; rfl⟩
  · cases hh
    exact ⟨_, by simp only [aliasText, TypeKind.keyword, String.append_assoc]; rfl⟩
  · cases hh
    exact ⟨_, by simp only [enumText, TypeKind.keyword, String.append_assoc]; rfl⟩
  · obtain ⟨name, _, rfl⟩ := Option.map_eq_some_iff.mp hh
    exact ⟨_, by simp only [classText, TypeKind.keyword, String.append_assoc]; rfl⟩
  · obtain ⟨name, _, rfl⟩ := Option.map_eq_some_iff.mp hh
    exact ⟨_, by simp only [classText, TypeKind.keyword, String.append_assoc]; rfl⟩
  · exact hscope hh
  · exact hscope hh
  · unfold globalHeading? at hh
    split at hh
    · cases hh
      exact ⟨_, by simp only [scopeText, TypeKind.keyword, String.append_assoc]; rfl⟩
    · cases hh
  · cases hh

end Declaration

/-! ## §5 Outlines -/

namespace Outline

/-- The empty name binds no router, so no router is active under it. -/
theorem activeRouter?_ne_empty (o : Options) (c : Cursor) : activeRouter? o c ≠ some "" := by
  intro hactive
  obtain ⟨nearer, statement, hbound⟩ := activeRouter?_eq_some_iff.mp hactive
  have hbinds := hbound.binds
  unfold bindingName? at hbinds
  split at hbinds
  · split at hbinds
    · cases hbinds
    · rename_i hne
      exact hne (Option.some.inj hbinds)
  · cases hbinds

/-- The records of one node. -/
theorem recordsAt_coherent {o : Options} {c : Cursor} {f : FunctionSignature}
    (h : f ∈ recordsAt o c) : f.Coherent o.path := by
  have hactive := activeRouter?_ne_empty o c
  rcases mem_recordsAt_iff.mp h with hfunction | hprocedure
  · obtain ⟨_, _, hsig⟩ := functionAt_eq_some hfunction
    exact Callable.signature?_coherent hsig hactive
  · obtain ⟨router, hrouter, _, hmem⟩ := mem_proceduresAt_iff.mp hprocedure
    obtain ⟨property, _, hproperty⟩ := List.mem_filterMap.mp hmem
    exact Router.procedure?_coherent hproperty fun hempty => hactive (hempty ▸ hrouter)

/-- The records of a whole outline. -/
theorem ofTree_coherent (o : Options) (tree : Node) :
    (∀ f ∈ (ofTree o tree).functions, f.Coherent o.path) ∧
      ∀ t ∈ (ofTree o tree).types, t.Coherent o.path := by
  rw [ofTree_eq_listing]
  constructor
  · intro f hf
    obtain ⟨c, _, hmem⟩ := List.mem_flatMap.mp hf
    exact recordsAt_coherent hmem
  · -- a type record takes its name, kind and text from one heading
    intro t ht
    obtain ⟨c, _, hmem⟩ := List.mem_flatMap.mp ht
    obtain ⟨heading, hheading, rfl⟩ := Option.map_eq_some_iff.mp (Option.mem_toList.mp hmem)
    exact ⟨rfl, Declaration.heading?_text hheading⟩

/-- **Record coherence**: whatever the tree, the factories and the kind of file, all records of an
    outline are coherent; and a source has an outline under every depth that is not negative. -/
theorem records_coherent :
    (∀ (o : Options) (tree : Node),
      (∀ f ∈ (ofTree o tree).functions, f.Coherent o.path) ∧
        ∀ t ∈ (ofTree o tree).types, t.Coherent o.path) ∧
    ∀ (parse : SyntaxReader) (source path : String) (depth : Number) (factories : List String),
      depth.budget.isOverdrawn = false →
      ∃ outline, ofSource parse source path depth factories = .ok outline ∧
        (∀ f ∈ outline.functions, f.Coherent path) ∧ ∀ t ∈ outline.types, t.Coherent path := by
  refine ⟨ofTree_coherent, ?_⟩
  intro parse source path depth factories hdepth
  refine ⟨_, ?_, ofTree_coherent (optionsFor path depth.budget factories)
    (parse (.ofPath path) source)⟩
  unfold ofSource
  rw [hdepth]
  rfl

/-- The statement `const app = make({ ping: p.input(S).query() })`. -/
def pingRouter : Node :=
  let inputCall : Node := .mk .callExpression true (some .object) "p.input(S)"
    [.mk .memberExpression true (some .function) "p.input"
      [.mk .identifier true (some .object) "p" [],
       .mk .propertyIdentifier true (some .property) "input" []],
     .mk .argumentList true (some .arguments) "(S)" [.mk .identifier true none "S" []]]
  let queryCall : Node := .mk .callExpression true (some .value) "p.input(S).query()"
    [.mk .memberExpression true (some .function) "p.input(S).query"
      [inputCall, .mk .propertyIdentifier true (some .property) "query" []],
     .mk .argumentList true (some .arguments) "()" []]
  .mk .lexicalDeclaration true none "const app = ..."
    [factoryVariable "app" (.mk .objectLiteral true none "..."
      [.mk .pair true none "ping: ..."
        [.mk .propertyIdentifier true (some .key) "ping" [], queryCall]])]

/-- The source of that statement has an outline, and the one record in it is coherent. -/
theorem pingRouter_coherent :
    (Number.whole 2).budget.isOverdrawn = false ∧
    ∃ outline, ofSource (fun _ _ => pingRouter) "" "/app.ts" (.whole 2) ["make"] = .ok outline ∧
      outline.functions.map (·.fullSignature) = ["app.ping: query (input: S)"] ∧
      ∀ f ∈ outline.functions, f.Coherent "/app.ts" := by
  refine ⟨by decide, ?_⟩
  obtain ⟨outline, hok, hfunctions, _⟩ := records_coherent.2 (fun _ _ => pingRouter) "" "/app.ts"
    (.whole 2) ["make"] (by decide)
  refine ⟨outline, hok, ?_, hfunctions⟩
  cases hok
  decide +kernel

end Outline

end TsOutline
