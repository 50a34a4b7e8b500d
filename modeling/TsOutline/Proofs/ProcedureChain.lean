import Mathlib.Data.List.Forall2
import Mathlib.Data.List.ReduceOption
import TsOutline.Proofs.Coherence

/-!
# What a Procedure Chain Says

A procedure is defined by a chain of method calls, and its record is read off in one pass from the
outermost call inward. The pass keeps four things, one of which stays at its first value while others
are overwritten. This module says what comes out in terms of the steps of the chain.

- **Steps** (`steps`, `chain`): the calls of a chain, outermost first.
- **The pass** (`Reading.after`): one lemma for each thing that it keeps.
- **Summaries** (`Summarizes`): the outermost operation, whether there is an input, and the schemas of
  the innermost inputs of either kind; a record is made of the summary of its chain
  (`procedure?_eq_some_iff`).
- **Two schemas** (`GivesBoth`): a chain with inputs of both kinds is the one case in which a record
  describes more than one input.
-/

namespace TsOutline.Router

open Text (collapse)

variable {α : Type}

/-! ## §1 The steps of a chain -/

/-- A step of a chain: the method that is called, and its first argument. -/
structure Step where
  method : String
  argument? : Option Node

/-- The step that a call on a member access makes, and the object in which the chain goes on. -/
def step? (expr : Node) : Option (Step × Option Node) :=
  if expr.kind = .callExpression then
    match expr.child? .function with
    | some callee =>
      if callee.kind = .memberExpression then
        some (⟨Node.textOf (callee.child? .property),
          (Node.membersOf (expr.child? .arguments)).head?⟩, callee.child? .object)
      else none
    | none => none
  else none

theorem size_lt_of_step? {expr receiver : Node} {s : Step}
    (h : step? expr = some (s, some receiver)) : receiver.size < expr.size := by
  unfold step? at h
  split at h
  · split at h
    · rename_i callee hcallee
      split at h
      · have hreceiver := (Prod.mk.inj (Option.some.inj h)).2
        exact Nat.lt_trans (Node.size_lt_of_child? hreceiver) (Node.size_lt_of_child? hcallee)
      · cases h
    · cases h
  · cases h

/-- The steps of a chain from the outermost call inward, up to the first expression that is no call on
    a member access. -/
def steps (expr : Node) : List Step :=
  match _h : step? expr with
  | none => []
  | some (s, none) => [s]
  | some (s, some receiver) => s :: steps receiver
termination_by expr.size
decreasing_by exact size_lt_of_step? _h

theorem steps_of_no_step {expr : Node} (h : step? expr = none) : steps expr = [] := by
  rw [steps]
  split <;> simp_all

theorem steps_of_step {expr : Node} {s : Step} {receiver? : Option Node}
    (h : step? expr = some (s, receiver?)) : steps expr = s :: receiver?.elim [] steps := by
  rw [steps]
  cases receiver? with
  | none => split <;> simp_all
  | some receiver => split <;> simp_all

/-- The chain that a property of a router object has for its value. -/
def chain (property : Node) : List Step :=
  match property.child? .value with
  | some expr => steps expr
  | none => []

/-! ## §2 The pass over the steps -/

namespace Step

/-- The step is an operation of the given kind. -/
def Operates (s : Step) (kind : ProcedureKind) : Prop :=
  s.method = kind.word

/-- The step is an input with the given first argument. -/
def TakesInput (s : Step) (argument : Node) : Prop :=
  s.method = "input" ∧ s.argument? = some argument

/-- The step is an input that gets a schema by its name. -/
def NamesSchema (s : Step) (name : String) : Prop :=
  ∃ a, s.TakesInput a ∧ a.kind = .identifier ∧ a.text = name

/-- The step is an input that gets anything else for a schema. -/
def WritesSchema (s : Step) (text : String) : Prop :=
  ∃ a, s.TakesInput a ∧ a.kind ≠ .identifier ∧ collapse a.text = text

/-- The kind of operation that the step is. -/
def operation? (s : Step) : Option ProcedureKind :=
  ProcedureKind.ofWord? s.method

/-- The first argument, if the step is an input. -/
def input? (s : Step) : Option Node :=
  if s.method = "input" then s.argument? else none

/-- The name of the schema, if the step gets one by name. -/
def schemaName? (s : Step) : Option String :=
  s.input?.bind fun a => if a.kind = .identifier then some a.text else none

/-- The text of the schema, if the step gets another one. -/
def schemaText? (s : Step) : Option String :=
  s.input?.bind fun a => if a.kind = .identifier then none else some (collapse a.text)

theorem operation?_eq_some_iff (s : Step) (kind : ProcedureKind) :
    s.operation? = some kind ↔ s.Operates kind := by
  unfold operation? Operates ProcedureKind.ofWord?
  cases kind with
  | query => by_cases hq : s.method = "query" <;> simp [hq, ProcedureKind.word]
  | mutation =>
    by_cases hq : s.method = "query"
    · simp [hq, ProcedureKind.word]
    · simp [hq, ProcedureKind.word]

theorem input?_eq_some_iff (s : Step) (a : Node) : s.input? = some a ↔ s.TakesInput a := by
  simp [input?, TakesInput]

theorem schemaName?_eq_some_iff (s : Step) (name : String) :
    s.schemaName? = some name ↔ s.NamesSchema name := by
  simp [schemaName?, NamesSchema, Option.bind_eq_some_iff, input?_eq_some_iff]

theorem schemaText?_eq_some_iff (s : Step) (text : String) :
    s.schemaText? = some text ↔ s.WritesSchema text := by
  simp [schemaText?, WritesSchema, Option.bind_eq_some_iff, input?_eq_some_iff]

end Step

/-- What the last of several writes leaves, in front of one more write. -/
theorem getLast?_filterMap_cons_or (write : Step → Option α) (s : Step) (ss : List Step)
    (initial : Option α) :
    ((s :: ss).filterMap write).getLast?.or initial =
      (ss.filterMap write).getLast?.or ((write s).or initial) := by
  cases hs : write s with
  | none => simp [hs]
  | some a => cases hlast : (ss.filterMap write).getLast? <;> simp [hs, List.getLast?_cons, hlast]

namespace Reading

/-- What has been read after some more steps. -/
def after (r : Reading) (ss : List Step) : Reading :=
  ss.foldl (fun r s => r.step s.method s.argument?) r

/-- One step: the kind is kept once it is known, and a schema gives way to the next one of its sort. -/
theorem step_eq (r : Reading) (s : Step) :
    r.step s.method s.argument? =
      ⟨r.kind.or s.operation?, r.hasInput || decide (s.method = "input"),
        s.schemaName?.or r.schemaName, s.schemaText?.or r.schemaText⟩ := by
  obtain ⟨kind, hasInput, schemaName, schemaText⟩ := r
  obtain ⟨method, argument?⟩ := s
  by_cases hinput : method = "input"
  · subst hinput
    -- an input is no operation
    have hoperation : Step.operation? ⟨"input", argument?⟩ = none := rfl
    cases argument? with
    | none => simp [step, withInput, Step.schemaName?, Step.schemaText?, Step.input?, hoperation]
    | some a =>
      by_cases hname : a.kind = .identifier
      · simp [step, withInput, Step.schemaName?, Step.schemaText?, Step.input?, hoperation, hname]
      · simp [step, withInput, Step.schemaName?, Step.schemaText?, Step.input?, hoperation, hname]
  · cases kind with
    | none => simp [step, Step.schemaName?, Step.schemaText?, Step.input?, Step.operation?, hinput]
    | some kind => simp [step, Step.schemaName?, Step.schemaText?, Step.input?, hinput]

/-- The whole pass: the first operation, and the last schema of either sort. -/
theorem after_eq (r : Reading) (ss : List Step) :
    r.after ss =
      ⟨r.kind.or (ss.filterMap Step.operation?).head?,
        r.hasInput || ss.any fun s => s.method = "input",
        (ss.filterMap Step.schemaName?).getLast?.or r.schemaName,
        (ss.filterMap Step.schemaText?).getLast?.or r.schemaText⟩ := by
  -- each step changes the reading, so the induction is over all of them
  induction ss generalizing r with
  | nil => simp [after]
  | cons s ss ih =>
    show (r.step s.method s.argument?).after ss = _
    rw [ih, step_eq, getLast?_filterMap_cons_or, getLast?_filterMap_cons_or]
    cases hs : s.operation? <;> simp [hs, Bool.or_assoc]

end Reading

/-- Reading a chain is one pass over its steps. -/
theorem readChain_eq_after (r : Reading) (expr : Node) :
    readChain r expr = r.after (steps expr) := by
  fun_induction readChain r expr with
  | case1 r expr _ hcallee =>
    have hstep : step? expr = none := by simp_all [step?]
    rw [steps_of_no_step hstep]
    rfl
  | case2 r expr _ callee hcallee _ _ inner hinner ih =>
    -- the outermost call is read first, and the chain goes on in its receiver
    have hstep : step? expr = some (⟨Node.textOf (callee.child? .property),
        (Node.membersOf (expr.child? .arguments)).head?⟩, some inner) := by simp_all [step?]
    rw [steps_of_step hstep, ih]
    rfl
  | case3 r expr _ callee hcallee _ _ hinner =>
    have hstep : step? expr = some (⟨Node.textOf (callee.child? .property),
        (Node.membersOf (expr.child? .arguments)).head?⟩, none) := by simp_all [step?]
    rw [steps_of_step hstep]
    rfl
  | case4 r expr _ callee hcallee =>
    have hstep : step? expr = none := by simp_all [step?]
    rw [steps_of_no_step hstep]
    rfl
  | case5 r expr =>
    have hstep : step? expr = none := by simp_all [step?]
    rw [steps_of_no_step hstep]
    rfl

/-! ## §3 Summaries -/

/-- The outermost step of some sort gives the value. -/
def Outermost (R : Step → α → Prop) (ss : List Step) (a : α) : Prop :=
  ∃ outer s inner, ss = outer ++ s :: inner ∧ R s a ∧ ∀ t ∈ outer, ∀ b, ¬ R t b

/-- The innermost step of some sort gives the value. -/
def Innermost (R : Step → α → Prop) (ss : List Step) (a : α) : Prop :=
  ∃ outer s inner, ss = outer ++ s :: inner ∧ R s a ∧ ∀ t ∈ inner, ∀ b, ¬ R t b

/-- What a chain says about its procedure: the outermost operation counts, and of the inputs with a
    named and with another schema the innermost one each. -/
structure Summarizes (ss : List Step) (p : Procedure) : Prop where
  kind : Outermost Step.Operates ss p.kind
  hasInput : p.hasInput = true ↔ ∃ s ∈ ss, s.method = "input"
  schemaName : ∀ name, p.schemaName = some name ↔ Innermost Step.NamesSchema ss name
  schemaText : ∀ text, p.schemaText = some text ↔ Innermost Step.WritesSchema ss text

section Search

variable {f : Step → Option α} {R : Step → α → Prop} {ss : List Step} {a : α}
variable (hf : ∀ s a, f s = some a ↔ R s a)

include hf

theorem eq_none_iff_of_some_iff (s : Step) : f s = none ↔ ∀ b, ¬ R s b := by
  rw [Option.eq_none_iff_forall_ne_some]
  exact forall_congr' fun b => not_congr (hf s b)

theorem head?_filterMap_iff : (ss.filterMap f).head? = some a ↔ Outermost R ss a := by
  rw [List.head?_filterMap, List.findSome?_eq_some_iff]
  simp only [Outermost, hf, eq_none_iff_of_some_iff hf]

theorem getLast?_filterMap_iff : (ss.filterMap f).getLast? = some a ↔ Innermost R ss a := by
  rw [← List.head?_reverse, ← List.filterMap_reverse, List.head?_filterMap,
    List.findSome?_eq_some_iff]
  simp only [Innermost, hf, eq_none_iff_of_some_iff hf]
  -- the last entry of a list is the first one of its reverse
  constructor
  · rintro ⟨before, s, behind, hreverse, hs, hnone⟩
    refine ⟨behind.reverse, s, before.reverse, ?_, hs, ?_⟩
    · simpa using congrArg List.reverse hreverse
    · intro t ht
      exact hnone t (List.mem_reverse.mp ht)
  · rintro ⟨outer, s, inner, rfl, hs, hnone⟩
    refine ⟨inner.reverse, s, outer.reverse, by simp, hs, ?_⟩
    intro t ht
    exact hnone t (List.mem_reverse.mp ht)

end Search

/-- The summary of a chain, if it has an operation. -/
def summary? (ss : List Step) : Option Procedure :=
  (ss.filterMap Step.operation?).head?.map fun kind =>
    ⟨kind, ss.any fun s => s.method = "input", (ss.filterMap Step.schemaName?).getLast?,
      (ss.filterMap Step.schemaText?).getLast?⟩

theorem summary?_eq_some_iff {ss : List Step} {p : Procedure} :
    summary? ss = some p ↔ Summarizes ss p := by
  have hkind (kind : ProcedureKind) :
      (ss.filterMap Step.operation?).head? = some kind ↔ Outermost Step.Operates ss kind :=
    head?_filterMap_iff Step.operation?_eq_some_iff
  have hname (name : String) :
      (ss.filterMap Step.schemaName?).getLast? = some name ↔ Innermost Step.NamesSchema ss name :=
    getLast?_filterMap_iff Step.schemaName?_eq_some_iff
  have htext (text : String) :
      (ss.filterMap Step.schemaText?).getLast? = some text ↔ Innermost Step.WritesSchema ss text :=
    getLast?_filterMap_iff Step.schemaText?_eq_some_iff
  have hinput : (ss.any fun s => s.method = "input") = true ↔ ∃ s ∈ ss, s.method = "input" := by simp
  constructor
  · intro h
    obtain ⟨kind, hfirst, rfl⟩ := Option.map_eq_some_iff.mp h
    exact ⟨(hkind kind).mp hfirst, hinput, hname, htext⟩
  · intro h
    refine Option.map_eq_some_iff.mpr ⟨p.kind, (hkind p.kind).mpr h.kind, ?_⟩
    -- each of the other parts is determined by what is said of it
    have hinput' : (ss.any fun s => s.method = "input") = p.hasInput := by
      rw [Bool.eq_iff_iff, hinput, h.hasInput]
    have hname' : (ss.filterMap Step.schemaName?).getLast? = p.schemaName :=
      Option.ext fun name => (hname name).trans (h.schemaName name).symm
    have htext' : (ss.filterMap Step.schemaText?).getLast? = p.schemaText :=
      Option.ext fun text => (htext text).trans (h.schemaText text).symm
    rw [hinput', hname', htext']

/-- A chain has a summary exactly if one of its steps is an operation. -/
theorem isSome_summary?_iff {ss : List Step} :
    (summary? ss).isSome = true ↔ ∃ s ∈ ss, s.method = "query" ∨ s.method = "mutation" := by
  have hoperation (s : Step) :
      s.operation?.isSome = true ↔ s.method = "query" ∨ s.method = "mutation" := by
    unfold Step.operation? ProcedureKind.ofWord?
    split
    · simp [*]
    · split <;> simp [*]
  rw [summary?, Option.isSome_map, List.head?_filterMap, List.findSome?_isSome_iff]
  simp only [hoperation]

/-- The name of the property. -/
def keyText (property : Node) : String :=
  Node.textOf (property.child? .key)

/-- The record of a procedure of a router. -/
def recordOf (name path router : String) (p : Procedure) : FunctionSignature :=
  { name := name, parameters := [], returnType := procedureReturn,
    fullSignature := router ++ "." ++ name ++ ": " ++ p.kind.word ++ inputText p,
    filePath := path, isExported := false, parentName := some router, procedure := some p }

section Fields

variable {name path router : String} {p : Procedure}

@[simp] theorem schemaName?_recordOf : (recordOf name path router p).schemaName? = p.schemaName := rfl

@[simp] theorem schemaText?_recordOf : (recordOf name path router p).schemaText? = p.schemaText := rfl

@[simp] theorem hasInput_recordOf : (recordOf name path router p).hasInput = p.hasInput := rfl

end Fields

/-- **Records** are made of the summaries of chains. -/
theorem procedure?_eq (property : Node) (path router : String) :
    procedure? property path router =
      (summary? (chain property)).map (recordOf (keyText property) path router) := by
  unfold procedure? summary? chain
  cases property.child? .value with
  | none => rfl
  | some expr =>
    dsimp only
    rw [readChain_eq_after, Reading.after_eq, Option.map_map]
    simp [Reading.empty, recordOf, keyText, Function.comp_def]

theorem procedure?_eq_some_iff {property : Node} {path router : String} {f : FunctionSignature} :
    procedure? property path router = some f ↔
      ∃ p, Summarizes (chain property) p ∧ f = recordOf (keyText property) path router p := by
  rw [procedure?_eq, Option.map_eq_some_iff]
  simp only [summary?_eq_some_iff, @eq_comm _ f]

/-! ## §4 Steps that do not count -/

/-- The step is an operation or an input; all others do not count. -/
def Step.counts (s : Step) : Bool :=
  s.method = "query" || s.method = "mutation" || s.method = "input"

theorem Step.counts_eq_false_iff {s : Step} :
    s.counts = false ↔ (s.method ≠ "query" ∧ s.method ≠ "mutation") ∧ s.method ≠ "input" := by
  simp [counts]

/-- What only steps that count can give is the same without the others. -/
theorem filterMap_filter_counts {f : Step → Option α} (hf : ∀ s, s.counts = false → f s = none)
    (ss : List Step) : (ss.filter Step.counts).filterMap f = ss.filterMap f := by
  induction ss with
  | nil => rfl
  | cons s ss ih =>
    cases hs : s.counts with
    | false => simp [hs, hf s hs, ih]
    | true => simp [hs, List.filterMap_cons, ih]

/-- A summary depends only on the steps that count, in their order. -/
theorem summary?_filter_counts (ss : List Step) : summary? (ss.filter Step.counts) = summary? ss := by
  have hoperation (s : Step) (hs : s.counts = false) : s.operation? = none := by
    obtain ⟨⟨hquery, hmutation⟩, _⟩ := Step.counts_eq_false_iff.mp hs
    simp [Step.operation?, ProcedureKind.ofWord?, hquery, hmutation]
  have hinput (s : Step) (hs : s.counts = false) : s.input? = none :=
    if_neg (Step.counts_eq_false_iff.mp hs).2
  have hany : ((ss.filter Step.counts).any fun s => s.method = "input") =
      ss.any fun s => s.method = "input" := by
    rw [List.any_filter]
    congr 1
    funext s
    by_cases hs : s.method = "input" <;> simp [Step.counts, hs]
  unfold summary?
  rw [hany, filterMap_filter_counts hoperation, filterMap_filter_counts, filterMap_filter_counts]
  · intro s hs
    simp [Step.schemaText?, hinput s hs]
  · intro s hs
    simp [Step.schemaName?, hinput s hs]

/-- **Procedure chains.** The records of a router object are those of its properties with a plain name,
    in their order. A property has a record exactly if its chain has an operation; the record is made of
    the outermost operation, of whether there is an input, and of the innermost schemas of either sort.
    So steps that are neither operations nor inputs can be added and left out anywhere. -/
theorem procedures_follow_chains (path router : String) :
    (∀ object : Node, ∃ records : List (Option FunctionSignature),
      procedures object path router = records.reduceOption ∧
      List.Forall₂ (fun property record? =>
          (record?.isSome = true ↔
            ∃ s ∈ chain property, s.method = "query" ∨ s.method = "mutation") ∧
          ∀ f, record? = some f ↔
            ∃ p, Summarizes (chain property) p ∧ f = recordOf (keyText property) path router p)
        (object.members.filter isPlainPair) records) ∧
    ∀ property property' : Node, keyText property = keyText property' →
      (chain property).filter Step.counts = (chain property').filter Step.counts →
      procedure? property path router = procedure? property' path router := by
  constructor
  · intro object
    refine ⟨(object.members.filter isPlainPair).map fun p => procedure? p path router, ?_, ?_⟩
    · rw [List.reduceOption, List.filterMap_map]
      rfl
    · rw [List.forall₂_map_right_iff, List.forall₂_same]
      intro property _
      refine ⟨?_, fun f => procedure?_eq_some_iff⟩
      rw [procedure?_eq, Option.isSome_map, isSome_summary?_iff]
  · intro property property' hkey hsteps
    rw [procedure?_eq, procedure?_eq, hkey, ← summary?_filter_counts, hsteps,
      summary?_filter_counts]

/-- The call `receiver.method(arguments)` in some role; the receiver is the object of the access. -/
def methodCall (role : Field) (receiver : Node) (method : String) (arguments : List Node) : Node :=
  .mk .callExpression true (some role) "..."
    [.mk .memberExpression true (some .function) "..."
      [receiver, .mk .propertyIdentifier true (some .property) method []],
     .mk .argumentList true (some .arguments) "(...)" arguments]

/-- A call on an expression puts one step in front of the chain of that expression. -/
theorem steps_methodCall (role : Field) {receiver : Node} (hrole : receiver.field = some .object)
    (method : String) (arguments : List Node) :
    steps (methodCall role receiver method arguments) =
      ⟨method, (arguments.filter fun c => c.named && c.kind != .comment).head?⟩ :: steps receiver := by
  have hstep : step? (methodCall role receiver method arguments) =
      some (⟨method, (arguments.filter fun c => c.named && c.kind != .comment).head?⟩,
        some receiver) := by
    obtain ⟨kind, named, field, text, children⟩ := receiver
    cases hrole
    rfl
  exact steps_of_step hstep

/-- The name `p` of a procedure builder, in front of a dot. -/
def builderName : Node := .mk .identifier true (some .object) "p" []

/-- The name of a schema, as an argument. -/
def schemaNamed (name : String) : Node := .mk .identifier true none name []

/-- The property `ping` with the given value. -/
def pingProperty (value : Node) : Node :=
  .mk .pair true none "ping: ..." [.mk .propertyIdentifier true (some .key) "ping" [], value]

/-- The chains `p.input(S).query()` and `p.use().input(S).output(T).query()` give the same record. -/
theorem padded_chain_same_record :
    let input := methodCall .object builderName "input" [schemaNamed "S"]
    let input' := methodCall .object (methodCall .object builderName "use" []) "input" [schemaNamed "S"]
    let plain := pingProperty (methodCall .value input "query" [])
    let padded := pingProperty
      (methodCall .value (methodCall .object input' "output" [schemaNamed "T"]) "query" [])
    (chain plain).map Step.method = ["query", "input"] ∧
      (chain padded).map Step.method = ["query", "output", "input", "use"] ∧
      procedure? plain "/a.ts" "app" = procedure? padded "/a.ts" "app" ∧
      (procedure? padded "/a.ts" "app").map (·.fullSignature) = some "app.ping: query (input: S)" := by
  intro input input' plain padded
  have hbase : steps builderName = [] := steps_of_no_step rfl
  have hplain : chain plain = [⟨"query", none⟩, ⟨"input", some (schemaNamed "S")⟩] := by
    show steps (methodCall .value input "query" []) = _
    rw [steps_methodCall _ rfl, steps_methodCall _ rfl, hbase]
    rfl
  have hpadded : chain padded = [⟨"query", none⟩, ⟨"output", some (schemaNamed "T")⟩,
      ⟨"input", some (schemaNamed "S")⟩, ⟨"use", none⟩] := by
    show steps (methodCall .value (methodCall .object input' "output" [schemaNamed "T"]) "query" []) = _
    rw [steps_methodCall _ rfl, steps_methodCall _ rfl, steps_methodCall _ rfl,
      steps_methodCall _ rfl, hbase]
    rfl
  have hsteps : (chain plain).filter Step.counts = (chain padded).filter Step.counts := by
    rw [hplain, hpadded]
    rfl
  refine ⟨by rw [hplain]; rfl, by rw [hpadded]; rfl, ?_, by decide +kernel⟩
  exact (procedures_follow_chains "/a.ts" "app").2 plain padded rfl hsteps

/-! ## §5 One input or two -/

section Inputs

variable {ss : List Step}

/-- Some input of the chain gets a named schema, and some input gets another one. -/
def GivesBoth (ss : List Step) : Prop :=
  (∃ s ∈ ss, ∃ name, s.NamesSchema name) ∧ ∃ s ∈ ss, ∃ text, s.WritesSchema text

/-- How a signature ends that shows the schema; an empty one is not shown. -/
def schemaPart (schema : String) : String :=
  if schema = "" then " (input)" else " (input: " ++ schema ++ ")"

/-- The record describes the input with the given first argument: its name or its text is set, by the
    kind of the argument, and the signature shows the same. -/
structure DescribesInput (f : FunctionSignature) (argument : Node) : Prop where
  schemaName : f.schemaName? = if argument.kind = .identifier then some argument.text else none
  schemaText : f.schemaText? =
    if argument.kind = .identifier then none else some (collapse argument.text)
  shown : ∃ kind, f.procedureKind? = some kind ∧
    f.fullSignature = FunctionSignature.ownerPart f.parentName ++ f.name ++ ": " ++ kind.word ++
      schemaPart (if argument.kind = .identifier then argument.text else collapse argument.text)

/-- The record describes no schema. -/
structure DescribesNoSchema (f : FunctionSignature) : Prop where
  schemaName : f.schemaName? = none
  schemaText : f.schemaText? = none
  shown : ∃ kind, f.procedureKind? = some kind ∧
    f.fullSignature = FunctionSignature.ownerPart f.parentName ++ f.name ++ ": " ++ kind.word ++
      if f.hasInput then " (input)" else ""

theorem exists_innermost_iff {f : Step → Option α} {R : Step → α → Prop}
    (hf : ∀ s a, f s = some a ↔ R s a) :
    (∃ a, Innermost R ss a) ↔ ∃ s ∈ ss, ∃ a, R s a := by
  constructor
  · rintro ⟨a, outer, s, inner, rfl, hs, _⟩
    exact ⟨s, by simp, a, hs⟩
  · rintro ⟨s, hs, a, ha⟩
    have hmem : a ∈ ss.filterMap f := List.mem_filterMap.mpr ⟨s, hs, (hf s a).mpr ha⟩
    cases hlast : (ss.filterMap f).getLast? with
    | none =>
      rw [List.getLast?_eq_none_iff.mp hlast] at hmem
      cases hmem
    | some b => exact ⟨b, (getLast?_filterMap_iff hf).mp hlast⟩

variable {p : Procedure}

theorem Summarizes.exists_schemaName_iff (h : Summarizes ss p) :
    (∃ name, p.schemaName = some name) ↔ ∃ s ∈ ss, ∃ name, s.NamesSchema name := by
  simp only [h.schemaName]
  exact exists_innermost_iff Step.schemaName?_eq_some_iff

theorem Summarizes.exists_schemaText_iff (h : Summarizes ss p) :
    (∃ text, p.schemaText = some text) ↔ ∃ s ∈ ss, ∃ text, s.WritesSchema text := by
  simp only [h.schemaText]
  exact exists_innermost_iff Step.schemaText?_eq_some_iff

/-- Unless the chain gives schemas of both sorts, its record describes the innermost input that has an
    argument. -/
theorem Summarizes.describesInput (h : Summarizes ss p) (hone : ¬ GivesBoth ss) {a : Node}
    (ha : Innermost Step.TakesInput ss a) (name path router : String) :
    DescribesInput (recordOf name path router p) a := by
  obtain ⟨outer, s, inner, hss, hs, hinner⟩ := ha
  have hmem : s ∈ ss := by simp [hss]
  have hinput : p.hasInput = true := h.hasInput.mpr ⟨s, hmem, hs.1⟩
  by_cases hkind : a.kind = .identifier
  · -- no input further in has an argument, so none of them names a schema
    have hname : p.schemaName = some a.text := by
      refine (h.schemaName _).mpr ⟨outer, s, inner, hss, ⟨a, hs, hkind, rfl⟩, ?_⟩
      rintro t ht _ ⟨b, hb, _⟩
      exact hinner t ht b hb
    have htext : p.schemaText = none := by
      rw [Option.eq_none_iff_forall_ne_some]
      intro text hsome
      exact hone ⟨⟨s, hmem, a.text, a, hs, hkind, rfl⟩, h.exists_schemaText_iff.mp ⟨text, hsome⟩⟩
    have hshown : inputText p = schemaPart a.text := by
      by_cases hempty : a.text = "" <;>
        simp [inputText, shownSchema?, schemaPart, hinput, hname, htext, hempty]
    refine ⟨?_, ?_, p.kind, rfl, ?_⟩
    · simpa [hkind] using hname
    · simpa [hkind] using htext
    · rw [if_pos hkind, ← hshown]
      rfl
  · have htext : p.schemaText = some (collapse a.text) := by
      refine (h.schemaText _).mpr ⟨outer, s, inner, hss, ⟨a, hs, hkind, rfl⟩, ?_⟩
      rintro t ht _ ⟨b, hb, _⟩
      exact hinner t ht b hb
    have hname : p.schemaName = none := by
      rw [Option.eq_none_iff_forall_ne_some]
      intro name hsome
      exact hone ⟨h.exists_schemaName_iff.mp ⟨name, hsome⟩,
        ⟨s, hmem, collapse a.text, a, hs, hkind, rfl⟩⟩
    have hshown : inputText p = schemaPart (collapse a.text) := by
      simp [inputText, shownSchema?, schemaPart, hinput, hname, htext]
    refine ⟨?_, ?_, p.kind, rfl, ?_⟩
    · simpa [hkind] using hname
    · simpa [hkind] using htext
    · rw [if_neg hkind, ← hshown]
      rfl

/-- Where no input has an argument, there is no schema to describe. -/
theorem Summarizes.describesNoSchema (h : Summarizes ss p)
    (hnone : ∀ s ∈ ss, ∀ a, ¬ s.TakesInput a) (name path router : String) :
    DescribesNoSchema (recordOf name path router p) := by
  have hname : p.schemaName = none := by
    rw [Option.eq_none_iff_forall_ne_some]
    intro name hsome
    obtain ⟨s, hs, _, a, ha, _⟩ := h.exists_schemaName_iff.mp ⟨name, hsome⟩
    exact hnone s hs a ha
  have htext : p.schemaText = none := by
    rw [Option.eq_none_iff_forall_ne_some]
    intro text hsome
    obtain ⟨s, hs, _, a, ha, _⟩ := h.exists_schemaText_iff.mp ⟨text, hsome⟩
    exact hnone s hs a ha
  have hshown : inputText p = if p.hasInput then " (input)" else "" := by
    simp [inputText, shownSchema?, hname, htext]
  refine ⟨hname, htext, p.kind, rfl, ?_⟩
  rw [hasInput_recordOf, ← hshown]
  rfl

end Inputs

/-- **One input schema.** A record has a schema by name and a schema by text exactly if its chain has
    inputs of both sorts. In all other cases it describes one input, the innermost one that has an
    argument, with the field that goes with the argument and the same schema in the signature, or no
    input has an argument and no schema is described. -/
theorem one_input_described_iff {property : Node} {path router : String} {f : FunctionSignature}
    (h : procedure? property path router = some f) :
    ((∃ name, f.schemaName? = some name) ∧ (∃ text, f.schemaText? = some text) ↔
      GivesBoth (chain property)) ∧
    (¬ GivesBoth (chain property) ↔
      (∃ a, Innermost Step.TakesInput (chain property) a ∧ DescribesInput f a) ∨
        (∀ s ∈ chain property, ∀ a, ¬ s.TakesInput a) ∧ DescribesNoSchema f) := by
  obtain ⟨p, hsummary, rfl⟩ := procedure?_eq_some_iff.mp h
  have hboth : (∃ name, p.schemaName = some name) ∧ (∃ text, p.schemaText = some text) ↔
      GivesBoth (chain property) :=
    and_congr hsummary.exists_schemaName_iff hsummary.exists_schemaText_iff
  refine ⟨hboth, ?_, ?_⟩
  · intro hone
    by_cases hinput : ∃ s ∈ chain property, ∃ a, s.TakesInput a
    · left
      obtain ⟨a, ha⟩ := (exists_innermost_iff Step.input?_eq_some_iff).mpr hinput
      exact ⟨a, ha, hsummary.describesInput hone ha _ _ _⟩
    · right
      have hnone : ∀ s ∈ chain property, ∀ a, ¬ s.TakesInput a :=
        fun s hs a ha => hinput ⟨s, hs, a, ha⟩
      exact ⟨hnone, hsummary.describesNoSchema hnone _ _ _⟩
  · -- a record that describes at most one input has at most one of the two fields set
    rintro hdescribed hgives
    obtain ⟨⟨name, hname⟩, text, htext⟩ := hboth.mpr hgives
    rcases hdescribed with ⟨a, _, hinput⟩ | ⟨_, hschema⟩
    · have hnone := hinput.schemaText
      have hnone' := hinput.schemaName
      by_cases hkind : a.kind = .identifier
      · rw [if_pos hkind] at hnone
        exact absurd (htext.symm.trans hnone) (by simp)
      · rw [if_neg hkind] at hnone'
        exact absurd (hname.symm.trans hnone') (by simp)
    · exact absurd (hname.symm.trans hschema.schemaName) (by simp)

/-- The chain `p.input(S).query()` describes its one input. -/
theorem named_input_described :
    let input := methodCall .object builderName "input" [schemaNamed "S"]
    let ping := pingProperty (methodCall .value input "query" [])
    ∃ f, procedure? ping "/a.ts" "app" = some f ∧ f.schemaName? = some "S" ∧ f.schemaText? = none ∧
      ((∃ a, Innermost Step.TakesInput (chain ping) a ∧ DescribesInput f a) ∨
        (∀ s ∈ chain ping, ∀ a, ¬ s.TakesInput a) ∧ DescribesNoSchema f) := by
  intro input ping
  have hrecord : procedure? ping "/a.ts" "app" =
      some (recordOf "ping" "/a.ts" "app" ⟨.query, true, some "S", none⟩) := by decide +kernel
  obtain ⟨hboth, hone⟩ := one_input_described_iff hrecord
  refine ⟨_, hrecord, rfl, rfl, hone.mp ?_⟩
  rw [← hboth]
  rintro ⟨_, text, htext⟩
  cases htext

/-- The call `z.object()`, as an argument. -/
def writtenSchema : Node :=
  .mk .callExpression true none "z.object()"
    [.mk .memberExpression true (some .function) "z.object"
      [.mk .identifier true (some .object) "z" [],
       .mk .propertyIdentifier true (some .property) "object" []],
     .mk .argumentList true (some .arguments) "()" []]

/-- The chain `p.input(A).input(z.object()).query()` has both fields set, from two inputs, although the
    signature shows one of them. -/
theorem two_inputs_described :
    let named := methodCall .object builderName "input" [schemaNamed "A"]
    let written := methodCall .object named "input" [writtenSchema]
    ∃ f, procedure? (pingProperty (methodCall .value written "query" [])) "/a.ts" "app" = some f ∧
      f.schemaName? = some "A" ∧ f.schemaText? = some "z.object()" ∧
      f.fullSignature = "app.ping: query (input: A)" := by
  intro named written
  exact ⟨recordOf "ping" "/a.ts" "app" ⟨.query, true, some "A", some "z.object()"⟩, by decide +kernel,
    rfl, rfl, by decide +kernel⟩

end TsOutline.Router
