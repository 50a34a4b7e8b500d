import TsOutline.Proofs.Depth.Abbreviation
import TsOutline.Proofs.RouterScope

/-!
# Wiring Is Not Listed

A call that makes a router or a procedure takes callbacks, and these are wiring and no functions of
their own. Whether a callable is wiring is asked of each callable alone, by looking upwards, while the
walk goes on below such a call and may even find another router there. This module turns the question
around and looks down from the call.

- **Subtrees** (`preorder_infix_of_mem_preorder`): what lies below a node is one stretch of the walk,
  and from each of its nodes the way up runs through that node.
- **The stretch below a call** (`recordsAt_below_wiring`): all it lists are procedures.
-/

namespace TsOutline

/-! ## §1 Subtrees in a walk -/

namespace Cursor

/-- The way up from a node below runs through the node itself and then through what is above it. -/
theorem path_suffix_of_mem_preorder {c d : Cursor} (h : d ∈ c.preorder) :
    c.node :: c.ancestors <:+ d.node :: d.ancestors := by
  rw [preorder_eq] at h
  rcases List.mem_cons.mp h with rfl | hbelow
  · exact List.suffix_rfl
  · obtain ⟨child, hchild, hmem⟩ := List.mem_flatMap.mp hbelow
    have hlt := size_lt_of_mem_children hchild
    have hsuffix := path_suffix_of_mem_preorder hmem
    obtain ⟨n, _, rfl⟩ := List.mem_map.mp hchild
    exact (List.suffix_cons n _).trans hsuffix
termination_by c.node.size

/-- A node and everything below it are visited without a break. -/
theorem preorder_infix_of_mem_preorder {c d : Cursor} (h : d ∈ c.preorder) :
    d.preorder <:+: c.preorder := by
  rw [preorder_eq c] at h
  rcases List.mem_cons.mp h with rfl | hbelow
  · exact List.infix_rfl
  · obtain ⟨child, hchild, hmem⟩ := List.mem_flatMap.mp hbelow
    have hlt := size_lt_of_mem_children hchild
    -- the subtree of a child stands between those of its elder and of its younger siblings
    have hsiblings : child.preorder <:+: c.children.flatMap preorder := by
      obtain ⟨elder, younger, heq⟩ := List.append_of_mem hchild
      rw [heq, List.flatMap_append, List.flatMap_cons]
      exact ⟨_, _, List.append_assoc _ _ _⟩
    rw [preorder_eq c]
    exact ((preorder_infix_of_mem_preorder hmem).trans hsiblings).trans
      (List.suffix_cons c _).isInfix
termination_by c.node.size

end Cursor

/-! ## §2 Calls that wire -/

namespace Text

theorem endsWith_iff {s tail : String} : endsWith s tail = true ↔ tail.toList <:+ s.toList := by
  rw [endsWith, List.isPrefixOf_iff_prefix, List.reverse_prefix]

end Text

namespace Router

/-- What a call calls belongs to the making of a router or of a procedure. -/
inductive WiringCallee (factories : List String) (callee : String) : Prop where
  /-- It makes a router. -/
  | factory : callee ∈ factories → WiringCallee factories callee
  /-- It mentions a procedure builder. -/
  | builder : "Procedure".toList <:+: callee.toList → WiringCallee factories callee
  /-- It is a method of a chain. -/
  | method (name : String) : name ∈ [".query", ".mutation", ".input", ".use"] →
      name.toList <:+ callee.toList → WiringCallee factories callee

theorem isWiringCall_iff {factories : List String} {n : Node} :
    isWiringCall factories n = true ↔
      n.kind = .callExpression ∧ WiringCallee factories n.calleeText := by
  rw [isWiringCall, Bool.and_eq_true, beq_iff_eq, Bool.or_eq_true, Bool.or_eq_true,
    List.any_eq_true, List.contains_iff_mem, Text.contains_iff]
  refine and_congr_right fun _ => ⟨?_, ?_⟩
  · rintro ((⟨name, hname, hends⟩ | hbuilder) | hfactory)
    · exact .method name hname (Text.endsWith_iff.mp hends)
    · exact .builder hbuilder
    · exact .factory hfactory
  · rintro (hfactory | hbuilder | ⟨name, hname, hends⟩)
    · exact .inr hfactory
    · exact .inl (.inr hbuilder)
    · exact .inl (.inl ⟨name, hname, Text.endsWith_iff.mpr hends⟩)

end Router

/-! ## §3 What is listed below them -/

namespace Outline

open Router (WiringCallee isWiringCall_iff)

/-- The functions of an outline, node by node. -/
theorem functions_ofTree (o : Options) (tree : Node) :
    (ofTree o tree).functions = (Cursor.root tree).preorder.flatMap (recordsAt o) := by
  rw [ofTree_eq_listing]
  rfl

/-- No call above a listed callable wires. -/
theorem not_wiring_above_of_plain {o : Options} {c : Cursor} {f : FunctionSignature}
    (h : f ∈ recordsAt o c) (hplain : f.isProcedure = false) :
    c.kind.isCallable = true ∧
      ∀ a ∈ c.ancestors, a.kind = .callExpression → ¬ WiringCallee o.factories a.calleeText := by
  rcases mem_recordsAt_iff.mp h with hfunction | hprocedure
  · obtain ⟨hcallable, hwiring, _⟩ := functionAt_eq_some hfunction
    refine ⟨hcallable, fun a ha hcall hcallee => ?_⟩
    have hwired : Router.isWiring o.factories c = true :=
      List.any_eq_true.mpr ⟨a, ha, isWiringCall_iff.mpr ⟨hcall, hcallee⟩⟩
    rw [hwiring] at hwired
    cases hwired
  · obtain ⟨_, _, _, hmem⟩ := mem_proceduresAt_iff.mp hprocedure
    rw [(parentName_of_mem_procedures hmem).1] at hplain
    cases hplain

/-- Whatever is listed at or below a call that wires is a procedure. -/
theorem recordsAt_below_wiring {o : Options} {call d : Cursor} {f : FunctionSignature}
    (hcall : call.kind = .callExpression) (hcallee : WiringCallee o.factories call.node.calleeText)
    (hd : d ∈ call.preorder) (hf : f ∈ recordsAt o d) : f.isProcedure = true := by
  by_contra hnot
  obtain ⟨hcallable, habove⟩ := not_wiring_above_of_plain hf (by simpa using hnot)
  have hmem : call.node ∈ d.node :: d.ancestors :=
    (Cursor.path_suffix_of_mem_preorder hd).subset (List.mem_cons_self ..)
  rcases List.mem_cons.mp hmem with heq | hancestor
  · -- the call itself is no callable
    have hkind : d.kind = .callExpression := (congrArg Node.kind heq).symm.trans hcall
    rw [hkind] at hcallable
    cases hcallable
  · exact habove _ hancestor hcall hcallee

/-- **Wiring is not listed.** Below a call of a router factory, of a procedure builder or of a method
    of a chain, the walk lists one stretch of records, and all of them are procedures, whatever stands
    between the call and the nodes they come from. So every other function comes from a node that has
    no such call above it. -/
theorem wiring_lists_only_procedures (o : Options) (tree : Node) :
    (∀ call ∈ (Cursor.root tree).preorder, call.kind = .callExpression →
      WiringCallee o.factories call.node.calleeText →
      (∃ before after, (ofTree o tree).functions =
        before ++ call.preorder.flatMap (recordsAt o) ++ after) ∧
      ∀ d ∈ call.preorder, ∀ f ∈ recordsAt o d, f.isProcedure = true) ∧
    ∀ f ∈ (ofTree o tree).functions, f.isProcedure = false →
      ∃ c ∈ (Cursor.root tree).preorder, f ∈ recordsAt o c ∧
        ∀ a ∈ c.ancestors, a.kind = .callExpression → ¬ WiringCallee o.factories a.calleeText := by
  rw [functions_ofTree]
  constructor
  · intro call hmem hcall hcallee
    refine ⟨?_, fun d hd f hf => recordsAt_below_wiring hcall hcallee hd hf⟩
    obtain ⟨before, after, heq⟩ := Cursor.preorder_infix_of_mem_preorder hmem
    refine ⟨before.flatMap (recordsAt o), after.flatMap (recordsAt o), ?_⟩
    rw [← heq, List.flatMap_append, List.flatMap_append]
  · intro f hf hplain
    obtain ⟨c, hc, hmem⟩ := List.mem_flatMap.mp hf
    exact ⟨c, hc, hmem, (not_wiring_above_of_plain hmem hplain).2⟩

/-- The function expression `function handler() { }`. -/
def namedHandler : Node :=
  .mk .functionExpression true none "function handler() ..."
    [.mk .identifier true (some .name) "handler" [],
     .mk .formalParameters true (some .parameters) "()" [],
     .mk .statementBlock true (some .body) "..." []]

/-- The variable `app = make({ ping: p.query(function handler() { }) })`. -/
def handlerRouter : Node :=
  factoryVariable "app" (.mk .objectLiteral true none "..."
    [.mk .pair true none "ping: ..."
      [.mk .propertyIdentifier true (some .key) "ping" [],
       .mk .callExpression true (some .value) "p.query(...)"
        [.mk .memberExpression true (some .function) "p.query"
          [.mk .identifier true (some .object) "p" [],
           .mk .propertyIdentifier true (some .property) "query" []],
         .mk .argumentList true (some .arguments) "(...)" [namedHandler]]]])

/-- Alone the handler is listed; below the call of the factory only the procedure is. -/
theorem handler_in_router_not_listed :
    let statement : Node := .mk .lexicalDeclaration true none "const app = ..." [handlerRouter]
    let call := handlerRouter.children[1]
    let c : Cursor := ⟨call, [handlerRouter, statement]⟩
    (ofTree makeOptions namedHandler).functions.map (·.fullSignature) = ["handler(): void"] ∧
      (ofTree makeOptions statement).functions.map (·.fullSignature) = ["app.ping: query"] ∧
      c ∈ (Cursor.root statement).preorder ∧ WiringCallee ["make"] call.calleeText ∧
      ∀ d ∈ c.preorder, ∀ f ∈ recordsAt makeOptions d, f.isProcedure = true := by
  intro statement call c
  have hvariable : (⟨handlerRouter, [statement]⟩ : Cursor) ∈ (Cursor.root statement).children :=
    List.mem_cons_self ..
  have hcall : c ∈ Cursor.children ⟨handlerRouter, [statement]⟩ :=
    List.mem_cons_of_mem _ (List.mem_cons_self ..)
  have hmem : c ∈ (Cursor.root statement).preorder :=
    Cursor.mem_preorder_of_mem_children hvariable
      (Cursor.mem_preorder_of_mem_children hcall (Cursor.self_mem_preorder _))
  have hcallee : WiringCallee ["make"] call.calleeText := .factory (by decide)
  exact ⟨by decide +kernel, by decide +kernel, hmem, hcallee,
    ((wiring_lists_only_procedures makeOptions statement).1 c hmem rfl hcallee).2⟩

end Outline

end TsOutline
