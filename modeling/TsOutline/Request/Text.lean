import TsOutline.Component
import TsOutline.Exclusion
import TsOutline.Grammar
import TsOutline.Request.Argument

/-!
# Questions about Texts

The small functions on texts, asked for a value that should be a text. This module belongs to the outer
layer, and no theorem reaches it.
-/

namespace TsOutline.Request

/-- A question about a value. -/
inductive TextQuery where
  /-- The text with its blanks collapsed. -/
  | collapsed
  /-- The text on one line. -/
  | oneLine
  /-- The text clipped to a length. -/
  | clipped (limit? : Option Value)
  /-- It is the name of a component. -/
  | isComponentName
  /-- The name of the grammar for the path. -/
  | grammarName
  /-- It is the path of a view file. -/
  | isViewPath
  /-- There is a grammar of that name. -/
  | isGrammar
  /-- The glob of a blacklist entry. -/
  | glob
  /-- The entries of a blacklist with commas. -/
  | entries
  /-- The blacklist among arguments. -/
  | argumentEntries

/-- Why a question about a value has no answer. -/
inductive TextFault where
  | argument (fault : ArgumentFault)
  | unsupported (fault : Grammar.Unsupported)
  /-- A single text that holds the option is no list of arguments. -/
  | noOption (option : String)
  deriving Repr, DecidableEq

/-- The wording of a fault; faults of arguments have none. -/
def TextFault.message : TextFault → String
  | argument _ => ""
  | unsupported fault => fault.message
  | noOption option => Text.quoted option ++ " is not in list"

/-! ## §1 Clipping -/

/-- How many members a value has. -/
def lengthOf? (v : Value) : Option Nat :=
  v.members?.map List.length

/-- A number is at least as large as a length. -/
def covers (limit : Number) (length : Nat) : Bool :=
  match limit with
  | .whole n => decide ((length : Int) ≤ n)
  | .real m p => decide (((length * Nat.pow 10 p : Nat) : Int) ≤ m)

/-- The value if it is short enough, else its beginning; only a text has one, and only up to a whole
    number of characters. -/
def clipValue (limit? : Option Value) (v : Value) : Except ArgumentFault Value :=
  match lengthOf? v, limit?.bind Value.number? with
  | some length, some limit =>
    if covers limit length then .ok v
    else
      match v, limit with
      | .text s, .whole n => .ok (.text (Text.clip n s))
      | _, _ => .error .wrongType
  | _, _ => .error .wrongType

/-! ## §2 Names -/

/-- The name of a component. Whatever says nothing is none, and only texts have a first letter. -/
def componentName (v : Value) : Except ArgumentFault Bool :=
  if v.isTruthy then
    match v with
    | .text name => .ok (Component.hasComponentName (some name))
    | .list _ => .error .noPart
    | _ => .error .wrongType
  else
    .ok false

/-- There is a grammar of that name; any value that can be looked up is a name. -/
def grammarFault? (v : Value) : Option TextFault :=
  match v with
  | .text name =>
    match Grammar.ofName name with
    | .ok _ => none
    | .error fault => some (.unsupported fault)
  | _ => some (if v.isKey then .unsupported ⟨v.plain⟩ else .argument .wrongType)

/-! ## §3 Blacklists -/

/-- The entries of a blacklist with commas. -/
def entriesAnswer : Value → Except TextFault Value
  | .text s => .ok (.list ((Exclusion.entriesOf s).map .text))
  | _ => .error (.argument .noPart)

/-- The blacklist among arguments. -/
def argumentEntriesAnswer : Value → Except TextFault Value
  | .text s =>
    if Text.contains s Exclusion.option then .error (.noOption Exclusion.option)
    else .ok (.list [])
  | v =>
    match v.members? with
    | none => .error (.argument .wrongType)
    | some members =>
      match valueAfter? Exclusion.option members with
      | some value => entriesAnswer value
      | none => .ok (.list [])

/-! ## §4 Answers -/

/-- Reads the value as a text; `fault` is what is wrong with any other. -/
def onText (fault : ArgumentFault) (f : String → Value) : Value → Except TextFault Value
  | .text s => .ok (f s)
  | _ => .error (.argument fault)

/-- The answer to a question about a value. -/
def TextQuery.answer (v : Value) : TextQuery → Except TextFault Value
  | collapsed => onText .wrongType (fun s => .text (Text.collapse s)) v
  | oneLine => onText .wrongType (fun s => .text (Text.collapseLines s)) v
  | clipped limit? => (clipValue limit? v).mapError .argument
  | isComponentName => ((componentName v).map .bool).mapError .argument
  | grammarName => onText .wrongType (fun s => .text (Grammar.ofPath s).name) v
  | isViewPath => onText .wrongType (fun s => .bool (Grammar.isViewPath s)) v
  | isGrammar =>
    match grammarFault? v with
    | some fault => .error fault
    | none => .ok (.text "ok")
  | glob => onText .noPart (fun s => .text (Exclusion.globOf s)) v
  | entries => entriesAnswer v
  | argumentEntries => argumentEntriesAnswer v

end TsOutline.Request
