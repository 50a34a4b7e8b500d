import TsOutline.Value
import TsOutline.Exclusion
import TsOutline.Router
import TsOutline.Text.Line
import TsOutline.Text.Numeral
import TsOutline.TypeText

/-!
# Configurations

The settings of a scan, and how they are made from loose fields. Every field is read on its own; a
value of another type is converted where that loses nothing (`"3"` is a number, `"yes"` a truth
value). All unsuitable fields are reported together, in the order of the fields. Unknown fields are
kept as they are.
-/

namespace TsOutline

/-- The settings of a scan. -/
structure Config where
  workspace : Option String
  blacklist : List String
  typeDepth : Int
  exportedOnly : Bool
  includeTypes : Bool
  routerFactories : List String
  extras : List (String × Value)

namespace Config

/-- The settings where nothing is said. -/
def default : Config :=
  ⟨none, [], TypeText.defaultDepth, false, true, Router.defaultFactories, []⟩

/-! ## §1 Unsuitable values -/

/-- Why a value does not suit a setting. -/
inductive Reason where
  | noText
  | noList
  | noInteger
  | unreadableInteger
  | hugeInteger
  | fraction
  | negativeDepth
  | noTruth
  | unreadableTruth
  deriving Repr, DecidableEq

/-- The short name of a reason. -/
def Reason.code : Reason → String
  | noText => "string_type"
  | noList => "list_type"
  | noInteger => "int_type"
  | unreadableInteger => "int_parsing"
  | hugeInteger => "int_parsing_size"
  | fraction => "int_from_float"
  | negativeDepth => "value_error"
  | noTruth => "bool_type"
  | unreadableTruth => "bool_parsing"

/-- The wording of a reason. -/
def Reason.message : Reason → String
  | noText => "Input should be a valid string"
  | noList => "Input should be a valid list"
  | noInteger => "Input should be a valid integer"
  | unreadableInteger => "Input should be a valid integer, unable to parse string as an integer"
  | hugeInteger => "Unable to parse input string as an integer, exceeded maximum size"
  | fraction => "Input should be a valid integer, got a number with a fractional part"
  | negativeDepth => "Value error, type_depth must be non-negative"
  | noTruth => "Input should be a valid boolean"
  | unreadableTruth => "Input should be a valid boolean, unable to interpret input"

/-- A value that does not suit a field, or an item of the field's list. -/
structure Issue where
  fieldName : String
  index : Option Nat
  reason : Reason
  input : Value

/-- The most bytes of a value's text that a message shows in full. -/
def shownLimit : Nat := 50

/-- The characters from the front that fit into a number of bytes. -/
def takeBytes (budget : Nat) : List Char → List Char
  | [] => []
  | c :: cs => if c.utf8Size ≤ budget then c :: takeBytes (budget - c.utf8Size) cs else []

/-- The text of a value in a message: of a long one, the start and the end. -/
def shownInput (v : Value) : String :=
  let text := v.shown
  if text.utf8ByteSize ≤ shownLimit then text
  else
    String.ofList (takeBytes (shownLimit / 2) text.toList) ++ Text.ellipsis ++
      String.ofList (takeBytes (shownLimit / 2 - 1) text.toList.reverse).reverse

/-- Where the value stands. -/
def Issue.place (i : Issue) : String :=
  match i.index with
  | some n => i.fieldName ++ "." ++ Nat.repr n
  | none => i.fieldName

/-- The two lines of an issue: where, and what. -/
def Issue.message (i : Issue) : String :=
  i.place ++ "\n  " ++ i.reason.message ++ " [type=" ++ i.reason.code ++ ", input_value=" ++
    shownInput i.input ++ ", input_type=" ++ i.input.typeWord ++ "]"

/-- All issues under a heading with their number. -/
def issuesMessage (issues : List Issue) : String :=
  Nat.repr issues.length ++ " validation error" ++ (if issues.length = 1 then "" else "s") ++
    " for ProjectStructureConfig\n" ++ Text.join "\n" (issues.map Issue.message)

/-! ## §2 Reading values -/

/-- A text. -/
def readText : Value → Except Reason String
  | .text s => .ok s
  | _ => .error .noText

/-- The whole number that a decimal fraction is; one that is whole has to fit into a word. -/
def readWhole (mantissa : Int) (places : Nat) : Except Reason Int :=
  match Number.wholeOf? mantissa places with
  | none => .error .fraction
  | some n => if Number.isWord n && n != -Number.wordEnd then .ok n else .error .hugeInteger

/-- A whole number: truth values count as one and zero, and a fraction of zeros is dropped. -/
def readInt : Value → Except Reason Int
  | .int n => .ok n
  | .bool b => .ok (if b then 1 else 0)
  | .real m p => readWhole m p
  | .text s =>
    match Text.readSetting s with
    | .ok n => .ok n
    | .error .unreadable => .error .unreadableInteger
    | .error .tooLong => .error .hugeInteger
  | _ => .error .noInteger

/-- A depth is a whole number that is not negative. -/
def readDepth (v : Value) : Except Reason Int :=
  match readInt v with
  | .ok n => if n < 0 then .error .negativeDepth else .ok n
  | .error e => .error e

/-- The words for `false`. -/
def falseWords : List String := ["0", "off", "f", "false", "n", "no"]

/-- The words for `true`. -/
def trueWords : List String := ["1", "on", "t", "true", "y", "yes"]

/-- The truth value that a number stands for: one or zero. A number beyond words is not even
    considered. -/
def truthOfInt (n : Int) : Except Reason Bool :=
  if n = 0 then .ok false
  else if n = 1 then .ok true
  else if Number.isWord n then .error .unreadableTruth
  else .error .noTruth

/-- The truth value that a word stands for. Case does not matter; the words have ASCII letters
    only. -/
def truthOfWord (s : String) : Except Reason Bool :=
  let word := String.ofList (s.toList.map Char.toLower)
  if falseWords.contains word then .ok false
  else if trueWords.contains word then .ok true
  else .error .unreadableTruth

/-- A truth value, or a number or word that stands for one. -/
def readTruth : Value → Except Reason Bool
  | .bool b => .ok b
  | .int n => truthOfInt n
  | .real m p =>
    match readWhole m p with
    | .ok n => truthOfInt n
    | .error _ => .error .noTruth
  | .text s => truthOfWord s
  | _ => .error .noTruth

/-! ## §3 Reading fields -/

/-- A field that was read, or all issues with it. -/
abbrev Checked (α : Type) := Except (List Issue) α

/-- Reads a field as a whole. -/
def checkedAs {α : Type} (name : String) (read : Value → Except Reason α) (v : Value) : Checked α :=
  match read v with
  | .ok a => .ok a
  | .error reason => .error [⟨name, none, reason, v⟩]

/-- The items of a list that are no texts, counted from `n`. -/
def itemIssues (name : String) (n : Nat) : List Value → List Issue
  | [] => []
  | v :: rest =>
    match readText v with
    | .ok _ => itemIssues name (n + 1) rest
    | .error reason => ⟨name, some n, reason, v⟩ :: itemIssues name (n + 1) rest

/-- The texts among values. -/
def textsOf (items : List Value) : List String :=
  items.filterMap fun v => (readText v).toOption

/-- A list of texts. -/
def checkedTexts (name : String) : Value → Checked (List String)
  | .list items =>
    match itemIssues name 0 items with
    | [] => .ok (textsOf items)
    | issues => .error issues
  | v => .error [⟨name, none, .noList, v⟩]

/-- A list of texts; a single text is a blacklist with commas. -/
def checkedBlacklist (name : String) : Value → Checked (List String)
  | .text s => .ok (Exclusion.entriesOf s)
  | v => checkedTexts name v

/-- A text or nothing. -/
def checkedWorkspace (name : String) : Value → Checked (Option String)
  | .null => .ok none
  | v => (checkedAs name readText v).map some

/-! ## §4 The whole -/

/-- Loose fields: each name once. -/
abbrev Fields := List (String × Value)

/-- The value of a field. -/
def fieldValue? (fields : Fields) (name : String) : Option Value :=
  (fields.find? fun p => p.1 == name).map (·.2)

/-- Sets a field: in place if it is there, else at the end. -/
def setField (name : String) (v : Value) : Fields → Fields
  | [] => [(name, v)]
  | p :: rest => if p.1 == name then (name, v) :: rest else p :: setField name v rest

/-- Sets fields one after the other. -/
def setFields (fields new : Fields) : Fields :=
  new.foldl (fun acc p => setField p.1 p.2 acc) fields

/-- A field read with `check`, or its default if it is missing. -/
def fieldOr {α : Type} (fields : Fields) (name : String) (fallback : α)
    (check : String → Value → Checked α) : Checked α :=
  match fieldValue? fields name with
  | some v => check name v
  | none => .ok fallback

/-- The names of the settings, in order. -/
def fieldNames : List String :=
  ["workspace", "blacklist", "type_depth", "exported_only", "include_types", "router_factories"]

/-- The issues of a field. -/
def issuesOf {α : Type} : Checked α → List Issue
  | .ok _ => []
  | .error issues => issues

/-- The configuration that loose fields describe, or everything that is wrong with them. -/
def ofFields (fields : Fields) : Checked Config :=
  let workspace := fieldOr fields "workspace" default.workspace checkedWorkspace
  let blacklist := fieldOr fields "blacklist" default.blacklist checkedBlacklist
  let depth := fieldOr fields "type_depth" default.typeDepth fun n => checkedAs n readDepth
  let exported := fieldOr fields "exported_only" default.exportedOnly fun n => checkedAs n readTruth
  let types := fieldOr fields "include_types" default.includeTypes fun n => checkedAs n readTruth
  let factories := fieldOr fields "router_factories" default.routerFactories checkedTexts
  match workspace, blacklist, depth, exported, types, factories with
  | .ok w, .ok b, .ok d, .ok e, .ok t, .ok f =>
    .ok ⟨w, b, d, e, t, f, fields.filter fun p => !fieldNames.contains p.1⟩
  | _, _, _, _, _, _ =>
    .error (issuesOf workspace ++ issuesOf blacklist ++ issuesOf depth ++ issuesOf exported ++
      issuesOf types ++ issuesOf factories)

end Config

end TsOutline
