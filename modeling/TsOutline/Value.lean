import TsOutline.Number
import TsOutline.Text.Quoted

/-!
# Values

What a data file can hold, and what settings and requests arrive as. Whether a value suits its purpose
is decided where it is used; here is what all values have in common, and how a message shows one.
-/

namespace TsOutline

/-- A value of a data file. A decimal fraction is `mantissa · 10 ^ (-places)`, and it stays one if it is
    whole. Mappings keep their order, and any value can be a key. -/
inductive Value where
  | null
  | bool (b : Bool)
  | int (n : Int)
  | real (mantissa : Int) (places : Nat)
  | text (s : String)
  | list (items : List Value)
  | map (entries : List (Value × Value))
  deriving Inhabited

namespace Value

/-! ## §1 Emptiness -/

/-- The value says something: it is no null, no `false`, no zero and not empty. -/
def isTruthy : Value → Bool
  | null => false
  | bool b => b
  | int n => n != 0
  | real m _ => m != 0
  | text s => s != ""
  | list items => !items.isEmpty
  | map entries => !entries.isEmpty

/-! ## §2 Members -/

/-- The members of a value one by one: the items of a list, the characters of a text, the keys of a
    mapping. Other values have no members. -/
def members? : Value → Option (List Value)
  | list items => some items
  | text s => some (s.toList.map fun c => text (String.ofList [c]))
  | map entries => some (entries.map (·.1))
  | _ => none

/-- The value of a mapping under a name. -/
def field? (v : Value) (name : String) : Option Value :=
  match v with
  | map entries =>
    (entries.find? fun entry =>
      match entry.1 with
      | text key => key == name
      | _ => false).map (·.2)
  | _ => none

/-- The entries of a mapping under their names; entries without a name are passed over. -/
def namedEntries : List (Value × Value) → List (String × Value)
  | [] => []
  | (text key, v) :: rest => (key, v) :: namedEntries rest
  | _ :: rest => namedEntries rest

/-- A mapping as fields. -/
def fields? : Value → Option (List (String × Value))
  | map entries => some (namedEntries entries)
  | _ => none

/-- The number that a value is; truth values count as one and zero. -/
def number? : Value → Option Number
  | int n => some (.whole n)
  | real m p => some (.real m p)
  | bool b => some (.whole (if b then 1 else 0))
  | _ => none

/-- A value that can be looked up: lists and mappings cannot. -/
def isKey : Value → Bool
  | list _ => false
  | map _ => false
  | _ => true

/-! ## §3 Values in messages -/

/-- The word for the type of a value. -/
def typeWord : Value → String
  | null => "NoneType"
  | bool _ => "bool"
  | int _ => "int"
  | real _ _ => "float"
  | text _ => "str"
  | list _ => "list"
  | map _ => "dict"

mutual

/-- How a message shows a value. -/
def shown : Value → String
  | null => "None"
  | bool b => if b then "True" else "False"
  | int n => Int.repr n
  | real m p => Number.realText m p
  | text s => Text.quoted s
  | list items => "[" ++ shownItems items ++ "]"
  | map entries => "\x7b" ++ shownEntries entries ++ "\x7d"

/-- The items of a list with commas between them. -/
def shownItems : List Value → String
  | [] => ""
  | [v] => shown v
  | v :: rest => shown v ++ ", " ++ shownItems rest

/-- The entries of a mapping with commas between them. -/
def shownEntries : List (Value × Value) → String
  | [] => ""
  | [(k, v)] => shown k ++ ": " ++ shown v
  | (k, v) :: rest => shown k ++ ": " ++ shown v ++ ", " ++ shownEntries rest

end

/-- The text of a value inside another text: a text stands for itself. -/
def plain : Value → String
  | text s => s
  | v => v.shown

end Value

end TsOutline
