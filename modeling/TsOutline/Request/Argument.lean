import TsOutline.Config.Basic
import TsOutline.Text.Json

/-!
# Arguments of Requests

A request brings its arguments as values of any type. They are not checked beforehand: each is read as
what the operation needs, at the moment it is needed, and only then a value of an unsuitable type is a
fault. An argument that is never looked at can be anything.

The modules on requests are a thin layer above the library. Only the program that answers requests
uses them: the rest of the library does without, and no theorem is about them. A request decodes its
arguments and hands them to the definitions that the theorems are about.
-/

namespace TsOutline.Request

/-! ## §1 Faults -/

/-- Why an argument cannot be used. -/
inductive ArgumentFault where
  /-- The operation does not work on values of this type. -/
  | wrongType
  /-- The operation asks the value for something that values of this type do not have. -/
  | noPart
  deriving Repr, DecidableEq

/-! ## §2 Reading -/

/-- A text. -/
def textOf : Value → Except ArgumentFault String
  | .text s => .ok s
  | _ => .error .wrongType

/-- The members of a value. -/
def membersOf (v : Value) : Except ArgumentFault (List Value) :=
  match v.members? with
  | some members => .ok members
  | none => .error .wrongType

/-- Values that all have to be texts; `fault` is what is wrong with any other. -/
def allTexts (fault : ArgumentFault) : List Value → Except ArgumentFault (List String)
  | [] => .ok []
  | .text s :: rest => (allTexts fault rest).map (s :: ·)
  | _ :: _ => .error fault

/-- The texts among the members of a value; a value that says nothing has none. -/
def textMembers (fault : ArgumentFault) (v : Value) : Except ArgumentFault (List String) :=
  if v.isTruthy then
    match membersOf v with
    | .ok members => allTexts fault members
    | .error e => .error e
  else
    .ok []

/-- The entries of a blacklist; each of them is trimmed, so that it has to be a text. -/
def blacklistOf (v : Value) : Except ArgumentFault (List String) :=
  textMembers .noPart v

/-- The value after the first occurrence of a word. -/
def valueAfter? (word : String) : List Value → Option Value
  | [] => none
  | .text a :: rest => if a = word then rest.head? else valueAfter? word rest
  | _ :: rest => valueAfter? word rest

/-! ## §3 Documents as values -/

mutual

/-- A document as a value. -/
def valueOf : Json → Value
  | .null => .null
  | .bool b => .bool b
  | .int n => .int n
  | .str s => .text s
  | .arr items => .list (valuesOf items)
  | .obj fields => .map (entriesOf fields)

/-- Documents as values. -/
def valuesOf : List Json → List Value
  | [] => []
  | item :: items => valueOf item :: valuesOf items

/-- The fields of a document as the entries of a mapping. -/
def entriesOf : List (String × Json) → List (Value × Value)
  | [] => []
  | (key, item) :: fields => (.text key, valueOf item) :: entriesOf fields

end

/-- Replaces a field of a mapping. -/
def withField (name : String) (v : Value) : Value → Value
  | .map entries =>
    .map (entries.map fun entry =>
      match entry.1 with
      | .text key => if key = name then (.text key, v) else entry
      | _ => entry)
  | other => other

/-- A text, or null where there is none. -/
def optionalText (s? : Option String) : Value :=
  match s? with
  | some s => .text s
  | none => .null

end TsOutline.Request
