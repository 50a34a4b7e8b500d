import TsOutline.Text.Quoted

/-!
# JSON Documents

The machine-readable output: a small document type and its one written form, two spaces of
indentation per level and ASCII characters only.
-/

namespace TsOutline

/-- A JSON document. Fields keep their order. -/
inductive Json where
  | null
  | bool (b : Bool)
  | int (n : Int)
  | str (s : String)
  | arr (items : List Json)
  | obj (fields : List (String × Json))

namespace Json

open Text (hexDigits doubleQuote join)

/-! ## §1 Strings -/

/-- A code unit escape: a backslash, `u` and four hexadecimal digits. -/
def unitEscape (n : Nat) : List Char :=
  '\\' :: 'u' :: hexDigits 4 n

/-- One character inside a string: the quote, the backslash and everything outside printable
    ASCII is escaped, beyond the basic plane as a pair of surrogates. -/
def escapedChar (c : Char) : List Char :=
  if c = doubleQuote || c = '\\' then ['\\', c]
  else if c = '\n' then ['\\', 'n']
  else if c = '\r' then ['\\', 'r']
  else if c = '\t' then ['\\', 't']
  else if c.toNat = 0x0C then ['\\', 'f']
  else if c.toNat = 0x08 then ['\\', 'b']
  else if 0x20 ≤ c.toNat ∧ c.toNat ≤ 0x7E then [c]
  else if c.toNat < 0x10000 then unitEscape c.toNat
  else
    let n := c.toNat - 0x10000
    unitEscape (0xD800 + n / 0x400) ++ unitEscape (0xDC00 + n % 0x400)

/-- A string with its quotes. -/
def stringText (s : String) : String :=
  String.ofList (doubleQuote :: s.toList.flatMap escapedChar ++ [doubleQuote])

/-! ## §2 Layout -/

/-- A line end and the indentation of a level. -/
def newline (level : Nat) : String :=
  String.ofList ('\n' :: List.replicate (2 * level) ' ')

/-- The written items of a list or an object between its brackets, one per line. -/
def block (openText closeText : String) (level : Nat) (items : List String) : String :=
  if items.isEmpty then openText ++ closeText
  else
    openText ++ newline (level + 1) ++ join ("," ++ newline (level + 1)) items ++ newline level
      ++ closeText

mutual

/-- The written form of a document that starts on a line of the given level. -/
def renderAt (level : Nat) : Json → String
  | .null => "null"
  | .bool b => if b then "true" else "false"
  | .int n => Int.repr n
  | .str s => stringText s
  | .arr items => block "[" "]" level (renderItems (level + 1) items)
  | .obj fields => block "\x7b" "\x7d" level (renderFields (level + 1) fields)

/-- The written items of a list. -/
def renderItems (level : Nat) : List Json → List String
  | [] => []
  | item :: items => renderAt level item :: renderItems level items

/-- The written fields of an object. -/
def renderFields (level : Nat) : List (String × Json) → List String
  | [] => []
  | (key, value) :: fields =>
    (stringText key ++ ": " ++ renderAt level value) :: renderFields level fields

end

/-- The written form of a document. -/
def render (doc : Json) : String :=
  renderAt 0 doc

/-- A string or `null`. -/
def optional (s? : Option String) : Json :=
  match s? with
  | some s => .str s
  | none => .null

end Json

end TsOutline
