import TsOutline.Text.Printable

/-!
# Quoted Text

How a message shows a text inside a sentence: between quotes, with escapes for what would not be
seen. The quote is the apostrophe, unless the text holds apostrophes and no double quotes.
-/

namespace TsOutline.Text

/-- The apostrophe, the usual quote. -/
def apostrophe : Char := Char.ofNat 0x27

/-- The other quote. -/
def doubleQuote : Char := Char.ofNat 0x22

/-- The last `width` hexadecimal digits of `n`, small letters, filled with zeros on the left. -/
def hexDigits : (width : Nat) → (n : Nat) → List Char
  | 0, _ => []
  | width + 1, n => hexDigits width (n / 16) ++ [Nat.digitChar (n % 16)]

/-- The quote under which the text needs the fewest escapes. -/
def quoteFor (cs : List Char) : Char :=
  if cs.contains apostrophe && !cs.contains doubleQuote then doubleQuote else apostrophe

/-- One character between quotes `q`. -/
def quotedChar (q c : Char) : List Char :=
  if c = q || c = '\\' then ['\\', c]
  else if c = '\t' then ['\\', 't']
  else if c = '\n' then ['\\', 'n']
  else if c = '\r' then ['\\', 'r']
  else if isPrintable c then [c]
  else if c.toNat < 0x100 then '\\' :: 'x' :: hexDigits 2 c.toNat
  else if c.toNat < 0x10000 then '\\' :: 'u' :: hexDigits 4 c.toNat
  else '\\' :: 'U' :: hexDigits 8 c.toNat

/-- The text between quotes. -/
def quoted (s : String) : String :=
  let q := quoteFor s.toList
  String.ofList (q :: s.toList.flatMap (quotedChar q) ++ [q])

end TsOutline.Text
