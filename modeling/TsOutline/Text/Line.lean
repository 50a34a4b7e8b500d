import TsOutline.Text.Blank

/-!
# One-Line Texts

A signature is one line cut from a source of any layout. Three operations bring a piece of source
to that form: `collapse` turns every run of blanks into one space, `collapseLines` does so only
where a line ends, and `clip` shortens a text and marks the cut.
-/

namespace TsOutline.Text

/-! ## §1 Collapsing blanks -/

/-- Every run of blanks becomes one space. `inRun` says that the last character was a blank, whose
    space is already written. -/
def collapseFrom ( inRun : Bool) : List Char → List Char
  | [] => []
  | c :: cs =>
    if isBlank c then
      if inRun then collapseFrom true cs else ' ' :: collapseFrom true cs
    else
      c :: collapseFrom false cs

/-- The text with every run of blanks written as one space. -/
def collapse (s : String) : String :=
  String.ofList (collapseFrom false s.toList)

/-- Every line feed becomes, with the blanks that follow it, one space. `inRun` says that such a
    space was just written and blanks are being skipped. -/
def collapseLinesFrom ( inRun : Bool) : List Char → List Char
  | [] => []
  | c :: cs =>
    if inRun && isBlank c then collapseLinesFrom true cs
    else if c = '\n' then ' ' :: collapseLinesFrom true cs
    else c :: collapseLinesFrom false cs

/-- The text on one line: a line feed and the indentation after it are written as one space. -/
def collapseLines (s : String) : String :=
  String.ofList (collapseLinesFrom false s.toList)

/-! ## §2 Clipping -/

/-- Marks a place where something was left out. -/
def ellipsis : String := "..."

/-- How many of `length` characters are kept under `limit`; a negative limit counts from the
    end. -/
def keptUnder (limit : Int) (length : Nat) : Nat :=
  if limit < 0 then (length + limit).toNat else limit.toNat

/-- At most `limit` characters, with an ellipsis after them if some were dropped. -/
def clip (limit : Int) (s : String) : String :=
  if limit < (s.toList.length : Int) then
    String.ofList (s.toList.take (keptUnder limit s.toList.length)) ++ ellipsis
  else
    s

end TsOutline.Text
