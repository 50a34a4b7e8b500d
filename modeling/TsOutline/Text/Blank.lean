/-!
# Blank Characters and Splitting

The one notion of white space of this library, with what is built directly on it: trimming,
splitting at a character, and joining with a separator.

A text is a `String`; every operation is defined on its list of characters, so that facts about
texts are facts about lists.
-/

namespace TsOutline.Text

/-! ## §1 Ranges of code points -/

/-- `c` lies in one of the closed ranges of code points. -/
def inRanges (ranges : List (Nat × Nat)) (c : Char) : Bool :=
  ranges.any fun r => decide (r.1 ≤ c.toNat) && decide (c.toNat ≤ r.2)

/-- The 29 blank characters: tab to carriage return, the four separators before the space, the
    space, next line, no-break space and the Unicode spaces and line separators. Zero-width
    characters are not among them. -/
def blankRanges : List (Nat × Nat) :=
  [(0x09, 0x0D), (0x1C, 0x20), (0x85, 0x85), (0xA0, 0xA0), (0x1680, 0x1680), (0x2000, 0x200A),
   (0x2028, 0x2029), (0x202F, 0x202F), (0x205F, 0x205F), (0x3000, 0x3000)]

/-- A blank character separates words. -/
def isBlank (c : Char) : Bool :=
  inRanges blankRanges c

/-! ## §2 Trimming -/

/-- The characters without the blanks at both ends. -/
def trimChars (cs : List Char) : List Char :=
  ((cs.dropWhile isBlank).reverse.dropWhile isBlank).reverse

/-- The text without the blanks at both ends. -/
def trim (s : String) : String :=
  String.ofList (trimChars s.toList)

/-- The characters without the blanks at the end. -/
def trimEndChars (cs : List Char) : List Char :=
  (cs.reverse.dropWhile isBlank).reverse

/-! ## §3 Splitting and joining -/

/-- The pieces between the occurrences of `sep`: always one more than there are occurrences. -/
def piecesOf (sep : Char) : List Char → List (List Char)
  | [] => [[]]
  | c :: cs =>
    match piecesOf sep cs with
    | [] => [[c]]
    | p :: ps => if c = sep then [] :: p :: ps else (c :: p) :: ps

/-- The pieces of a text between the occurrences of `sep`. -/
def pieces (sep : Char) (s : String) : List String :=
  (piecesOf sep s.toList).map String.ofList

/-- The parts one after the other, with `sep` between neighbours. -/
def join (sep : String) : List String → String
  | [] => ""
  | [x] => x
  | x :: y :: rest => x ++ sep ++ join sep (y :: rest)

/-- `part` occurs in `cs` as a block of neighbours. -/
def containsBlock (part : List Char) : List Char → Bool
  | [] => part.isEmpty
  | c :: cs => part.isPrefixOf (c :: cs) || containsBlock part cs

/-- `part` occurs somewhere in `s`. -/
def contains (s part : String) : Bool :=
  containsBlock part.toList s.toList

/-- `s` starts with `start`. -/
def startsWith (s start : String) : Bool :=
  start.toList.isPrefixOf s.toList

/-- `s` ends with `tail`. -/
def endsWith (s tail : String) : Bool :=
  tail.toList.reverse.isPrefixOf s.toList.reverse

end TsOutline.Text
