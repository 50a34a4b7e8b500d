import TsOutline.Text.Blank

/-!
# Glob Patterns

Patterns in the manner of ignore files: segments between slashes, `*` and `?` within a segment, `**`
for any number of folders, character classes, and a leading `!` that takes an exclusion back.

A pattern is compiled to a list of pieces, which stands for a regular expression anchored at the
start of the path. Matching runs the pieces with continuations: `Piece.run p k cs` says that some
beginning of `cs` fits `p` and the rest satisfies `k`. All recursion is on the path.

Patterns hold no backslash, so there are no escapes.
-/

namespace TsOutline.Glob

open Text (piecesOf join trimEndChars)

/-! ## §1 Pieces -/

/-- An item of a character class: one character, or all between two. -/
inductive ClassItem where
  | one (c : Char)
  | range (low high : Char)
  deriving Repr, DecidableEq

/-- The item covers the character. -/
def ClassItem.has (c : Char) : ClassItem → Bool
  | one d => c == d
  | range low high => decide (low ≤ c) && decide (c ≤ high)

/-- What a part of a pattern matches. -/
inductive Piece where
  /-- This character. -/
  | char (c : Char)
  /-- One character of a name. -/
  | anyOne
  /-- Any number of characters of a name. -/
  | anyMany
  /-- A whole name. -/
  | anyName
  /-- One character of a class, or outside it; it may be a slash. -/
  | ofClass (negated : Bool) (items : List ClassItem)
  /-- Folders, each with its slash, or nothing. -/
  | foldersAbove
  /-- A slash and further folders, or nothing. -/
  | foldersBetween
  /-- A slash, or the end of the path. -/
  | boundary
  deriving Repr, DecidableEq

/-! ## §2 Matching -/

/-- One character that satisfies `p`, then `k`. -/
def matchOne (p : Char → Bool) (k : List Char → Bool) : List Char → Bool
  | [] => false
  | c :: cs => p c && k cs

/-- Any number of characters that satisfy `p`, then `k`. -/
def matchMany (p : Char → Bool) (k : List Char → Bool) : List Char → Bool
  | [] => k []
  | c :: cs => k (c :: cs) || (p c && matchMany p k cs)

/-- At least one character that satisfies `p`, then `k`. -/
def matchSome (p : Char → Bool) (k : List Char → Bool) : List Char → Bool :=
  matchOne p (matchMany p k)

/-- The end of the path, or a line feed right before it. -/
def atEnd (cs : List Char) : Bool :=
  cs == [] || cs == ['\n']

/-- A character that can be part of a name. -/
def inName (c : Char) : Bool := c != '/'

/-- A character that the any-character sign matches. -/
def inLine (c : Char) : Bool := c != '\n'

/-- A slash. -/
def isSlash (c : Char) : Bool := c == '/'

/-- Some beginning of the characters fits the piece and the rest satisfies `k`. -/
def Piece.run (k : List Char → Bool) : Piece → List Char → Bool
  | char c => matchOne (· == c) k
  | anyOne => matchOne inName k
  | anyMany => matchMany inName k
  | anyName => matchSome inName k
  | ofClass negated items => matchOne (fun c => items.any (·.has c) != negated) k
  | foldersAbove => fun cs => matchSome inLine (matchOne isSlash k) cs || k cs
  | foldersBetween => fun cs => matchOne isSlash (matchSome inLine k) cs || k cs
  | boundary => fun cs => matchOne isSlash k cs || (atEnd cs && k cs)

/-- Some beginning of the characters fits the pieces one after the other. -/
def runAll : List Piece → List Char → Bool
  | [] => fun _ => true
  | p :: ps => p.run (runAll ps)

/-! ## §3 Segments -/

/-- The items of a class: `a-z` is a range, every other character stands for itself. -/
def classItems : List Char → List ClassItem
  | low :: '-' :: high :: cs => .range low high :: classItems cs
  | c :: cs => .one c :: classItems cs
  | [] => []

/-- What stands before and after the next closing bracket. -/
def untilBracket? : List Char → Option (List Char × List Char)
  | [] => none
  | ']' :: cs => some ([], cs)
  | c :: cs => (untilBracket? cs).map fun (body, rest) => (c :: body, rest)

/-- Splits after an opening bracket into the inside of the class and what follows the closing
    bracket. A closing bracket that comes first stands for itself. -/
def classBody? : List Char → Option (List Char × List Char)
  | ']' :: cs => (untilBracket? cs).map fun (body, rest) => (']' :: body, rest)
  | cs => untilBracket? cs

theorem length_untilBracket? {cs body rest : List Char}
    (h : untilBracket? cs = some (body, rest)) : rest.length < cs.length := by
  fun_induction untilBracket? cs generalizing body with
  | case1 => cases h
  | case2 => cases h; simp
  | case3 c cs _ ih =>
    obtain ⟨⟨b, r⟩, hb, he⟩ := Option.map_eq_some_iff.mp h
    cases he
    have := ih hb
    simp only [List.length_cons]; omega

theorem length_classBody? {cs body rest : List Char} (h : classBody? cs = some (body, rest)) :
    rest.length < cs.length := by
  unfold classBody? at h
  split at h
  · obtain ⟨⟨b, r⟩, hb, he⟩ := Option.map_eq_some_iff.mp h
    cases he
    have := length_untilBracket? hb
    simp only [List.length_cons]; omega
  · exact length_untilBracket? h

/-- The mark of negation at the start of a class, and the rest. -/
def classNegation : List Char → Bool × List Char
  | '!' :: cs => (true, cs)
  | '^' :: cs => (true, cs)
  | cs => (false, cs)

theorem length_classNegation (cs : List Char) : (classNegation cs).2.length ≤ cs.length := by
  unfold classNegation
  split <;> simp

/-- The pieces of a segment; none if a class is not closed. -/
def segmentPieces? : (cs : List Char) → Option (List Piece)
  | [] => some []
  | '*' :: cs => (segmentPieces? cs).map (.anyMany :: ·)
  | '?' :: cs => (segmentPieces? cs).map (.anyOne :: ·)
  | '[' :: cs =>
    match _h : classBody? (classNegation cs).2 with
    | none => none
    | some (body, rest) =>
      (segmentPieces? rest).map (.ofClass (classNegation cs).1 (classItems body) :: ·)
  | c :: cs => (segmentPieces? cs).map (.char c :: ·)
termination_by cs => cs.length
decreasing_by
  all_goals simp only [List.length_cons]
  · omega
  · omega
  · have := length_classBody? _h
    have := length_classNegation cs
    omega
  · omega

/-! ## §4 Patterns -/

/-- What a pattern matches. -/
inductive Body where
  /-- Every path with a character that the any-character sign matches. -/
  | everything
  /-- Every path with a folder in it. -/
  | everythingBelow
  /-- The paths with a beginning that fits the pieces. -/
  | fitting (pieces : List Piece)
  deriving Repr, DecidableEq

/-- A compiled pattern. -/
structure Pattern where
  /-- The pattern takes exclusions back. -/
  negated : Bool
  body : Body
  deriving Repr, DecidableEq

/-- The path without one leading slash or `./`. -/
def normalizePath : List Char → List Char
  | '/' :: cs => cs
  | '.' :: '/' :: cs => cs
  | cs => cs

/-- The pattern matches the path. -/
def Pattern.hits (p : Pattern) (path : String) : Bool :=
  let cs := normalizePath path.toList
  match p.body with
  | .everything => cs.any inLine
  | .everythingBelow => cs.contains '/'
  | .fitting pieces => runAll pieces cs

/-- Any number of folders. -/
def anyFolders : List Char := ['*', '*']

/-- Neighbouring signs for any number of folders are one. -/
def mergeFolders : List (List Char) → List (List Char)
  | a :: b :: rest =>
    if a = anyFolders ∧ b = anyFolders then mergeFolders (b :: rest)
    else a :: mergeFolders (b :: rest)
  | segments => segments

/-- A pattern without a slash at its start or inside is looked for in every folder; one that starts
    with a slash is not. -/
def anchored (segments : List (List Char)) : List (List Char) :=
  match segments with
  | [] :: rest => rest
  | [a] => if a = anyFolders then [a] else [anyFolders, a]
  | [a, []] => if a = anyFolders then [a, []] else [anyFolders, a, []]
  | _ => segments

/-- An empty last segment asks for something below a folder. -/
def opened (segments : List (List Char)) : List (List Char) :=
  match segments.getLast? with
  | some [] => segments.dropLast ++ [anyFolders]
  | _ => segments

/-- The pieces of the segments from some position on. `first` says that nothing stands before,
    `slash` that a slash is due. -/
def patternPieces? (first slash : Bool) : List (List Char) → Option (List Piece)
  | [] => some []
  | segment :: rest =>
    if segment = anyFolders then
      if first then (patternPieces? false false rest).map (.foldersAbove :: ·)
      else if rest.isEmpty then some [.char '/']
      else (patternPieces? false true rest).map (.foldersBetween :: ·)
    else
      let before := if slash then [Piece.char '/'] else []
      let own? := if segment = ['*'] then some [Piece.anyName] else segmentPieces? segment
      let after := if rest.isEmpty then [Piece.boundary] else []
      own?.bind fun own =>
        (patternPieces? false true rest).map fun others => before ++ own ++ after ++ others

/-- The body of a pattern with the given segments; `below` says that it ended in a slash. -/
def body? ( below : Bool) (segments : List (List Char)) : Option Body :=
  if segments = [] then none
  else if segments = [anyFolders] then some (if below then .everythingBelow else .everything)
  else if segments = [anyFolders, ['*']] then some .everything
  else if segments = [anyFolders, ['*'], anyFolders] then some .everythingBelow
  else (patternPieces? true false segments).map .fitting

/-- The pattern that a text describes, negation mark removed. -/
def ofBody? (negated : Bool) (cs : List Char) : Option Pattern :=
  let segments := piecesOf '/' cs
  let below := segments.getLast? == some []
  (body? below (mergeFolders (opened (anchored segments)))).map fun body => ⟨negated, body⟩

/-- The pattern that a text describes; none if the text has no effect, because it is blank, a
    comment, a lone slash, or has a class that is not closed. -/
def ofText? (text : String) : Option Pattern :=
  match trimEndChars text.toList with
  | [] => none
  | ['/'] => none
  | '#' :: _ => none
  | '!' :: cs => ofBody? true cs
  | cs => ofBody? false cs

/-! ## §5 Ranges the wrong way round -/

/-- A character that a regular expression writes with a backslash. -/
def isSpecial (c : Char) : Bool :=
  "()[]\x7b\x7d?*+-|^$\\.&~# \t\n\r".toList.contains c || c.toNat = 0x0B || c.toNat = 0x0C

/-- An item in the regular expression of a pattern. -/
def ClassItem.regex : ClassItem → List Char
  | one c => [c]
  | range low high => [low, '-', high]

/-- A piece in the regular expression of a pattern. -/
def Piece.regex : Piece → List Char
  | char c => if isSpecial c then ['\\', c] else [c]
  | anyOne => "[^/]".toList
  | anyMany => "[^/]*".toList
  | anyName => "[^/]+".toList
  | ofClass negated items =>
    '[' :: (if negated then ['^'] else []) ++ items.flatMap ClassItem.regex ++ [']']
  | foldersAbove => "(?:.+/)?".toList
  | foldersBetween => "(?:/.+)?".toList
  | boundary => "(?:/|$)".toList

/-- The regular expression of pieces. It starts with its anchor. -/
def regexOf (pieces : List Piece) : List Char :=
  '^' :: pieces.flatMap Piece.regex

/-- The line and the column of a position in a text of several lines. -/
def lineAndColumn? (text : List Char) (position : Nat) : Option (Nat × Nat) :=
  if text.contains '\n' then
    let before := text.take position
    some (before.count '\n' + 1, (before.reverse.takeWhile (· ≠ '\n')).length + 1)
  else
    none

/-- A range whose first character comes after its last, with its position in the regular expression
    of the pattern, and the line and column if that has several lines. -/
structure RangeFault where
  low : Char
  high : Char
  position : Nat
  place : Option (Nat × Nat)
  deriving Repr, DecidableEq

/-- The wording of the fault. -/
def RangeFault.message (f : RangeFault) : String :=
  "bad character range " ++ String.ofList [f.low, '-', f.high] ++ " at position " ++
    Nat.repr f.position ++
    match f.place with
    | some (line, column) => " (line " ++ Nat.repr line ++ ", column " ++ Nat.repr column ++ ")"
    | none => ""

/-- The first faulty range among class items that start at a position, with its own position. -/
def itemFault? (position : Nat) : List ClassItem → Option (Char × Char × Nat)
  | [] => none
  | .range low high :: items =>
    if high < low then some (low, high, position) else itemFault? (position + 3) items
  | .one _ :: items => itemFault? (position + 1) items

/-- The first faulty range among pieces that start at a position, with its own position. -/
def pieceFault? (position : Nat) : List Piece → Option (Char × Char × Nat)
  | [] => none
  | p :: ps =>
    match p with
    | .ofClass negated items =>
      match itemFault? (position + if negated then 2 else 1) items with
      | some fault => some fault
      | none => pieceFault? (position + p.regex.length) ps
    | _ => pieceFault? (position + p.regex.length) ps

/-- The first faulty range of a pattern. -/
def Pattern.fault? (p : Pattern) : Option RangeFault :=
  match p.body with
  | .fitting pieces =>
    (pieceFault? 1 pieces).map fun (low, high, position) =>
      ⟨low, high, position, lineAndColumn? (regexOf pieces) position⟩
  | _ => none

/-- The pattern that a text describes, if it has an effect; a range the wrong way round is an
    error. -/
def compile (text : String) : Except RangeFault (Option Pattern) :=
  match ofText? text with
  | none => .ok none
  | some p =>
    match p.fault? with
    | some fault => .error fault
    | none => .ok (some p)

end TsOutline.Glob
