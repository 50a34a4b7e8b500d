import TsOutline.Text.Blank

/-!
# Paths

Paths as texts with slashes. A path is read into its parts, without the parts that say nothing (`.`
and empty ones); the text of a path is put together from them again. A *place* is a path from the
root of the file system with `..` resolved: the list of names from the root down.

Everything here is about the text of paths; no file system is looked at.
-/

namespace TsOutline

open Text (pieces join)

/-- A path: the number of slashes it starts with (none, one or two) and its parts. -/
structure Path where
  slashes : Nat
  parts : List String
  deriving Repr, DecidableEq

/-- A place in a file system: the names from the root down, `..` resolved. -/
abbrev Place := List String

namespace Path

/-! ## §1 Reading and writing -/

/-- The slashes at the start of a path. Exactly two are kept, any other number is one. -/
def leadingSlashes (s : String) : Nat :=
  match (s.toList.takeWhile (· = '/')).length with
  | 0 => 0
  | 2 => 2
  | _ => 1

/-- A part that says where to go. -/
def isProperPart (part : String) : Bool :=
  part != "" && part != "."

/-- The path that a text stands for. -/
def ofText (s : String) : Path :=
  ⟨leadingSlashes s, (pieces '/' s).filter isProperPart⟩

/-- The text of a path; the path without parts is a dot. -/
def toText (p : Path) : String :=
  if p.slashes = 0 && p.parts.isEmpty then "."
  else String.ofList (List.replicate p.slashes '/') ++ join "/" p.parts

/-- The text of a path in its normal form. -/
def normalText (s : String) : String :=
  (ofText s).toText

/-- The path starts at the root. -/
def isAbsolute (p : Path) : Bool :=
  p.slashes != 0

/-! ## §2 Places -/

/-- Goes one part further: `..` goes up, and stays at the root. -/
def step (place : Place) (part : String) : Place :=
  if part = ".." then place.dropLast else place ++ [part]

/-- The place that a path means, seen from the working place. -/
def place (cwd : Place) (p : Path) : Place :=
  p.parts.foldl step (if p.isAbsolute then [] else cwd)

/-- The place that a text means, seen from the working place. -/
def placeOf (cwd : Place) (s : String) : Place :=
  place cwd (ofText s)

/-- The absolute text of a place. -/
def placeText (place : Place) : String :=
  "/" ++ join "/" place

/-! ## §3 Relative paths -/

/-- What remains of two lists after their common beginning. -/
def afterCommon : List String → List String → List String × List String
  | a :: as, b :: bs => if a = b then afterCommon as bs else (a :: as, b :: bs)
  | as, bs => (as, bs)

/-- The way from one place to another: up as often as needed, then down. -/
def wayTo (start target : Place) : List String :=
  let (up, down) := afterCommon start target
  List.replicate up.length ".." ++ down

/-- The text of the way from `start` to `target`, both seen from the working place. The empty text
    names no target. -/
def relative? (cwd : Place) (target start : String) : Option String :=
  if target = "" then none
  else
    let way := wayTo (placeOf cwd start) (placeOf cwd target)
    some (if way.isEmpty then "." else join "/" way)

/-! ## §4 Suffixes -/

/-- The suffix of a name: from its last dot on, unless that dot is its first or last character. -/
def nameSuffix (name : String) : String :=
  let back := name.toList.reverse
  let extension := back.takeWhile (· ≠ '.')
  match back.dropWhile (· ≠ '.') with
  | '.' :: _ :: _ => if extension.isEmpty then "" else String.ofList ('.' :: extension.reverse)
  | _ => ""

/-- The suffix of the last part of a path; none if there are no parts. -/
def suffix (s : String) : String :=
  match (ofText s).parts.getLast? with
  | some name => nameSuffix name
  | none => ""

end Path

end TsOutline
