import TsOutline.Number
import TsOutline.Outline
import TsOutline.Path

/-!
# Grammars

Two grammars cover every supported file: plain TypeScript, and the one that also accepts markup and
with it plain JavaScript. The suffix of a path chooses the grammar and says whether the file is a
view file. Parsing itself is a parameter of the library: a `SyntaxReader` turns a source into a tree.
-/

namespace TsOutline

/-- The grammars that a source can be parsed with. -/
inductive Grammar where
  | typescript
  | tsx
  deriving Repr, DecidableEq

namespace Grammar

/-- The name of a grammar. -/
def name : Grammar → String
  | typescript => "typescript"
  | tsx => "tsx"

/-- The grammar of a name. -/
def ofName? (s : String) : Option Grammar :=
  [typescript, tsx].find? fun g => g.name == s

/-- There is no grammar of that name. -/
structure Unsupported where
  language : String
  deriving Repr, DecidableEq

/-- The wording of the refusal. -/
def Unsupported.message (e : Unsupported) : String :=
  "Unsupported language: " ++ e.language

/-- The grammar of a name, or the refusal. -/
def ofName (s : String) : Except Unsupported Grammar :=
  match ofName? s with
  | some g => .ok g
  | none => .error ⟨s⟩

/-- The suffixes of plain TypeScript. -/
def typescriptSuffixes : List String := [".ts", ".mts", ".cts"]

/-- The other suffixes of source files. -/
def tsxSuffixes : List String := [".tsx", ".js", ".jsx", ".mjs", ".cjs"]

/-- The suffixes of view files. -/
def viewSuffixes : List String := [".tsx", ".jsx"]

/-- The suffix of a path in small letters. Every letter of the suffixes above is the small form of
    an ASCII letter only, so the small letters of ASCII are enough to compare with them. -/
def smallSuffix (path : String) : String :=
  String.ofList ((Path.suffix path).toList.map Char.toLower)

/-- The grammar for a path. A declaration file `x.d.ts` ends in `.ts`, so the suffix decides. -/
def ofPath (path : String) : Grammar :=
  if typescriptSuffixes.contains (smallSuffix path) then typescript else tsx

/-- The path is that of a view file. -/
def isViewPath (path : String) : Bool :=
  viewSuffixes.contains (smallSuffix path)

end Grammar

/-- Parses a source. -/
abbrev SyntaxReader := Grammar → String → Node

/-- A depth below zero is refused. -/
structure NegativeDepth where
  depth : Number

/-- The wording of the refusal. -/
def NegativeDepth.message (e : NegativeDepth) : String :=
  "type_depth must be non-negative, got " ++ e.depth.text

/-- The options of a walk over the file with the given path. -/
def Outline.optionsFor (path : String) (depth : Budget) (factories : List String) :
    Outline.Options :=
  ⟨path, depth, factories, Grammar.isViewPath path⟩

/-- The outline of a source under the given path, whose suffix chooses the grammar. -/
def Outline.ofSource (parse : SyntaxReader) (source path : String) (depth : Number)
    (factories : List String) : Except NegativeDepth Outline :=
  if depth.budget.isOverdrawn then .error ⟨depth⟩
  else .ok (Outline.ofTree (optionsFor path depth.budget factories) (parse (.ofPath path) source))

end TsOutline
