import TsOutline.Glob

/-!
# Exclusions

Which files of a project are left out: a fixed set of folders that hold no source of the project
itself, and the entries of a blacklist. An entry is a glob, or a plain name that stands for a file
or folder anywhere.

Patterns are tried from the last to the first, and the first that hits decides.
-/

namespace TsOutline.Exclusion

open Text (trim pieces)

/-! ## §1 Blacklist entries -/

/-- The entries of a comma-separated blacklist, trimmed, blank ones dropped. -/
def entriesOf (value : String) : List String :=
  ((pieces ',' value).map trim).filter (· ≠ "")

/-- The option that gives a blacklist among arguments. -/
def option : String := "--blacklist"

/-- The argument after the first occurrence of a word. -/
def argumentAfter? (word : String) : List String → Option String
  | [] => none
  | a :: rest => if a = word then rest.head? else argumentAfter? word rest

/-- The blacklist that arguments give: the one after the first such option. -/
def ofArguments (args : List String) : List String :=
  match argumentAfter? option args with
  | some value => entriesOf value
  | none => []

/-- The text without any `./` in front. -/
def dropHere : List Char → List Char
  | '.' :: '/' :: cs => dropHere cs
  | cs => cs

/-- The characters of an entry: trimmed, backslashes as slashes, without any `./` in front. -/
def entryChars (entry : String) : List Char :=
  dropHere ((Text.trimChars entry.toList).map fun c => if c = '\\' then '/' else c)

/-- A character that makes an entry a glob. -/
def isWildcard (c : Char) : Bool :=
  c == '*' || c == '?' || c == '['

/-- The glob of an entry: globs and paths are taken as they are, a name with a dot is a file
    anywhere, any other name a folder anywhere. -/
def globOf (entry : String) : String :=
  let cs := entryChars entry
  let text := String.ofList cs
  if cs.any isWildcard || cs.contains '/' then text
  else if cs.contains '.' then "**/" ++ text
  else "**/" ++ text ++ "/**"

/-! ## §2 The fixed exclusions -/

/-- The folders that are never looked into. -/
def folderNames : List String :=
  ["node_modules", "dist", "build", ".next", ".turbo", ".cache", ".yarn", ".pnpm",
   ".eslintcache", ".vite", ".output", ".vercel", ".firebase", ".aws-sam",
   ".serverless", ".tmp", ".temp", ".idea", ".vscode", ".history", ".git",
   ".husky", ".storybook", ".config", ".settings", ".local", ".DS_Store",
   ".coverage", ".nyc_output", ".svelte-kit", ".expo", ".expo-shared",
   ".cypress", ".playwright", ".test", ".test-results", ".reports",
   ".snapshots", ".mocks", ".cache-loader"]

/-- The globs of the fixed exclusions. Generated user-interface components are among them. -/
def fixedGlobs : List String :=
  folderNames.map (fun name => "**/" ++ name ++ "/**")
    ++ ["**/src/components/ui/**", "**/.env*/**"]

/-! ## §3 The exclusion list -/

/-- Compiled patterns in order. -/
abbrev Spec := List Glob.Pattern

/-- All globs of a blacklist, after the fixed ones. -/
def globs (blacklist : List String) : List String :=
  fixedGlobs ++ (blacklist.filter fun entry => trim entry ≠ "").map globOf

/-- Compiles globs in order; those without effect are dropped. -/
def compileAll : List String → Except Glob.RangeFault Spec
  | [] => .ok []
  | g :: rest =>
    match Glob.compile g with
    | .error fault => .error fault
    | .ok p? =>
      match compileAll rest with
      | .error fault => .error fault
      | .ok ps => .ok (p?.toList ++ ps)

/-- The patterns of a blacklist. -/
def build (blacklist : List String) : Except Glob.RangeFault Spec :=
  compileAll (globs blacklist)

/-- The path is excluded: the last pattern that hits it is not negated. -/
def excludes (spec : Spec) (path : String) : Bool :=
  match spec.reverse.find? fun p => p.hits path with
  | some p => !p.negated
  | none => false

end TsOutline.Exclusion
