import TsOutline.Grouping
import TsOutline.Path
import TsOutline.Signature

/-!
# Reports

A report lists signatures as a markdown document, one section per file in the order of the paths.
A section lists the procedures of each router, then the other functions, then the types. The summary
puts the numbers of a scan around a document.
-/

namespace TsOutline.Report

open Text (join trim)

/-! ## §1 Fixed texts -/

/-- The title of the document. -/
def title : String := "# Function Signatures and tRPC Procedures"

/-- The router of a procedure that names none. -/
def unknownRouter : String := "Unknown Router"

/-- The document when there is nothing at all. -/
def nothingFound : String := title ++ "\n\nNo functions or procedures found."

/-- The document when nothing is exported. -/
def nothingExported : String := title ++ "\n\nNo exported functions or procedures found."

/-! ## §2 What is kept -/

/-- Procedures are kept whether exported or not. -/
def keepsFunction (exportedOnly : Bool) (f : FunctionSignature) : Bool :=
  !exportedOnly || f.isExported || f.isProcedure

/-- Whether a type is kept. -/
def keepsType (exportedOnly : Bool) (t : TypeSignature) : Bool :=
  !exportedOnly || t.isExported

/-! ## §3 Sections -/

/-- The router a procedure is listed under. -/
def routerOf (f : FunctionSignature) : String :=
  match f.parentName with
  | some name => if name = "" then unknownRouter else name
  | none => unknownRouter

/-- The procedures of one router. -/
def routerText (router : String × List FunctionSignature) : String :=
  "### Router: " ++ router.1 ++ "\n" ++
    join "\n" (router.2.map fun f => "- " ++ f.fullSignature) ++ "\n\n"

/-- The functions of a file that are no procedures; they have a heading if routers come first. -/
def functionsText (afterRouters : Bool) (functions : List FunctionSignature) : String :=
  if functions.isEmpty then ""
  else
    (if afterRouters then "### Other Functions\n" else "") ++
      join "\n" (functions.map (·.fullSignature)) ++ "\n\n"

/-- The types of a file. -/
def typesText (types : List TypeSignature) : String :=
  if types.isEmpty then ""
  else "### Types\n" ++ join "\n" (types.map (·.fullSignature)) ++ "\n\n"

/-- The section of a file under a heading. -/
def sectionText (heading : String) (functions : List FunctionSignature)
    (types : List TypeSignature) : String :=
  let routers := groupBy routerOf (functions.filter (·.isProcedure))
  "## " ++ heading ++ "\n\n" ++ join "" (routers.map routerText) ++
    functionsText (!routers.isEmpty) (functions.filter fun f => !f.isProcedure) ++ typesText types

/-! ## §4 The document -/

/-- A record with an empty path has no heading. -/
inductive Fault where
  | emptyPath
  deriving Repr, DecidableEq

/-- The wording of the fault. -/
def Fault.message : Fault → String
  | emptyPath => "no path specified"

/-- The paths of all records, sorted. -/
def filePaths (functions : List FunctionSignature) (types : List TypeSignature) : List String :=
  sorted (firstSeen (functions.map (·.filePath) ++ types.map (·.filePath)))

/-- The sections of the given files; headings are relative to the root. -/
def sections (cwd : Place) (root : String) (functions : List FunctionSignature)
    (types : List TypeSignature) : List String → Except Fault (List String)
  | [] => .ok []
  | path :: rest =>
    match Path.relative? cwd path root with
    | none => .error .emptyPath
    | some heading =>
      match sections cwd root functions types rest with
      | .error e => .error e
      | .ok texts =>
        .ok (sectionText heading (functions.filter fun f => f.filePath = path)
          (types.filter fun t => t.filePath = path) :: texts)

/-- The document over the kept records, of which there is at least one. -/
def bodyText (cwd : Place) (root : String) (functions : List FunctionSignature)
    (types : List TypeSignature) : Except Fault String :=
  match sections cwd root functions types (filePaths functions types) with
  | .error e => .error e
  | .ok texts => .ok (trim (title ++ "\n\n" ++ join "" texts) ++ "\n")

/-- The document. -/
def document (cwd : Place) (root : String) (exportedOnly : Bool)
    (functions : List FunctionSignature) (types : List TypeSignature) : Except Fault String :=
  let functions' := functions.filter (keepsFunction exportedOnly)
  let types' := types.filter (keepsType exportedOnly)
  if functions.isEmpty && types.isEmpty then .ok nothingFound
  else if functions'.isEmpty && types'.isEmpty then .ok nothingExported
  else bodyText cwd root functions' types'

/-! ## §5 The summary -/

/-- The number of router procedures. -/
def procedureCount (functions : List FunctionSignature) : Nat :=
  (functions.filter (·.isProcedure)).length

/-- The number of files that a record comes from. -/
def fileCount (functions : List FunctionSignature) (types : List TypeSignature) : Nat :=
  (firstSeen (functions.map (·.filePath) ++ types.map (·.filePath))).length

/-- The line with the numbers of records. -/
def countLine (functions : List FunctionSignature) (types : List TypeSignature) : String :=
  "- Found " ++ Nat.repr (functions.length - procedureCount functions) ++ " function signatures, " ++
    Nat.repr (procedureCount functions) ++ " tRPC procedures and " ++ Nat.repr types.length ++
    " type definitions in " ++ Nat.repr (fileCount functions types) ++ " files"

/-- A document with the numbers of the scan in front; `scanned` says how many files there were. -/
def summaryText (markdown scanned : String) (functions : List FunctionSignature)
    (types : List TypeSignature) (exportedOnly : Bool) (blacklist : List String) : String :=
  join "\n" (
    ["Generated structure document:", "", "Summary:",
     "- Scanned " ++ scanned ++ " code files", countLine functions types]
    ++ (if exportedOnly then ["- Displaying only exported functions and all procedures"] else [])
    ++ (if blacklist.isEmpty then []
        else ["- Scan Patterns Blacklisted: " ++ join ", " blacklist])
    ++ ["", "Full document:", "----------------", "", markdown])

/-- A document with the numbers of the scan in front. -/
def summarize (markdown : String) (filesScanned : Nat) (functions : List FunctionSignature)
    (types : List TypeSignature) (exportedOnly : Bool) (blacklist : List String) : String :=
  summaryText markdown (Nat.repr filesScanned) functions types exportedOnly blacklist

end TsOutline.Report
