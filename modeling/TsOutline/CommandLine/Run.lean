import TsOutline.Analysis.Analyzer
import TsOutline.CommandLine.Usage

/-!
# Running Commands

What the command line does: `scan` analyzes a project and prints its document, `parse` prints the
outline of one file. A run ends with an exit code, the complete output or none, and what it has to
say besides.
-/

namespace TsOutline.CommandLine

/-- How a run ends. -/
structure Outcome where
  exit : Nat
  output : String
  warnings : List Warning
  /-- The last message, after the warnings. -/
  complaint : Option String

namespace Outcome

/-- Everything went well. -/
def success (output : String) (warnings : List Warning) (complaint : Option String) : Outcome :=
  ⟨0, output ++ "\n", warnings, complaint⟩

/-- The run cannot do what it is asked to. -/
def refusal (complaint : String) (warnings : List Warning) : Outcome :=
  ⟨1, "", warnings, some ("❌ Error: " ++ complaint)⟩

/-- The run broke off. -/
def broken (message : String) (warnings : List Warning) : Outcome :=
  ⟨1, "", warnings, some ("❌ An unexpected error occurred: " ++ message)⟩

/-- The arguments are faulty. -/
def misused (line : String) : Outcome :=
  ⟨2, "", [], some line⟩

/-- Help was asked for. -/
def helped : Outcome :=
  ⟨0, "", [], none⟩

end Outcome

/-! ## §1 Scanning -/

/-- A field for an override that is given. -/
def fieldOf (name : String) (v? : Option Value) : Config.Fields :=
  match v? with
  | some v => [(name, v)]
  | none => []

/-- The directory to scan as an absolute path, if one is given. -/
def directoryOf (cwd : Place) (a : Arguments) : Except AccessFault (Option String) :=
  match a.positional with
  | some d =>
    if d = "" then .ok none
    else (FileSystem.resolve cwd d).map fun place => some (Path.placeText place)
  | none => .ok none

/-- The blacklist that is given, if it has an entry. -/
def blacklistOf (a : Arguments) : Option (List String) :=
  match a.blacklist with
  | some [] => none
  | b => b

/-- What the arguments of a scan override; the directory is already absolute. -/
def scanOverrides (directory? : Option String) (a : Arguments) : Config.Fields :=
  fieldOf "workspace" (directory?.map .text)
    ++ fieldOf "type_depth" a.typeDepth
    ++ fieldOf "blacklist" ((blacklistOf a).map Settings.textsValue)
    ++ fieldOf "exported_only" (if a.exportedOnly then some (.bool true) else none)
    ++ fieldOf "include_types" (if a.noTypes then some (.bool false) else none)

/-- The root of a scan: the workspace of the configuration, else the working place. -/
def scanRoot (cwd : Place) (c : Config) : Except AccessFault Place :=
  match c.workspace with
  | some path => if path = "" then .ok cwd else FileSystem.resolve cwd path
  | none => .ok cwd

/-- The root of a scan and whether there is a folder. -/
def scanFolder (fs : FileSystem) (c : Config) : Except AccessFault (Place × Bool) :=
  match scanRoot fs.cwd c with
  | .error fault => .error fault
  | .ok root => (fs.isFolderAt root).map fun found => (root, found)

/-- What is printed when a project has no source file. -/
def noFiles : String := "No code files found."

/-- The document of a scan. -/
def scanDocument (w : World) (asJson : Bool) (p : Analyzer.Progress) :
    Except Analyzer.RenderFault String :=
  if asJson then .ok p.analysis.toJson.render
  else if p.analysis.files.isEmpty then .ok noFiles
  else Analyzer.render w.fs.cwd p.analyzer.settings p.analysis

/-- How many files were skipped, if any. -/
def skippedNote (r : Analysis) : Option String :=
  if r.failedFiles.isEmpty then none
  else some ("⚠️  " ++ Nat.repr r.failedFiles.length ++ " files could not be parsed.")

/-- Scans the folder at a place. -/
def scanAt (w : World) (a : Arguments) (c : Config) (root : Place) (warnings : List Warning) :
    Outcome :=
  match (Analyzer.ofConfig c true).analyze w (some (Path.placeText root)) with
  | .error fault => .broken fault.message warnings
  | .ok p =>
    match scanDocument w a.asJson p with
    | .error fault => .broken fault.message (warnings ++ p.warnings)
    | .ok text => .success text (warnings ++ p.warnings) (skippedNote p.analysis)

/-- Scans under a configuration. -/
def scanWith (w : World) (a : Arguments) (c : Config) (warnings : List Warning) : Outcome :=
  match scanFolder w.fs c with
  | .error fault => .broken fault.message warnings
  | .ok (root, true) => scanAt w a c root warnings
  | .ok (root, false) =>
    .refusal (Path.placeText root ++ " is not a valid directory for analysis.") warnings

/-- Scans a project. The directory is looked at before the config file. -/
def scan (w : World) (a : Arguments) : Outcome :=
  match directoryOf w.fs.cwd a with
  | .error fault => .broken fault.message []
  | .ok directory? =>
    match w.loadConfig a.config (scanOverrides directory? a) with
    | (.error fault, warnings) => .broken fault.message warnings
    | (.ok c, warnings) => scanWith w a c warnings

/-! ## §2 Parsing one file -/

/-- The message about a depth that is no number. -/
def depthTypeMessage (v : Value) : String :=
  "'<' not supported between instances of '" ++ v.typeWord ++ "' and 'int'"

/-- The outline of a file at a depth that may be no number. -/
def outlineAt (w : World) (path : String) (depth : Value) (factories : List String) :
    Except String Outline :=
  match w.outlineWith path depth.number? (some factories) with
  | .ok o => .ok o
  | .error .wrongType => .error (depthTypeMessage depth)
  | .error fault => .error fault.message

/-- Prints the outline of the file that a path in its normal form leads to. -/
def parseFile (w : World) (a : Arguments) (path : String) : Outcome :=
  match w.loadConfig a.config [] with
  | (.error fault, warnings) => .broken fault.message warnings
  | (.ok c, warnings) =>
    match outlineAt w path (a.typeDepth.getD (.int c.typeDepth)) c.routerFactories with
    | .ok o => .success o.toJson.render warnings none
    | .error message => .broken message warnings

/-- Prints the outline of a file. -/
def parse (w : World) (a : Arguments) : Outcome :=
  let path := Path.normalText (a.positional.getD "")
  match w.fs.isFile path with
  | .error fault => .broken fault.message []
  | .ok true => parseFile w a path
  | .ok false => .refusal ("File not found: " ++ path) []

/-! ## §3 The command line -/

/-- Runs the command line. -/
def run (w : World) (args : List String) : Outcome :=
  match readMain args with
  | .error .help => .helped
  | .error (.fault program fault) => .misused (faultLine program fault)
  | .ok (.scan, a) => scan w a
  | .ok (.parse, a) => parse w a

end TsOutline.CommandLine
