import TsOutline.Analysis.Settings
import TsOutline.Discovery
import TsOutline.Report
import TsOutline.Workspace
import TsOutline.World

/-!
# Analyzers

An analyzer runs over the files of a project and collects their outlines into one analysis. A file
that cannot be read or outlined is skipped with a warning; the others do not notice. An analyzer
keeps count of what it did, if it is asked to.
-/

namespace TsOutline

/-! ## §1 Analyses -/

/-- What was found in a project. -/
structure Analysis where
  /-- The root as it was given. -/
  root : String
  files : List String
  functions : List FunctionSignature
  types : List TypeSignature
  failedFiles : List String

namespace Analysis

/-- Nothing found below a root. -/
def empty (root : String) : Analysis :=
  ⟨root, [], [], [], []⟩

/-- An analysis as a document. -/
def toJson (a : Analysis) : Json :=
  .obj [("root", .str a.root),
        ("files", .arr (a.files.map .str)),
        ("functions", .arr (a.functions.map FunctionSignature.toJson)),
        ("types", .arr (a.types.map TypeSignature.toJson)),
        ("failed_files", .arr (a.failedFiles.map .str))]

/-- The number of router procedures. -/
def procedureCount (a : Analysis) : Nat :=
  Report.procedureCount a.functions

/-- Adds the outline of a file. -/
def add (a : Analysis) (withTypes : Bool) (o : Outline) : Analysis :=
  { a with functions := a.functions ++ o.functions,
           types := if withTypes then a.types ++ o.types else a.types }

/-- Notes a file that has no outline. -/
def addFailed (a : Analysis) (path : String) : Analysis :=
  { a with failedFiles := a.failedFiles ++ [path] }

end Analysis

/-! ## §2 Counting -/

/-- What an analyzer has done so far. -/
structure Metrics where
  totalFiles : Nat
  failedFiles : Nat
  totalFunctions : Nat
  totalTypes : Nat
  deriving Repr, DecidableEq

namespace Metrics

/-- Nothing done. -/
def zero : Metrics :=
  ⟨0, 0, 0, 0⟩

/-- Counts an outlined file. -/
def countOutline (m : Metrics) (o : Outline) : Metrics :=
  { m with totalFiles := m.totalFiles + 1,
           totalFunctions := m.totalFunctions + o.functions.length,
           totalTypes := m.totalTypes + o.types.length }

/-- Counts a skipped file. -/
def countFailure (m : Metrics) : Metrics :=
  { m with failedFiles := m.failedFiles + 1 }

end Metrics

/-! ## §3 Analyzers -/

/-- An analyzer with its settings and its counts. -/
structure Analyzer where
  settings : Settings
  /-- The analyzer keeps count. -/
  monitors : Bool
  metrics : Metrics

namespace Analyzer

/-- A fresh analyzer. -/
def ofConfig (c : Config) (monitors : Bool) : Analyzer :=
  ⟨.ofConfig c, monitors, .zero⟩

/-- Changes the counts of an analyzer that keeps count. -/
def count (a : Analyzer) (f : Metrics → Metrics) : Analyzer :=
  if a.monitors then { a with metrics := f a.metrics } else a

/-- The outline of a file under the settings of the analyzer. -/
def outline (w : World) (s : Settings) (path : String) : Except FileFault Outline :=
  w.outlineWith path s.depth? s.factories?

/-- An analyzer at work: itself, the analysis it adds to, and the warnings so far. -/
structure Progress where
  analyzer : Analyzer
  analysis : Analysis
  warnings : List Warning

/-- Adds one file to the analysis. -/
def extract (w : World) (p : Progress) (path : String) : Progress :=
  let s := p.analyzer.settings
  match outline w s path with
  | .error fault =>
    ⟨p.analyzer.count Metrics.countFailure, p.analysis.addFailed path,
     p.warnings ++ [.skippedFile path fault.message]⟩
  | .ok o =>
    ⟨p.analyzer.count fun m => m.countOutline o, p.analysis.add s.collectsTypes o, p.warnings⟩

/-- The file has an outline, so that extracting it succeeds. -/
def hasOutline (w : World) (s : Settings) (path : String) : Bool :=
  match outline w s path with
  | .ok _ => true
  | .error _ => false

/-- Adds several files to the analysis, one after the other. -/
def extractAll (w : World) (p : Progress) (paths : List String) : Progress :=
  paths.foldl (extract w) p

/-! ## §4 Whole projects -/

/-- Why a project was not analyzed. -/
inductive Fault where
  | workspace (fault : Workspace.Fault)
  | discovery (fault : Discovery.Fault)
  /-- A setting has a value of a type that it cannot have. -/
  | wrongType

/-- The wording of a fault; faults of type have none of their own. -/
def Fault.message : Fault → String
  | workspace fault => fault.message
  | discovery fault => fault.message
  | wrongType => ""

/-- The workspace of the settings as an absolute path. -/
def workspaceOf (cwd : Place) (s : Settings) : Except Fault String :=
  if s.hidesWorkspace then .error .wrongType
  else if s.workspace.isTruthy then
    match s.workspace with
    | .text path => (Workspace.absolute cwd path).mapError .workspace
    | _ => .error .wrongType
  else
    .error (.workspace .notConfigured)

/-- The root of an analysis: the given one in its normal form, else the workspace of the
    settings. -/
def rootOf (cwd : Place) (s : Settings) (root? : Option String) : Except Fault String :=
  match root? with
  | some root => .ok (Path.normalText root)
  | none => workspaceOf cwd s

/-- Analyzes the project below a root. -/
def analyze (w : World) (a : Analyzer) (root? : Option String) : Except Fault Progress :=
  match rootOf w.fs.cwd a.settings root? with
  | .error fault => .error fault
  | .ok root =>
    match a.settings.patterns? with
    | none => .error .wrongType
    | some blacklist =>
      match Discovery.discover w.fs root blacklist with
      | .error fault => .error (.discovery fault)
      | .ok files => .ok (extractAll w ⟨a, { Analysis.empty root with files := files }, []⟩ files)

/-! ## §5 Rendering -/

/-- Why an analysis has no rendering. -/
inductive RenderFault where
  | report (fault : Report.Fault)
  | wrongType

/-- The wording of a fault; faults of type have none of their own. -/
def RenderFault.message : RenderFault → String
  | report fault => fault.message
  | wrongType => ""

/-- The report of an analysis with its summary. -/
def render (cwd : Place) (s : Settings) (r : Analysis) : Except RenderFault String :=
  match Report.document cwd r.root s.showsExportedOnly r.functions r.types with
  | .error fault => .error (.report fault)
  | .ok markdown =>
    match s.patterns? with
    | none => .error .wrongType
    | some blacklist =>
      .ok (Report.summarize markdown r.files.length r.functions r.types s.showsExportedOnly
        blacklist)

end Analyzer

end TsOutline
