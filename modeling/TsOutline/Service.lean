import TsOutline.CommandLine.Run

/-!
# The Tool Service

The same work as tools for an assistant: a ping, the document of a project, and the signatures of one
file. The service has one piece of state, the configuration it was started with; only a start that
succeeds changes it.
-/

namespace TsOutline

/-- The service: the configuration of its last successful start. -/
structure Service where
  config : Option Config

namespace Service

/-! ## §1 Requests and answers -/

/-- What can be asked of the service. -/
inductive Request where
  /-- Start with arguments. -/
  | start (args : List String)
  /-- Show the configuration that tools run with. -/
  | context
  /-- List the tools. -/
  | tools
  /-- Echo a message, which may be missing. -/
  | ping (message? : Option Value)
  /-- The document of the workspace that environment, arguments or configuration name. -/
  | structureDocument (args : List String) (setting? : Option String)
  /-- The signatures of one file. -/
  | fileSignatures (path? depth? : Option Value)

/-- The document of a project with its counts. -/
structure Document where
  text : String
  filesScanned : Nat
  functionCount : Nat
  procedureCount : Nat
  typeCount : Nat

/-- A text in place of a document. -/
def Document.note (text : String) : Document :=
  ⟨text, 0, 0, 0, 0⟩

/-- Why a tool refuses. -/
structure ToolFault where
  message : String
  hint : String

/-- The code of all refusals. -/
def ToolFault.code : Nat := 4001

/-- What the service answers. -/
inductive Answer where
  | started (config : Config)
  | misused (stop : CommandLine.Stop)
  | notStarted (fault : Config.LoadFault)
  | context (config : Option Config)
  | tools (tools : List (String × String))
  | pong (message : String)
  | badMessage (issue : Config.Issue)
  | document (document : Document)
  | signatures (path : String) (outline : Outline)
  | refused (fault : ToolFault)
  | failed (fault : FileFault)

/-- The next state, the answer and the warnings of a request. -/
structure Outcome where
  service : Service
  answer : Answer
  warnings : List Warning

/-! ## §2 Starting -/

/-- The overrides that the arguments give; the workspace is left to each tool. -/
def startOverrides (a : CommandLine.Arguments) : Config.Fields :=
  CommandLine.fieldOf "blacklist" (a.blacklist.map Settings.textsValue)

/-- Starts the service. -/
def start (w : World) (s : Service) (args : List String) : Outcome :=
  match CommandLine.readService args with
  | .error stop => ⟨s, .misused stop, []⟩
  | .ok a =>
    match w.loadConfig a.config (startOverrides a) with
    | (.ok c, warnings) => ⟨⟨some c⟩, .started c, warnings⟩
    | (.error fault, warnings) => ⟨s, .notStarted fault, warnings⟩

/-- The configuration that tools run with. -/
def effective (s : Service) : Config :=
  s.config.getD Config.default

/-! ## §3 The document of a project -/

/-- The document under a configuration, and the warnings. -/
def documentOf (w : World) (c : Config) : Document × List Warning :=
  match (Analyzer.ofConfig c true).analyze w none with
  | .error fault => (.note ("Error generating structure document: " ++ fault.message), [])
  | .ok p =>
    let r := p.analysis
    if r.files.isEmpty then (.note CommandLine.noFiles, p.warnings)
    else
      match Analyzer.render w.fs.cwd p.analyzer.settings r with
      | .error fault =>
        (.note ("Error generating structure document: " ++ fault.message), p.warnings)
      | .ok text =>
        (⟨text, r.files.length, r.functions.length - r.procedureCount, r.procedureCount,
          r.types.length⟩, p.warnings)

/-- The workspace to scan, or why there is none: environment and arguments come before the
    configuration. -/
def workspace (w : World) (c : Config) (args : List String) (setting? : Option String) :
    Except Workspace.Fault String :=
  match Workspace.resolve w.fs setting? args with
  | .ok path => .ok path
  | .error fault =>
    match Workspace.ofConfig w.fs.cwd c with
    | .ok path => .ok path
    | .error (.noPlace access) => .error (.noPlace access)
    | .error _ => .error fault

/-- The configuration of a scan: a blacklist among the arguments counts where none is configured. -/
def scanConfig (c : Config) (path : String) (args : List String) : Config :=
  { c with workspace := some path,
           blacklist := if c.blacklist.isEmpty then Exclusion.ofArguments args else c.blacklist }

/-- The document of the workspace. That there is no workspace is said in its place; a configured
    path that means no place is a failure. -/
def structureDocument (w : World) (s : Service) (args : List String) (setting? : Option String) :
    Outcome :=
  let c := s.effective
  match workspace w c args setting? with
  | .error (.noPlace fault) => ⟨s, .failed (.unreadable (.access fault)), []⟩
  | .error fault => ⟨s, .document (.note fault.message), []⟩
  | .ok path =>
    let (document, warnings) := documentOf w (scanConfig c path args)
    ⟨s, .document document, warnings⟩

/-! ## §4 The signatures of a file -/

/-- There is no such file. -/
def noFile (path : String) : ToolFault :=
  ⟨"File not found: " ++ path, "Pass an absolute path to an existing source file"⟩

/-- The depth is negative. -/
def badDepth : ToolFault :=
  ⟨"Invalid parameters", "type_depth must be non-negative"⟩

/-- The signatures of an existing file. -/
def signaturesOf (w : World) (s : Service) (path : String) (depth : Number) : Answer :=
  if depth.budget.isOverdrawn then .refused badDepth
  else
    match w.outline path depth s.effective.routerFactories with
    | .ok o => .signatures (Path.normalText path) o
    | .error fault => .failed fault

/-- The signatures of one file. The path is looked at before the depth. -/
def fileSignatures (w : World) (s : Service) (path? depth? : Option Value) : Answer :=
  match path? with
  | some (.text path) =>
    match w.fs.isFile (Path.normalText path) with
    | .error fault => .failed (.unreadable (.access fault))
    | .ok false => .refused (noFile path)
    | .ok true =>
      match depth?.bind Value.number? with
      | some depth => s.signaturesOf w path depth
      | none => .failed .wrongType
  | _ => .failed .wrongType

/-- Echoes a message, which has to be a text. -/
def ping (message? : Option Value) : Answer :=
  match message? with
  | some (.text message) => .pong message
  | other => .badMessage ⟨"echoed", none, .noText, other.getD .null⟩

/-! ## §5 The service -/

/-- The tools with their descriptions, by name. -/
def toolList : List (String × String) :=
  [("get-file-signatures",
    "\n    Extract the function, procedure and type signatures of a single file.\n    "),
   ("get-project-structure",
    "Extracts function signatures, tRPC procedures and type definitions from " ++
      "JavaScript/TypeScript for better understanding of the project. You should always " ++
      "use this tool before starting any coding session after user asks for something"),
   ("ping", "\n    Simple ping tool to echo a message.\n    ")]

/-- One request. -/
def handle (w : World) (s : Service) : Request → Outcome
  | .start args => s.start w args
  | .context => ⟨s, .context s.config, []⟩
  | .tools => ⟨s, .tools toolList, []⟩
  | .ping message? => ⟨s, ping message?, []⟩
  | .structureDocument args setting? => s.structureDocument w args setting?
  | .fileSignatures path? depth? => ⟨s, s.fileSignatures w path? depth?, []⟩

/-- The outcomes of requests one after the other; each sees its own world. -/
def run (s : Service) : List (World × Request) → List Outcome
  | [] => []
  | (w, r) :: rest =>
    let o := s.handle w r
    o :: run o.service rest

end Service

end TsOutline
