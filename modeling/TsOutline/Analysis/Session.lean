import TsOutline.Analysis.Analyzer

/-!
# Analyzer Sessions

One analyzer and one current analysis through a sequence of steps. A step answers and leaves the next
state; what a step cannot do leaves the state as it was. Steps carry what was asked for as values, and
each step reads its own.
-/

namespace TsOutline

/-- An analyzer and the analysis that it adds to. -/
structure Session where
  analyzer : Analyzer
  current : Analysis

namespace Session

/-- A session starts with nothing found. -/
def start (c : Config) (monitors : Bool) (root : String) : Session :=
  ⟨.ofConfig c monitors, .empty root⟩

/-- What can be asked of a session. -/
inductive Step where
  /-- Analyze the project below a root; its analysis becomes the current one. Without a root it is
      the workspace of the settings. -/
  | analyze (root : Value)
  /-- Add a file to the current analysis. -/
  | extract (path : String)
  /-- Outline a file without touching the session. -/
  | outline (path depth factories : Value)
  /-- Replace settings, unchecked. -/
  | assign (values : Value)
  /-- Write the report of the current analysis. -/
  | render

/-- What a step answers. -/
inductive Answer where
  | analyzed (analysis : Analysis)
  | notAnalyzed (fault : Analyzer.Fault)
  | extracted (ok : Bool) (analysis : Analysis)
  | outlined (outline : Outline)
  | notOutlined (fault : FileFault)
  | assigned (fields : Config.Fields)
  | notAssigned (fault : Settings.AssignFault)
  | rendered (text : String)
  | notRendered (fault : Analyzer.RenderFault)

/-- The next state, the answer and the warnings of a step. -/
structure Outcome where
  session : Session
  answer : Answer
  warnings : List Warning

/-- Analyzes a project. -/
def analyze (w : World) (s : Session) (root? : Option String) : Outcome :=
  match s.analyzer.analyze w root? with
  | .error fault => ⟨s, .notAnalyzed fault, []⟩
  | .ok p => ⟨⟨p.analyzer, p.analysis⟩, .analyzed p.analysis, p.warnings⟩

/-- Adds a file to the current analysis. -/
def extract (w : World) (s : Session) (path : String) : Outcome :=
  let p := Analyzer.extract w ⟨s.analyzer, s.current, []⟩ path
  ⟨⟨p.analyzer, p.analysis⟩,
   .extracted (Analyzer.hasOutline w s.analyzer.settings path) p.analysis, p.warnings⟩

/-- Outlines a file. -/
def outline (w : World) (path depth factories : Value) : Answer :=
  match path with
  | .text path =>
    match w.outlineWith path depth.number? (factories.members?.map Config.textsOf) with
    | .ok o => .outlined o
    | .error fault => .notOutlined fault
  | _ => .notOutlined .wrongType

/-- Replaces settings. Those before a fixed one stay replaced. -/
def assign (s : Session) (fields : Config.Fields) : Outcome :=
  let (settings, fault?) := s.analyzer.settings.assignAll fields
  let next := { s with analyzer := { s.analyzer with settings := settings } }
  match fault?, settings.listing? with
  | some fault, _ => ⟨next, .notAssigned fault, []⟩
  | none, some fields => ⟨next, .assigned fields, []⟩
  | none, none => ⟨next, .notAssigned .noListing, []⟩

/-- One step. -/
def step (w : World) (s : Session) : Step → Outcome
  | .analyze .null => s.analyze w none
  | .analyze (.text root) => s.analyze w (some root)
  | .analyze _ => ⟨s, .notAnalyzed .wrongType, []⟩
  | .extract path => s.extract w path
  | .outline path depth factories => ⟨s, outline w path depth factories, []⟩
  | .assign values =>
    match values.fields? with
    | some fields => s.assign fields
    | none => ⟨s, .notAssigned .noFields, []⟩
  | .render =>
    match Analyzer.render w.fs.cwd s.analyzer.settings s.current with
    | .ok text => ⟨s, .rendered text, []⟩
    | .error fault => ⟨s, .notRendered fault, []⟩

/-- The outcomes of steps one after the other. -/
def run (w : World) (s : Session) : List Step → List Outcome
  | [] => []
  | step :: rest =>
    let o := s.step w step
    o :: run w o.session rest

end Session

end TsOutline
