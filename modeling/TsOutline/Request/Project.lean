import TsOutline.Discovery
import TsOutline.Request.Argument
import TsOutline.Workspace
import TsOutline.World

/-!
# Requests about Projects

The single steps on the way to an analysis, asked for one by one: outlining a source, deciding what is
excluded, finding files, making and loading a configuration, finding the workspace. Each says in which
order its arguments are looked at.

What is done with the arguments is left to the library. This module belongs to the outer layer, and no
theorem reaches it.
-/

namespace TsOutline.Request

/-- Why a request about a project has no answer. -/
inductive ProjectFault where
  | argument (fault : ArgumentFault)
  | negativeDepth (fault : NegativeDepth)
  | discovery (fault : Discovery.Fault)
  | workspace (fault : Workspace.Fault)
  | invalid (issues : List Config.Issue)
  | load (fault : Config.LoadFault)

/-! ## §1 Outlines -/

/-- The outline of a source whose tree is known: depth, then path, then factories. -/
def sourceOutline (tree : Node) (source : String) (path depth factories : Value) :
    Except ProjectFault Outline :=
  match depth.number?, path, factories.members? with
  | none, _, _ => .error (.argument .wrongType)
  | some depth, path, factories? =>
    if depth.budget.isOverdrawn then .error (.negativeDepth ⟨depth⟩)
    else
      match path, factories? with
      | .text path, some factories =>
        (Outline.ofSource (fun _ _ => tree) source path depth
          (Config.textsOf factories)).mapError .negativeDepth
      | _, _ => .error (.argument .wrongType)

/-! ## §2 Exclusions and discovery -/

/-- The patterns of a blacklist. All entries are read before the first pattern is compiled. -/
def exclusions (blacklist : Value) : Except ProjectFault Exclusion.Spec :=
  match blacklistOf blacklist with
  | .error fault => .error (.argument fault)
  | .ok entries => (Exclusion.build entries).mapError fun fault => .discovery (.badRange fault)

/-- Which of the paths are excluded. -/
def excluded (blacklist : Value) (paths : List Value) : Except ProjectFault (List Bool) :=
  match exclusions blacklist, allTexts .wrongType paths with
  | .error fault, _ => .error fault
  | .ok _, .error fault => .error (.argument fault)
  | .ok spec, .ok paths => .ok (paths.map (Exclusion.excludes spec))

/-- The source files below a root; the root comes before the blacklist. -/
def discovered (fs : FileSystem) (root blacklist : Value) : Except ProjectFault (List String) :=
  match textOf root with
  | .error fault => .error (.argument fault)
  | .ok root =>
    match Discovery.folderOf fs root, blacklistOf blacklist with
    | .error fault, _ => .error (.discovery fault)
    | .ok _, .error fault => .error (.argument fault)
    | .ok _, .ok entries => (Discovery.discover fs root entries).mapError .discovery

/-! ## §3 Configurations -/

/-- The configuration that a value describes. -/
def configuration (values : Value) : Except ProjectFault Config :=
  match values.fields? with
  | none => .error (.argument .wrongType)
  | some fields => (Config.ofFields fields).mapError .invalid

/-- The path of a config file; a value that says nothing names none. -/
def configPath (path : Value) : Except ArgumentFault (Option String) :=
  if path.isTruthy then (textOf path).map some else .ok none

/-- The overrides of a configuration; a value that says nothing has none. -/
def overridesOf (overrides : Value) : Except ArgumentFault Config.Fields :=
  if overrides.isTruthy then
    match overrides.fields? with
    | some fields => .ok fields
    | none => .error .noPart
  else
    .ok []

/-- Loads a configuration: path, then config file, then overrides. -/
def loadedConfiguration (w : World) (path overrides : Value) :
    Except ProjectFault Config × List Warning :=
  match configPath path with
  | .error fault => (.error (.argument fault), [])
  | .ok path? =>
    match overridesOf overrides with
    | .ok fields =>
      let (result, warnings) := w.loadConfig path? fields
      (result.mapError .load, warnings)
    | .error fault =>
      match Config.fileFields w.fs w.readData path? with
      | (.error load, warnings) => (.error (.load load), warnings)
      | (.ok _, warnings) => (.error (.argument fault), warnings)

/-! ## §4 Workspaces -/

/-- The arguments among which a workspace is looked for; null stands for none. -/
def argumentsOf : Value → Except ArgumentFault (List Value)
  | .null => .ok []
  | v => membersOf v

/-- The setting of the environment; null stands for an environment without it, and a setting that
    says nothing for none. -/
def settingOf (environment : Value) : Except ArgumentFault (Option String) :=
  match environment with
  | .null => .ok none
  | .map _ =>
    match environment.field? Workspace.variableName with
    | none => .ok none
    | some v => if v.isTruthy then (textOf v).map some else .ok none
  | _ => .error .noPart

/-- The workspace that arguments name. -/
def workspaceAmong (fs : FileSystem) (arguments : List Value) : Except ProjectFault String :=
  match valueAfter? Workspace.option arguments with
  | none => .error (.workspace .notGiven)
  | some v =>
    if v.isTruthy then
      match textOf v with
      | .ok path => (Workspace.ofArguments fs [Workspace.option, path]).mapError .workspace
      | .error fault => .error (.argument fault)
    else
      .error (.workspace .notGiven)

/-- The workspace that the environment names, else the one that the arguments name. -/
def workspace (fs : FileSystem) (environment arguments : Value) : Except ProjectFault String :=
  match argumentsOf arguments with
  | .error fault => .error (.argument fault)
  | .ok arguments =>
    match settingOf environment with
    | .error fault => .error (.argument fault)
    | .ok (some path) =>
      if Workspace.isUsable fs path then .ok (Path.normalText path)
      else workspaceAmong fs arguments
    | .ok none => workspaceAmong fs arguments

end TsOutline.Request
