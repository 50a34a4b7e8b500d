import TsOutline.Config.Basic
import TsOutline.FileSystem

/-!
# Workspaces

Which folder is scanned. The environment is asked first, then the arguments; the configuration is the
last resort of those who have one.
-/

namespace TsOutline.Workspace

/-- Why there is no folder to scan. -/
inductive Fault where
  /-- The configuration names none. -/
  | notConfigured
  /-- The argument names no usable one. -/
  | badArgument
  /-- Neither the environment nor the arguments name one. -/
  | notGiven
  /-- The configured path means no place. -/
  | noPlace (fault : AccessFault)
  deriving Repr, DecidableEq

/-- The wording of a fault. -/
def Fault.message : Fault → String
  | notConfigured => "workspace must be set in config to scan a project"
  | badArgument =>
    "Error: The --workspace path provided is invalid. Please fix the path and try again."
  | notGiven =>
    "Error: WORKSPACE_FOLDER_PATHS env variable or --workspace argument is missing or invalid. " ++
      "Please set a valid absolute path."
  | noPlace fault => fault.message

/-- The environment variable that names a workspace. -/
def variableName : String := "WORKSPACE_FOLDER_PATHS"

/-- The option that names a workspace. -/
def option : String := "--workspace"

/-- An absolute path that leads somewhere. -/
def isUsable (fs : FileSystem) (path : String) : Bool :=
  Text.startsWith path "/" && fs.isThere path

/-- The workspace that the arguments name. An option without a value, or with an empty one, says
    nothing. -/
def ofArguments (fs : FileSystem) (args : List String) : Except Fault String :=
  match Exclusion.argumentAfter? option args with
  | none => .error .notGiven
  | some path =>
    if path = "" then .error .notGiven
    else if isUsable fs path then .ok (Path.normalText path)
    else .error .badArgument

/-- The workspace that the environment names, else the one that the arguments name. -/
def resolve (fs : FileSystem) (setting? : Option String) (args : List String) :
    Except Fault String :=
  match setting? with
  | some path => if isUsable fs path then .ok (Path.normalText path) else ofArguments fs args
  | none => ofArguments fs args

/-- A path made absolute. -/
def absolute (cwd : Place) (path : String) : Except Fault String :=
  match FileSystem.resolve cwd path with
  | .ok place => .ok (Path.placeText place)
  | .error fault => .error (.noPlace fault)

/-- The configured workspace as an absolute path. -/
def ofConfig (cwd : Place) (config : Config) : Except Fault String :=
  match config.workspace with
  | some path => if path = "" then .error .notConfigured else absolute cwd path
  | none => .error .notConfigured

end TsOutline.Workspace
