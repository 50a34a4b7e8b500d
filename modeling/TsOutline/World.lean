import TsOutline.Config.Load
import TsOutline.Grammar

/-!
# The World

What a scan finds around it: a file system, a parser for sources, and a reader for data files. The
library has none of the three; everything that needs them takes a `World`.
-/

namespace TsOutline

/-- The surroundings of a scan. -/
structure World where
  fs : FileSystem
  parse : SyntaxReader
  readData : DataReader

/-- Why a file has no outline. -/
inductive FileFault where
  | unreadable (fault : FileSystem.ReadFault)
  | negativeDepth (fault : NegativeDepth)
  /-- A setting has a value of a type that it cannot have. -/
  | wrongType

/-- The wording of a fault; faults of type have none of their own. -/
def FileFault.message : FileFault → String
  | unreadable fault => fault.message
  | negativeDepth fault => fault.message
  | wrongType => ""

namespace World

/-- The outline of the file that a path leads to. The file is read before the depth is looked at,
    and records carry the path in its normal form. -/
def outline (w : World) (path : String) (depth : Number) (factories : List String) :
    Except FileFault Outline :=
  let path := Path.normalText path
  match w.fs.read path with
  | .error fault => .error (.unreadable fault)
  | .ok source =>
    match Outline.ofSource w.parse source path depth factories with
    | .ok o => .ok o
    | .error fault => .error (.negativeDepth fault)

/-- The outline of a file where depth and factories may be missing, because what was given for them
    cannot be used. The file comes first, then the depth, then the factories. -/
def outlineWith (w : World) (path : String) (depth? : Option Number)
    (factories? : Option (List String)) : Except FileFault Outline :=
  match w.fs.read (Path.normalText path) with
  | .error fault => .error (.unreadable fault)
  | .ok _ =>
    match depth?, factories? with
    | some depth, some factories => w.outline path depth factories
    | some depth, none =>
      if depth.budget.isOverdrawn then .error (.negativeDepth ⟨depth⟩) else .error .wrongType
    | none, _ => .error .wrongType

/-- The configuration from the config file and the overrides. -/
def loadConfig (w : World) (path? : Option String) (overrides : Config.Fields) :
    Except Config.LoadFault Config × List Warning :=
  Config.load w.fs w.readData path? overrides

end World

end TsOutline
