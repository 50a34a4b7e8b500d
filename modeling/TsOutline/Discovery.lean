import TsOutline.Exclusion
import TsOutline.FileSystem
import TsOutline.Grammar
import TsOutline.Grouping

/-!
# Discovery

The source files of a project: every file at any depth below its root whose name has one of the eight
source suffixes and whose path below the root is not excluded, as sorted absolute paths.
-/

namespace TsOutline.Discovery

/-- The suffixes of source files, compared as they are. -/
def sourceSuffixes : List String :=
  Grammar.typescriptSuffixes ++ Grammar.tsxSuffixes

/-- The file at a place has the suffix of a source file. -/
def isSource (place : Place) : Bool :=
  match place.getLast? with
  | some name => sourceSuffixes.contains (Path.nameSuffix name)
  | none => false

/-- Why nothing is discovered. -/
inductive Fault where
  /-- There is no folder at the root. -/
  | noFolder (root : String)
  /-- The root cannot be looked up. -/
  | noAccess (fault : AccessFault)
  /-- A pattern of the blacklist has a range the wrong way round. -/
  | badRange (fault : Glob.RangeFault)
  deriving Repr, DecidableEq

/-- The wording of a fault. -/
def Fault.message : Fault → String
  | noFolder root => "Directory not found: " ++ root
  | noAccess fault => fault.message
  | badRange fault => fault.message

/-- The place below the root as text, which exclusions are compared with. -/
def relativeText (place : Place) : String :=
  Text.join "/" place

/-- The kept files below a folder, as absolute paths. Everything below the folder is taken to be within
    reach: that a path is too long to ask whether it is a file, which would end the listing with an
    error, is not considered. -/
def keptFiles (spec : Exclusion.Spec) (root : Place) (folder : Entry) : List String :=
  ((folder.files.map (·.1)).filter fun p => isSource p && !Exclusion.excludes spec (relativeText p)).map
    fun p => Path.placeText (root ++ p)

/-- The source files below a folder at a place, sorted. -/
def discoverAt (place : Place) (folder : Entry) (blacklist : List String) :
    Except Fault (List String) :=
  match Exclusion.build blacklist with
  | .error fault => .error (.badRange fault)
  | .ok spec => .ok (sorted (keptFiles spec place folder))

/-- The place of a root with the folder there. The root may be relative and hold `.` and `..`. -/
def folderOf (fs : FileSystem) (root : String) : Except Fault (Place × Entry) :=
  match FileSystem.resolve fs.cwd root with
  | .error fault => .error (.noAccess fault)
  | .ok place =>
    match fs.probeAt place with
    | .error fault => .error (.noAccess fault)
    | .ok (some (.folder entries)) => .ok (place, .folder entries)
    | .ok _ => .error (.noFolder (Path.placeText place))

/-- The source files below a root, sorted. -/
def discover (fs : FileSystem) (root : String) (blacklist : List String) :
    Except Fault (List String) :=
  match folderOf fs root with
  | .error fault => .error fault
  | .ok (place, folder) => discoverAt place folder blacklist

end TsOutline.Discovery
