import TsOutline.Report
import TsOutline.Request.Record

/-!
# Reports of Given Records

A request for a report brings the records along. What a report needs of a record, its path above all,
has to be a text by the time the report is written.

The report itself is that of `TsOutline.Report`. This module belongs to the outer layer, and no theorem
reaches it.
-/

namespace TsOutline.Request

/-- Why there is no report. -/
inductive ReportFault where
  | argument (fault : ArgumentFault)
  | record (fault : RecordFault)
  | report (fault : Report.Fault)

/-- The records of a request. -/
structure Given where
  functions : List GivenFunction
  types : List GivenType

namespace Given

/-- The callables as signatures. -/
def functionSignatures (g : Given) : List FunctionSignature :=
  g.functions.map GivenFunction.toSignature

/-- The type declarations as signatures. -/
def typeSignatures (g : Given) : List TypeSignature :=
  g.types.map GivenType.toSignature

/-- The paths of all records. -/
def paths (g : Given) : List Value :=
  g.functions.map (·.filePath) ++ g.types.map (·.filePath)

/-- The records that a report keeps. -/
def kept (g : Given) (exportedOnly : Bool) : Given where
  functions := g.functions.filter fun f => Report.keepsFunction exportedOnly f.toSignature
  types := g.types.filter fun t => Report.keepsType exportedOnly t.toSignature

/-- There is no record. -/
def isEmpty (g : Given) : Bool :=
  g.functions.isEmpty && g.types.isEmpty

end Given

/-! ## §1 What a report needs -/

/-- The value is a text. -/
def isText : Value → Bool
  | .text _ => true
  | _ => false

/-- A root that headings can be relative to; null stands for the working place. -/
def isRoot : Value → Bool
  | .null => true
  | v => isText v

/-- The value says nothing as a path. -/
def isEmptyText : Value → Bool
  | .text s => s = ""
  | _ => false

/-- A callable that can be listed: the router of a procedure, if it has one, has to be a value that
    can be looked up, and every other callable needs a text. -/
def isListable (f : GivenFunction) : Bool :=
  if f.kind.isSome then !f.parentName.isTruthy || f.parentName.isKey
  else isText f.fullSignature

/-- What is wrong with paths that are not all texts. They cannot be sorted, or, if there is but one,
    it names no file. -/
def pathsFault (paths : List Value) : ReportFault :=
  match firstSeen (paths.map Value.shown), paths with
  | [_], path :: _ => if path.isTruthy then .argument .wrongType else .report .emptyPath
  | _, _ => .argument .wrongType

/-- What keeps the sections of kept records from being written. An empty path is found when its
    section is written. -/
def sectionsFault? (root : Value) (g : Given) : Option ReportFault :=
  if g.paths.any fun path => !path.isKey then some (.argument .wrongType)
  else if !g.paths.all isText then some (pathsFault g.paths)
  else if g.paths.any isEmptyText then none
  else if isRoot root && g.functions.all isListable
      && g.types.all (fun t => isText t.fullSignature) then none
  else some (.argument .wrongType)

/-- The root that headings are relative to. The empty one is the working place. -/
def rootText : Value → String
  | .text s => s
  | _ => ""

/-! ## §2 Requests -/

/-- The records of a request: callables before types. Types may be missing. -/
def givenOf (functions : Value) (types? : Option Value) : Except RecordFault Given :=
  match recordsOf functionOf functions with
  | .error fault => .error fault
  | .ok fs =>
    match types? with
    | none => .ok ⟨fs, []⟩
    | some types => (recordsOf typeOf types).map fun ts => ⟨fs, ts⟩

/-- Types that are null count as missing. -/
def unlessNull (v? : Option Value) : Option Value :=
  match v? with
  | some .null => none
  | other => other

/-- The document over given records. -/
def document (cwd : Place) (functions : Value) (types? : Option Value) (root : Value)
    (exportedOnly : Bool) : Except ReportFault String :=
  match givenOf functions (unlessNull types?) with
  | .error fault => .error (.record fault)
  | .ok g =>
    match if (g.kept exportedOnly).isEmpty then none
      else sectionsFault? root (g.kept exportedOnly) with
    | some fault => .error fault
    | none =>
      (Report.document cwd (rootText root) exportedOnly g.functionSignatures
        g.typeSignatures).mapError .report

/-- A given document with a summary of given records in front. -/
def summary (markdown scanned functions : Value) (types? : Option Value) (exportedOnly : Bool)
    (blacklist : Value) : Except ReportFault String :=
  match givenOf functions (unlessNull types?), types?, markdown, textMembers .wrongType blacklist with
  | .error fault, _, _, _ => .error (.record fault)
  | .ok _, some .null, _, _ => .error (.argument .wrongType)
  | .ok g, _, .text text, .ok entries =>
    if g.paths.all Value.isKey then
      .ok (Report.summaryText text scanned.plain g.functionSignatures g.typeSignatures exportedOnly
        entries)
    else .error (.argument .wrongType)
  | .ok _, _, _, _ => .error (.argument .wrongType)

/-- Names under their paths, in the order in which the paths come up. -/
def groupNames (records : List (Value × Value)) : Except ReportFault Value :=
  if records.all fun r => r.1.isKey then
    .ok (.list ((groupBy (fun r => r.1.shown) records).map fun (_, group) =>
      .list [(group.head?.map (·.1)).getD .null, .list (group.map (·.2))]))
  else
    .error (.argument .wrongType)

/-- The names of callables under their paths. -/
def functionGroups (records : Value) : Except ReportFault Value :=
  match recordsOf functionOf records with
  | .error fault => .error (.record fault)
  | .ok fs => groupNames (fs.map fun f => (f.filePath, f.name))

/-- The names of types under their paths. -/
def typeGroups (records : Value) : Except ReportFault Value :=
  match recordsOf typeOf records with
  | .error fault => .error (.record fault)
  | .ok ts => groupNames (ts.map fun t => (t.filePath, t.name))

end TsOutline.Request
