import TsOutline.Request.Argument
import TsOutline.Signature

/-!
# Records in Requests

Signatures that a request brings along. A record names its fields: none of the required ones may be
missing, and there may be no others. Of one record the kind is looked at first. The texts of a record
are taken as they are; what is no text is found out where it is used.

The theorems start from signatures. This module belongs to the outer layer, where signatures are read,
and no theorem reaches it.
-/

namespace TsOutline.Request

/-- Why a value is no record. -/
inductive RecordFault where
  | argument (fault : ArgumentFault)
  /-- A procedure has to have a kind. -/
  | missingKind (name : String)
  /-- There is no such kind of procedure. -/
  | unknownProcedureKind (given : String)
  /-- There is no such kind of type. -/
  | unknownTypeKind (given : String)
  deriving Repr, DecidableEq

/-- The wording of a fault; faults of arguments have none. -/
def RecordFault.message : RecordFault → String
  | argument _ => ""
  | missingKind name => "Procedure '" ++ name ++ "' has no procedure kind"
  | unknownProcedureKind given => given ++ " is not a valid ProcedureKind"
  | unknownTypeKind given => given ++ " is not a valid TypeKind"

/-- A callable as a request gives it. -/
structure GivenFunction where
  name : Value
  fullSignature : Value
  filePath : Value
  parentName : Value
  isExported : Bool
  /-- Present exactly for router procedures. -/
  kind : Option ProcedureKind

/-- A type declaration as a request gives it. -/
structure GivenType where
  name : Value
  kind : TypeKind
  fullSignature : Value
  filePath : Value
  isExported : Bool

/-! ## §1 Fields -/

/-- All required names are there, and no names that are not allowed. -/
def namesFit (required allowed : List String) (fields : Config.Fields) : Bool :=
  required.all (fun name => (Config.fieldValue? fields name).isSome) &&
    fields.all fun field => allowed.contains field.1

/-- The value of a field; null if it is missing. -/
def fieldOrNull (fields : Config.Fields) (name : String) : Value :=
  (Config.fieldValue? fields name).getD .null

/-- The fields that a callable must have. -/
def functionRequired : List String :=
  ["name", "parameters", "return_type", "full_signature", "file_path"]

/-- The fields that a callable can have. -/
def functionAllowed : List String :=
  functionRequired ++ ["is_exported", "parent_name", "is_procedure", "procedure_kind", "has_input",
    "input_schema_name", "input_schema_text"]

/-- The fields of a parameter. -/
def parameterFields : List String := ["name", "type_text"]

/-- The fields that a type must have. -/
def typeRequired : List String := ["name", "kind", "full_signature", "file_path"]

/-- The fields that a type can have. -/
def typeAllowed : List String := typeRequired ++ ["is_exported"]

/-- A parameter with its two fields. -/
def isParameter (v : Value) : Bool :=
  match v.fields? with
  | some fields => namesFit parameterFields parameterFields fields
  | none => false

/-- Members that are all parameters. -/
def areParameters (v : Value) : Bool :=
  match v.members? with
  | some members => members.all isParameter
  | none => false

/-! ## §2 Callables -/

/-- The kind of procedure that a value names; null names none. -/
def procedureKindOf (v : Value) : Except RecordFault (Option ProcedureKind) :=
  match v with
  | .null => .ok none
  | .text word =>
    match ProcedureKind.ofWord? word with
    | some k => .ok (some k)
    | none => .error (.unknownProcedureKind v.shown)
  | _ => .error (.unknownProcedureKind v.shown)

/-- The callable that fields describe, its kind being known. -/
def functionWithKind (kind? : Option ProcedureKind) (fields : Config.Fields) :
    Except RecordFault GivenFunction :=
  let get := fieldOrNull fields
  if !(namesFit functionRequired functionAllowed fields && areParameters (get "parameters")) then
    .error (.argument .wrongType)
  else
    match (get "is_procedure").isTruthy, kind? with
    | true, none => .error (.missingKind (get "name").plain)
    | isProcedure, _ =>
      .ok { name := get "name", fullSignature := get "full_signature",
            filePath := get "file_path", parentName := get "parent_name",
            isExported := (get "is_exported").isTruthy,
            kind := if isProcedure then kind? else none }

/-- The callable that a value describes. -/
def functionOf (v : Value) : Except RecordFault GivenFunction :=
  match v.fields? with
  | none => .error (.argument .wrongType)
  | some fields =>
    match procedureKindOf (fieldOrNull fields "procedure_kind") with
    | .error fault => .error fault
    | .ok kind? => functionWithKind kind? fields

/-! ## §3 Types -/

/-- The kind of type that a value names. -/
def typeKindOf (v : Value) : Except RecordFault TypeKind :=
  match v with
  | .text word =>
    match TypeKind.ofWord? word with
    | some k => .ok k
    | none => .error (.unknownTypeKind v.shown)
  | _ => .error (.unknownTypeKind v.shown)

/-- The type declaration that a value describes. -/
def typeOf (v : Value) : Except RecordFault GivenType :=
  match v.fields? with
  | none => .error (.argument .wrongType)
  | some fields =>
    let get := fieldOrNull fields
    match typeKindOf (get "kind") with
    | .error fault => .error fault
    | .ok kind =>
      if namesFit typeRequired typeAllowed fields then
        .ok { name := get "name", kind := kind, fullSignature := get "full_signature",
              filePath := get "file_path", isExported := (get "is_exported").isTruthy }
      else
        .error (.argument .wrongType)

/-! ## §4 Lists of records -/

/-- Reads values one after the other, up to the first fault. -/
def readAll {α : Type} (read : Value → Except RecordFault α) :
    List Value → Except RecordFault (List α)
  | [] => .ok []
  | v :: rest =>
    match read v with
    | .error fault => .error fault
    | .ok a => (readAll read rest).map (a :: ·)

/-- The records among the members of a value. -/
def recordsOf {α : Type} (read : Value → Except RecordFault α) (v : Value) :
    Except RecordFault (List α) :=
  match membersOf v with
  | .error fault => .error (.argument fault)
  | .ok members => readAll read members

/-! ## §5 Records as signatures -/

/-- A callable as a signature, for a report. -/
def GivenFunction.toSignature (f : GivenFunction) : FunctionSignature where
  name := f.name.plain
  parameters := []
  returnType := ""
  fullSignature := f.fullSignature.plain
  filePath := f.filePath.plain
  isExported := f.isExported
  parentName := if f.parentName.isTruthy then some f.parentName.plain else none
  procedure := f.kind.map fun k => ⟨k, false, none, none⟩

/-- A type declaration as a signature, for a report. -/
def GivenType.toSignature (t : GivenType) : TypeSignature where
  name := t.name.plain
  kind := t.kind
  fullSignature := t.fullSignature.plain
  filePath := t.filePath.plain
  isExported := t.isExported

end TsOutline.Request
