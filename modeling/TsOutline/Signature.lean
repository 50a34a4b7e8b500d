import TsOutline.Text.Json

/-!
# Signatures

What an outline lists: callables, router procedures among them, and type declarations. Each record
carries its one-line text beside the parts it was made of.

A procedure is a callable with `Procedure` details, and those always include the kind of operation.
-/

namespace TsOutline

/-! ## §1 Kinds -/

/-- What a procedure does to the data behind it. -/
inductive ProcedureKind where
  | query
  | mutation
  deriving Repr, DecidableEq

/-- The word for a kind of procedure. -/
def ProcedureKind.word : ProcedureKind → String
  | .query => "query"
  | .mutation => "mutation"

/-- The kind of procedure that a word stands for. -/
def ProcedureKind.ofWord? (s : String) : Option ProcedureKind :=
  if s = "query" then some .query
  else if s = "mutation" then some .mutation
  else none

/-- The kinds of type declarations. -/
inductive TypeKind where
  | interfaceKind
  | typeAlias
  | enumKind
  | classKind
  | namespaceKind
  | moduleKind
  deriving Repr, DecidableEq

/-- The word for a kind of type declaration. -/
def TypeKind.word : TypeKind → String
  | .interfaceKind => "interface"
  | .typeAlias => "type-alias"
  | .enumKind => "enum"
  | .classKind => "class"
  | .namespaceKind => "namespace"
  | .moduleKind => "module"

/-- All kinds of type declarations. -/
def TypeKind.all : List TypeKind :=
  [.interfaceKind, .typeAlias, .enumKind, .classKind, .namespaceKind, .moduleKind]

/-- The kind of type declaration that a word stands for. -/
def TypeKind.ofWord? (s : String) : Option TypeKind :=
  TypeKind.all.find? fun k => k.word == s

/-! ## §2 Records -/

/-- A parameter with the text of its type. -/
structure Parameter where
  name : String
  typeText : String
  deriving Repr, DecidableEq

/-- What is known of a router procedure. -/
structure Procedure where
  kind : ProcedureKind
  /-- The procedure validates an input. -/
  hasInput : Bool
  /-- The schema, if it is given by a bare name. -/
  schemaName : Option String
  /-- The text of the schema otherwise. -/
  schemaText : Option String
  deriving Repr, DecidableEq

/-- A callable declaration or a router procedure. -/
structure FunctionSignature where
  name : String
  parameters : List Parameter
  returnType : String
  fullSignature : String
  filePath : String
  isExported : Bool
  /-- The class, object or router that the callable belongs to. -/
  parentName : Option String
  /-- Present exactly for router procedures. -/
  procedure : Option Procedure
  deriving Repr, DecidableEq

/-- The record describes a router procedure. -/
def FunctionSignature.isProcedure (f : FunctionSignature) : Bool :=
  f.procedure.isSome

/-- A type declaration. -/
structure TypeSignature where
  name : String
  kind : TypeKind
  fullSignature : String
  filePath : String
  isExported : Bool
  deriving Repr, DecidableEq

/-! ## §3 Records as documents -/

/-- A parameter as a document. -/
def Parameter.toJson (p : Parameter) : Json :=
  .obj [("name", .str p.name), ("type_text", .str p.typeText)]

/-- A callable record as a document; the fields of a procedure are always present. -/
def FunctionSignature.toJson (f : FunctionSignature) : Json :=
  .obj [
    ("name", .str f.name),
    ("parameters", .arr (f.parameters.map Parameter.toJson)),
    ("return_type", .str f.returnType),
    ("full_signature", .str f.fullSignature),
    ("file_path", .str f.filePath),
    ("is_exported", .bool f.isExported),
    ("parent_name", .optional f.parentName),
    ("is_procedure", .bool f.isProcedure),
    ("procedure_kind", .optional (f.procedure.map (·.kind.word))),
    ("has_input", .bool ((f.procedure.map (·.hasInput)).getD false)),
    ("input_schema_name", .optional (f.procedure.bind (·.schemaName))),
    ("input_schema_text", .optional (f.procedure.bind (·.schemaText)))]

/-- A type record as a document. -/
def TypeSignature.toJson (t : TypeSignature) : Json :=
  .obj [
    ("name", .str t.name),
    ("kind", .str t.kind.word),
    ("full_signature", .str t.fullSignature),
    ("file_path", .str t.filePath),
    ("is_exported", .bool t.isExported)]

end TsOutline
