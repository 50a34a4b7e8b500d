import TsOutline.Config.Basic

/-!
# Loose Settings

What an analyzer works under. It starts from a configuration, but single settings can be replaced
later by any value, without a check; so a setting is a value here, and each use reads it as what it
needs. Reading fails only where there is no way to use the value.

Any name can be set. Some names are taken by what settings can do themselves: two of them are fixed,
and a value under one of the others, or under a private name, is not listed with the settings. It can
stand in the way, though: who replaces the listing gets none any more.
-/

namespace TsOutline

/-- The settings of an analyzer, each of them any value. -/
structure Settings where
  workspace : Value
  blacklist : Value
  typeDepth : Value
  exportedOnly : Value
  includeTypes : Value
  routerFactories : Value
  extras : Config.Fields
  /-- The names that were set and are not listed. -/
  unlisted : List String

namespace Settings

/-! ## §1 Making and changing -/

/-- A list of texts as a value. -/
def textsValue (texts : List String) : Value :=
  .list (texts.map .text)

/-- The settings that a configuration stands for. -/
def ofConfig (c : Config) : Settings where
  workspace := (c.workspace.map Value.text).getD .null
  blacklist := textsValue c.blacklist
  typeDepth := .int c.typeDepth
  exportedOnly := .bool c.exportedOnly
  includeTypes := .bool c.includeTypes
  routerFactories := textsValue c.routerFactories
  extras := c.extras
  unlisted := []

/-- All settings by name. -/
def fields (s : Settings) : Config.Fields :=
  [("workspace", s.workspace), ("blacklist", s.blacklist), ("type_depth", s.typeDepth),
   ("exported_only", s.exportedOnly), ("include_types", s.includeTypes),
   ("router_factories", s.routerFactories)] ++ s.extras

/-- The name of the listing of all settings. -/
def listingName : String := "model_dump"

/-- The name of the question for the workspace. -/
def workspaceName : String := "require_workspace"

/-- The names of what settings can do. -/
def ownNames : List String :=
  [listingName, workspaceName, "model_config", "model_fields", "model_computed_fields",
   "model_construct", "model_copy", "model_dump_json", "model_json_schema",
   "model_parametrized_name", "model_post_init", "model_rebuild", "model_validate",
   "model_validate_json", "model_validate_strings", "dict", "json", "parse_obj", "parse_raw",
   "parse_file", "from_orm", "construct", "copy", "schema", "schema_json", "validate",
   "update_forward_refs", "Config", "mro", "register"]

/-- The names of what settings know of themselves. They cannot be set. -/
def fixedNames : List String :=
  ["model_extra", "model_fields_set"]

/-- A value under the name is not listed: the name is private or taken. -/
def isUnlisted (name : String) : Bool :=
  Text.startsWith name "_" || ownNames.contains name

/-- Replaces one setting, or adds it to the extras. -/
def assign (s : Settings) (name : String) (v : Value) : Settings :=
  match name with
  | "workspace" => { s with workspace := v }
  | "blacklist" => { s with blacklist := v }
  | "type_depth" => { s with typeDepth := v }
  | "exported_only" => { s with exportedOnly := v }
  | "include_types" => { s with includeTypes := v }
  | "router_factories" => { s with routerFactories := v }
  | _ =>
    if isUnlisted name then { s with unlisted := name :: s.unlisted }
    else { s with extras := Config.setField name v s.extras }

/-- Why settings were not replaced, or cannot be shown. -/
inductive AssignFault where
  /-- What is to be set is no mapping. -/
  | noFields
  /-- The name cannot be set. -/
  | fixedName (name : String)
  /-- The listing has been replaced. -/
  | noListing
  deriving Repr, DecidableEq

/-- Replaces several settings one after the other, up to the first that is fixed. -/
def assignAll (s : Settings) : Config.Fields → Settings × Option AssignFault
  | [] => (s, none)
  | (name, v) :: rest =>
    if fixedNames.contains name then (s, some (.fixedName name))
    else (s.assign name v).assignAll rest

/-- All settings by name, unless the listing has been replaced. -/
def listing? (s : Settings) : Option Config.Fields :=
  if s.unlisted.contains listingName then none else some s.fields

/-- The question for the workspace has been replaced. -/
def hidesWorkspace (s : Settings) : Bool :=
  s.unlisted.contains workspaceName

/-! ## §2 Reading -/

/-- Values that are all texts. -/
def allTexts? : List Value → Option (List String)
  | [] => some []
  | .text t :: rest => (allTexts? rest).map (t :: ·)
  | _ :: _ => none

/-- The blacklist: an empty value is no blacklist, and the members of any other have to be texts. -/
def patterns? (s : Settings) : Option (List String) :=
  if s.blacklist.isTruthy then s.blacklist.members?.bind allTexts? else some []

/-- The depth: a number or a truth value. -/
def depth? (s : Settings) : Option Number :=
  s.typeDepth.number?

/-- The router factories: the texts among the members of the value. -/
def factories? (s : Settings) : Option (List String) :=
  s.routerFactories.members?.map Config.textsOf

/-- Only exported records are shown. -/
def showsExportedOnly (s : Settings) : Bool :=
  s.exportedOnly.isTruthy

/-- Types are collected. -/
def collectsTypes (s : Settings) : Bool :=
  s.includeTypes.isTruthy

end Settings

end TsOutline
