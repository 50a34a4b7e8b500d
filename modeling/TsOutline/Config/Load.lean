import TsOutline.Config.Basic
import TsOutline.FileSystem

/-!
# Loading Configurations

A configuration comes from three sources: overrides win over the config file, which wins over the
defaults. A config file is a data file; reading its format is a parameter. A file that is missing,
empty or not well-formed counts as empty, with a warning where someone should know.
-/

namespace TsOutline

/-- Reads the text of a data file: its value, or none if the text is not well-formed. No other answer
    is covered, so a reader that can fail in a third way (over a date that is not in the calendar, say)
    is described only on the texts where it does not. The text is that of the whole file: a reader that
    takes a file in piece by piece is described where it comes to the same. -/
abbrev DataReader := String → Option Value

/-! ## §1 Warnings -/

/-- What is worth a warning, although work goes on. -/
inductive Warning where
  /-- There is no config file at the given path. -/
  | noConfigFile (path : String)
  /-- The config file is not well-formed. -/
  | brokenConfigFile (path : String)
  /-- A source file was skipped, for the given cause. -/
  | skippedFile (path cause : String)
  deriving Repr, DecidableEq

/-- The wording of a warning, without its cause. -/
def Warning.headline : Warning → String
  | noConfigFile path => "Config file not found at explicit path: " ++ path
  | brokenConfigFile path => "Failed to load config file " ++ path
  | skippedFile path _ => "Error parsing file " ++ path

/-- The wording of a warning. -/
def Warning.message (w : Warning) : String :=
  match w with
  | skippedFile _ cause => w.headline ++ ": " ++ cause
  | _ => w.headline

namespace Config

/-! ## §2 Data as fields -/

/-- Why the value of a config file gives no fields. -/
inductive DataFault where
  /-- The value holds no entries at all. -/
  | noEntries (typeWord : String)
  /-- An entry of a list is no pair of key and value. -/
  | noPair (index : Nat)
  /-- An entry of a list has the wrong length. -/
  | wrongLength (index length : Nat)
  /-- A list or mapping cannot be a key. -/
  | badKey (typeWord : String)
  /-- The name of a setting is a text. -/
  | keyNoText
  deriving Repr, DecidableEq

/-- The wording of a fault. -/
def DataFault.message : DataFault → String
  | noEntries typeWord => "'" ++ typeWord ++ "' object is not iterable"
  | noPair i =>
    "cannot convert dictionary update sequence element #" ++ Nat.repr i ++ " to a sequence"
  | wrongLength i n =>
    "dictionary update sequence element #" ++ Nat.repr i ++ " has length " ++ Nat.repr n ++
      "; 2 is required"
  | badKey typeWord => "unhashable type: '" ++ typeWord ++ "'"
  | keyNoText => "keywords must be strings"

/-- The pairs among values, the first of which has number `n`: a pair is a value with two members. -/
def pairsFrom (n : Nat) : List Value → Except DataFault (List (Value × Value))
  | [] => .ok []
  | v :: rest =>
    match v.members? with
    | none => .error (.noPair n)
    | some [key, value] =>
      if key.isKey then (pairsFrom (n + 1) rest).map ((key, value) :: ·)
      else .error (.badKey key.typeWord)
    | some members => .error (.wrongLength n members.length)

/-- The entries of a value. -/
def entriesOf : Value → Except DataFault (List (Value × Value))
  | .map entries => .ok entries
  | v =>
    match v.members? with
    | some members => pairsFrom 0 members
    | none => .error (.noEntries v.typeWord)

/-- Entries whose keys are all texts, as fields; a later entry wins over an earlier one. -/
def fieldsOfEntries : List (Value × Value) → Except DataFault Fields
  | [] => .ok []
  | (key, value) :: rest =>
    match key, fieldsOfEntries rest with
    | .text name, .ok fields => .ok ((name, value) :: fields)
    | .text _, .error e => .error e
    | _, _ => .error .keyNoText

/-- The fields of a data file. An empty value has none. -/
def fieldsOfData (v : Value) : Except DataFault Fields :=
  if v.isTruthy then
    match entriesOf v with
    | .ok entries => (fieldsOfEntries entries).map (setFields [])
    | .error e => .error e
  else
    .ok []

/-! ## §3 Loading -/

/-- Why no configuration was loaded. -/
inductive LoadFault where
  | unreadable (fault : FileSystem.ReadFault)
  | data (fault : DataFault)
  | invalid (issues : List Issue)

/-- The wording of a fault. -/
def LoadFault.message : LoadFault → String
  | unreadable fault => fault.message
  | data fault => fault.message
  | invalid issues => issuesMessage issues

/-- The config file that is looked for where none is named. -/
def defaultPath : String := "project-structure.config.yaml"

/-- The path of the config file: the given one, unless it is empty. -/
def pathOr (path? : Option String) : String :=
  match path? with
  | some path => if path = "" then defaultPath else path
  | none => defaultPath

/-- The fields of the config file that a path leads to, with a warning if it is not well-formed. The
    file is decoded as a whole before anything is read from it, so bytes that are no text are a fault
    even behind data that is not well-formed. -/
def readFields (fs : FileSystem) (readData : DataReader) (path : String) :
    Except LoadFault Fields × List Warning :=
  match fs.read (Path.normalText path) with
  | .error fault => (.error (.unreadable fault), [])
  | .ok text =>
    match readData text with
    | none => (.ok [], [.brokenConfigFile path])
    | some v =>
      match fieldsOfData v with
      | .ok fields => (.ok fields, [])
      | .error fault => (.error (.data fault), [])

/-- A missing config file is worth a warning if it was asked for. -/
def missingWarnings (path? : Option String) : List Warning :=
  match path? with
  | some given => if given = "" then [] else [.noConfigFile given]
  | none => []

/-- The fields of the config file, with a warning if there is something wrong with it. -/
def fileFields (fs : FileSystem) (readData : DataReader) (path? : Option String) :
    Except LoadFault Fields × List Warning :=
  match fs.isFile (Path.normalText (pathOr path?)) with
  | .error fault => (.error (.unreadable (.access fault)), [])
  | .ok true => readFields fs readData (pathOr path?)
  | .ok false => (.ok [], missingWarnings path?)

/-- Overrides that say something. -/
def givenOverrides (overrides : Fields) : Fields :=
  overrides.filter fun p =>
    match p.2 with
    | .null => false
    | _ => true

/-- The configuration from the config file and the overrides. -/
def load (fs : FileSystem) (readData : DataReader) (path? : Option String) (overrides : Fields) :
    Except LoadFault Config × List Warning :=
  match fileFields fs readData path? with
  | (.error fault, warnings) => (.error fault, warnings)
  | (.ok fields, warnings) =>
    match ofFields (setFields fields (givenOverrides overrides)) with
    | .ok config => (.ok config, warnings)
    | .error issues => (.error (.invalid issues), warnings)

end Config

end TsOutline
