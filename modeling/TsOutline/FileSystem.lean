import TsOutline.Path
import TsOutline.Text.Utf8

/-!
# File Systems

A file system without links: folders of named entries down to files of bytes, and a working place in
it. A path is followed the way an operating system does it, name by name, and every step has to start
in a folder; that is stricter than resolving the text of the path. Paths with a null character are not
followed at all, and there are limits to the length of a path and of the names in it.
-/

namespace TsOutline

/-- A file with its bytes, or a folder with its entries. -/
inductive Entry where
  | file (bytes : ByteArray)
  | folder (entries : List (String × Entry))

namespace Entry

/-! ## §1 Looking up -/

/-- The entry is a folder. -/
def isFolder : Entry → Bool
  | folder _ => true
  | file _ => false

/-- The entry is a file. -/
def isFile : Entry → Bool
  | file _ => true
  | folder _ => false

/-- The entry of a folder under a name. -/
def child? (e : Entry) (name : String) : Option Entry :=
  match e with
  | folder entries => (entries.find? fun p => p.1 == name).map (·.2)
  | file _ => none

/-- The entry at a place below. -/
def at? (e : Entry) : Place → Option Entry
  | [] => some e
  | name :: rest => (e.child? name).bind fun c => c.at? rest

/-! ## §2 The files below -/

mutual

/-- All files at and below an entry, each with its place below it. -/
def files : Entry → List (Place × ByteArray)
  | file bytes => [([], bytes)]
  | folder entries => filesOf entries

/-- All files below the entries of a folder. -/
def filesOf : List (String × Entry) → List (Place × ByteArray)
  | [] => []
  | (name, e) :: rest => (files e).map (fun f => (name :: f.1, f.2)) ++ filesOf rest

end

/-! ## §3 Building -/

/-- Replaces the entry under a name, or adds it. -/
def setIn (name : String) (e : Entry) : List (String × Entry) → List (String × Entry)
  | [] => [(name, e)]
  | p :: rest => if p.1 == name then (name, e) :: rest else p :: setIn name e rest

/-- The entries of a folder; a file has none. -/
def entries : Entry → List (String × Entry)
  | folder es => es
  | file _ => []

/-- Puts an entry at a place, making the folders on the way. -/
def put (e : Entry) (new : Entry) : Place → Entry
  | [] => new
  | name :: rest =>
    folder (setIn name (put ((e.child? name).getD (folder [])) new rest) e.entries)

/-- Makes the folder at a place if there is nothing. -/
def ensureFolder (e : Entry) (place : Place) : Entry :=
  match e.at? place with
  | some _ => e
  | none => e.put (folder []) place

end Entry

/-! ## §4 Following paths -/

/-- Why a path leads nowhere, or to nothing that can be read. -/
inductive AccessFault where
  | missing (path : String)
  | notFolder (path : String)
  | isFolder (path : String)
  /-- The path, or a name in it that is looked up, is longer than any can be. -/
  | tooLong (path : String)
  /-- The path has a null character. -/
  | nullByte
  deriving Repr, DecidableEq

/-- The wording of a fault, with the number of the system error where it is one. -/
def AccessFault.message : AccessFault → String
  | missing path => "[Errno 2] No such file or directory: " ++ Text.quoted path
  | notFolder path => "[Errno 20] Not a directory: " ++ Text.quoted path
  | isFolder path => "[Errno 21] Is a directory: " ++ Text.quoted path
  | tooLong path => "[Errno 36] File name too long: " ++ Text.quoted path
  | nullByte => "embedded null byte"

/-- A file system: everything below the root, and the working place. -/
structure FileSystem where
  root : Entry
  cwd : Place

namespace FileSystem

/-- The bytes that a name can have at most. -/
def nameLimit : Nat := 255

/-- The bytes that a path has to stay below. -/
def pathLimit : Nat := 4096

/-- The path has a null character. -/
def hasNull (path : String) : Bool :=
  path.toList.any fun c => c.toNat = 0

/-- Follows names from a place. Every name, also one that stays (empty or a dot) or goes up, has to
    be looked up in a folder. -/
def follow (fs : FileSystem) (path : String) (here : Place) :
    List String → Except AccessFault Place
  | [] => .ok here
  | name :: rest =>
    match fs.root.at? here with
    | some (.folder _) =>
      if Path.isProperPart name then
        let next := Path.step here name
        if (fs.root.at? next).isSome then fs.follow path next rest
        else if nameLimit < name.utf8ByteSize then .error (.tooLong path)
        else .error (.missing path)
      else
        fs.follow path here rest
    | _ => .error (.notFolder path)

/-- The place that a path leads to. The empty path leads nowhere. -/
def locate (fs : FileSystem) (path : String) : Except AccessFault Place :=
  if hasNull path then .error .nullByte
  else if path = "" then .error (.missing path)
  else if pathLimit ≤ path.utf8ByteSize then .error (.tooLong path)
  else fs.follow path (if Text.startsWith path "/" then [] else fs.cwd) (Text.pieces '/' path)

/-- The place that a path means, whether there is something or not. -/
def resolve (cwd : Place) (path : String) : Except AccessFault Place :=
  if hasNull path then .error .nullByte else .ok (Path.placeOf cwd path)

/-- The entry that a path leads to. -/
def entry? (fs : FileSystem) (path : String) : Option Entry :=
  match fs.locate path with
  | .ok place => fs.root.at? place
  | .error _ => none

/-- The path leads somewhere. -/
def isThere (fs : FileSystem) (path : String) : Bool :=
  (fs.entry? path).isSome

/-- Only a length beyond the limits keeps a path from being looked up; all other faults mean that
    there is nothing. -/
def nothingOr (fault : AccessFault) : Except AccessFault (Option Entry) :=
  match fault with
  | .tooLong path => .error (.tooLong path)
  | _ => .ok none

/-- What a path leads to, if it leads somewhere. -/
def probe (fs : FileSystem) (path : String) : Except AccessFault (Option Entry) :=
  match fs.locate path with
  | .ok place => .ok (fs.root.at? place)
  | .error fault => nothingOr fault

/-- What there is at a place. Whatever exists is taken to be within reach, so that the length of its
    path counts only for a place where there is nothing. -/
def probeAt (fs : FileSystem) (place : Place) : Except AccessFault (Option Entry) :=
  match fs.root.at? place with
  | some e => .ok (some e)
  | none =>
    match fs.locate (Path.placeText place) with
    | .error fault => nothingOr fault
    | .ok _ => .ok none

/-- The path leads to a file. -/
def isFile (fs : FileSystem) (path : String) : Except AccessFault Bool :=
  (fs.probe path).map fun e? => (e?.map Entry.isFile).getD false

/-- The place is that of a folder. -/
def isFolderAt (fs : FileSystem) (place : Place) : Except AccessFault Bool :=
  (fs.probeAt place).map fun e? => (e?.map Entry.isFolder).getD false

/-! ## §5 Reading -/

/-- Why a file cannot be read as text. -/
inductive ReadFault where
  | access (fault : AccessFault)
  | decode (fault : Text.DecodeFault)
  deriving Repr, DecidableEq

/-- The wording of a fault. -/
def ReadFault.message : ReadFault → String
  | access fault => fault.message
  | decode fault => fault.message

/-- The bytes of a file as text, lines ending in line feeds. -/
def textOf (bytes : ByteArray) : Except ReadFault String :=
  match Text.decode bytes with
  | .ok s => .ok (Text.unifyLineEnds s)
  | .error fault => .error (.decode fault)

/-- The text of the file that a path leads to. -/
def read (fs : FileSystem) (path : String) : Except ReadFault String :=
  match fs.locate path with
  | .error fault => .error (.access fault)
  | .ok place =>
    match fs.root.at? place with
    | some (.file bytes) => textOf bytes
    | some (.folder _) => .error (.access (.isFolder path))
    | none => .error (.access (.missing path))

end FileSystem

end TsOutline
