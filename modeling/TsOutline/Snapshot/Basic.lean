import TsOutline.World

/-!
# Snapshots

A project as it was found: its folders, the bytes of its files, and what outside readers made of
them, a syntax tree of a source or a value of a data file. A snapshot is a world of its own: its file
system holds exactly its files, and a text is read as the file with that text was read.
-/

namespace TsOutline

/-- A file of a snapshot. -/
structure Snapshot.File where
  /-- The path, seen from the working place of the snapshot. -/
  path : String
  bytes : ByteArray
  /-- The syntax tree of the file's text, if it was parsed. -/
  tree : Option Node
  /-- What a reader of data made of the file, if it was read: a value, or none if it is not
      well-formed. -/
  data : Option (Option Value)

/-- A project as it was found. -/
structure Snapshot where
  cwd : Place
  files : List Snapshot.File
  folders : List String

namespace Snapshot

/-! ## §1 The file system -/

/-- The working place alone. -/
def ground (s : Snapshot) : Entry :=
  Entry.put (.folder []) (.folder []) s.cwd

/-- Everything that was found: the files, and the folders that no file made. -/
def root (s : Snapshot) : Entry :=
  let withFiles := s.files.foldl (fun e f => e.put (.file f.bytes) (Path.placeOf s.cwd f.path)) s.ground
  s.folders.foldl (fun e d => e.ensureFolder (Path.placeOf s.cwd d)) withFiles

/-! ## §2 The readers -/

/-- The file has the given text. -/
def File.hasText (f : File) (source : String) : Bool :=
  match FileSystem.textOf f.bytes with
  | .ok text => text == source
  | .error _ => false

/-- The tree of an empty source. -/
def blankTree : Node :=
  .mk .program true none "" []

/-- The tree of a source: that of the first file with this text and grammar that was parsed. -/
def parse (s : Snapshot) : SyntaxReader := fun grammar source =>
  (s.files.findSome? fun f =>
    if f.hasText source && Grammar.ofPath f.path == grammar then f.tree else none).getD blankTree

/-- The value of a data file: that of the first file with this text that was read. -/
def readData (s : Snapshot) : DataReader := fun source =>
  (s.files.findSome? fun f => if f.hasText source then f.data else none).getD none

/-- The world that a snapshot shows. -/
def world (s : Snapshot) : World :=
  ⟨⟨s.root, s.cwd⟩, s.parse, s.readData⟩

end Snapshot

end TsOutline
