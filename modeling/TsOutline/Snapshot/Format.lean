import TsOutline.Snapshot.Basic
import TsOutline.Syntax.Row
import TsOutline.Text.Hex

/-!
# Snapshots as Lines

A snapshot on paper, one fact a line, words with single spaces between them. Texts that can hold
anything are written as the hexadecimal digits of their UTF-8 bytes.

- `here PATH` names the working place, `folder PATH` a folder, and `file PATH BYTES` a file.
- `row NAMED FIELD START STOP ARITY KIND` is one node of the syntax tree of the file before, in
  pre-order; the field is `-` for a node without a role.
- `value WORD ...` is one part of the value of the data file before, also in pre-order:
  `null`, `true`, `false`, `int N`, `real MANTISSA PLACES`, `text TEXT`, `list LENGTH` and
  `map LENGTH`, where the entries of a mapping follow as keys and values in turn.
- `broken` says that the data file before is not well-formed.

Lines that say nothing of this kind are passed over.
-/

namespace TsOutline.Snapshot

open Text (pieces join)

/-! ## §1 Parts of values -/

/-- One part of a value in pre-order. -/
inductive Part where
  | whole (v : Value)
  | list (length : Nat)
  | map (length : Nat)

/-- The first `n` pairs of neighbours. -/
def pairUp : Nat → List Value → Option (List (Value × Value) × List Value)
  | 0, rest => some ([], rest)
  | n + 1, k :: v :: rest => (pairUp n rest).map fun (pairs, left) => ((k, v) :: pairs, left)
  | _ + 1, _ => none

/-- One part put in front of the values that follow it: it takes its members from their head. -/
def addPart (p : Part) (values : List Value) : Option (List Value) :=
  match p with
  | .whole v => some (v :: values)
  | .list n => if n ≤ values.length then some (.list (values.take n) :: values.drop n) else none
  | .map n => (pairUp n values).map fun (pairs, left) => .map pairs :: left

/-- The values that parts describe. -/
def valuesOfParts? : List Part → Option (List Value)
  | [] => some []
  | p :: rest => (valuesOfParts? rest).bind (addPart p)

/-- The value that parts describe, if they describe exactly one. -/
def valueOfParts? (parts : List Part) : Option Value :=
  match valuesOfParts? parts with
  | some [v] => some v
  | _ => none

/-! ## §2 Lines -/

/-- One line of a syntax tree: a row with its place in the source. -/
structure Span where
  kind : Kind
  named : Bool
  field : Option Field
  start : Nat
  stop : Nat
  arity : Nat

/-- What a line says. -/
inductive Line where
  | here (path : String)
  | folder (path : String)
  | file (path : String) (bytes : ByteArray)
  | row (span : Span)
  | value (part : Part)
  | broken

/-- The text that hexadecimal digits stand for. -/
def textOfHex? (s : String) : Option String :=
  (Text.ofHex? s).bind String.fromUTF8?

/-- A number of plain decimal digits. -/
def nat? (s : String) : Option Nat :=
  Text.readDigits? Text.asciiDigitValue? s.toList

/-- A number with an optional sign. -/
def int? (s : String) : Option Int :=
  Text.readSigned? Text.asciiDigitValue? s.toList

/-- The words after `value`. -/
def Part.ofWords? : List String → Option Part
  | ["null"] => some (.whole .null)
  | ["true"] => some (.whole (.bool true))
  | ["false"] => some (.whole (.bool false))
  | ["int", n] => (int? n).map fun n => .whole (.int n)
  | ["real", m, p] =>
    match int? m, nat? p with
    | some m, some p => some (.whole (.real m p))
    | _, _ => none
  | ["text", t] => (textOfHex? t).map fun t => .whole (.text t)
  | ["text"] => some (.whole (.text ""))
  | ["list", n] => (nat? n).map .list
  | ["map", n] => (nat? n).map .map
  | _ => none

/-- The words after `row`. A kind can hold spaces. -/
def Span.ofWords? : List String → Option Span
  | named :: field :: start :: stop :: arity :: kind =>
    match nat? start, nat? stop, nat? arity with
    | some start, some stop, some arity =>
      some ⟨.ofName (join " " kind), named == "1",
            if field = "-" then none else Field.ofName? field, start, stop, arity⟩
    | _, _, _ => none
  | _ => none

/-- What a line says, if it says something. -/
def Line.ofText? (s : String) : Option Line :=
  match pieces ' ' s with
  | ["here", path] => (textOfHex? path).map .here
  | ["folder", path] => (textOfHex? path).map .folder
  | ["file", path, bytes] =>
    match textOfHex? path, Text.ofHex? bytes with
    | some path, some bytes => some (.file path bytes)
    | _, _ => none
  | ["file", path] => (textOfHex? path).map fun path => .file path ⟨#[]⟩
  | "row" :: words => (Span.ofWords? words).map .row
  | "value" :: words => (Part.ofWords? words).map .value
  | ["broken"] => some .broken
  | _ => none

/-! ## §3 Reading -/

/-- A file while its lines are read: rows and parts are still to be put together. -/
structure Draft where
  path : String
  bytes : ByteArray
  spans : List Span
  parts : List Part
  broken : Bool

/-- The row of a span of a source. -/
def Span.toRow? (source : ByteArray) (s : Span) : Option Row :=
  (Node.slice? source s.start s.stop).map fun text => ⟨s.kind, s.named, s.field, text, s.arity⟩

/-- The tree of a draft. The places of its rows are places in the text of the file, whose lines end
    in line feeds. -/
def Draft.tree? (d : Draft) : Option Node :=
  match FileSystem.textOf d.bytes with
  | .ok source => (d.spans.mapM (Span.toRow? source.toUTF8)).bind Node.ofRows?
  | .error _ => none

/-- The file of a draft. -/
def Draft.file (d : Draft) : File :=
  ⟨d.path, d.bytes, d.tree?,
   if d.broken then some none else (valueOfParts? d.parts).map some⟩

/-- A row, part or mark goes to the draft it belongs to. -/
def Draft.add (d : Draft) : Line → Draft
  | .row span => { d with spans := span :: d.spans }
  | .value part => { d with parts := part :: d.parts }
  | .broken => { d with broken := true }
  | _ => d

/-- The drafts of the files with the rows and parts after them, and what the other lines say. Lines
    are read from the last to the first; `pending` collects what belongs to the file before. -/
def readLines (pending : Draft) : List Line → Snapshot
  | [] => ⟨[], [], []⟩
  | .here path :: earlier => { readLines pending earlier with cwd := Path.placeOf [] path }
  | .folder path :: earlier =>
    let s := readLines pending earlier
    { s with folders := s.folders ++ [path] }
  | .file path bytes :: earlier =>
    let s := readLines ⟨"", ⟨#[]⟩, [], [], false⟩ earlier
    { s with files := s.files ++ [{ pending with path := path, bytes := bytes }.file] }
  | line :: earlier => readLines (pending.add line) earlier

/-- The snapshot that lines of text describe. -/
def ofLines (lines : List String) : Snapshot :=
  readLines ⟨"", ⟨#[]⟩, [], [], false⟩ (lines.filterMap Line.ofText?).reverse

end TsOutline.Snapshot
