import TsOutline.Text.Quoted

/-!
# Reading Bytes as Text

A file holds bytes; a source is a text. `decode` reads bytes as UTF-8 or says where and why that
fails, and `unifyLineEnds` then brings the three ways to end a line to the line feed.
-/

namespace TsOutline.Text

/-! ## §1 Why bytes are no text -/

/-- What is wrong with the first faulty byte sequence. -/
inductive DecodeReason where
  /-- The byte starts no sequence. -/
  | badStart
  /-- A later byte does not continue the sequence that was started. -/
  | badContinuation
  /-- The bytes end inside a sequence. -/
  | endOfData
  deriving Repr, DecidableEq

/-- The wording of a reason. -/
def DecodeReason.message : DecodeReason → String
  | .badStart => "invalid start byte"
  | .badContinuation => "invalid continuation byte"
  | .endOfData => "unexpected end of data"

/-- The first faulty sequence: its first byte, its position, and the position after it. -/
structure DecodeFault where
  byte : Nat
  start : Nat
  stop : Nat
  reason : DecodeReason
  deriving Repr, DecidableEq

/-- The wording of a fault: a single byte is shown, of several only the positions. -/
def DecodeFault.message (f : DecodeFault) : String :=
  let place :=
    if f.stop = f.start + 1 then
      "byte 0x" ++ String.ofList (hexDigits 2 f.byte) ++ " in position " ++ Nat.repr f.start
    else
      "bytes in position " ++ Nat.repr f.start ++ "-" ++ Nat.repr (f.stop - 1)
  "'utf-8' codec can't decode " ++ place ++ ": " ++ f.reason.message

/-! ## §2 Finding the fault -/

/-- The ranges in which the bytes after `lead` must lie, one per byte; none if `lead` starts no
    sequence. The second byte is narrowed where a longer form or a surrogate would start. -/
def continuations? (lead : Nat) : Option (List (Nat × Nat)) :=
  if lead < 0x80 then some []
  else if lead < 0xC2 then none
  else if lead < 0xE0 then some [(0x80, 0xBF)]
  else if lead = 0xE0 then some [(0xA0, 0xBF), (0x80, 0xBF)]
  else if lead = 0xED then some [(0x80, 0x9F), (0x80, 0xBF)]
  else if lead < 0xF0 then some [(0x80, 0xBF), (0x80, 0xBF)]
  else if lead = 0xF0 then some [(0x90, 0xBF), (0x80, 0xBF), (0x80, 0xBF)]
  else if lead < 0xF4 then some [(0x80, 0xBF), (0x80, 0xBF), (0x80, 0xBF)]
  else if lead = 0xF4 then some [(0x80, 0x8F), (0x80, 0xBF), (0x80, 0xBF)]
  else none

/-- How many of the following bytes fit, and whether one that does not fit was met. -/
def fitting : List (Nat × Nat) → List Nat → Nat × Option DecodeReason
  | [], _ => (0, none)
  | _ :: _, [] => (0, some .endOfData)
  | r :: ranges, b :: bytes =>
    if r.1 ≤ b ∧ b ≤ r.2 then
      let (n, reason) := fitting ranges bytes
      (n + 1, reason)
    else
      (0, some .badContinuation)

/-- The first fault at or after position `pos`, where `bytes` starts. -/
def faultFrom (pos : Nat) : (bytes : List Nat) → Option DecodeFault
  | [] => none
  | lead :: rest =>
    match continuations? lead with
    | none => some ⟨lead, pos, pos + 1, .badStart⟩
    | some ranges =>
      match fitting ranges rest with
      | (n, none) => faultFrom (pos + n + 1) (rest.drop n)
      | (_, some .endOfData) => some ⟨lead, pos, pos + 1 + rest.length, .endOfData⟩
      | (n, some reason) => some ⟨lead, pos, pos + n + 1, reason⟩
termination_by bytes => bytes.length

/-! ## §3 Decoding -/

/-- The text that the bytes encode, or the first fault. -/
def decode (bytes : ByteArray) : Except DecodeFault String :=
  match String.fromUTF8? bytes with
  | some s => .ok s
  | none => .error ((faultFrom 0 (bytes.toList.map UInt8.toNat)).getD ⟨0, 0, 0, .badStart⟩)

/-- Line ends as line feeds: a carriage return, with or without a line feed after it, is one. -/
def unifyLineEndsChars : List Char → List Char
  | [] => []
  | '\r' :: '\n' :: cs => '\n' :: unifyLineEndsChars cs
  | '\r' :: cs => '\n' :: unifyLineEndsChars cs
  | c :: cs => c :: unifyLineEndsChars cs

/-- The text with line feeds as its only line ends. -/
def unifyLineEnds (s : String) : String :=
  String.ofList (unifyLineEndsChars s.toList)

end TsOutline.Text
