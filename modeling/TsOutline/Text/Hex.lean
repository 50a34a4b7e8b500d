/-!
# Bytes in Hexadecimal

Two digits a byte, the high half first.
-/

namespace TsOutline.Text

/-- The value of a hexadecimal digit, in either case. -/
def hexValue? (c : Char) : Option Nat :=
  if '0' ≤ c ∧ c ≤ '9' then some (c.toNat - '0'.toNat)
  else if 'a' ≤ c ∧ c ≤ 'f' then some (c.toNat - 'a'.toNat + 10)
  else if 'A' ≤ c ∧ c ≤ 'F' then some (c.toNat - 'A'.toNat + 10)
  else none

/-- The bytes that digits stand for; none if a digit is missing or is none. -/
def hexBytes? : List Char → Option (List UInt8)
  | [] => some []
  | [_] => none
  | high :: low :: rest =>
    match hexValue? high, hexValue? low with
    | some h, some l => (hexBytes? rest).map (UInt8.ofNat (16 * h + l) :: ·)
    | _, _ => none

/-- The bytes that a text of hexadecimal digits stands for. -/
def ofHex? (s : String) : Option ByteArray :=
  (hexBytes? s.toList).map fun bytes => ⟨bytes.toArray⟩

end TsOutline.Text
