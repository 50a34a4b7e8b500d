import TsOutline.Text.Blank
import TsOutline.Text.Digit

/-!
# Numerals

Reading whole numbers. There are two readers. `readInt?` is for arguments: it takes the digits of
every script, and a single underscore may stand between two digits. `readSetting` is for settings: it
wants the plain form of a number, and brings a looser text to that form first where it can, by taking
away a plus sign, zeros in front, a fraction of zeros and single underscores.

Neither reads a number with more than 4300 digits.
-/

namespace TsOutline.Text

/-! ## §1 Grouped digits -/

/-- Continues a number whose last character was a digit; `acc` is its value so far. Every
    underscore must be followed by a digit. -/
def readDigitsFrom (value? : Char → Option Nat) (acc : Nat) : List Char → Option Nat
  | [] => some acc
  | '_' :: d :: cs => (value? d).bind fun v => readDigitsFrom value? (10 * acc + v) cs
  | d :: cs => (value? d).bind fun v => readDigitsFrom value? (10 * acc + v) cs

/-- A non-empty row of digits, single underscores between digits allowed. -/
def readDigits? (value? : Char → Option Nat) : List Char → Option Nat
  | [] => none
  | d :: cs => (value? d).bind fun v => readDigitsFrom value? v cs

/-- An optional sign before digits. -/
def readSigned? (value? : Char → Option Nat) : List Char → Option Int
  | '-' :: cs => (readDigits? value? cs).map fun n => -(n : Int)
  | '+' :: cs => (readDigits? value? cs).map fun n => (n : Int)
  | cs => (readDigits? value? cs).map fun n => (n : Int)

/-- The blanks that are ignored around a number: those of `isBlank` without the four information
    separators. -/
def isNumeralBlank (c : Char) : Bool :=
  isBlank c && !(decide (0x1C ≤ c.toNat) && decide (c.toNat ≤ 0x1F))

/-- The characters without the blanks around a number. -/
def trimNumeral (cs : List Char) : List Char :=
  ((cs.dropWhile isNumeralBlank).reverse.dropWhile isNumeralBlank).reverse

/-- The most digits that a number may have. -/
def digitLimit : Nat := 4300

/-! ## §2 Numbers among arguments -/

/-- The number of digits among the characters, zeros in front included. -/
def digitCount (cs : List Char) : Nat :=
  (cs.filter fun c => (digitValue? c).isSome).length

/-- A whole number given as an argument. -/
def readInt? (s : String) : Option Int :=
  let cs := trimNumeral s.toList
  if digitCount cs ≤ digitLimit then readSigned? digitValue? cs else none

/-! ## §3 The plain form of a number -/

/-- Why a text is no number. -/
inductive NumeralFault where
  | unreadable
  | tooLong
  deriving Repr, DecidableEq

/-- An ASCII digit. -/
def isPlainDigit (c : Char) : Bool :=
  (asciiDigitValue? c).isSome

/-- A digit that can be the first of several. -/
def isLeadingDigit (c : Char) : Bool :=
  isPlainDigit c && c != '0'

/-- The value of digits in the plain form: a lone zero, or a row of digits that does not start with
    one. `signs` is the number of characters before them; it counts towards the limit, which is
    looked at before what follows the row. -/
def readPlainDigits (signs : Nat) (cs : List Char) : Except NumeralFault Nat :=
  match cs with
  | [] => .error .unreadable
  | c :: rest =>
    if c = '0' then (if rest.isEmpty then .ok 0 else .error .unreadable)
    else if isLeadingDigit c then
      if digitLimit < signs + (cs.takeWhile isPlainDigit).length then .error .tooLong
      else
        match readDigits? asciiDigitValue? (cs.takeWhile isPlainDigit) with
        | some n => if (cs.dropWhile isPlainDigit).isEmpty then .ok n else .error .unreadable
        | none => .error .unreadable
    else .error .unreadable

/-- The value of a number in the plain form: an optional minus sign and digits. -/
def readPlain (cs : List Char) : Except NumeralFault Int :=
  match cs with
  | '-' :: digits => (readPlainDigits 1 digits).map fun n => -(n : Int)
  | digits => (readPlainDigits 0 digits).map fun n => (n : Int)

/-! ## §4 Looser forms -/

/-- The characters after a plus sign, which no minus sign may follow. -/
def dropPlus? : List Char → Option (List Char)
  | '+' :: '-' :: _ => none
  | '+' :: cs => some cs
  | cs => some cs

/-- What follows the zeros and underscores after a leading zero, `last` being the last of them. A
    point keeps the character before it, and if nothing follows then the last one is kept. -/
def afterZeros? (last : Char) : List Char → Option (List Char)
  | [] => some [last]
  | c :: cs =>
    if c = '0' || c = '_' then afterZeros? c cs
    else if c = '.' then some (last :: c :: cs)
    else if isLeadingDigit c || c = '-' then some (c :: cs)
    else none

/-- The characters without zeros in front. Something other than a number does not start so. -/
def dropZeros? : List Char → Option (List Char)
  | [] => none
  | c :: cs =>
    if c = '0' then afterZeros? c cs
    else if isLeadingDigit c || c = '-' then some (c :: cs)
    else none

/-- The characters without a fraction of zeros, of which there is at least one. -/
def dropZeroFraction (cs : List Char) : List Char :=
  match cs.dropWhile (· ≠ '.') with
  | '.' :: zero :: zeros =>
    if (zero :: zeros).all (· = '0') then cs.takeWhile (· ≠ '.') else cs
  | _ => cs

/-- The characters without underscores, if those stand alone and inside. -/
def dropUnderscores (cs : List Char) : List Char :=
  if cs.head? = some '_' || cs.getLast? = some '_' || containsBlock ['_', '_'] cs then cs
  else cs.filter (· ≠ '_')

/-- The plain form that a looser text stands for. -/
def tidy? (cs : List Char) : Option (List Char) :=
  ((dropPlus? cs).bind dropZeros?).map fun rest => dropUnderscores (dropZeroFraction rest)

/-- A whole number given as a setting. A text in the plain form is read as it is. -/
def readSetting (s : String) : Except NumeralFault Int :=
  let cs := trimNumeral s.toList
  match readPlain cs with
  | .ok n => .ok n
  | .error .tooLong => .error .tooLong
  | .error .unreadable =>
    match tidy? cs with
    | some tidied => readPlain tidied
    | none => .error .unreadable

end TsOutline.Text
