import TsOutline.Budget

/-!
# Numbers

Numbers as data gives them: whole ones of any size, and decimal fractions. A fraction is written with
the fewest digits that tell it from its neighbours among the numbers of 53 binary digits, and those
numbers are what it stands for.
-/

namespace TsOutline

/-- A number. A fraction is `mantissa · 10 ^ (-places)`; it may be whole all the same. -/
inductive Number where
  | whole (n : Int)
  | real (mantissa : Int) (places : Nat)
  deriving Repr, DecidableEq

namespace Number

/-! ## §1 Whole values -/

/-- The nearest multiple of `unit`; halfway between two, the even one. -/
def roundTo (unit n : Nat) : Nat :=
  let q := n / unit
  let r := n % unit
  if 2 * r < unit then q * unit
  else if 2 * r = unit then (q + q % 2) * unit
  else (q + 1) * unit

/-- The binary digits that a fraction keeps. -/
def precision : Nat := 53

/-- The nearest whole number that has at most 53 binary digits before its zeros. -/
def nearestKept (n : Int) : Int :=
  let size := n.natAbs
  let kept := roundTo (Nat.pow 2 (Nat.log2 size + 1 - precision)) size
  if n < 0 then -(kept : Int) else (kept : Int)

/-- The whole number that a decimal fraction is, if it is one. -/
def wholeOf? (mantissa : Int) (places : Nat) : Option Int :=
  let unit : Int := Nat.pow 10 places
  if mantissa % unit = 0 then some (nearestKept (mantissa / unit)) else none

/-- The first number behind those of 64 binary digits, signed. -/
def wordEnd : Int := Nat.pow 2 63

/-- The numbers of 64 binary digits, signed. -/
def isWord (n : Int) : Bool :=
  decide (-wordEnd ≤ n) && decide (n < wordEnd)

/-! ## §2 Budgets -/

/-- The depth budget that a number grants. -/
def budget : Number → Budget
  | whole n => .ofUnits n
  | real m p =>
    let unit : Int := Nat.pow 10 p
    if m % unit = 0 then .ofUnits (m / unit) else .ofUnitsAndFraction (m / unit)

/-! ## §3 Texts -/

/-- The digits of a positive number without zeros at the end, and how many zeros were there. -/
def significantDigits (n : Nat) : List Char × Nat :=
  let back := (Nat.toDigits 10 n).reverse
  let kept := back.dropWhile (· = '0')
  (kept.reverse, back.length - kept.length)

/-- The text of a number of tens: sign and at least two digits. -/
def exponentText (e : Int) : String :=
  let digits := Nat.repr e.natAbs
  (if e < 0 then "-" else "+") ++ (if digits.length < 2 then "0" ++ digits else digits)

/-- The text of the number with the given significant digits, the first of which stands for
    `10 ^ e`. It is positional from `10 ^ (-4)` up to below `10 ^ 16`. -/
def decimalText (digits : List Char) (e : Int) : String :=
  if -4 ≤ e ∧ e < 16 then
    if e < 0 then
      "0." ++ String.ofList (List.replicate (e.natAbs - 1) '0' ++ digits)
    else
      let whole := e.toNat + 1
      let fraction := digits.drop whole
      String.ofList (digits.take whole ++ List.replicate (whole - digits.length) '0') ++ "." ++
        (if fraction.isEmpty then "0" else String.ofList fraction)
  else
    match digits with
    | [] => ""
    | [d] => String.ofList [d] ++ "e" ++ exponentText e
    | d :: rest => String.ofList (d :: '.' :: rest) ++ "e" ++ exponentText e

/-- The text of a decimal fraction. -/
def realText (mantissa : Int) (places : Nat) : String :=
  if mantissa = 0 then "0.0"
  else
    let (digits, zeros) := significantDigits mantissa.natAbs
    (if mantissa < 0 then "-" else "") ++
      decimalText digits ((digits.length : Int) + zeros - 1 - places)

/-- The text of a number. -/
def text : Number → String
  | whole n => Int.repr n
  | real m p => realText m p

end Number

end TsOutline
