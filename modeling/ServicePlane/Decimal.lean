/-!
# Decimal numbers as they are written

A decimal number is a row of digits with an optional sign, fraction and exponent. Both formats in
which the plane reads documents have such numbers, and for both a number that is no integer has to
lie in the range of a double.
-/

namespace ServicePlane

/-- The parts of a number as they are written. -/
structure Decimal where
  negative : Bool
  whole : List Char
  fraction : Option (List Char)
  /-- Whether the exponent is negative, and its digits. -/
  exponent : Option (Bool × List Char)
  deriving DecidableEq, Repr

namespace Decimal

/-- The value of a digit, in any base up to sixteen. -/
def digitValue? (c : Char) : Option Nat :=
  if '0' ≤ c ∧ c ≤ '9' then some (c.toNat - '0'.toNat)
  else if 'a' ≤ c ∧ c ≤ 'f' then some (c.toNat - 'a'.toNat + 10)
  else if 'A' ≤ c ∧ c ≤ 'F' then some (c.toNat - 'A'.toNat + 10)
  else none

def ofDigits (base : Nat) (digits : List Char) : Nat :=
  digits.foldl (fun n c => base * n + (digitValue? c).getD 0) 0

/-- The digits of the number, before the exponent is applied. -/
def digits (x : Decimal) : List Char :=
  x.whole ++ x.fraction.getD []

/-- The power of ten by which the digits, read as a whole number, are multiplied. -/
def scale (x : Decimal) : Int :=
  let exponent : Int :=
    match x.exponent with
    | some (true, ds) => -(ofDigits 10 ds : Int)
    | some (false, ds) => ofDigits 10 ds
    | none => 0
  exponent - ((x.fraction.getD []).length : Int)

/-- Whether the number is written without fraction and exponent. -/
def isWhole (x : Decimal) : Bool :=
  x.fraction.isNone && x.exponent.isNone

/-- The least magnitude that is too large for a double, because it is rounded to 2 ^ 1024. -/
def tooLarge : Nat :=
  Nat.pow 2 1024 - Nat.pow 2 970

/-- Whether the number lies in the range of a double. A number with more than 400 digits before the
point does not; the power of ten that is computed for any other one is bounded by its length. -/
def inRange (x : Decimal) : Bool :=
  let n := ofDigits 10 x.digits
  let magnitude : Int := x.scale + (x.digits.dropWhile (· = '0')).length
  if n = 0 || magnitude ≤ 0 then true
  else if magnitude > 400 then false
  else if x.scale < 0 then n / Nat.pow 10 x.scale.natAbs < tooLarge
  else n * Nat.pow 10 x.scale.toNat < tooLarge

def render (x : Decimal) : String :=
  let sign := if x.negative then "-" else ""
  let fraction :=
    match x.fraction with
    | some ds => "." ++ String.ofList ds
    | none => ""
  let exponent :=
    match x.exponent with
    | some (true, ds) => "e-" ++ String.ofList ds
    | some (false, ds) => "e" ++ String.ofList ds
    | none => ""
  sign ++ String.ofList x.whole ++ fraction ++ exponent

end Decimal

end ServicePlane
