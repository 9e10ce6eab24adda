import ServicePlane.Decimal
import ServicePlane.Document.Basic

/-!
# Numbers in TOML

Integers are decimal with an optional sign, or hexadecimal, octal or binary without one, and fit 64
bits. Every other number has a fraction or an exponent, or is infinite or not a number. A single
underscore may stand between digits.
-/

namespace ServicePlane.Toml

/-- Digits, or underscores with a digit behind them, and what follows. -/
def moreDigits (isDigit : Char → Bool) : List Char → Option (List Char × List Char)
  | '_' :: c :: rest =>
      if isDigit c then (moreDigits isDigit rest).map fun (ds, rest) => (c :: ds, rest) else none
  | c :: rest =>
      if isDigit c then (moreDigits isDigit rest).map fun (ds, rest) => (c :: ds, rest)
      else if c = '_' then none
      else some ([], c :: rest)
  | [] => some ([], [])

def digitsAt (isDigit : Char → Bool) : List Char → Option (List Char × List Char)
  | c :: rest =>
      if isDigit c then (moreDigits isDigit rest).map fun (ds, rest) => (c :: ds, rest) else none
  | [] => none

/-- The whole part of a decimal number. A zero stands alone. -/
def wholeAt : List Char → Option (List Char × List Char)
  | '0' :: rest => some (['0'], rest)
  | cs => digitsAt Char.isDigit cs

/-- A fraction, if there is one. -/
def fractionAt : List Char → Option (Option (List Char) × List Char)
  | '.' :: rest => (digitsAt Char.isDigit rest).map fun (ds, rest) => (some ds, rest)
  | cs => some (none, cs)

/-- An exponent, if there is one. -/
def exponentAt (cs : List Char) : Option (Option (Bool × List Char) × List Char) :=
  match cs with
  | c :: rest =>
      if c = 'e' || c = 'E' then
        let (negative, rest) :=
          match rest with
          | '-' :: rest => (true, rest)
          | '+' :: rest => (false, rest)
          | rest => (false, rest)
        (digitsAt Char.isDigit rest).map fun (ds, rest) => (some (negative, ds), rest)
      else some (none, cs)
  | [] => some (none, [])

def integer64 (n : Int) : Option Document :=
  if -9223372036854775808 ≤ n ∧ n ≤ 9223372036854775807 then some (.integer n) else none

/-- The document of a decimal number. A positive one that is too large for a double stands for
nothing. -/
def documentOfDecimal (x : Decimal) : Option Document :=
  if x.isWhole then
    let n : Int := Decimal.ofDigits 10 x.whole
    integer64 (if x.negative then -n else n)
  else if x.negative || x.inRange then some (.real x.render)
  else none

/-- An integer in another base, after the mark of the base. -/
def radixAt (base : Nat) (cs : List Char) : Option (Document × List Char) := do
  let isDigit (c : Char) : Bool := (Decimal.digitValue? c).any fun d => d < base
  let (ds, rest) ← digitsAt isDigit cs
  return (← integer64 (Decimal.ofDigits base ds), rest)

def decimalAt (negative : Bool) (cs : List Char) : Option (Document × List Char) := do
  let (whole, cs) ← wholeAt cs
  let (fraction, cs) ← fractionAt cs
  let (exponent, cs) ← exponentAt cs
  return (← documentOfDecimal ⟨negative, whole, fraction, exponent⟩, cs)

def unsignedAt (negative : Bool) : List Char → Option (Document × List Char)
  | 'i' :: 'n' :: 'f' :: rest => some (.real "inf", rest)
  | 'n' :: 'a' :: 'n' :: rest => some (.real "nan", rest)
  | cs => decimalAt negative cs

def numberAt : List Char → Option (Document × List Char)
  | '0' :: 'x' :: rest => radixAt 16 rest
  | '0' :: 'o' :: rest => radixAt 8 rest
  | '0' :: 'b' :: rest => radixAt 2 rest
  | '+' :: rest => unsignedAt false rest
  | '-' :: rest => unsignedAt true rest
  | cs => unsignedAt false cs

end ServicePlane.Toml
