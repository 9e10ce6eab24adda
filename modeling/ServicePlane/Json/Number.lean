import ServicePlane.Decimal
import ServicePlane.Document.Basic
import ServicePlane.Text.Letter

/-!
# Numbers in JSON text

A number is an optional minus sign, a whole part without needless zeros, and optionally a fraction
and an exponent. One that is written as a whole number and fits 64 bits is an integer. Every other
number has to lie in the range of a double; otherwise it stands for no value.
-/

namespace ServicePlane.Json

def documentOfDecimal (x : Decimal) : Document :=
  let n := Decimal.ofDigits 10 x.whole
  -- A negative zero keeps its sign and thus is no integer.
  if x.isWhole && !x.negative && n < UInt64.size then .integer n
  else if x.isWhole && x.negative && n ≠ 0 && n ≤ 9223372036854775808 then .integer (-(n : Int))
  else if x.inRange then .real x.render
  else .unreadable

/-- What is wrong with a number at this place: a reader of the number tells the end of the text from
other letters, one that passes the number over does not. -/
def numberFault (rest : List Letter) : Break :=
  ⟨if rest.isEmpty then .truncated else .malformed, .malformed⟩

/-- Digits at the beginning of a text, at least one, and what follows them. -/
def digitsAt (ls : List Letter) : Except Break (List Char × List Letter) :=
  let (ds, rest) := Letter.span Char.isDigit ls
  if ds.isEmpty then .error (numberFault rest) else .ok (ds, rest)

/-- The whole part at the beginning of a text. A zero stands alone. -/
def wholeAt (ls : List Letter) : Except Break (List Char × List Letter) := do
  let (ds, rest) ← digitsAt ls
  if ds.head? = some '0' && ds.length > 1 then .error ⟨.malformed, .malformed⟩
  else .ok (ds, rest)

/-- The fraction at the beginning of a text, if there is one. -/
def fractionAt : List Letter → Except Break (Option (List Char) × List Letter)
  | .char '.' :: ls => do
      let (ds, rest) ← digitsAt ls
      return (some ds, rest)
  | ls => .ok (none, ls)

/-- The exponent at the beginning of a text, if there is one. -/
def exponentAt (ls : List Letter) : Except Break (Option (Bool × List Char) × List Letter) :=
  match ls with
  | .char c :: ls =>
      if c = 'e' || c = 'E' then
        match ls with
        | .char '-' :: ls => do
            let (ds, rest) ← digitsAt ls
            return (some (true, ds), rest)
        | .char '+' :: ls => do
            let (ds, rest) ← digitsAt ls
            return (some (false, ds), rest)
        | ls => do
            let (ds, rest) ← digitsAt ls
            return (some (false, ds), rest)
      else
        .ok (none, .char c :: ls)
  | ls => .ok (none, ls)

/-- The number at the beginning of a text, and what follows it. -/
def decimalAt (ls : List Letter) : Except Break (Decimal × List Letter) := do
  let (negative, ls) :=
    match ls with
    | .char '-' :: ls => (true, ls)
    | ls => (false, ls)
  let (whole, ls) ← wholeAt ls
  let (fraction, ls) ← fractionAt ls
  let (exponent, ls) ← exponentAt ls
  return (⟨negative, whole, fraction, exponent⟩, ls)

end ServicePlane.Json
