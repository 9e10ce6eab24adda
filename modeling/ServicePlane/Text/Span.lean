/-!
# Spans of time

A span of time is a number of milliseconds. `span` writes one with the largest unit of which it
holds at least one, and with the fraction that is left, without closing zeros.
-/

namespace ServicePlane.Text

/-- A number below one thousand as the digits after a point, without closing zeros. -/
def thousandths (n : Nat) : String :=
  let digits := (toString (1000 + n)).toList.drop 1
  String.ofList (digits.reverse.dropWhile (· = '0')).reverse

def span (milliseconds : Nat) : String :=
  let seconds := milliseconds / 1000
  let rest := milliseconds % 1000
  if seconds = 0 then
    if rest = 0 then "0ns" else s!"{rest}ms"
  else if rest = 0 then
    s!"{seconds}s"
  else
    s!"{seconds}.{thousandths rest}s"

end ServicePlane.Text
