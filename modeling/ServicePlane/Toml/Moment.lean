import ServicePlane.Decimal

/-!
# Dates and times in TOML

A moment is a date, a time of day, or a date with a time and perhaps an offset. Only whether one
stands at the beginning of a text matters, and what follows it.
-/

namespace ServicePlane.Toml

def fixedNumber (width lowest highest : Nat) (cs : List Char) : Option (Nat × List Char) :=
  let digits := cs.take width
  if digits.length = width && digits.all Char.isDigit then
    let n := Decimal.ofDigits 10 digits
    if lowest ≤ n && n ≤ highest then some (n, cs.drop width) else none
  else none

def expect (c : Char) : List Char → Option (List Char)
  | d :: rest => if d = c then some rest else none
  | [] => none

def isLeapYear (year : Nat) : Bool :=
  year % 4 = 0 && (year % 100 ≠ 0 || year % 400 = 0)

def daysIn (year month : Nat) : Nat :=
  match month with
  | 2 => if isLeapYear year then 29 else 28
  | 4 => 30
  | 6 => 30
  | 9 => 30
  | 11 => 30
  | _ => 31

def dateAt (cs : List Char) : Option (List Char) := do
  let (year, cs) ← fixedNumber 4 0 9999 cs
  let (month, cs) ← fixedNumber 2 1 12 (← expect '-' cs)
  let (_, cs) ← fixedNumber 2 1 (daysIn year month) (← expect '-' cs)
  return cs

/-- A fraction of a second, if there is one. -/
def skipFraction (cs : List Char) : List Char :=
  match cs with
  | '.' :: c :: rest => if c.isDigit then rest.dropWhile Char.isDigit else cs
  | _ => cs

/-- A time of day. The seconds may be those of a leap second. -/
def timeAt (cs : List Char) : Option (List Char) := do
  let (_, cs) ← fixedNumber 2 0 23 cs
  let (_, cs) ← fixedNumber 2 0 59 (← expect ':' cs)
  let (_, cs) ← fixedNumber 2 0 60 (← expect ':' cs)
  return skipFraction cs

/-- An offset after a time, if there is one; a sign begins one that has to go on. -/
def offsetAt (cs : List Char) : Option (List Char) :=
  match cs with
  | c :: rest =>
      if c = 'Z' || c = 'z' then some rest
      else if c = '+' || c = '-' then do
        let (_, rest) ← fixedNumber 2 0 23 rest
        let (_, rest) ← fixedNumber 2 0 59 (← expect ':' rest)
        return rest
      else some cs
  | [] => some []

/-- Whether digits and a separator stand here that only a moment begins with. -/
def beginsMoment (cs : List Char) : Bool :=
  let digits := (cs.takeWhile Char.isDigit).length
  match cs.dropWhile Char.isDigit with
  | '-' :: _ => digits = 4
  | ':' :: _ => digits = 2
  | _ => false

/-- Whether a time follows a date: after a separator, two digits and a colon. -/
def continuesWithTime (cs : List Char) : Bool :=
  match cs with
  | c :: rest => (c = 'T' || c = 't' || c = ' ') && beginsMoment rest && (rest.drop 2).head? = some ':'
  | [] => false

def momentAt (cs : List Char) : Option (List Char) :=
  match dateAt cs with
  | some rest =>
      -- Once a time has begun, it has to be a good one.
      if continuesWithTime rest then do
        offsetAt (← timeAt (rest.drop 1))
      else some rest
  | none => timeAt cs

end ServicePlane.Toml
