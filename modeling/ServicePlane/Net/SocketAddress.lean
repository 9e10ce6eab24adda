import ServicePlane.Decimal

/-!
# Socket addresses

The textual form of an address with a port: four decimal groups, or up to eight hexadecimal groups
in brackets in which one run of zero groups may be left out and the last two groups may be written
as four decimal ones, with a numeric scope.

A reader takes characters from the front of a text and returns what is left of it.
-/

namespace ServicePlane

/-- An address of the network, with a port. -/
inductive SocketAddress where
  | v4 (octets : List Nat) (port : Nat)
  | v6 (groups : List Nat) (scope : Nat) (port : Nat)
  deriving DecidableEq, Repr

namespace SocketAddress

def digit? (base : Nat) (c : Char) : Option Nat :=
  (Decimal.digitValue? c).filter fun v => v < base

/-- The digits at the front of a text, as values, and what is left. -/
def readDigits (base : Nat) : List Char → List Nat × List Char
  | [] => ([], [])
  | c :: rest =>
      match digit? base c with
      | none => ([], c :: rest)
      | some d =>
          let (ds, left) := readDigits base rest
          (d :: ds, left)

/-- A number up to a bound. With a limit on the number of digits, more digits are an error; unless
they are allowed, so are leading zeros. -/
def readNumber (base : Nat) (maxDigits : Option Nat) (leadingZeros : Bool) (bound : Nat)
    (text : List Char) : Option (Nat × List Char) :=
  let (digits, left) := readDigits base text
  let value := digits.foldl (fun n d => n * base + d) 0
  if digits.isEmpty then none
  else if (maxDigits.map fun m => decide (m < digits.length)).getD false then none
  else if !leadingZeros && digits.head? == some 0 && decide (1 < digits.length) then none
  else if bound < value then none
  else some (value, left)

def readChar (c : Char) : List Char → Option (List Char)
  | [] => none
  | d :: rest => if d = c then some rest else none

def readOctet (text : List Char) : Option (Nat × List Char) :=
  readNumber 10 (some 3) false 255 text

def readOctets (text : List Char) : Option (List Nat × List Char) := do
  let (a, text) ← readOctet text
  let (b, text) ← readOctet (← readChar '.' text)
  let (c, text) ← readOctet (← readChar '.' text)
  let (d, text) ← readOctet (← readChar '.' text)
  return ([a, b, c, d], text)

def readPort (text : List Char) : Option (Nat × List Char) := do
  readNumber 10 none true 65535 (← readChar ':' text)

/-- At most `limit` hexadecimal groups, separated by colons, `first` telling that the next one is
the first. The last two may be written as four decimal groups, which ends the reading and is told
by the flag. -/
def readGroups : (limit : Nat) → (first : Bool) → List Char → List Nat × Bool × List Char
  | 0, _, text => ([], false, text)
  | limit + 1, first, text =>
      match if first then some text else readChar ':' text with
      | none => ([], false, text)
      | some start =>
          -- Four decimal groups stand for two, so there must be room for two.
          match if 0 < limit then readOctets start else none with
          | some ([a, b, c, d], left) => ([a * 256 + b, c * 256 + d], true, left)
          | _ =>
              match readNumber 16 (some 4) true 65535 start with
              | none => ([], false, text)
              | some (g, left) =>
                  let (gs, embedded, left) := readGroups limit false left
                  (g :: gs, embedded, left)

/-- Eight groups, or fewer with a double colon in the place of at least one zero group. -/
def readV6Groups (text : List Char) : Option (List Nat × List Char) :=
  let (head, embedded, left) := readGroups 8 true text
  if head.length = 8 then some (head, left)
  -- Decimal groups are the last ones; nothing may be left out behind them.
  else if embedded then none
  else do
    let left ← readChar ':' (← readChar ':' left)
    -- The double colon stands for at least one group.
    let (tail, _, left) := readGroups (7 - head.length) true left
    return (head ++ List.replicate (8 - head.length - tail.length) 0 ++ tail, left)

/-- A numeric scope; without one the scope is zero. -/
def readScope (text : List Char) : Nat × List Char :=
  match (readChar '%' text).bind (readNumber 10 none true 4294967295) with
  | some (scope, left) => (scope, left)
  | none => (0, text)

def readV4 (text : List Char) : Option (SocketAddress × List Char) := do
  let (octets, text) ← readOctets text
  let (port, text) ← readPort text
  return (.v4 octets port, text)

def readV6 (text : List Char) : Option (SocketAddress × List Char) := do
  let (groups, text) ← readV6Groups (← readChar '[' text)
  let (scope, text) := readScope text
  let (port, text) ← readPort (← readChar ']' text)
  return (.v6 groups scope port, text)

/-- The address a text stands for, if the whole text is one. -/
def parse? (text : String) : Option SocketAddress :=
  match (readV4 text.toList).orElse fun _ => readV6 text.toList with
  | some (address, []) => some address
  | _ => none

def port : SocketAddress → Nat
  | v4 _ p => p
  | v6 _ _ p => p

/-- The address with another port. -/
def withPort (a : SocketAddress) (port : Nat) : SocketAddress :=
  match a with
  | v4 octets _ => v4 octets port
  | v6 groups scope _ => v6 groups scope port

/-- Whether the address stands for every interface of the host. -/
def isWildcard : SocketAddress → Bool
  | v4 octets _ => octets.all (· = 0)
  | v6 groups _ _ => groups.all (· = 0)

def isLocal (a : SocketAddress) : Bool :=
  a.isWildcard ||
    match a with
    | v4 octets _ => octets.head? == some 127
    | v6 groups _ _ => groups == [0, 0, 0, 0, 0, 0, 0, 1]

/-- Whether two listeners at these addresses exclude each other. A port of zero stands for a port
that nobody uses. -/
def conflicts (a b : SocketAddress) : Bool :=
  a.port != 0 && a.port == b.port && (a == b || a.isWildcard || b.isWildcard)

end SocketAddress

end ServicePlane
