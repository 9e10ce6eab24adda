import ServicePlane.Http.Percent

/-!
# Addresses of web resources

An address names a scheme, a host with a port, and a path with an optional query. Before it is taken
apart, space at its two ends and every tab and end of line is dropped. In the path a backslash
counts as a slash, and parts that stand for the same or for the enclosing place are resolved. What
stands behind a number sign is not part of a request.
-/

namespace ServicePlane.Http

/-- An address on the web. -/
structure Url where
  secure : Bool
  host : String
  /-- The port, if it is not the one that the scheme implies. -/
  port : Option String
  path : String
  /-- The query with its question mark, or nothing. -/
  query : String
  deriving DecidableEq, Repr

namespace Url

def isEdge (c : Char) : Bool :=
  c.toNat ≤ 0x20

/-- An address without what is dropped from it. -/
def cleaned (text : String) : List Char :=
  let cs := text.toList.dropWhile isEdge
  let cs := (cs.reverse.dropWhile isEdge).reverse
  cs.filter fun c => c ≠ '\t' && c ≠ '\n' && c ≠ '\r'

def isSamePlace (part : String) : Bool :=
  part == "." || part.toLower == "%2e"

def isEnclosingPlace (part : String) : Bool :=
  ["..", ".%2e", "%2e.", "%2e%2e"].contains part.toLower

/-- Resolve the parts of a path, after those that are resolved, which are in reverse order. A
resolved part at the end leaves an empty one, because it stands for a place. -/
def resolveParts : (resolved : List String) → List String → List String
  | resolved, [] => resolved.reverse
  | resolved, part :: rest =>
      if isEnclosingPlace part then
        if rest.isEmpty then ("" :: resolved.drop 1).reverse else resolveParts (resolved.drop 1) rest
      else if isSamePlace part then
        if rest.isEmpty then ("" :: resolved).reverse else resolveParts resolved rest
      else resolveParts (part :: resolved) rest

def isEncoded (c : Char) : Bool :=
  c.toNat ≤ 0x20 || 0x7F ≤ c.toNat || c = '"' || c = '<' || c = '>' || c = '^' || c = '\x60' ||
    c = '\x7b' || c = '\x7d'

def hexByte (b : UInt8) : String :=
  let digits := (Nat.toDigits 16 b.toNat).map Char.toUpper
  String.ofList (if digits.length < 2 then '0' :: digits else digits)

/-- A text with the characters written by their bytes that cannot stand in a path. -/
def encoded (cs : List Char) : String :=
  String.join (cs.map fun c =>
    if isEncoded c then String.join ((utf8Bytes c).map fun b => "%" ++ hexByte b) else c.toString)

/-- The parts of a path as they are given, before any of them is resolved. -/
def givenParts (cs : List Char) : List String :=
  let written := encoded (cs.map fun c => if c = '\\' then '/' else c)
  (written.toList.splitOn '/').map String.ofList

/-- The path of an address, from behind its first slash. -/
def pathOf (cs : List Char) : String :=
  "/" ++ "/".intercalate (resolveParts [] (givenParts cs))

/-- The scheme of an address and what follows it: whether it is the secure one. -/
def schemeAt (cs : List Char) : Option (Bool × List Char) :=
  let scheme := String.ofList ((cs.takeWhile (· ≠ ':')).map Char.toLower)
  let rest := (cs.dropWhile (· ≠ ':')).drop 1
  if scheme = "http" then some (false, rest)
  else if scheme = "https" then some (true, rest)
  else none

def isHostChar (c : Char) : Bool :=
  c.isAlphanum || "-._~[]:".toList.contains c

def authorityOf (cs : List Char) : Option (String × Option String) :=
  -- What stands in front of an at sign names a user and is not part of the host.
  let address := (cs.reverse.takeWhile (· ≠ '@')).reverse
  let port := (address.reverse.takeWhile Char.isDigit).reverse
  let (host, port) :=
    match (address.reverse.dropWhile Char.isDigit) with
    | ':' :: front => (front.reverse, if port.isEmpty then none else some (String.ofList port))
    | _ => (address, none)
  if host.isEmpty || !host.all isHostChar then none
  else some (String.ofList (host.map Char.toLower), port)

def parse? (text : String) : Option Url := do
  let (secure, cs) ← schemeAt (cleaned text)
  -- Any number of slashes may stand in front of the host.
  let cs := cs.dropWhile fun c => c = '/' || c = '\\'
  let isEnd (c : Char) : Bool := c = '/' || c = '\\' || c = '?' || c = '#'
  let (host, port) ← authorityOf (cs.takeWhile fun c => !isEnd c)
  let cs := cs.dropWhile fun c => !isEnd c
  let path := cs.takeWhile fun c => c ≠ '?' && c ≠ '#'
  let query := (cs.dropWhile fun c => c ≠ '?' && c ≠ '#').takeWhile (· ≠ '#')
  return {
    secure := secure
    host := host
    port := port
    path := pathOf (path.drop 1)
    query := encoded query }

def address (u : Url) : String :=
  u.host ++ ":" ++ u.port.getD (if u.secure then "443" else "80")

def target (u : Url) : String :=
  u.path ++ u.query

end Url

end ServicePlane.Http
