/-!
# Media types

A media type is a type and a subtype, with parameters behind semicolons. Behind the last plus sign
of the subtype stands a suffix, which names the format that the subtype is written in.
-/

namespace ServicePlane.Http

/-- A media type without its parameters; names are in lower case. -/
structure MediaType where
  type : String
  /-- The subtype, up to its suffix. -/
  subtype : String
  suffix : Option String
  deriving DecidableEq, Repr

namespace MediaType

def isToken (c : Char) : Bool :=
  c.isAlphanum || "!#$%&'+-.^_`|~".toList.contains c

def isQuotable (c : Char) : Bool :=
  0x20 ≤ c.toNat && c.toNat < 0x7F && c ≠ '"'

mutual

/-- Whether a text is a row of parameters. Blanks may stand in front of each. A quoted value is not
empty: a quote right behind the opening one belongs to the value. -/
def areParameters : (fuel : Nat) → List Char → Bool
  | 0, _ => false
  | fuel + 1, cs =>
      let cs := cs.dropWhile (· = ' ')
      if cs.isEmpty then true
      else
        let name := cs.takeWhile isToken
        match cs.dropWhile isToken with
        | '=' :: '"' :: rest =>
            if name.isEmpty then false
            else
              -- A quote right behind the opening one does not close the value.
              let (atQuote, rest) :=
                match rest with
                | '"' :: rest => (true, rest)
                | rest => (false, rest)
              let value := rest.takeWhile isQuotable
              match rest.dropWhile isQuotable with
              | '"' :: rest =>
                  (atQuote || !value.isEmpty) && endsParameter fuel (rest.dropWhile (· = ' '))
              | _ => false
        | '=' :: rest =>
            if name.isEmpty then false
            else
              let value := rest.takeWhile isToken
              match rest.dropWhile isToken with
              | [] => true
              | ';' :: rest => !value.isEmpty && areParameters fuel rest
              | _ => false
        | _ => false

def endsParameter : (fuel : Nat) → List Char → Bool
  | _, [] => true
  | fuel, ';' :: rest => areParameters fuel rest
  | _, _ => false

end

/-- Cut a subtype in front of its last plus sign; one at the beginning does not count. -/
def splitSuffix (subtype : List Char) : String × Option String :=
  let reversed := subtype.reverse
  let suffix := (reversed.takeWhile (· ≠ '+')).reverse
  match reversed.dropWhile (· ≠ '+') with
  | '+' :: c :: front => (String.ofList (c :: front).reverse, some (String.ofList suffix))
  | _ => (String.ofList subtype, none)

def parse? (text : String) : Option MediaType :=
  let cs := text.toList.map Char.toLower
  let type := cs.takeWhile isToken
  match cs.dropWhile isToken with
  | '/' :: rest =>
      let subtype := rest.takeWhile isToken
      let parameters := rest.dropWhile isToken
      let wellFormed :=
        match parameters with
        | [] => true
        | ';' :: ps => !subtype.isEmpty && areParameters (ps.length + 1) ps
        | _ => false
      if type.isEmpty || !wellFormed then none
      else
        let (name, suffix) := splitSuffix subtype
        some ⟨String.ofList type, name, suffix⟩
  | _ => none

def isJson (m : MediaType) : Bool :=
  m.type == "application" && (m.subtype == "json" || m.suffix == some "json")

end MediaType

end ServicePlane.Http
