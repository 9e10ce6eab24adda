import ServicePlane.Decimal

/-!
# Texts in TOML

The four ways to write a text: in one line or over several, with escapes between double quotes or as
it stands between single quotes. Every reader takes the characters after the opening quotes and
gives the text and what follows its closing quotes; there is no result when the text is at fault.
-/

namespace ServicePlane.Toml

/-- A text that was read, and what follows it. -/
abbrev Taken := Option (List Char × List Char)

namespace Taken

def cons (c : Char) (t : Taken) : Taken :=
  t.map fun (text, rest) => (c :: text, rest)

end Taken

def isBlankChar (c : Char) : Bool :=
  c = ' ' || c = '\t'

/-- Whether a character may stand for itself in a text or comment: it is no control character, but
for the tab. -/
def isPlain (c : Char) : Bool :=
  c = '\t' || (0x20 ≤ c.toNat && c.toNat ≠ 0x7F)

def escapeLetter? : Char → Option Char
  | 'b' => some '\x08'
  | 't' => some '\t'
  | 'n' => some '\n'
  | 'f' => some '\x0c'
  | 'r' => some '\r'
  | '"' => some '"'
  | '\\' => some '\\'
  | _ => none

def hexChar? (digits : List Char) : Option Char :=
  if digits.all fun c => (Decimal.digitValue? c).isSome then
    let n := Decimal.ofDigits 16 digits
    if n.isValidChar then some (Char.ofNat n) else none
  else none

/-- The character of an escape, after its backslash, and how many characters the escape has. -/
def escape? : List Char → Option (Char × Nat)
  | 'u' :: rest =>
      if 4 ≤ rest.length then (hexChar? (rest.take 4)).map (·, 5) else none
  | 'U' :: rest =>
      if 8 ≤ rest.length then (hexChar? (rest.take 8)).map (·, 9) else none
  | c :: _ => (escapeLetter? c).map (·, 1)
  | [] => none

/-- A line of a text between double quotes. The first `skip` characters belong to an escape that is
read already. -/
def basicAt : (skip : Nat) → List Char → Taken
  | _, [] => none
  | skip + 1, _ :: rest => basicAt skip rest
  | 0, '"' :: rest => some ([], rest)
  | 0, '\\' :: rest =>
      match escape? rest with
      | some (c, length) => .cons c (basicAt length rest)
      | none => none
  | 0, c :: rest => if isPlain c then .cons c (basicAt 0 rest) else none

def literalAt : List Char → Taken
  | [] => none
  | '\'' :: rest => some ([], rest)
  | c :: rest => if isPlain c then .cons c (literalAt rest) else none

def runLength (c : Char) (cs : List Char) : Nat :=
  (cs.takeWhile (· = c)).length

/-- The end of a text over several lines, where at least three quotes stand: the quotes in front of
the last three belong to the text, and there are at most two of them. -/
def closing (quote : Char) (cs : List Char) : Taken :=
  let n := runLength quote cs
  if n ≤ 5 then some (List.replicate (n - 3) quote, cs.drop n) else none

def endsLine (cs : List Char) : Bool :=
  match cs.dropWhile isBlankChar with
  | '\n' :: _ => true
  | '\r' :: '\n' :: _ => true
  | _ => false

/-- Lines of a text between double quotes. The first `skip` characters belong to an escape that is
read already; after a backslash that ends a line, `joining` drops the space before the next
character. -/
def basicLinesAt : (skip : Nat) → (joining : Bool) → List Char → Taken
  | _, _, [] => none
  | skip + 1, joining, _ :: rest => basicLinesAt skip joining rest
  | 0, joining, '\r' :: '\n' :: rest =>
      if joining then basicLinesAt 0 true rest else .cons '\n' (basicLinesAt 0 false rest)
  | 0, joining, '\n' :: rest =>
      if joining then basicLinesAt 0 true rest else .cons '\n' (basicLinesAt 0 false rest)
  | 0, _, '"' :: rest =>
      -- Fewer than three quotes in a row belong to the text.
      if 2 ≤ runLength '"' rest then closing '"' ('"' :: rest)
      else .cons '"' (basicLinesAt 0 false rest)
  | 0, _, '\\' :: rest =>
      if endsLine rest then basicLinesAt 0 true rest
      else
        match escape? rest with
        | some (c, length) => .cons c (basicLinesAt length false rest)
        | none => none
  | 0, joining, c :: rest =>
      if joining && isBlankChar c then basicLinesAt 0 true rest
      else if isPlain c then .cons c (basicLinesAt 0 false rest)
      else none

def literalLinesAt : List Char → Taken
  | [] => none
  | '\r' :: '\n' :: rest => .cons '\n' (literalLinesAt rest)
  | '\n' :: rest => .cons '\n' (literalLinesAt rest)
  | '\'' :: rest =>
      if 2 ≤ runLength '\'' rest then closing '\'' ('\'' :: rest)
      else .cons '\'' (literalLinesAt rest)
  | c :: rest => if isPlain c then .cons c (literalLinesAt rest) else none

/-- A text over several lines without the end of line behind its opening quotes. -/
def skipFirstNewline : List Char → List Char
  | '\r' :: '\n' :: rest => rest
  | '\n' :: rest => rest
  | cs => cs

/-- A text in one line, from its opening quote. -/
def lineTextAt : List Char → Taken
  | '"' :: rest => basicAt 0 rest
  | '\'' :: rest => literalAt rest
  | _ => none

/-- A text, from its opening quotes. -/
def textAt : List Char → Taken
  | '"' :: '"' :: '"' :: rest => basicLinesAt 0 false (skipFirstNewline rest)
  | '\'' :: '\'' :: '\'' :: rest => literalLinesAt (skipFirstNewline rest)
  | cs => lineTextAt cs

end ServicePlane.Toml
