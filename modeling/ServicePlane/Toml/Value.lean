import ServicePlane.Toml.Moment
import ServicePlane.Toml.Number
import ServicePlane.Toml.Table
import ServicePlane.Toml.Text

/-!
# Keys and values in TOML

A key is a row of names between dots. A value is a text, a number, a moment, a truth value, an array
or an inline table; arrays may spread over lines, inline tables may not. Values lie in one another
up to a limit, and keys have parts up to the same limit.
-/

namespace ServicePlane.Toml

/-- Values within values, and parts of a key, are fewer than this. -/
def nestingLimit : Nat := 80

/-- A text without the blanks in front of it. -/
def skipBlanks (cs : List Char) : List Char :=
  cs.dropWhile isBlankChar

def newlineAt : List Char → Option (List Char)
  | '\n' :: rest => some rest
  | '\r' :: '\n' :: rest => some rest
  | _ => none

/-- What follows a comment, which is not at an end of line yet. Where there is no comment nothing is
passed over; a comment with control characters ends in front of the first of them. -/
def skipComment : List Char → List Char
  | '#' :: rest => rest.dropWhile isPlain
  | cs => cs

/-- A text without blanks, comments and ends of lines in front of it; at most so many of them. -/
def skipLines : Nat → List Char → Option (List Char)
  | 0, cs => some cs
  | fuel + 1, cs =>
      match skipBlanks cs with
      | '#' :: rest => do
          skipLines fuel (← newlineAt (skipComment ('#' :: rest)))
      | '\n' :: rest => skipLines fuel rest
      | '\r' :: rest => do
          skipLines fuel (← newlineAt ('\r' :: rest))
      | rest => some rest

/-- What follows the end of a statement: blanks and a comment up to the end of the line. -/
def lineEndAt (cs : List Char) : Option (List Char) :=
  match skipComment (skipBlanks cs) with
  | [] => some []
  | rest => newlineAt rest

/-! ## Keys -/

/-- A character of a name without quotes. -/
def isNameChar (c : Char) : Bool :=
  c.isAlphanum || c = '-' || c = '_'

def nameAt (cs : List Char) : Option (String × List Char) :=
  match lineTextAt cs with
  | some (text, rest) => some (String.ofList text, rest)
  | none =>
      let name := cs.takeWhile isNameChar
      if name.isEmpty then none else some (String.ofList name, cs.dropWhile isNameChar)

/-- Names between dots, with blanks around them; at most so many. -/
def namesAt : Nat → List Char → Option (List String × List Char)
  | 0, _ => none
  | fuel + 1, cs => do
      let (name, rest) ← nameAt (skipBlanks cs)
      match skipBlanks rest with
      | '.' :: rest =>
          let (names, rest) ← namesAt fuel rest
          return (name :: names, rest)
      | rest => return ([name], rest)

/-- A key: the names that lead to it, and its own. -/
def keyAt (cs : List Char) : Option (List String × String × List Char) := do
  let (names, rest) ← namesAt (nestingLimit - 1) cs
  let name ← names.getLast?
  return (names.dropLast, name, rest)

/-! ## Values -/

/-- A value, and what follows it. -/
abbrev ValueAt := List Char → Option (Document × List Char)

def scalarAt (cs : List Char) : Option (Document × List Char) :=
  match cs with
  | 't' :: 'r' :: 'u' :: 'e' :: rest => some (.bool true, rest)
  | 'f' :: 'a' :: 'l' :: 's' :: 'e' :: rest => some (.bool false, rest)
  | c :: _ =>
      if c = '"' || c = '\'' then
        (textAt cs).map fun (text, rest) => (.text (String.ofList text), rest)
      else if beginsMoment cs then
        (momentAt cs).map fun rest => (.moment, rest)
      else numberAt cs
  | [] => none

/-- The items of an array from behind its opening bracket or a comma; at most so many. -/
def itemsAt (valueAt : ValueAt) : Nat → List Char → Option (List Document × List Char)
  | 0, _ => none
  | fuel + 1, cs => do
      match ← skipLines cs.length cs with
      -- This is also the end behind a last comma.
      | ']' :: rest => return ([], rest)
      | cs =>
          let (item, rest) ← valueAt cs
          match ← skipLines rest.length rest with
          | ']' :: rest => return ([item], rest)
          | ',' :: rest =>
              let (items, rest) ← itemsAt valueAt fuel rest
              return (item :: items, rest)
          | _ => none

/-- The entries of an inline table from the place of a key; at most so many. -/
def entriesAt (valueAt : ValueAt) : Nat → Entries → List Char → Option (Entries × List Char)
  | 0, _, _ => none
  | fuel + 1, entries, cs => do
      let (path, key, rest) ← keyAt cs
      let rest ← expect '=' rest
      let (d, rest) ← valueAt (skipBlanks rest)
      -- A table in braces is a value here: no later key leads into it.
      let entries ← entries.insert path key (.value d)
      match skipBlanks rest with
      | '}' :: rest => return (entries, rest)
      -- Another entry has to follow; a comma does not end the table.
      | ',' :: rest => entriesAt valueAt fuel entries rest
      | _ => none

/-- A value in which values lie in one another less than so many times. -/
def valueAt : (levels : Nat) → ValueAt
  | levels + 1, '[' :: rest => do
      let (items, rest) ← itemsAt (valueAt levels) (rest.length + 1) rest
      return (.sequence items none, rest)
  | levels + 1, '{' :: rest =>
      match skipBlanks rest with
      | '}' :: rest => some (.table [] none, rest)
      | rest => do
          let (entries, rest) ← entriesAt (valueAt levels) (rest.length + 1) [] rest
          return (.table (entriesToDocuments entries) none, rest)
  | 0, '[' :: _ => none
  | 0, '{' :: _ => none
  | _, cs => scalarAt cs

end ServicePlane.Toml
