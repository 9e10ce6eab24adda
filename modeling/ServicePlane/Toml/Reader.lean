import ServicePlane.Toml.Value

/-!
# Reading TOML text

A text is a row of lines. A line may hold a header, which chooses the table to which the lines after
it belong, or a key with its value. `Toml.documentOf?` gives the document of a text without faults.
-/

namespace ServicePlane.Toml

/-- What was read so far: the root table, and the path to the table that is being filled. -/
structure Reading where
  root : Entries
  path : List String

namespace Reading

def empty : Reading where
  root := []
  path := []

/-- Begin the table of a header, or another of the tables with a header. -/
def header (r : Reading) (repeated : Bool) (path : List String) (key : String) :
    Option Reading := do
  -- The tables on the way are entered by header, whatever made them.
  let act (_ : Origin) (entries : Entries) : Option Entries :=
    if repeated then entries.append key else entries.define key
  let root ← r.root.change false act path .defined
  return { root := root, path := path ++ [key] }

def assign (r : Reading) (path : List String) (key : String) (d : Document) : Option Reading := do
  let root ← r.root.change false (fun _ entries => entries.insert path key (.value d))
    r.path .defined
  return { r with root := root }

end Reading

def headerAt (r : Reading) (repeated : Bool) (cs : List Char) : Option (Reading × List Char) := do
  let (path, key, rest) ← keyAt cs
  let rest ← expect ']' rest
  let rest ← if repeated then expect ']' rest else some rest
  let rest ← lineEndAt rest
  return (← r.header repeated path key, rest)

def assignmentAt (r : Reading) (cs : List Char) : Option (Reading × List Char) := do
  let (path, key, rest) ← keyAt cs
  let rest ← expect '=' rest
  let (d, rest) ← valueAt (nestingLimit - 1) (skipBlanks rest)
  let rest ← lineEndAt rest
  return (← r.assign path key d, rest)

/-- The lines of a text; at most so many. -/
def linesAt : Nat → Reading → List Char → Option Reading
  | 0, _, _ => none
  | fuel + 1, r, cs =>
      match skipBlanks cs with
      | [] => some r
      | '#' :: rest => do
          linesAt fuel r (← lineEndAt ('#' :: rest))
      | '[' :: '[' :: rest => do
          let (r, rest) ← headerAt r true rest
          linesAt fuel r rest
      | '[' :: rest => do
          let (r, rest) ← headerAt r false rest
          linesAt fuel r rest
      | c :: rest =>
          if c = '\n' || c = '\r' then do
            linesAt fuel r (← newlineAt (c :: rest))
          else do
            let (r, rest) ← assignmentAt r (c :: rest)
            linesAt fuel r rest

/-- A text without the mark that may stand in front of it. -/
def skipMark : List Char → List Char
  | c :: rest => if c.toNat = 0xFEFF then rest else c :: rest
  | [] => []

/-- The document of a text without faults. -/
def documentOf? (text : String) : Option Document := do
  let cs := skipMark text.toList
  let r ← linesAt (cs.length + 1) .empty cs
  return .table (entriesToDocuments r.root) none

end ServicePlane.Toml
