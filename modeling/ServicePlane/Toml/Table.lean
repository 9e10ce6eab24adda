import ServicePlane.Document.Basic

/-!
# Tables of a TOML text

A TOML text builds its tables piece by piece: by headers, by keys with dots, and by values with
braces. Every table remembers how it came to be, because that decides who may still add to it:

* a table that a header or braces define is never defined again, and keys with dots do not lead into
  it from outside;
* a table that only lies on the way to another header may still be defined, once;
* a table that keys with dots make grows by keys with dots and by headers of tables inside it.
-/

namespace ServicePlane.Toml

/-- How a table came to be. -/
inductive Origin where
  | defined
  /-- A header of another table leads through it. -/
  | passed
  /-- A key with dots leads through it. -/
  | dotted
  deriving DecidableEq, Repr

/-- What a key stands for while the text is read. -/
inductive Item where
  | value (document : Document)
  | table (origin : Origin) (entries : List (String × Item))
  /-- Tables with a common header. -/
  | tables (items : List (List (String × Item)))

/-- What the keys of a table stand for, in the order in which they came. -/
abbrev Entries := List (String × Item)

mutual

def Item.toDocument : Item → Document
  | .value d => d
  | .table _ entries => .table (entriesToDocuments entries) none
  | .tables items => .sequence (tablesToDocuments items) none

def entriesToDocuments : List (String × Item) → List (DocumentKey × Document)
  | [] => []
  | (key, item) :: rest => (.text key, item.toDocument) :: entriesToDocuments rest

def tablesToDocuments : List (List (String × Item)) → List Document
  | [] => []
  | entries :: rest => .table (entriesToDocuments entries) none :: tablesToDocuments rest

end

namespace Entries

/-- What a key stands for. -/
def get? (entries : Entries) (key : String) : Option Item :=
  entries.lookup key

def replace (entries : Entries) (key : String) (item : Item) : Entries :=
  entries.map fun e => if e.1 == key then (key, item) else e

def remove (entries : Entries) (key : String) : Entries :=
  entries.filter fun e => e.1 != key

/-- Change the table to which a path leads. Tables on the way that are not there are made; `byDots`
says whether the path comes from a key with dots. Of tables with a common header the path leads into
the last one. -/
def change (byDots : Bool) (act : Origin → Entries → Option Entries) :
    List String → Origin → Entries → Option Entries
  | [], origin, entries => act origin entries
  | key :: path, _, entries =>
      match entries.get? key with
      | none => do
          let origin := if byDots then .dotted else .passed
          let inner ← change byDots act path origin []
          return entries ++ [(key, .table origin inner)]
      | some (.value _) => none
      | some (.tables items) => do
          let inner ← change byDots act path .defined (items.getLast?.getD [])
          return entries.replace key (.tables (items.dropLast ++ [inner]))
      | some (.table origin inner) =>
          -- Headers lead into any table, keys with dots only into one that is still open.
          if byDots && origin = .defined then none
          else do
            let inner ← change byDots act path origin inner
            return entries.replace key (.table origin inner)

/-- Give a key its value. Keys with dots end only in tables that keys with dots made. -/
def insert (path : List String) (key : String) (item : Item) (entries : Entries) :
    Option Entries :=
  entries.change true (fun origin inner =>
    if !path.isEmpty && origin ≠ .dotted then none
    else if (inner.get? key).isSome then none
    else some (inner ++ [(key, item)])) path .defined

/-- Define the table with a key. One that other headers passed through is defined now, and moves to
the end. -/
def define (key : String) (entries : Entries) : Option Entries :=
  match entries.get? key with
  | none => some (entries ++ [(key, .table .defined [])])
  | some (.table .passed inner) => some (entries.remove key ++ [(key, .table .defined inner)])
  | some _ => none

def append (key : String) (entries : Entries) : Option Entries :=
  match entries.get? key with
  | none => some (entries ++ [(key, .tables [[]])])
  | some (.tables items) => some (entries.replace key (.tables (items ++ [[]])))
  | some _ => none

end Entries

end ServicePlane.Toml
