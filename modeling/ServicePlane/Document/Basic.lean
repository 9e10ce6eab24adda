/-!
# Documents

A document is the tree that a structured text stands for, whatever its format. A text can be at
fault; its document then holds everything before the fault, and says at its end what is wrong. A
reader that takes the parts in order thus meets the faults of the text and the faults of the content
in the order in which they stand.
-/

namespace ServicePlane

/-- What is wrong with a text. -/
inductive Fault where
  /-- It ends too early. -/
  | truncated
  /-- It goes on with something that cannot stand there. -/
  | malformed
  deriving DecidableEq, Repr

/-- A fault inside a token. It can show in two ways: to a reader of the value of the token, and to
one that passes the token over. -/
structure Break where
  toReader : Fault
  toSkipper : Fault
  deriving DecidableEq, Repr

/-- What stands in the place of a key. -/
inductive DocumentKey where
  | text (text : String)
  /-- A complete text that stands for no characters. -/
  | unreadable
  /-- A text with a fault. -/
  | broken (fault : Break)
  /-- A value that is no text; a reader of the value would meet the fault, if there is one. -/
  | misplaced (fault : Option Fault)
  /-- Nothing that a key or a value could be. -/
  | missing (fault : Fault)
  deriving DecidableEq, Repr

/-- A structured text as a tree. A sequence or table with a fault has no closing end. -/
inductive Document where
  | null
  | bool (value : Bool)
  | integer (value : Int)
  | real (digits : String)
  | text (text : String)
  /-- A date, a time of day, or both. -/
  | moment
  /-- A complete token that stands for no value. -/
  | unreadable
  | brokenText (fault : Break)
  /-- A number or a word with a fault. -/
  | brokenToken (fault : Break)
  /-- Nothing that a value could be. -/
  | absent (fault : Fault)
  | sequence (items : List Document) (fault : Option Fault)
  | table (entries : List (DocumentKey × Document)) (fault : Option Fault)

namespace Document

mutual

/-- The first fault that shows when a document is passed over. -/
def skipFault : Document → Option Fault
  | .brokenText b => some b.toSkipper
  | .brokenToken b => some b.toSkipper
  | .absent f => some f
  | .sequence items fault => (skipFaultItems items).or fault
  | .table entries fault => (skipFaultEntries entries).or fault
  | _ => none

/-- The first fault that shows when items are passed over. -/
def skipFaultItems : List Document → Option Fault
  | [] => none
  | d :: rest => (skipFault d).or (skipFaultItems rest)

/-- The first fault that shows when entries are passed over. -/
def skipFaultEntries : List (DocumentKey × Document) → Option Fault
  | [] => none
  | (key, d) :: rest =>
      match key with
      | .broken b => some b.toSkipper
      | .misplaced _ => some .malformed
      | .missing f => some f
      | _ => (skipFault d).or (skipFaultEntries rest)

end

end Document

end ServicePlane
