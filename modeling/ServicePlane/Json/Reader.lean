import ServicePlane.Json.Basic
import ServicePlane.Json.Number
import ServicePlane.Json.Quotation

/-!
# Reading JSON text

`Json.documentOf` gives the document of some letters; where the text is at fault, so is the
document, at the same place. `Json.parse?` gives the value of a text without faults.
-/

namespace ServicePlane

namespace Json

def isSpace : Letter → Bool
  | .char c => c = ' ' || c = '\n' || c = '\t' || c = '\r'
  | .stray => false

/-- A text without the space in front of it. -/
def skipSpace (ls : List Letter) : List Letter :=
  ls.dropWhile isSpace

/-- What is wrong with a text that should have gone on with something else. -/
def faultAt (ls : List Letter) : Fault :=
  if ls.isEmpty then .truncated else .malformed

/-- The rest of a word, or what is wrong with it. -/
def wordAt : List Char → List Letter → Except Fault (List Letter)
  | [], ls => .ok ls
  | _ :: _, [] => .error .truncated
  | w :: word, l :: ls => if .char w = l then wordAt word ls else .error .malformed

/-- A document, with the text behind it unless a fault broke the text off. -/
abbrev Part := Document × Option (List Letter)

def wordPart (word : String) (value : Document) (ls : List Letter) : Part :=
  match wordAt word.toList ls with
  | .ok rest => (value, some rest)
  | .error fault => (.brokenToken ⟨fault, fault⟩, none)

def scalarPart (ls : List Letter) : Part :=
  match ls with
  | [] => (.absent .truncated, none)
  | .char 'n' :: rest => wordPart "ull" .null rest
  | .char 't' :: rest => wordPart "rue" (.bool true) rest
  | .char 'f' :: rest => wordPart "alse" (.bool false) rest
  | .char '"' :: rest =>
      match quotationAt rest with
      | .text s rest => (.text s, some rest)
      | .unreadable rest => (.unreadable, some rest)
      | .broken fault => (.brokenText fault, none)
  | .char c :: _ =>
      -- Only these characters begin a number; what follows is a fault of the number.
      if c = '-' || c.isDigit then
        match decimalAt ls with
        | .ok (x, rest) => (documentOfDecimal x, some rest)
        | .error fault => (.brokenToken fault, none)
      else
        (.absent .malformed, none)
  | .stray :: _ => (.absent .malformed, none)

def misplacedKey (ls : List Letter) : DocumentKey :=
  match ls with
  | .char '[' :: _ => .misplaced none
  | .char '{' :: _ => .misplaced none
  | ls =>
      match scalarPart ls with
      | (.absent fault, _) => .missing fault
      | (.brokenToken fault, _) => .misplaced (some fault.toReader)
      | (.unreadable, _) => .misplaced (some .malformed)
      | _ => .misplaced none

mutual

def valueAt : Nat → List Letter → Part
  | 0, _ => (.absent .truncated, none)
  | fuel + 1, ls =>
      match skipSpace ls with
      | .char '[' :: rest =>
          match skipSpace rest with
          | .char ']' :: rest => (.sequence [] none, some rest)
          | [] => (.sequence [] (some .truncated), none)
          | rest =>
              let (items, fault, rest) := itemsAt fuel rest
              (.sequence items fault, rest)
      | .char '{' :: rest =>
          match skipSpace rest with
          | .char '}' :: rest => (.table [] none, some rest)
          | [] => (.table [] (some .truncated), none)
          | rest =>
              let (entries, fault, rest) := entriesAt fuel rest
              (.table entries fault, rest)
      | rest => scalarPart rest

/-- The items of a sequence, at least one, up to its end. -/
def itemsAt : Nat → List Letter → List Document × Option Fault × Option (List Letter)
  | 0, _ => ([], some .truncated, none)
  | fuel + 1, ls =>
      match valueAt fuel ls with
      | (item, none) => ([item], none, none)
      | (item, some rest) =>
          match skipSpace rest with
          | .char ']' :: rest => ([item], none, some rest)
          | .char ',' :: rest =>
              let (items, fault, rest) := itemsAt fuel rest
              (item :: items, fault, rest)
          | rest => ([item], some (faultAt rest), none)

/-- The entries of a table, at least one, up to its end. -/
def entriesAt : Nat → List Letter →
    List (DocumentKey × Document) × Option Fault × Option (List Letter)
  | 0, _ => ([], some .truncated, none)
  | fuel + 1, ls =>
      match skipSpace ls with
      | .char '"' :: rest =>
          match quotationAt rest with
          | .text key rest => entryAt fuel (.text key) rest
          | .unreadable rest => entryAt fuel .unreadable rest
          | .broken fault => ([(.broken fault, .null)], none, none)
      | rest => ([(misplacedKey rest, .null)], none, none)

def entryAt : Nat → DocumentKey → List Letter →
    List (DocumentKey × Document) × Option Fault × Option (List Letter)
  | 0, _, _ => ([], some .truncated, none)
  | fuel + 1, key, ls =>
      match skipSpace ls with
      | .char ':' :: rest =>
          match valueAt fuel rest with
          | (d, none) => ([(key, d)], none, none)
          | (d, some rest) =>
              match skipSpace rest with
              | .char '}' :: rest => ([(key, d)], none, some rest)
              | .char ',' :: rest =>
                  let (entries, fault, rest) := entriesAt fuel rest
                  ((key, d) :: entries, fault, rest)
              | rest => ([(key, d)], some (faultAt rest), none)
      | rest => ([(key, .absent (faultAt rest))], none, none)

end

/-- The document of a text, and what is wrong behind it. -/
def documentOf (ls : List Letter) : Document × Option Fault :=
  -- No three calls in a row leave the text as it is, so the fuel does not run out.
  match valueAt (3 * ls.length + 3) ls with
  | (d, none) => (d, none)
  | (d, some rest) =>
      if (skipSpace rest).isEmpty then (d, none) else (d, some .malformed)

/-- The value of a text without faults. -/
def parse? (text : String) : Option Json :=
  match documentOf (Letter.ofText text) with
  | (d, none) => ofDocument? d
  | (_, some _) => none

end Json

end ServicePlane
