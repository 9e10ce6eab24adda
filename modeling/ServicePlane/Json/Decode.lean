import ServicePlane.Document.Reader
import ServicePlane.Json.Reader

/-!
# Values of other types out of JSON

A reader of documents reads a JSON value, or JSON as a text or in bytes. In a text the faults show
in the order in which they stand, and what follows a value that was read has to be blank.
-/

namespace ServicePlane

namespace Json

def decode {α : Type} (read : Dialect → Document → Except ReadError α) (v : Json) :
    Except ReadError α :=
  read .valueTree v.toDocument

def decodeLetters {α : Type} (read : Dialect → Document → Except ReadError α) (ls : List Letter) :
    Except ReadError α := do
  let (d, trailing) := documentOf ls
  let a ← read .valueText d
  endWith trailing a

def decodeText {α : Type} (read : Dialect → Document → Except ReadError α) (text : String) :
    Except ReadError α :=
  decodeLetters read (Letter.ofText text)

def decodeBytes {α : Type} (read : Dialect → Document → Except ReadError α)
    (bytes : List UInt8) : Except ReadError α :=
  decodeLetters read (Letter.ofBytes bytes)

end Json

end ServicePlane
