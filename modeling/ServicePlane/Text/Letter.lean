/-!
# Letters

A text comes over the network as bytes, and bytes need not be the bytes of a text. Who reads them
meets letters: each is a character, or a byte that is part of none.

* `Text.bytes` — the bytes of a text;
* `Letter.ofBytes`, `Letter.ofText` — the letters of bytes and of a text;
* `Letter.span` — the characters at the beginning of some letters.
-/

namespace ServicePlane

/-- The bytes of a text, in UTF-8. -/
def Text.bytes (text : String) : List UInt8 :=
  text.toList.flatMap String.utf8EncodeChar

/-- What a reader of bytes meets. -/
inductive Letter where
  | char (c : Char)
  /-- A byte that is part of no character. -/
  | stray
  deriving DecidableEq, Repr

namespace Letter

/-- How many bytes a letter takes. -/
def size : Letter → Nat
  | char c => c.utf8Size
  | stray => 1

def ofText (text : String) : List Letter :=
  text.toList.map char

/-- The letters of bytes, of which so many at the beginning belong to a letter that was met. -/
def ofBytesFrom : (met : Nat) → List UInt8 → List Letter
  | _, [] => []
  | met + 1, _ :: rest => ofBytesFrom met rest
  | 0, b :: rest =>
      -- A character takes at most four bytes, so three more are enough to look at.
      match (b :: rest.take 3).toByteArray.utf8DecodeChar? 0 with
      | some c => char c :: ofBytesFrom (c.utf8Size - 1) rest
      | none => stray :: ofBytesFrom 0 rest

def ofBytes (bytes : List UInt8) : List Letter :=
  ofBytesFrom 0 bytes

/-- The characters at the beginning that have a property, and what follows them. -/
def span (p : Char → Bool) : List Letter → List Char × List Letter
  | char c :: rest =>
      if p c then
        let (cs, rest) := span p rest
        (c :: cs, rest)
      else ([], char c :: rest)
  | rest => ([], rest)

end Letter

end ServicePlane
