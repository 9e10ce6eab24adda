/-!
# Blank text

White space as Unicode defines it (the property `White_Space`), and the texts that consist of
nothing else. Zero-width characters and the byte-order mark are not white space.
-/

namespace ServicePlane.Text

namespace Blank

/-- The code points of white space, as ascending ranges with both ends included. -/
def ranges : List (Nat × Nat) :=
  [(0x9, 0xD), (0x20, 0x20), (0x85, 0x85), (0xA0, 0xA0), (0x1680, 0x1680), (0x2000, 0x200A),
    (0x2028, 0x2029), (0x202F, 0x202F), (0x205F, 0x205F), (0x3000, 0x3000)]

end Blank

def isWhiteSpace (c : Char) : Bool :=
  Blank.ranges.any fun r => r.1 ≤ c.toNat && c.toNat ≤ r.2

def isBlank (text : String) : Bool :=
  text.toList.all isWhiteSpace

end ServicePlane.Text
