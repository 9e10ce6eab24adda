import ServicePlane.Decimal

/-!
# Percent-encoded text

In the path of a request a percent sign with two hexadecimal digits stands for a byte. The bytes
together have to be a text.
-/

namespace ServicePlane.Http

def utf8Bytes (c : Char) : List UInt8 :=
  String.utf8EncodeChar c

/-- The bytes that a percent-encoded text stands for. A percent sign without two digits stands for
itself. -/
def percentDecodedBytes : List Char → List UInt8
  | [] => []
  | '%' :: a :: b :: rest =>
      match Decimal.digitValue? a, Decimal.digitValue? b with
      | some high, some low => .ofNat (16 * high + low) :: percentDecodedBytes rest
      | _, _ => utf8Bytes '%' ++ percentDecodedBytes (a :: b :: rest)
  | c :: rest => utf8Bytes c ++ percentDecodedBytes rest

def percentDecoded? (text : String) : Option String :=
  String.fromUTF8? (percentDecodedBytes text.toList).toByteArray

end ServicePlane.Http
