import ServicePlane.Document.Basic

/-!
# Errors of reading a document

Why a document does not stand for a value of the wanted type.
-/

namespace ServicePlane

/-- Why a document cannot be read as a value. -/
inductive ReadError where
  /-- A word that is none of the variants. -/
  | unknownVariant (word : String) (expected : List String)
  | missingField (name : String)
  | duplicateField (name : String)
  /-- A value of another type. -/
  | invalidType
  /-- A value of the right type that is out of range. -/
  | invalidValue
  /-- A sequence with too few or too many items. -/
  | invalidLength
  /-- The text itself is at fault. -/
  | faulty (fault : Fault)
  /-- Anything else. -/
  | invalid
  deriving DecidableEq, Repr

namespace ReadError

def alternatives (words : List String) : String :=
  let marked := words.map fun w => "`" ++ w ++ "`"
  match marked with
  | [] => "there are no variants"
  | [a] => "expected " ++ a
  | [a, b] => "expected " ++ a ++ " or " ++ b
  | _ => "expected one of " ++ ", ".intercalate marked

/-- The sentence that reports an error, where the sentence names something of the document. -/
def message? : ReadError → Option String
  | unknownVariant word expected =>
      some ("unknown variant `" ++ word ++ "`, " ++ alternatives expected)
  | missingField name => some ("missing field `" ++ name ++ "`")
  | duplicateField name => some ("duplicate field `" ++ name ++ "`")
  | _ => none

end ReadError

end ServicePlane
