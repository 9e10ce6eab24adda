import ServicePlane.Config.Codec
import ServicePlane.Config.Validate
import ServicePlane.Toml.Reader

/-!
# Loading a configuration

A configuration comes from a file. Reading the file, reading the document in it and validating what
it says can fail, in this order.
-/

namespace ServicePlane

/-- Why a file cannot be read as text. -/
inductive FileError where
  | notFound
  | isDirectory
  | invalidText
  deriving DecidableEq, Repr

namespace FileError

def message : FileError → String
  | notFound => "No such file or directory (os error 2)"
  | isDirectory => "Is a directory (os error 21)"
  | invalidText => "stream did not contain valid UTF-8"

/-- The structural description of an error. -/
def describe : FileError → String
  | notFound =>
      "Os \x7b code: 2, kind: NotFound, message: \"No such file or directory\" \x7d"
  | isDirectory =>
      "Os \x7b code: 21, kind: IsADirectory, message: \"Is a directory\" \x7d"
  | invalidText =>
      "Error \x7b kind: InvalidData, message: \"stream did not contain valid UTF-8\" \x7d"

end FileError

/-- What is at the path of a file. -/
inductive FileContent where
  | missing
  | directory
  | bytes (bytes : List UInt8)
  deriving DecidableEq, Repr

namespace FileContent

def ofText (text : String) : FileContent :=
  bytes text.toUTF8.toList

def text : FileContent → Except FileError String
  | missing => .error .notFound
  | directory => .error .isDirectory
  | bytes bs =>
      match String.fromUTF8? ⟨bs.toArray⟩ with
      | some text => .ok text
      | none => .error .invalidText

end FileContent

/-- Why there is no configuration. -/
inductive ConfigError where
  | unreadableFile (error : FileError)
  /-- The text is no document, or the document no configuration. -/
  | unreadableText (error : ReadError)
  /-- The configuration makes no sense. -/
  | invalid (faults : List ConfigFault)
  deriving DecidableEq, Repr

/-- The sentence that reports a configuration which makes no sense. -/
def validationMessage (faults : List ConfigFault) : String :=
  "Validation failed: " ++ ", ".intercalate (faults.map ConfigFault.message)

namespace PlaneConfig

/-- The configuration that a text states. -/
def parse (text : String) : Except ConfigError PlaneConfig := do
  let document ←
    match Toml.documentOf? text with
    | some d => Except.ok d
    | none => .error (.unreadableText (.faulty .malformed))
  -- Faults of the text, of the decoding and of the sense show in this order.
  let c ← (ofDocument .configuration document).mapError .unreadableText
  c.validate.mapError .invalid
  return c

def load (file : FileContent) : Except ConfigError PlaneConfig := do
  parse (← file.text.mapError .unreadableFile)

end PlaneConfig

end ServicePlane
