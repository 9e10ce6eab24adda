import ServicePlane.Text.Shown

/-!
# Quoted texts

The form in which messages and descriptions show a text inside double quotes: a few characters have
an escape of two characters, every other character that does not show itself is written by its
number in hexadecimal digits.

* `quoted` — a text in quotes;
* `quotedList`, `quotedSet` — several of them in brackets or braces.
-/

namespace ServicePlane.Text

def hexDigits (n : Nat) : String :=
  String.ofList (Nat.toDigits 16 n)

def escaped (c : Char) : String :=
  match c with
  | '\x00' => "\\0"
  | '\t' => "\\t"
  | '\n' => "\\n"
  | '\r' => "\\r"
  | '"' => "\\\""
  | '\\' => "\\\\"
  | c =>
      if isShown c then
        c.toString
      else
        "\\u\x7b" ++ hexDigits c.toNat ++ "\x7d"

def quoted (text : String) : String :=
  "\"" ++ String.join (text.toList.map escaped) ++ "\""

def quotedList (texts : List String) : String :=
  "[" ++ ", ".intercalate (texts.map quoted) ++ "]"

def quotedSet (texts : List String) : String :=
  "\x7b" ++ ", ".intercalate (texts.map quoted) ++ "\x7d"

end ServicePlane.Text
