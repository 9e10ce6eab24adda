import ServicePlane.Json.Basic

/-!
# JSON text of a value

`Json.render` writes a value without any space between its parts. Inside a text, quotes and
backslashes and the characters below the space are escaped; the latter by their own letter where
they have one and by four hexadecimal digits otherwise.
-/

namespace ServicePlane

namespace Json

def escaped (c : Char) : String :=
  match c with
  | '"' => "\\\""
  | '\\' => "\\\\"
  | '\x08' => "\\b"
  | '\x0c' => "\\f"
  | '\n' => "\\n"
  | '\r' => "\\r"
  | '\t' => "\\t"
  | c =>
      if c.toNat < 0x20 then
        "\\u00" ++ (if c.toNat < 0x10 then "0" else "") ++
          String.ofList (Nat.toDigits 16 c.toNat)
      else
        c.toString

def quote (s : String) : String :=
  "\"" ++ String.join (s.toList.map escaped) ++ "\""

mutual

def render : Json → String
  | null => "null"
  | bool true => "true"
  | bool false => "false"
  | integer n => toString n
  | real digits => digits
  | text s => quote s
  | array items => "[" ++ ",".intercalate (renderItems items) ++ "]"
  | object members => "\x7b" ++ ",".intercalate (renderMembers members) ++ "\x7d"

def renderItems : List Json → List String
  | [] => []
  | v :: rest => render v :: renderItems rest

def renderMembers : List (String × Json) → List String
  | [] => []
  | (name, v) :: rest => (quote name ++ ":" ++ render v) :: renderMembers rest

end

end Json

end ServicePlane
