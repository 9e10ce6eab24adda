import ServicePlane.Document.Basic

/-!
# JSON values

`Json` is the type of the values that programs exchange with the plane. A value is itself a
document without faults (`Json.toDocument`), and a document without faults is a value
(`Json.ofDocument?`). The order of the members of an object carries no meaning; a document gives them
in the order of their names, and of two members of one name the later one stays.
-/

namespace ServicePlane

/-- A JSON value. A number that is no integer of 64 bits keeps its digits. -/
inductive Json where
  | null
  | bool (value : Bool)
  | integer (value : Int)
  | real (digits : String)
  | text (value : String)
  | array (items : List Json)
  | object (members : List (String × Json))
  deriving Repr, Inhabited

namespace Json

def nat (n : Nat) : Json :=
  integer n

def texts (values : List String) : Json :=
  array (values.map text)

def option {α : Type} (encode : α → Json) : Option α → Json
  | none => null
  | some a => encode a

def member? (name : String) : Json → Option Json
  | object members => members.lookup name
  | _ => none

/-! ## Values and documents -/

mutual

def toDocument : Json → Document
  | null => .null
  | bool b => .bool b
  | integer n => .integer n
  | real digits => .real digits
  | text s => .text s
  | array items => .sequence (toDocuments items) none
  | object members => .table (toEntries members) none

def toDocuments : List Json → List Document
  | [] => []
  | v :: rest => toDocument v :: toDocuments rest

def toEntries : List (String × Json) → List (DocumentKey × Document)
  | [] => []
  | (name, v) :: rest => (.text name, toDocument v) :: toEntries rest

end

/-- Put a member into members that are in the order of their names. -/
def insertMember (name : String) (v : Json) : List (String × Json) → List (String × Json)
  | [] => [(name, v)]
  | m :: rest =>
      if name < m.1 then (name, v) :: m :: rest
      else if name = m.1 then (name, v) :: rest
      else m :: insertMember name v rest

mutual

/-- The value that a document stands for, if it has no fault. -/
def ofDocument? : Document → Option Json
  | .null => some null
  | .bool b => some (bool b)
  | .integer n => some (integer n)
  | .real digits => some (real digits)
  | .text s => some (text s)
  | .sequence items none => (ofDocuments? items).map array
  | .table entries none => (ofEntries? entries []).map object
  | _ => none

def ofDocuments? : List Document → Option (List Json)
  | [] => some []
  | d :: rest => do
      let v ← ofDocument? d
      return v :: (← ofDocuments? rest)

/-- The members that entries stand for, added to others. -/
def ofEntries? : List (DocumentKey × Document) → List (String × Json) →
    Option (List (String × Json))
  | [], members => some members
  | (.text name, d) :: rest, members => do
      let v ← ofDocument? d
      ofEntries? rest (insertMember name v members)
  | _, _ => none

end

end Json

end ServicePlane
