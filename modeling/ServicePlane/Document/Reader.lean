import ServicePlane.Document.Error

/-!
# Reading documents

Readers turn a document into a value of a type. What differs between formats stands in one record,
`Dialect`; the rest is common.

* scalars: `readBool`, `readText`, `readNumber`, and `readOption`, `readList` over other readers;
* words from a fixed set: `readVariant`;
* records: `readRecord`, from a list of `Field`s, out of a table or out of a sequence that has the
  fields in order.
-/

namespace ServicePlane

/-- The decisions of a format. -/
structure Dialect where
  /-- How a record is refused that is written as a sequence with too many items; without an error
  they are passed over. -/
  surplus : Option ReadError
  /-- How a value is refused where a variant is wanted, if it is neither a text nor a table. -/
  variantMisfit : ReadError
  /-- How a table is refused that stands for a variant and does not have exactly one entry. -/
  variantCount : ReadError
  /-- Whether the entries of such a table are counted before the first of them is read. -/
  countsFirst : Bool
  /-- Why a document cannot stand beside a variant that carries nothing. -/
  carriedError : Document → Option ReadError

/-- Why a document is no value of another type: because it is at fault, or because it is one. -/
def Document.refusal : Document → ReadError
  | .unreadable => .faulty .malformed
  | .brokenText b => .faulty b.toReader
  | .brokenToken b => .faulty b.toReader
  | .absent f => .faulty f
  | _ => .invalidType

namespace Dialect

/-- A tree of values: complete, and counted. -/
def valueTree : Dialect where
  surplus := some .invalidLength
  variantMisfit := .invalidType
  variantCount := .invalidValue
  countsFirst := true
  carriedError := fun
    | .null => none
    | d => some d.refusal

def valueText : Dialect where
  surplus := some (.faulty .malformed)
  variantMisfit := .faulty .malformed
  variantCount := .faulty .malformed
  countsFirst := false
  carriedError := fun
    | .null => none
    | d => some d.refusal

def configuration : Dialect where
  surplus := none
  variantMisfit := .invalid
  variantCount := .invalid
  countsFirst := true
  carriedError := fun
    | .table [] none => none
    | .sequence [] none => none
    | _ => some .invalid

end Dialect

/-! ## Scalars -/

def readBool : Document → Except ReadError Bool
  | .bool b => .ok b
  | d => .error d.refusal

def readText : Document → Except ReadError String
  | .text s => .ok s
  | d => .error d.refusal

def readInteger (lowest highest : Int) : Document → Except ReadError Int
  | .integer n => if lowest ≤ n ∧ n ≤ highest then .ok n else .error .invalidValue
  | d => .error d.refusal

def readUInt64 (d : Document) : Except ReadError UInt64 := do
  return .ofNat (← readInteger 0 18446744073709551615 d).toNat

def readUInt32 (d : Document) : Except ReadError UInt32 := do
  return .ofNat (← readInteger 0 4294967295 d).toNat

def readInt32 (d : Document) : Except ReadError Int32 := do
  return .ofInt (← readInteger (-2147483648) 2147483647 d)

def readOption {α : Type} (read : Document → Except ReadError α) :
    Document → Except ReadError (Option α)
  | .null => .ok none
  | d => do return some (← read d)

/-- Items, in order. -/
def readItems {α : Type} (read : Document → Except ReadError α) :
    List Document → Except ReadError (List α)
  | [] => .ok []
  | d :: rest => do
      let a ← read d
      return a :: (← readItems read rest)

def endWith {α : Type} (fault : Option Fault) (a : α) : Except ReadError α :=
  match fault with
  | some f => .error (.faulty f)
  | none => .ok a

def readList {α : Type} (read : Document → Except ReadError α) :
    Document → Except ReadError (List α)
  | .sequence items fault => do endWith fault (← readItems read items)
  | d => .error d.refusal

/-! ## Variants -/

def readWord {α : Type} (ofName? : String → Option α) (names : List String) (word : String) :
    Except ReadError α :=
  match ofName? word with
  | some a => .ok a
  | none => .error (.unknownVariant word names)

/-- The key of the only entry of a table, where it stands for a word. -/
def readVariantKey : DocumentKey → Except ReadError String
  | .text s => .ok s
  | .unreadable => .error (.faulty .malformed)
  | .broken b => .error (.faulty b.toReader)
  | .misplaced none => .error .invalidType
  | .misplaced (some f) => .error (.faulty f)
  | .missing f => .error (.faulty f)

/-- A variant that carries nothing: its name, or a table with the name as the only key. -/
def readVariant {α : Type} (φ : Dialect) (ofName? : String → Option α) (names : List String) :
    Document → Except ReadError α
  | .text s => readWord ofName? names s
  | .table [] fault => .error ((fault.map .faulty).getD φ.variantCount)
  | .table ((key, carried) :: more) fault => do
      -- With two faults the number of entries wins where it is known beforehand.
      if φ.countsFirst && !more.isEmpty then
        throw φ.variantCount
      let a ← readWord ofName? names (← readVariantKey key)
      if let some e := φ.carriedError carried then
        throw e
      if more.isEmpty then endWith fault a else throw φ.variantCount
  | .brokenText b => .error (.faulty b.toReader)
  | .absent f => .error (.faulty f)
  | _ => .error φ.variantMisfit

/-! ## Records -/

/-- A field of a record `σ`: its name, whether it has to be there, and how its document changes the
record. -/
structure Field (σ : Type) where
  name : String
  required : Bool
  read : Document → σ → Except ReadError σ

namespace Field

/-- A field that is stored by `store`. -/
def of {σ α : Type} (name : String) (required : Bool) (read : Document → Except ReadError α)
    (store : α → σ → σ) : Field σ where
  name := name
  required := required
  read := fun d r => do return store (← read d) r

end Field

/-- The key of an entry, where it stands for a field. -/
def readFieldKey : DocumentKey → Except ReadError String
  | .text s => .ok s
  | .unreadable => .error (.faulty .malformed)
  | .broken b => .error (.faulty b.toReader)
  | .misplaced _ => .error (.faulty .malformed)
  | .missing f => .error (.faulty f)

/-- Read the entries of a table, in order, into a record. Entries that are no field are passed over.
The result has the names of the fields that were there. -/
def readEntries {σ : Type} (fields : List (Field σ)) :
    List (DocumentKey × Document) → List String → σ → Except ReadError (List String × σ)
  | [], seen, r => .ok (seen, r)
  | (key, d) :: rest, seen, r => do
      let name ← readFieldKey key
      match fields.find? fun f => f.name == name with
      | none =>
          -- A value that is passed over may still be at fault as a text.
          match d.skipFault with
          | some f => .error (.faulty f)
          | none => readEntries fields rest seen r
      | some f =>
          if seen.contains name then .error (.duplicateField name)
          else
            let r ← f.read d r
            readEntries fields rest (name :: seen) r

def missingField? {σ : Type} (fields : List (Field σ)) (seen : List String) : Option String :=
  (fields.find? fun f => f.required && !seen.contains f.name).map (·.name)

/-- Read the items of a sequence as the fields of a record, in order. -/
def readFieldItems {σ : Type} (φ : Dialect) (fault : Option Fault) :
    List (Field σ) → List Document → σ → Except ReadError σ
  | [], [], r => endWith fault r
  | [], _ :: _, r =>
      match φ.surplus with
      | some e => .error e
      | none => .ok r
  | f :: fields, [], r =>
      match fault with
      | some g => .error (.faulty g)
      | none =>
          -- The fields that are left keep their values, if all of them may be left out.
          if f.required || fields.any (·.required) then .error .invalidLength else .ok r
  | f :: fields, d :: items, r => do
      let r ← f.read d r
      readFieldItems φ fault fields items r

/-- A record: a table with its fields, or a sequence of them in order. Fields that are not there
keep the value they have in `start`. -/
def readRecord {σ : Type} (φ : Dialect) (fields : List (Field σ)) (start : σ) :
    Document → Except ReadError σ
  | .table entries fault => do
      let (seen, r) ← readEntries fields entries [] start
      let r ← endWith fault r
      match missingField? fields seen with
      | some name => .error (.missingField name)
      | none => .ok r
  | .moment =>
      -- A date or time counts as a table without any of the fields.
      match missingField? fields [] with
      | some name => .error (.missingField name)
      | none => .ok start
  | .sequence items fault => readFieldItems φ fault fields items start
  | d => .error d.refusal

end ServicePlane
