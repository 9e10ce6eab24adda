import ServicePlane.Decimal
import ServicePlane.Document.Basic
import ServicePlane.Text.Letter

/-!
# Texts in JSON text

A text in quotes is a row of pieces: characters, sixteen-bit units that are written by their number,
and stray bytes. Passing a text over needs only its pieces. Reading it also joins the units, and two
units that do not belong together, or one that needs a partner and has none, stand for no character.
A stray byte stands for none either, but that shows only when the text is complete.
-/

namespace ServicePlane.Json

/-- A piece of a quoted text. -/
inductive Piece where
  | char (c : Char)
  | unit (code : Nat)
  | stray
  deriving DecidableEq, Repr

def escapeLetter? : Char → Option Char
  | '"' => some '"'
  | '\\' => some '\\'
  | '/' => some '/'
  | 'b' => some '\x08'
  | 'f' => some '\x0c'
  | 'n' => some '\n'
  | 'r' => some '\r'
  | 't' => some '\t'
  | _ => none

/-- What is wrong at a place where four hexadecimal digits should stand. -/
def hexFault (ls : List Letter) : Fault :=
  if ls.foldl (fun size l => size + l.size) 0 < 4 then .truncated else .malformed

/-- The pieces up to the closing quote, with what follows it, or with what is wrong. -/
def piecesAt : List Letter → List Piece × Except Fault (List Letter)
  | [] => ([], .error .truncated)
  | .char '"' :: rest => ([], .ok rest)
  | [.char '\\'] => ([], .error .truncated)
  | .char '\\' :: .char 'u' :: .char a :: .char b :: .char c :: .char d :: rest =>
      match Decimal.digitValue? a, Decimal.digitValue? b, Decimal.digitValue? c,
        Decimal.digitValue? d with
      | some a, some b, some c, some d =>
          let (pieces, ending) := piecesAt rest
          (.unit (((a * 16 + b) * 16 + c) * 16 + d) :: pieces, ending)
      | _, _, _, _ => ([], .error .malformed)
  | .char '\\' :: .char c :: rest =>
      if c = 'u' then ([], .error (hexFault rest))
      else
        match escapeLetter? c with
        | some c =>
            let (pieces, ending) := piecesAt rest
            (.char c :: pieces, ending)
        | none => ([], .error .malformed)
  | .char '\\' :: .stray :: _ => ([], .error .malformed)
  | .char c :: rest =>
      if c.toNat < 0x20 then ([], .error .malformed)
      else
        let (pieces, ending) := piecesAt rest
        (.char c :: pieces, ending)
  | .stray :: rest =>
      let (pieces, ending) := piecesAt rest
      (.stray :: pieces, ending)

def isLeading (code : Nat) : Bool :=
  0xD800 ≤ code && code < 0xDC00

def isTrailing (code : Nat) : Bool :=
  0xDC00 ≤ code && code < 0xE000

/-- The characters that pieces stand for. `ending` is what is wrong after the pieces, if something
is; it meets a reader who is waiting for a second unit there. -/
def charsOf (ending : Option Fault) : List Piece → Except Fault (List Char)
  | [] => .ok []
  | .char c :: rest => (charsOf ending rest).map (c :: ·)
  | .unit u :: rest =>
      if isLeading u then
        match rest with
        | .unit v :: rest =>
            if isTrailing v then
              (charsOf ending rest).map
                (Char.ofNat (0x10000 + (u - 0xD800) * 0x400 + (v - 0xDC00)) :: ·)
            else .error .malformed
        | _ :: _ => .error .malformed
        -- The reader waits for the second unit exactly where the text breaks off.
        | [] => .error (ending.getD .malformed)
      else if isTrailing u then .error .malformed
      else (charsOf ending rest).map (Char.ofNat u :: ·)
  | .stray :: rest =>
      -- The bytes of a text are looked at together, behind its closing quote.
      match ending with
      | none => .error .malformed
      | some _ => charsOf ending rest

/-- A quoted text after its opening quote. -/
inductive Quotation where
  | text (text : String) (rest : List Letter)
  /-- Complete, but it stands for no characters. -/
  | unreadable (rest : List Letter)
  | broken (fault : Break)

def quotationAt (ls : List Letter) : Quotation :=
  match piecesAt ls with
  | (pieces, .ok rest) =>
      match charsOf none pieces with
      | .ok chars => .text (String.ofList chars) rest
      | .error _ => .unreadable rest
  | (pieces, .error fault) =>
      match charsOf (some fault) pieces with
      | .ok _ => .broken ⟨fault, fault⟩
      | .error first => .broken ⟨first, fault⟩

end ServicePlane.Json
