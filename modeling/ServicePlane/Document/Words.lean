import ServicePlane.Document.Reader
import ServicePlane.Json.Basic
import ServicePlane.Service

/-!
# Services and override modes in documents

Both are words from a fixed set. A mode also comes alone in a record, as a request to an operator
interface (`OverrideRequest`).
-/

namespace ServicePlane

namespace Service

def ofDocument (φ : Dialect) : Document → Except ReadError Service :=
  readVariant φ ofName? (all.map name)

def toJson (s : Service) : Json :=
  .text s.name

end Service

namespace OverrideMode

def ofDocument (φ : Dialect) : Document → Except ReadError OverrideMode :=
  readVariant φ ofName? (all.map name)

def toJson (m : OverrideMode) : Json :=
  .text m.name

end OverrideMode

/-- The request to set an override. -/
structure OverrideRequest where
  mode : OverrideMode
  deriving DecidableEq, Repr, Inhabited

namespace OverrideRequest

def fields (φ : Dialect) : List (Field OverrideRequest) :=
  [.of "mode" true (OverrideMode.ofDocument φ) fun a r => { r with mode := a }]

def ofDocument (φ : Dialect) : Document → Except ReadError OverrideRequest :=
  readRecord φ (fields φ) default

def toJson (r : OverrideRequest) : Json :=
  .object [("mode", r.mode.toJson)]

end OverrideRequest

end ServicePlane
