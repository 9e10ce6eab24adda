/-!
# Services and operator overrides

The closed set of external services the plane tracks, tables with one entry per service, and the
modes by which an operator replaces a service's health signal.

* `Service` — the six services, listed once by `Service.all` in their fixed order;
* `PerService` — a table with exactly one entry per service, read by `get` and written by `set`;
* `OverrideMode` — whether the health signal of a service is replaced, and by what;
* `Service.parse`, `OverrideMode.parse` — the operator's spellings of both.
-/

namespace ServicePlane

/-! ## Services -/

/-- An external service that the plane tracks. -/
inductive Service where
  | database
  | cache
  | broker
  | storage
  | auth
  | discovery
  deriving DecidableEq, Repr, Inhabited

namespace Service

/-- Every service, in the order in which tables and reports list them. -/
def all : List Service :=
  [database, cache, broker, storage, auth, discovery]

/-- The name under which configuration files, requests and reports know a service. -/
def name : Service → String
  | database => "database"
  | cache => "cache"
  | broker => "broker"
  | storage => "storage"
  | auth => "auth"
  | discovery => "discovery"

/-- The name of a service as a constructor, as it appears in structural descriptions. -/
def constructorName : Service → String
  | database => "Database"
  | cache => "Cache"
  | broker => "Broker"
  | storage => "Storage"
  | auth => "Auth"
  | discovery => "Discovery"

/-- The position of a service in `Service.all`. -/
def index : Service → Nat
  | database => 0
  | cache => 1
  | broker => 2
  | storage => 3
  | auth => 4
  | discovery => 5

theorem mem_all (s : Service) : s ∈ all := by
  cases s <;> decide

theorem all_index (s : Service) : all[s.index]? = some s := by
  cases s <;> rfl

theorem name_injective {s t : Service} (h : s.name = t.name) : s = t := by
  revert h
  cases s <;> cases t <;> decide

def ofName? (text : String) : Option Service :=
  all.find? fun s => s.name == text

theorem ofName?_name (s : Service) : ofName? s.name = some s := by
  cases s <;> decide

end Service

/-! ## Tables with one entry per service -/

/-- A table that holds one value for each service. -/
structure PerService (α : Type) where
  database : α
  cache : α
  broker : α
  storage : α
  auth : α
  discovery : α
  deriving DecidableEq, Repr

namespace PerService

variable {α : Type}

def ofFn (f : Service → α) : PerService α where
  database := f .database
  cache := f .cache
  broker := f .broker
  storage := f .storage
  auth := f .auth
  discovery := f .discovery

def get (t : PerService α) : Service → α
  | .database => t.database
  | .cache => t.cache
  | .broker => t.broker
  | .storage => t.storage
  | .auth => t.auth
  | .discovery => t.discovery

def set (t : PerService α) (s : Service) (a : α) : PerService α :=
  match s with
  | .database => { t with database := a }
  | .cache => { t with cache := a }
  | .broker => { t with broker := a }
  | .storage => { t with storage := a }
  | .auth => { t with auth := a }
  | .discovery => { t with discovery := a }

/-- The entries, in the order of the services. -/
def toList (t : PerService α) : List α :=
  Service.all.map t.get

@[simp]
theorem get_ofFn (f : Service → α) (s : Service) : (ofFn f).get s = f s := by
  cases s <;> rfl

@[simp]
theorem get_set_self (t : PerService α) (s : Service) (a : α) : (t.set s a).get s = a := by
  cases s <;> rfl

theorem get_set (t : PerService α) (s r : Service) (a : α) :
    (t.set s a).get r = if r = s then a else t.get r := by
  cases s <;> cases r <;> rfl

theorem ext_get {t u : PerService α} (h : ∀ s, t.get s = u.get s) : t = u := by
  cases t
  cases u
  simp only [mk.injEq]
  exact ⟨h .database, h .cache, h .broker, h .storage, h .auth, h .discovery⟩

instance [Inhabited α] : Inhabited (PerService α) :=
  ⟨ofFn fun _ => default⟩

end PerService

/-! ## Overrides -/

/-- What an operator puts in the place of a service's health signal. -/
inductive OverrideMode where
  /-- The health signal counts. -/
  | noOverride
  /-- The service counts as available whatever its health. -/
  | forceEnable
  /-- The service counts as unavailable whatever its health. -/
  | forceDisable
  deriving DecidableEq, Repr, Inhabited

namespace OverrideMode

/-- Every mode, in the order in which messages list them. -/
def all : List OverrideMode :=
  [noOverride, forceEnable, forceDisable]

def name : OverrideMode → String
  | noOverride => "none"
  | forceEnable => "force_enable"
  | forceDisable => "force_disable"

def ofName? (text : String) : Option OverrideMode :=
  all.find? fun m => m.name == text

theorem ofName?_name (m : OverrideMode) : ofName? m.name = some m := by
  cases m <;> decide

end OverrideMode

/-! ## Spellings accepted from an operator -/

/-- Why a word names no service or no override mode. -/
inductive NameError where
  | unknownService (text : String)
  | unknownOverrideMode (text : String)
  deriving DecidableEq, Repr

namespace NameError

def message : NameError → String
  | unknownService text => s!"unknown service '{text}'"
  | unknownOverrideMode text =>
      s!"unknown override mode '{text}' (expected none, force_enable or force_disable)"

end NameError

/-- The service a word names; the case of ASCII letters does not matter. -/
def Service.parse (text : String) : Except NameError Service :=
  match Service.all.find? fun s => s.name.toLower == text.toLower with
  | some s => .ok s
  | none => .error (.unknownService text)

/-- The mode a word names; the case of ASCII letters does not matter, and a hyphen stands for an
underscore. -/
def OverrideMode.parse (text : String) : Except NameError OverrideMode :=
  let word := text.toLower.map fun c => if c = '-' then '_' else c
  match OverrideMode.ofName? word with
  | some m => .ok m
  | none => .error (.unknownOverrideMode text)

end ServicePlane
