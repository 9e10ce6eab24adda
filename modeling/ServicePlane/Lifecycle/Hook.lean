import ServicePlane.Task

/-!
# Lifecycle hooks

A hook is a named action of one side of the lifecycle. This file holds what a hook declares
(`HookSpec`), what a run of it can end with (`HookResult`), and the errors of the lifecycle
(`LifecycleError`) with their wording.
-/

namespace ServicePlane

/-! ## Kinds -/

/-- The side of the lifecycle a hook belongs to. -/
inductive HookKind where
  | startup
  | shutdown
  deriving DecidableEq, Repr

namespace HookKind

def name : HookKind → String
  | startup => "startup"
  | shutdown => "shutdown"

/-- The name of a kind as a constructor, as it appears in structural descriptions. -/
def constructorName : HookKind → String
  | startup => "Startup"
  | shutdown => "Shutdown"

end HookKind

/-! ## Results of a run -/

/-- What a hook reports when it has run. -/
inductive HookOutcome where
  /-- The action is done. -/
  | started
  /-- There was nothing to do. -/
  | skipped (reason : String)
  /-- The action failed; `required` says whether the process can go on without it. -/
  | failed (required : Bool) (error : String)
  deriving DecidableEq, Repr

namespace HookOutcome

def isStarted : HookOutcome → Bool
  | started => true
  | _ => false

def label : HookOutcome → String
  | started => "started"
  | skipped _ => "skipped"
  | failed true _ => "failed"
  | failed false _ => "degraded"

end HookOutcome

/-- How one run of a hook ends. -/
inductive HookResult where
  /-- The hook reports an outcome. -/
  | reported (outcome : HookOutcome)
  /-- The hook returns an error instead of an outcome. -/
  | raised (error : String)
  /-- The task of the hook panics. -/
  | panicked (message : Option String)
  deriving DecidableEq, Repr

/-! ## Declarations -/

/-- Insert a name into an ascending list without repetitions. -/
def insertName (name : String) : List String → List String
  | [] => [name]
  | n :: rest =>
      if name < n then name :: n :: rest
      else if name = n then n :: rest
      else n :: insertName name rest

theorem mem_insertName {name n : String} {names : List String} :
    n ∈ insertName name names ↔ n = name ∨ n ∈ names := by
  induction names with
  | nil => simp [insertName]
  | cons m rest ih =>
      simp only [insertName]
      split
      · simp
      · split
        · rename_i h
          subst h
          simp
        · simp only [List.mem_cons, ih]
          constructor
          · rintro (h | h | h) <;> simp [h]
          · rintro (h | h | h) <;> simp [h]

/-- Inserting a name into a set of names leaves a set: the names ascend, and none stands twice. -/
theorem pairwise_insertName (name : String) {names : List String} (h : names.Pairwise (· < ·)) :
    (insertName name names).Pairwise (· < ·) := by
  induction names with
  | nil =>
      simp [insertName]
  | cons n rest ih =>
      rcases List.pairwise_cons.1 h with ⟨hleast, hrest⟩
      simp only [insertName]
      split
      · rename_i hlt
        refine List.pairwise_cons.2 ⟨?_, h⟩
        intro m hm
        rcases List.mem_cons.1 hm with rfl | hm
        · exact hlt
        · exact String.lt_trans hlt (hleast m hm)
      · rename_i hge
        split
        · exact h
        · rename_i hne
          refine List.pairwise_cons.2 ⟨?_, ih hrest⟩
          intro m hm
          rcases mem_insertName.1 hm with rfl | hm
          · refine Decidable.not_not.1 fun hle => hne ?_
            exact String.le_antisymm (String.not_lt.1 hle) (String.not_lt.1 hge)
          · exact hleast m hm

/-- Insert some names into a set of names, one after the other. -/
def insertNames (names set : List String) : List String :=
  names.foldl (fun set name => insertName name set) set

theorem pairwise_insertNames (names : List String) {set : List String}
    (h : set.Pairwise (· < ·)) : (insertNames names set).Pairwise (· < ·) := by
  induction names generalizing set with
  | nil =>
      exact h
  | cons name rest ih =>
      exact ih (pairwise_insertName name h)

/-- What a hook declares: its name, its place in the startup sequence, and the startup hooks that
have to run before it, which are a set. -/
structure HookSpec where
  name : String
  startupOrder : Int32
  requires : List String
  /-- The names in `requires` ascend, and none stands twice. -/
  requires_ascending : requires.Pairwise (· < ·)
  deriving DecidableEq, Repr

namespace HookSpec

def defaultOrder : Int32 := 50

/-- A hook without requirements, at the default place. -/
def named (name : String) : HookSpec where
  name := name
  startupOrder := defaultOrder
  requires := []
  requires_ascending := .nil

/-- Declare the place in the startup sequence; a lower one starts earlier. -/
def withOrder (spec : HookSpec) (order : Int32) : HookSpec :=
  { spec with startupOrder := order }

def requiring (spec : HookSpec) (names : List String) : HookSpec :=
  { spec with
    requires := insertNames names spec.requires
    requires_ascending := pairwise_insertNames names spec.requires_ascending }

/-- A hook with its place and its requirements. -/
def of (name : String) (order : Int32) (requirements : List String) : HookSpec :=
  ((named name).withOrder order).requiring requirements

/-- The order in which hooks start that do not depend on one another: by their place, and at equal
places by name. -/
def before (a b : HookSpec) : Bool :=
  a.startupOrder < b.startupOrder ||
    (a.startupOrder == b.startupOrder && decide (a.name < b.name))

/-- Where the shutdown places begin to count down. -/
def shutdownBase : Int := 1000

/-- The place in the shutdown sequence: what starts last shuts down first. There is none when the
difference does not fit into 32 bits. -/
def shutdownOrder? (spec : HookSpec) : Option Int32 :=
  let place := shutdownBase - spec.startupOrder.toInt
  if -2147483648 ≤ place ∧ place ≤ 2147483647 then some (Int32.ofInt place) else none

/-- The structural description of a hook of the given kind. -/
def describe (spec : HookSpec) (kind : HookKind) (started : Bool) : String :=
  "LifecycleHook \x7b name: " ++ Text.quoted spec.name ++
    ", kind: " ++ kind.constructorName ++
    ", startup_order: " ++ toString spec.startupOrder.toInt ++
    ", requires: " ++ Text.quotedSet spec.requires ++
    ", started: " ++ toString started ++ " \x7d"

end HookSpec

/-! ## Errors -/

/-- Why a lifecycle operation fails. -/
inductive LifecycleError where
  /-- Two hooks of one kind have the same name. -/
  | duplicateHook (name : String) (kind : HookKind)
  /-- A hook requires a name that no startup hook has. -/
  | missingDependency (hook dependency : String)
  /-- The requirements lead from a hook back to itself. -/
  | circularDependency (cycle : List String)
  /-- A startup hook failed that the process cannot go on without. -/
  | hookFailed (name : String) (source : String)
  deriving DecidableEq, Repr

namespace LifecycleError

def message : LifecycleError → String
  | duplicateHook name kind => s!"{kind.name} hook '{name}' is already registered"
  | missingDependency hook dependency => s!"hook '{hook}' requires unknown hook '{dependency}'"
  | circularDependency cycle =>
      "circular dependency between hooks: " ++ " -> ".intercalate cycle
  | hookFailed name source => s!"startup hook '{name}' failed: {source}"

/-- Whether the registrations themselves are at fault, so that no hook has run. -/
def isConfigurationError : LifecycleError → Bool
  | hookFailed _ _ => false
  | _ => true

/-- The structural description of an error. -/
def describe : LifecycleError → String
  | duplicateHook name kind =>
      "DuplicateHook \x7b name: " ++ Text.quoted name ++ ", kind: " ++ kind.constructorName ++ " \x7d"
  | missingDependency hook dependency =>
      "MissingDependency \x7b hook: " ++ Text.quoted hook ++
        ", dependency: " ++ Text.quoted dependency ++ " \x7d"
  | circularDependency cycle =>
      "CircularDependency \x7b cycle: " ++ Text.quotedList cycle ++ " \x7d"
  | hookFailed name source =>
      "HookFailed \x7b name: " ++ Text.quoted name ++ ", source: " ++ Text.quoted source ++ " \x7d"

end LifecycleError

end ServicePlane
