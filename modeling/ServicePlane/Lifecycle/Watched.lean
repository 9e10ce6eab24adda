/-!
# Watched values

A value that one side sets and any number of watchers follow. Each setting gives the value the next
version, whether anybody watches or not, and whether the value is a new one or not. A watcher
remembers the version it has seen last: a wait that is under way looks at the value again only when
there is a version that it has not seen.
-/

namespace ServicePlane

universe u

/-- A value with its version, and whether somebody is left who can set it. -/
structure Watched (α : Type u) where
  value : α
  version : Nat
  settable : Bool
  deriving DecidableEq, Repr

/-- One that follows a value: the version it has seen last, and whether a wait is under way that
looked at this version. -/
structure Watcher where
  seen : Nat
  waiting : Bool
  deriving DecidableEq, Repr

namespace Watcher

/-- Another watcher that has seen as much. A wait is not copied. -/
def copy (w : Watcher) : Watcher :=
  { w with waiting := false }

/-- Give up the wait that is under way, if there is one. -/
def giveUp (w : Watcher) : Watcher :=
  { w with waiting := false }

end Watcher

/-- What a wait for a value comes to. -/
inductive WaitResult (α : Type u) where
  | found (value : α)
  /-- Nobody is left who could set the value. -/
  | abandoned
  | pending
  deriving DecidableEq, Repr

namespace WaitResult

variable {α : Type u}

def isOver : WaitResult α → Bool
  | found _ => true
  | abandoned => true
  | pending => false

end WaitResult

namespace Watched

variable {α : Type u}

def of (value : α) : Watched α where
  value := value
  version := 0
  settable := true

/-- A new watcher; it counts the present version as seen. -/
def watch (v : Watched α) : Watcher where
  seen := v.version
  waiting := false

def set (v : Watched α) (value : α) : Watched α :=
  { v with value := value, version := v.version + 1 }

/-- The side that sets the value goes away. The value stays as it is. -/
def abandon (v : Watched α) : Watched α :=
  { v with settable := false }

/-- Begin to wait for a value that satisfies `p`, or go on with the wait that is under way. A wait
that begins looks at the value first, also at one that was seen before. -/
def waitFor (v : Watched α) (p : α → Bool) (w : Watcher) : WaitResult α × Watcher :=
  let ended : Watcher := { seen := v.version, waiting := false }
  if (!w.waiting || w.seen != v.version) && p v.value then
    (.found v.value, ended)
  else if v.settable then
    (.pending, { seen := v.version, waiting := true })
  else
    (.abandoned, ended)

end Watched

end ServicePlane
