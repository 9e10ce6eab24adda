import ServicePlane.Lifecycle.Hook

/-!
# Scripted hooks

A scripted hook does no work: each run takes the next result of its script, and is entered into a
journal.
-/

namespace ServicePlane

/-- The runs of scripted hooks, in order, and how many of them have been reported. -/
structure Journal where
  runs : List (HookKind × String)
  reported : Nat
  deriving DecidableEq, Repr

namespace Journal

/-- A journal without entries. -/
def empty : Journal where
  runs := []
  reported := 0

def runsOf (j : Journal) (kind : HookKind) (name : String) : Nat :=
  j.runs.count (kind, name)

/-- The result of the run after `earlier` others. The last result of a script repeats, and without
results every run starts. -/
def resultAfter (script : List HookResult) (earlier : Nat) : HookResult :=
  (script[earlier]?.or script.getLast?).getD (.reported .started)

def run (j : Journal) (kind : HookKind) (name : String) (script : List HookResult) :
    HookResult × Journal :=
  (resultAfter script (j.runsOf kind name), { j with runs := j.runs ++ [(kind, name)] })

/-- The runs since the last report, as words; afterwards all runs are reported. -/
def report (j : Journal) : List String × Journal :=
  ((j.runs.drop j.reported).map fun r => s!"{r.1.name}:{r.2}",
    { j with reported := j.runs.length })

end Journal

end ServicePlane
