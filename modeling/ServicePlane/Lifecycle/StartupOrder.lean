import ServicePlane.Lifecycle.Hook

/-!
# The startup order

In which order startup hooks run. Among the hooks whose requirements are all placed, the first one
by `HookSpec.before` is placed next. When no hook is placeable, a depth-first visit from the first
of the remaining hooks finds the unknown name or the cycle that is to blame.

* `StartupOrder.firstBy` — the first hook of a list by `HookSpec.before`;
* `StartupOrder.visit` — the depth-first visit, which ends because the path grows by a new
  registered hook with each step;
* `resolveStartupOrder` — the order, or the error.
-/

namespace ServicePlane

namespace StartupOrder

def find? (hooks : List HookSpec) (name : String) : Option HookSpec :=
  hooks.find? fun h => h.name == name

theorem name_of_find? {hooks : List HookSpec} {name : String} {hook : HookSpec}
    (h : find? hooks name = some hook) : hook ∈ hooks ∧ hook.name = name := by
  have hm := List.mem_of_find?_eq_some h
  have hp := List.find?_some h
  exact ⟨hm, by simpa using hp⟩

/-- The first of some hooks by `HookSpec.before`. -/
def firstBy : List HookSpec → Option HookSpec
  | [] => none
  | h :: rest =>
      match firstBy rest with
      | none => some h
      | some k => if k.before h then some k else some h

def insertByOrder (hook : HookSpec) : List HookSpec → List HookSpec
  | [] => [hook]
  | h :: rest => if hook.before h then hook :: h :: rest else h :: insertByOrder hook rest

theorem mem_insertByOrder {hook h : HookSpec} {hooks : List HookSpec} :
    h ∈ insertByOrder hook hooks ↔ h = hook ∨ h ∈ hooks := by
  induction hooks with
  | nil => simp [insertByOrder]
  | cons k rest ih =>
      simp only [insertByOrder]
      split
      · simp
      · simp only [List.mem_cons, ih]
        constructor
        · rintro (h | h | h) <;> simp [h]
        · rintro (h | h | h) <;> simp [h]

def sortByOrder (hooks : List HookSpec) : List HookSpec :=
  hooks.foldl (fun sorted h => insertByOrder h sorted) []

def offPath (hooks : List HookSpec) (path : List String) : List HookSpec :=
  hooks.filter fun h => !path.contains h.name

theorem offPath_lt {hooks : List HookSpec} {path : List String} {hook : HookSpec}
    (hm : hook ∈ hooks) (hp : hook.name ∉ path) :
    (offPath hooks (path ++ [hook.name])).length < (offPath hooks path).length := by
  have hsub : offPath hooks (path ++ [hook.name]) =
      (offPath hooks path).filter fun h => h.name != hook.name := by
    simp only [offPath, List.filter_filter]
    apply List.filter_congr
    intro h _
    by_cases hn : h.name = hook.name <;> simp [hn]
  rw [hsub]
  have hin : hook ∈ offPath hooks path := by
    simp [offPath, hm, hp]
  exact List.length_filter_lt_length_iff_exists.2 ⟨hook, hin, by simp⟩

theorem offPath_lt_of_find? {hooks : List HookSpec} {path : List String} {name : String}
    {hook : HookSpec} (h : find? hooks name = some hook) (hp : name ∉ path) :
    (offPath hooks (path ++ [name])).length < (offPath hooks path).length := by
  obtain ⟨hm, hn⟩ := name_of_find? h
  subst hn
  exact offPath_lt hm hp

/-- Visit a hook and everything it requires, depth first. `path` leads from the first visited hook
to this one; `placed` and `visited` need no further visit. The result is `visited` with the hooks
that this visit completes, each after its requirements. -/
def visit (hooks : List HookSpec) (placed path : List String) (name : String)
    (visited : List String) : Except LifecycleError (List String) :=
  if hpath : name ∈ path then
    .error (.circularDependency (path.dropWhile (· != name) ++ [name]))
  else if name ∈ placed ∨ name ∈ visited then
    .ok visited
  else
    match hfind : find? hooks name with
    | none => .error (.missingDependency (path.getLast?.getD "") name)
    | some hook =>
        have := offPath_lt_of_find? hfind hpath
        -- An unknown requirement shows before any requirement is visited.
        match hook.requires.find? fun dep => (find? hooks dep).isNone with
        | some dep => .error (.missingDependency name dep)
        | none => do
            let dependencies := sortByOrder (hook.requires.filterMap (find? hooks))
            let visited ← dependencies.foldlM
              (fun done dep => visit hooks placed (path ++ [name]) dep.name done) visited
            return visited ++ [name]
termination_by (offPath hooks path).length

def isPlaceable (placed : List String) (hook : HookSpec) : Bool :=
  hook.requires.all fun dep => placed.contains dep

/-- Place the remaining hooks after the placed ones. Each round places at least one hook, so as many
rounds as there are hooks suffice. -/
def place (hooks : List HookSpec) :
    (rounds : Nat) → (placed : List String) → Except LifecycleError (List String)
  | 0, placed => .ok placed
  | rounds + 1, placed =>
      let remaining := offPath hooks placed
      match firstBy (remaining.filter (isPlaceable placed)) with
      | some hook => place hooks rounds (placed ++ [hook.name])
      | none =>
          match firstBy remaining with
          | none => .ok placed
          | some root =>
              match visit hooks placed [] root.name [] with
              | .error e => .error e
              | .ok visited => place hooks rounds (placed ++ visited)

end StartupOrder

def resolveStartupOrder (hooks : List HookSpec) : Except LifecycleError (List String) :=
  StartupOrder.place hooks hooks.length []

end ServicePlane
