import ServicePlane.Proofs.Lifecycle.Fallback

/-!
# The resolution comes to an end

The loop that places hooks goes on as long as hooks are left, and the visit follows requirements
wherever they lead, around a cycle or to an unknown name. Neither counts its steps. Both end: a turn
of the loop leaves fewer hooks, and a call of the visit has a longer path of different hooks behind
it.

* `Turn hooks placed placed'` — one turn of the loop, `Ends hooks placed result` — where it stops;
* `Stuck hooks placed root` — the loop has come to a turn that makes a visit, from `root`;
* `VisitPath.of_visits` — where every call of such a visit stands;
* `visitWithin` — the visit with a bound on its depth, and without an answer to unregistered names;
* `resolution_ends` — all calls of the visit, their depth, and the end of the loop.
-/

namespace ServicePlane

universe u

namespace StartupOrder

open Relation

variable {hooks : List HookSpec} {placed placed' path visited : List String} {root : HookSpec}
  {name : String}

/-! ## Turns of the loop -/

/-- One turn of the loop: it places the next hook, or what a visit has completed. -/
inductive Turn (hooks : List HookSpec) : List String → List String → Prop where
  | next {placed : List String} {hook : HookSpec}
      (hnext : firstBy ((offPath hooks placed).filter (isPlaceable placed)) = some hook) :
      Turn hooks placed (placed ++ [hook.name])
  | visited {placed visited : List String} {root : HookSpec}
      (hstuck : firstBy ((offPath hooks placed).filter (isPlaceable placed)) = none)
      (hroot : firstBy (offPath hooks placed) = some root)
      (hvisit : visit hooks placed [] root.name [] = .ok visited) :
      Turn hooks placed (placed ++ visited)

/-- The loop stops: nothing is left to place, or a visit has failed. -/
inductive Ends (hooks : List HookSpec) (placed : List String) :
    Except LifecycleError (List String) → Prop where
  | complete (hall : offPath hooks placed = []) : Ends hooks placed (.ok placed)
  | failed {root : HookSpec} {e : LifecycleError}
      (hstuck : firstBy ((offPath hooks placed).filter (isPlaceable placed)) = none)
      (hroot : firstBy (offPath hooks placed) = some root)
      (hvisit : visit hooks placed [] root.name [] = .error e) : Ends hooks placed (.error e)

/-- The loop has come to `placed`, cannot place a hook there, and visits `root`. -/
structure Stuck (hooks : List HookSpec) (placed : List String) (root : HookSpec) : Prop where
  reached : ReflTransGen (Turn hooks) [] placed
  none_placeable : firstBy ((offPath hooks placed).filter (isPlaceable placed)) = none
  root_first : firstBy (offPath hooks placed) = some root

/-- Every turn leaves fewer hooks to place. -/
theorem Turn.offPath_lt (h : Turn hooks placed placed') :
    (offPath hooks placed').length < (offPath hooks placed).length := by
  cases h with
  | next hnext =>
      have hplaceable := (isNext_of_firstBy hnext).placeable
      exact StartupOrder.offPath_lt hplaceable.mem hplaceable.unplaced
  | visited hstuck hroot hvisit =>
      -- A visit from a hook that is left fails, so no turn places what one has completed.
      rcases visit_error_of_stuck hstuck hroot with ⟨e, herror, _⟩
      rw [hvisit] at herror
      cases herror

theorem turn_wellFounded (hooks : List HookSpec) :
    WellFounded fun later earlier => Turn hooks earlier later :=
  Subrelation.wf Turn.offPath_lt (measure fun placed => (offPath hooks placed).length).wf

/-- With a round for every hook that is left, the loop of `place` goes through turns until it stops,
and what it gives is what the loop has come to. -/
theorem place_ends (rounds : Nat) (hrounds : (offPath hooks placed).length ≤ rounds) :
    ∃ placed', ReflTransGen (Turn hooks) placed placed' ∧
      Ends hooks placed' (place hooks rounds placed) := by
  induction rounds generalizing placed with
  | zero =>
      have hall : offPath hooks placed = [] := List.eq_nil_of_length_eq_zero (by omega)
      exact ⟨placed, .refl, .complete hall⟩
  | succ rounds ih =>
      rw [place]
      cases hnext : firstBy ((offPath hooks placed).filter (isPlaceable placed)) with
      | some hook =>
          have hturn : Turn hooks placed (placed ++ [hook.name]) := .next hnext
          have hfewer := hturn.offPath_lt
          have hleft : (offPath hooks (placed ++ [hook.name])).length ≤ rounds := by
            omega
          rcases ih hleft with ⟨placed', hturns, hends⟩
          exact ⟨placed', .head hturn hturns, hends⟩
      | none =>
          cases hroot : firstBy (offPath hooks placed) with
          | none =>
              exact ⟨placed, .refl, .complete (firstBy_eq_none_iff.1 hroot)⟩
          | some root =>
              rcases visit_error_of_stuck hnext hroot with ⟨e, hvisit, _⟩
              refine ⟨placed, .refl, ?_⟩
              simp only [hvisit]
              exact .failed hnext hroot hvisit

/-! ## Calls of the visit -/

/-- The invariant holds at every call that a visit from a registered hook makes. -/
theorem VisitPath.of_visits (hroot : name ∈ names hooks) {path : List String} {called : String}
    (h : Visits hooks placed name path called visited) : VisitPath hooks placed path called := by
  induction h with
  | root =>
      exact .start hroot
  | @required path visited done called hook next front back _ hpath hnew hfind _ hsplit _ ih =>
      have hmem : next ∈ sortByOrder (hook.requires.filterMap (find? hooks)) := by
        rw [hsplit]
        simp
      exact ih.step_dependency hpath hnew hfind hmem

/-- A path of different registered hooks is no longer than the list of hooks. -/
theorem VisitPath.length_le (h : VisitPath hooks placed path name) : path.length ≤ hooks.length := by
  calc
    path.length ≤ (names hooks).length := List.Nodup.length_le_of_subset h.nodup h.registered
    _ = hooks.length := List.length_map _

/-! ## Bounded visits -/

/-- The visit as far as calls nested to this depth take it. Where it would go deeper, or look at a
name that is not registered, it has no result. -/
def visitWithin (hooks : List HookSpec) (placed : List String) :
    (depth : Nat) → List String → String → List String → ExceptT LifecycleError Option (List String)
  | 0, _, _, _ => .mk none
  | depth + 1, path, name, visited =>
      if name ∈ path then
        throw (.circularDependency (path.dropWhile (· != name) ++ [name]))
      else if name ∈ placed ∨ name ∈ visited then
        pure visited
      else
        match find? hooks name with
        | none => .mk none
        | some hook =>
            match hook.requires.find? fun dep => (find? hooks dep).isNone with
            | some dep => throw (.missingDependency name dep)
            | none => do
                let dependencies := sortByOrder (hook.requires.filterMap (find? hooks))
                let visited ← dependencies.foldlM
                  (fun done dep => visitWithin hooks placed depth (path ++ [name]) dep.name done)
                  visited
                return visited ++ [name]

/-- A fold of steps that all have a result has one, and it is that of the plain fold. -/
theorem foldlM_of_some {α β ε : Type} {f : β → α → ExceptT ε Option β} {g : β → α → Except ε β}
    {l : List α} (h : ∀ a ∈ l, ∀ b, f b a = .mk (some (g b a))) (b : β) :
    l.foldlM f b = .mk (some (l.foldlM g b)) := by
  induction l generalizing b with
  | nil =>
      rfl
  | cons a rest ih =>
      rw [List.foldlM_cons, List.foldlM_cons, h a (by simp)]
      cases g b a with
      | error e =>
          rfl
      | ok b' =>
          exact ih (fun a' ha' => h a' (by simp [ha'])) b'

/-- A bound that leaves a call for every hook outside the path, and one more, makes no difference to
a visit, and neither does the answer to unregistered names. -/
theorem visitWithin_eq (depth : Nat) (hpath : VisitPath hooks placed path name)
    (hdepth : (offPath hooks path).length ≤ depth) :
    visitWithin hooks placed (depth + 1) path name visited =
      .mk (some (visit hooks placed path name visited)) := by
  induction path, name, visited using visit.induct hooks placed generalizing depth with
  | case1 path name visited hmem =>
      rw [visitWithin, if_pos hmem, visit, dif_pos hmem]
      rfl
  | case2 path name visited hmem hdone =>
      rw [visitWithin, if_neg hmem, if_pos hdone, visit, dif_neg hmem, if_pos hdone]
      rfl
  | case3 path name visited hmem hdone hfind =>
      -- This is the branch that no visit comes to.
      exact absurd hpath.name_registered (find?_eq_none_iff.1 hfind)
  | case4 path name visited hmem hdone hook hfind _ dep hdep =>
      rw [visit_of_unknown hmem hdone hfind hdep, visitWithin, if_neg hmem, if_neg hdone]
      simp only [hfind, hdep]
      rfl
  | case5 path name visited hmem hdone hook hfind _ hknown ih =>
      have hfewer := offPath_lt_of_find? hfind hmem
      obtain ⟨depth, rfl⟩ : ∃ k, depth = k + 1 := ⟨depth - 1, by omega⟩
      have hfold := foldlM_of_some (l := sortByOrder (hook.requires.filterMap (find? hooks)))
        (f := fun done dep => visitWithin hooks placed (depth + 1) (path ++ [name]) dep.name done)
        (g := fun done dep => visit hooks placed (path ++ [name]) dep.name done) ?_ visited
      · rw [visit_of_known hmem hdone hfind hknown, visitWithin, if_neg hmem, if_neg hdone]
        simp only [hfind, hknown, hfold]
        cases List.foldlM (fun done dep => visit hooks placed (path ++ [name]) dep.name done)
            visited (sortByOrder (hook.requires.filterMap (find? hooks))) <;> rfl
      · -- From every requirement the visit has one hook less to go to, and one call less to do so.
        intro dep hdep done
        exact ih done dep depth (hpath.step_dependency hmem hdone hfind hdep) (by omega)

end StartupOrder

namespace LifecycleRegistry

open StartupOrder Relation

variable {σ : Type u}

/-- Whatever the startup hooks of a registry require, the resolution ends. At every call of the visit
the path holds different registered hooks outside the placed ones, each requiring the next, and the
hook that is looked at is registered; so calls are nested no deeper than there are hooks and one
more, and the branch for names that are not registered is never taken. No sequence of turns of the
loop is endless, and the startup order is what the last turn leaves. -/
theorem resolution_ends (r : LifecycleRegistry σ) :
    let specs := r.startupSpecs
    (∀ placed root, Stuck specs placed root →
      (∀ path name visited, Visits specs placed root.name path name visited →
        VisitPath specs placed path name ∧ path.length ≤ specs.length ∧
          find? specs name ≠ none) ∧
      visitWithin specs placed (specs.length + 1) [] root.name [] =
        .mk (some (visit specs placed [] root.name []))) ∧
    (WellFounded fun later earlier => Turn specs earlier later) ∧
    ∃ placed, ReflTransGen (Turn specs) [] placed ∧ Ends specs placed r.startupOrder := by
  intro specs
  refine ⟨?_, turn_wellFounded specs, ?_⟩
  · intro placed root hstuck
    rcases mem_offPath.1 (firstBy_spec hstuck.root_first).1 with ⟨hroot, _⟩
    have hregistered : root.name ∈ names specs := List.mem_map.2 ⟨root, hroot, rfl⟩
    constructor
    · intro path name visited hcall
      have hpath := VisitPath.of_visits hregistered hcall
      refine ⟨hpath, hpath.length_le, ?_⟩
      intro hfind
      exact find?_eq_none_iff.1 hfind hpath.name_registered
    · have hfew : (offPath specs []).length ≤ specs.length := List.length_filter_le _ _
      exact visitWithin_eq _ (.start hregistered) hfew
  · exact place_ends specs.length (List.length_filter_le _ _)

/-- Two hooks that require each other: the visit comes back to the first of them on a path of both,
so no lower bound on its depth would do. -/
theorem resolution_ends_mutual :
    let a : HookSpec := .of "a" 10 ["b"]
    let b : HookSpec := .of "b" 20 ["a"]
    let r := (LifecycleRun.of (LifecycleRun.registering [b, a])).registry
    let specs := r.startupSpecs
    Stuck specs [] a ∧ Visits specs [] "a" ["a", "b"] "a" [] ∧
      VisitPath specs [] ["a", "b"] "a" ∧ specs.length = 2 ∧
      visitWithin specs [] 3 [] "a" [] = .mk (some (visit specs [] [] "a" [])) ∧
      visitWithin specs [] 2 [] "a" [] = .mk none := by
  intro a b r specs
  have hspecs : specs = [b, a] := by
    decide +kernel
  have hstuck : Stuck specs [] a := ⟨.refl, by decide +kernel, by decide +kernel⟩
  have ha : find? specs "a" = some a := by
    decide +kernel
  have hb : find? specs "b" = some b := by
    decide +kernel
  have hfirst : Visits specs [] "a" ["a"] "b" [] :=
    .required .root (by decide) (by decide) ha (by decide +kernel)
      (show sortByOrder (a.requires.filterMap (find? specs)) = [] ++ b :: [] by decide +kernel) rfl
  have hsecond : Visits specs [] "a" ["a", "b"] "a" [] :=
    .required hfirst (by decide) (by decide) hb (by decide +kernel)
      (show sortByOrder (b.requires.filterMap (find? specs)) = [] ++ a :: [] by decide +kernel) rfl
  have hlength : specs.length = 2 := by
    rw [hspecs]
    rfl
  rcases (resolution_ends r).1 [] a hstuck with ⟨hcalls, hwithin⟩
  have hbound : visitWithin specs [] (specs.length + 1) [] "a" [] =
      .mk (some (visit specs [] [] "a" [])) := hwithin
  rw [hlength] at hbound
  refine ⟨hstuck, hsecond, (hcalls _ _ _ hsecond).1, hlength, hbound, ?_⟩
  rw [hspecs]
  rfl

end LifecycleRegistry

end ServicePlane
