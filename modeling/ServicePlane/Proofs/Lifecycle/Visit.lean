import ServicePlane.Proofs.Lifecycle.Requirement

/-!
# The depth-first visit

What the visit of `StartupOrder.visit` finds. It walks along requirements, and everything it says
rests on one invariant of where it stands:

* `VisitPath hooks placed path name` — the path holds registered hooks outside the placed ones, none
  twice, each requiring the next, and the last one requires the hook that is looked at;
* `VisitPath.step` — the invariant goes over to every requirement that the visit follows;
* `blames_of_visit_error` — a visit that fails names a fault of the hooks;
* `placed_of_visit_ok` — when no hook outside the placed ones is placeable, a visit succeeds only on
  a placed hook, so that a visit from a remaining one always fails.
-/

namespace ServicePlane

namespace StartupOrder

variable {hooks : List HookSpec} {placed path visited : List String} {name : String}

/-! ## Sorting and folding -/

theorem mem_sortByOrder {hook : HookSpec} : hook ∈ sortByOrder hooks ↔ hook ∈ hooks := by
  suffices hfold : ∀ sorted : List HookSpec,
      hook ∈ hooks.foldl (fun sorted h => insertByOrder h sorted) sorted ↔
        hook ∈ sorted ∨ hook ∈ hooks by
    simpa [sortByOrder] using hfold []
  induction hooks with
  | nil =>
      intro sorted
      simp
  | cons h rest ih =>
      intro sorted
      simp only [List.foldl_cons, ih, mem_insertByOrder, List.mem_cons]
      constructor
      · rintro ((h | h) | h) <;> simp [h]
      · rintro (h | h | h) <;> simp [h]

/-- The hooks that a visit goes on to are those that are required and registered. -/
theorem mem_dependencies {requires : List String} {dep : HookSpec} :
    dep ∈ sortByOrder (requires.filterMap (find? hooks)) ↔
      dep.name ∈ requires ∧ find? hooks dep.name = some dep := by
  rw [mem_sortByOrder, List.mem_filterMap]
  constructor
  · rintro ⟨n, hn, hfind⟩
    rcases name_of_find? hfind with ⟨_, rfl⟩
    exact ⟨hn, hfind⟩
  · rintro ⟨hreq, hfind⟩
    exact ⟨dep.name, hreq, hfind⟩

/-- A fold that fails has succeeded up to one of its steps, and fails there. -/
theorem exists_split_of_foldlM_error {α β ε : Type} {f : β → α → Except ε β} {e : ε} {l : List α}
    {b : β} (h : l.foldlM f b = .error e) :
    ∃ front a back b', l = front ++ a :: back ∧ front.foldlM f b = .ok b' ∧ f b' a = .error e := by
  induction l generalizing b with
  | nil =>
      cases h
  | cons a rest ih =>
      rw [List.foldlM_cons] at h
      cases hstep : f b a with
      | error e' =>
          rw [hstep] at h
          cases h
          exact ⟨[], a, rest, b, rfl, rfl, hstep⟩
      | ok b₁ =>
          rw [hstep] at h
          rcases ih h with ⟨front, a', back, b', rfl, hfront, hfail⟩
          refine ⟨a :: front, a', back, b', rfl, ?_, hfail⟩
          rw [List.foldlM_cons, hstep]
          exact hfront

/-- A fold whose steps leave the value alone, and succeed only on good elements, has succeeded on
good elements only, and has left the value alone. -/
theorem forall_of_foldlM_ok {α β ε : Type} {f : β → α → Except ε β} (good : α → Prop) {b b' : β}
    {l : List α} (hstep : ∀ a ∈ l, ∀ b', f b a = .ok b' → good a ∧ b' = b)
    (h : l.foldlM f b = .ok b') : (∀ a ∈ l, good a) ∧ b' = b := by
  induction l with
  | nil =>
      cases h
      simp
  | cons a rest ih =>
      rw [List.foldlM_cons] at h
      cases hfirst : f b a with
      | error e =>
          rw [hfirst] at h
          cases h
      | ok c =>
          rw [hfirst] at h
          rcases hstep a (by simp) c hfirst with ⟨hgood, rfl⟩
          rcases ih (fun a' ha' => hstep a' (by simp [ha'])) h with ⟨hrest, hsame⟩
          refine ⟨?_, hsame⟩
          intro a' ha'
          rcases List.mem_cons.1 ha' with rfl | ha'
          · exact hgood
          · exact hrest a' ha'

/-- In a list without repetitions, dropping what comes before an entry begins with it. -/
theorem dropWhile_of_nodup {front back : List String} (h : (front ++ name :: back).Nodup) :
    (front ++ name :: back).dropWhile (· != name) = name :: back := by
  have hfront : ∀ x ∈ front, (x != name) = true := by
    intro x hx
    simpa using (List.nodup_append.1 h).2.2 x hx name (by simp)
  rw [List.dropWhile_append_of_pos hfront, List.dropWhile_cons_of_neg (by simp)]

/-! ## Where the visit stands -/

/-- Where a visit stands: what it has passed, and the hook it looks at. -/
structure VisitPath (hooks : List HookSpec) (placed path : List String) (name : String) : Prop where
  nodup : path.Nodup
  registered : ∀ x ∈ path, x ∈ names hooks
  unplaced : ∀ x ∈ path, x ∉ placed
  chain : (path ++ [name]).IsChain (Requires hooks)
  name_registered : name ∈ names hooks

namespace VisitPath

theorem start (h : name ∈ names hooks) : VisitPath hooks placed [] name where
  nodup := List.nodup_nil
  registered := by simp
  unplaced := by simp
  chain := by simp
  name_registered := h

/-- From a hook that is neither on the path nor placed, the visit goes on to what it requires. -/
theorem step {dep : String} (h : VisitPath hooks placed path name) (hpath : name ∉ path)
    (hplaced : name ∉ placed) (hreq : Requires hooks name dep) (hdep : dep ∈ names hooks) :
    VisitPath hooks placed (path ++ [name]) dep where
  nodup := by
    simpa using h.nodup.concat hpath
  registered := by
    intro x hx
    rcases List.mem_append.1 hx with hx | hx
    · exact h.registered x hx
    · rw [List.mem_singleton.1 hx]
      exact h.name_registered
  unplaced := by
    intro x hx
    rcases List.mem_append.1 hx with hx | hx
    · exact h.unplaced x hx
    · rw [List.mem_singleton.1 hx]
      exact hplaced
  chain := List.isChain_append.2 ⟨h.chain, List.isChain_singleton dep, by simpa using hreq⟩
  name_registered := hdep

/-- The same for a hook that a visit of `name` goes on to. -/
theorem step_dependency {hook dep : HookSpec} (h : VisitPath hooks placed path name)
    (hpath : name ∉ path) (hdone : ¬ (name ∈ placed ∨ name ∈ visited))
    (hfind : find? hooks name = some hook)
    (hdep : dep ∈ sortByOrder (hook.requires.filterMap (find? hooks))) :
    VisitPath hooks placed (path ++ [name]) dep.name := by
  rcases mem_dependencies.1 hdep with ⟨hreq, hdepfind⟩
  have hregistered : dep.name ∈ names hooks :=
    List.mem_map.2 ⟨dep, (name_of_find? hdepfind).1, rfl⟩
  have hunplaced : name ∉ placed := fun hplaced => hdone (Or.inl hplaced)
  exact h.step hpath hunplaced (requires_of_find? hfind hreq) hregistered

/-- A hook that is on the path already closes a way round. -/
theorem isCycle (h : VisitPath hooks placed path name) (hmem : name ∈ path) :
    IsCycle hooks (path.dropWhile (· != name) ++ [name]) := by
  rcases List.append_of_mem hmem with ⟨front, back, rfl⟩
  rw [dropWhile_of_nodup h.nodup]
  exact {
    two_le_length := by simp
    head_eq_last := by
      rw [List.getLast?_concat]
      rfl
    nodup := by
      rw [List.dropLast_concat]
      exact (List.nodup_append.1 h.nodup).2.1
    registered := by
      intro x hx
      rw [List.dropLast_concat] at hx
      exact h.registered x (by simp [hx])
    chain := by
      have hchain := h.chain
      rw [List.append_assoc] at hchain
      exact hchain.right_of_append }

end VisitPath

/-! ## What a visit does -/

section Equations

variable {hook : HookSpec} (hpath : name ∉ path) (hdone : ¬ (name ∈ placed ∨ name ∈ visited))

include hpath hdone

theorem visit_of_unregistered (hfind : find? hooks name = none) :
    visit hooks placed path name visited =
      .error (.missingDependency (path.getLast?.getD "") name) := by
  rw [visit, dif_neg hpath, if_neg hdone]
  split
  · rfl
  · rename_i other hother
    rw [hfind] at hother
    cases hother

theorem visit_of_unknown {dep : String} (hfind : find? hooks name = some hook)
    (hdep : hook.requires.find? (fun dep => (find? hooks dep).isNone) = some dep) :
    visit hooks placed path name visited = .error (.missingDependency name dep) := by
  rw [visit, dif_neg hpath, if_neg hdone]
  split
  · rename_i hother
    rw [hfind] at hother
    cases hother
  · rename_i other hother
    rw [hfind] at hother
    cases hother
    rw [hdep]

theorem visit_of_known (hfind : find? hooks name = some hook)
    (hknown : hook.requires.find? (fun dep => (find? hooks dep).isNone) = none) :
    visit hooks placed path name visited =
      match (sortByOrder (hook.requires.filterMap (find? hooks))).foldlM
        (fun done dep => visit hooks placed (path ++ [name]) dep.name done) visited with
      | .error e => .error e
      | .ok visited => .ok (visited ++ [name]) := by
  rw [visit, dif_neg hpath, if_neg hdone]
  split
  · rename_i hother
    rw [hfind] at hother
    cases hother
  · rename_i other hother
    rw [hfind] at hother
    cases hother
    rw [hknown]
    dsimp only
    cases List.foldlM (fun done dep => visit hooks placed (path ++ [name]) dep.name done) visited
        (sortByOrder (hook.requires.filterMap (find? hooks))) with
    | error e => rfl
    | ok done => rfl

end Equations

/-! ## Failing visits -/

/-- A visit that fails names a fault of the hooks. -/
theorem blames_of_visit_error {e : LifecycleError} (hpath : VisitPath hooks placed path name)
    (h : visit hooks placed path name visited = .error e) : Blames hooks e := by
  induction path, name, visited using visit.induct hooks placed generalizing e with
  | case1 path name visited hmem =>
      -- The path comes back to one of its own hooks.
      rw [visit, dif_pos hmem] at h
      cases h
      exact hpath.isCycle hmem
  | case2 path name visited hmem hdone =>
      rw [visit, dif_neg hmem, if_pos hdone] at h
      cases h
  | case3 path name visited hmem hdone hfind =>
      -- The visit looks at registered names only.
      exact absurd hpath.name_registered (find?_eq_none_iff.1 hfind)
  | case4 path name visited hmem hdone hook hfind _ dep hdep =>
      -- The hook requires a name that is not registered.
      rw [visit_of_unknown hmem hdone hfind hdep] at h
      cases h
      have hunknown := List.find?_some hdep
      exact ⟨hpath.name_registered, requires_of_find? hfind (List.mem_of_find?_eq_some hdep),
        find?_isNone_iff.1 hunknown⟩
  | case5 path name visited hmem hdone hook hfind _ hknown ih =>
      rw [visit_of_known hmem hdone hfind hknown] at h
      split at h
      case h_2 =>
        cases h
      -- The visit of a required hook fails, and the path to it is a longer one of the same kind.
      rename_i hfold
      cases h
      rcases exists_split_of_foldlM_error hfold with ⟨front, dep, back, done, hsplit, _, hfail⟩
      have hdep : dep ∈ sortByOrder (hook.requires.filterMap (find? hooks)) := by
        rw [hsplit]
        simp
      exact ih done dep (hpath.step_dependency hmem hdone hfind hdep) hfail

/-! ## Visits when nothing is placeable -/

/-- When no hook outside the placed ones is placeable, a first visit succeeds only on a placed
hook, and completes nothing. -/
theorem placed_of_visit_ok
    (hstuck : ∀ hook ∈ hooks, hook.name ∉ placed → isPlaceable placed hook = false)
    (h : visit hooks placed path name [] = .ok visited) : name ∈ placed ∧ visited = [] := by
  -- Nothing is completed on the way, so every visit that the induction comes to is a first one.
  generalize hstart : ([] : List String) = start at h
  induction path, name, start using visit.induct hooks placed generalizing visited with
  | case1 path name start hmem =>
      rw [visit, dif_pos hmem] at h
      cases h
  | case2 path name start hmem hdone =>
      rw [visit, dif_neg hmem, if_pos hdone] at h
      cases h
      subst hstart
      simpa using hdone
  | case3 path name start hmem hdone hfind =>
      rw [visit_of_unregistered hmem hdone hfind] at h
      cases h
  | case4 path name start hmem hdone hook hfind _ dep hdep =>
      rw [visit_of_unknown hmem hdone hfind hdep] at h
      cases h
  | case5 path name start hmem hdone hook hfind _ hknown ih =>
      exfalso
      rw [visit_of_known hmem hdone hfind hknown] at h
      split at h
      case h_1 =>
        cases h
      rename_i hfold
      have hdeps := forall_of_foldlM_ok (fun dep => dep.name ∈ placed)
        (fun dep _ done hok => by simpa [hstart] using ih start dep hstart hok) hfold |>.1
      have hunplaced : name ∉ placed := fun hplaced => hdone (Or.inl hplaced)
      rcases name_of_find? hfind with ⟨hm, rfl⟩
      -- All that the hook requires is placed, so it would have been placeable.
      have hplaceable : isPlaceable placed hook = true := by
        refine List.all_eq_true.2 ?_
        intro dep hdep
        have hdepknown := List.find?_eq_none.1 hknown dep hdep
        cases hdepfind : find? hooks dep with
        | none =>
            simp [hdepfind] at hdepknown
        | some other =>
            rcases name_of_find? hdepfind with ⟨_, rfl⟩
            have hmem := hdeps other (mem_dependencies.2 ⟨hdep, hdepfind⟩)
            simpa using hmem
      rw [hstuck hook hm hunplaced] at hplaceable
      cases hplaceable

end StartupOrder

end ServicePlane
