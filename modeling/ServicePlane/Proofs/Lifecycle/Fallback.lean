import ServicePlane.Proofs.Lifecycle.Resolution
import ServicePlane.Proofs.Lifecycle.Walk

/-!
# What a stuck placement finds

When no hook is placeable any more, the hooks that are placed are those that can start, and the
depth-first visit is nothing but the walk: every requirement that it completes was placed before, so
it completes none, and the first one that was not placed is where the walk goes on.

* `mem_placed_iff_startable` — what is placed when the loop is stuck;
* `walkFinds_of_visit_error` — a visit that fails along the walk fails with what the walk shows;
* `Visits hooks placed root path name visited` — the calls that a visit from `root` makes;
* `startupOrder_error_iff_walkFinds` — the error of the startup order is the one of the walk, and a
  stuck placement always ends with an error and never with visited hooks.
-/

namespace ServicePlane

universe u

namespace StartupOrder

variable {hooks : List HookSpec} {placed path visited : List String} {hook : HookSpec}
  {name dep : String} {e : LifecycleError}

/-- The first unknown name of an ascending list is the least one. -/
theorem leastUnknown_of_find? (hnames : (names hooks).Nodup) (hfind : find? hooks name = some hook)
    (hdep : hook.requires.find? (fun dep => (find? hooks dep).isNone) = some dep) :
    LeastUnknown hooks name dep where
  requires := requires_of_find? hfind (List.mem_of_find?_eq_some hdep)
  unknown := by
    have hunknown := List.find?_some hdep
    exact find?_isNone_iff.1 hunknown
  least := by
    intro other hreq hunknown
    rcases name_of_find? hfind with ⟨hm, rfl⟩
    rcases List.find?_eq_some_iff_append.1 hdep with ⟨_, front, back, hsplit, hfront⟩
    have hother := mem_requires_of_requires hnames hm hreq
    rw [hsplit] at hother
    have hascending := hook.requires_ascending
    rw [hsplit] at hascending
    rcases List.mem_append.1 hother with hother | hother
    · -- Before the first unknown name there are known ones only.
      have hknown := hfront other hother
      rw [find?_isNone_iff.2 hunknown] at hknown
      cases hknown
    · rcases List.mem_cons.1 hother with rfl | hother
      · exact le_refl _
      · have hlater := (List.pairwise_cons.1 (List.pairwise_append.1 hascending).2.1).1 other hother
        exact le_of_lt (Text.utf8Bytes_lt_iff.2 hlater)

theorem known_of_find?_eq_none (hnames : (names hooks).Nodup) (hfind : find? hooks name = some hook)
    (hknown : hook.requires.find? (fun dep => (find? hooks dep).isNone) = none) :
    Known hooks name := by
  intro y hreq
  rcases name_of_find? hfind with ⟨hm, rfl⟩
  have hregistered := List.find?_eq_none.1 hknown y (mem_requires_of_requires hnames hm hreq)
  by_contra hmissing
  exact hregistered (find?_isNone_iff.2 hmissing)

/-! ## Sorted requirements -/

theorem pairwise_insertByOrder (h : hooks.Pairwise (key · ≤ key ·)) :
    (insertByOrder hook hooks).Pairwise (key · ≤ key ·) := by
  induction hooks with
  | nil =>
      simp [insertByOrder]
  | cons first rest ih =>
      rcases List.pairwise_cons.1 h with ⟨hleast, hrest⟩
      simp only [insertByOrder]
      split
      · rename_i hbefore
        have hlt := before_iff.1 hbefore
        refine List.pairwise_cons.2 ⟨?_, h⟩
        intro other hother
        rcases List.mem_cons.1 hother with rfl | hother
        · exact le_of_lt hlt
        · exact le_trans (le_of_lt hlt) (hleast other hother)
      · rename_i hbefore
        refine List.pairwise_cons.2 ⟨?_, ih hrest⟩
        intro other hother
        rcases mem_insertByOrder.1 hother with rfl | hother
        · exact not_lt.1 fun hlt => hbefore (before_iff.2 hlt)
        · exact hleast other hother

theorem pairwise_sortByOrder (hooks : List HookSpec) :
    (sortByOrder hooks).Pairwise (key · ≤ key ·) := by
  suffices hfold : ∀ sorted : List HookSpec, sorted.Pairwise (key · ≤ key ·) →
      (hooks.foldl (fun sorted h => insertByOrder h sorted) sorted).Pairwise (key · ≤ key ·) from
    hfold [] List.Pairwise.nil
  induction hooks with
  | nil =>
      intro sorted h
      exact h
  | cons hook rest ih =>
      intro sorted h
      exact ih _ (pairwise_insertByOrder h)

/-! ## Placed hooks -/

/-- A hook that may be placed can start, as what is placed can. -/
theorem Placeable.startable (h : Placeable hooks placed hook)
    (hplaced : ∀ x ∈ placed, Startable hooks x) :
    ∀ x ∈ placed ++ [hook.name], Startable hooks x := by
  intro x hx
  rcases List.mem_append.1 hx with hx | hx
  · exact hplaced x hx
  · rw [List.mem_singleton.1 hx]
    exact .intro h.mem fun y hy => hplaced y (h.requires_placed y hy)

/-- When nothing is placeable, the hooks that are placed are those that can start. -/
theorem mem_placed_iff_startable (hplaced : ∀ x ∈ placed, Startable hooks x)
    (hstuck : ∀ hook ∈ hooks, hook.name ∉ placed → isPlaceable placed hook = false) (x : String) :
    x ∈ placed ↔ Startable hooks x := by
  constructor
  · exact hplaced x
  · intro h
    induction h with
    | @intro hook hm _ ih =>
        by_contra hunplaced
        have hnot := hstuck hook hm hunplaced
        rw [isPlaceable_iff.2 ih] at hnot
        cases hnot

/-- Of the sorted requirements of a hook, the first one that is not placed is where the walk goes
on. -/
theorem onward_of_split {front back : List HookSpec} {next : HookSpec}
    (hnames : (names hooks).Nodup) (hstartable : ∀ x, x ∈ placed ↔ Startable hooks x)
    (hfind : find? hooks name = some hook)
    (hsplit : sortByOrder (hook.requires.filterMap (find? hooks)) = front ++ next :: back)
    (hfront : ∀ dep ∈ front, dep.name ∈ placed) (hnext : next.name ∉ placed) :
    Onward hooks name next.name := by
  rcases name_of_find? hfind with ⟨hm, rfl⟩
  rcases mem_dependencies.1 (hsplit ▸ List.mem_append_right front List.mem_cons_self)
    with ⟨hreq, hnextfind⟩
  refine ⟨next, (name_of_find? hnextfind).1, rfl,
    ⟨requires_of_find? hfind hreq, fun h => hnext ((hstartable _).2 h)⟩, ?_⟩
  rintro other hother ⟨hotherreq, hnot⟩
  have hmem : other ∈ front ++ next :: back := by
    rw [← hsplit]
    exact mem_dependencies.2
      ⟨mem_requires_of_requires hnames hm hotherreq, find?_of_mem hnames hother⟩
  rcases List.mem_append.1 hmem with hmem | hmem
  · -- What was visited before is placed, and can start.
    exact absurd ((hstartable _).1 (hfront other hmem)) hnot
  · rcases List.mem_cons.1 hmem with rfl | hmem
    · exact le_refl _
    · have hsorted := pairwise_sortByOrder (hook.requires.filterMap (find? hooks))
      rw [hsplit] at hsorted
      exact (List.pairwise_cons.1 (List.pairwise_append.1 hsorted).2.1).1 other hmem

/-! ## The visit along the walk -/

/-- A visit that stands on the walk and fails, fails with what the walk shows. -/
theorem walkFinds_of_visit_error (hnames : (names hooks).Nodup)
    (hstuck : ∀ hook ∈ hooks, hook.name ∉ placed → isPlaceable placed hook = false)
    (hstartable : ∀ x, x ∈ placed ↔ Startable hooks x) (hwalking : Walking hooks path name)
    (h : visit hooks placed path name [] = .error e) : WalkFinds hooks e := by
  -- Nothing is completed on the way, so every visit that the induction comes to is a first one.
  generalize hstart : ([] : List String) = start at h
  induction path, name, start using visit.induct hooks placed generalizing e with
  | case1 path name start hmem =>
      -- The walk has come round.
      rw [visit, dif_pos hmem] at h
      cases h
      rcases List.append_of_mem hmem with ⟨front, back, rfl⟩
      rw [dropWhile_of_nodup hwalking.nodup]
      exact WalkFinds.around hwalking
  | case2 path name start hmem hdone =>
      rw [visit, dif_neg hmem, if_pos hdone] at h
      cases h
  | case3 path name start hmem hdone hfind =>
      -- The walk keeps to registered hooks.
      exact absurd hwalking.not_startable.1 (find?_eq_none_iff.1 hfind)
  | case4 path name start hmem hdone hook hfind _ dep hdep =>
      rw [visit_of_unknown hmem hdone hfind hdep] at h
      cases h
      exact WalkFinds.unknown hwalking (leastUnknown_of_find? hnames hfind hdep)
  | case5 path name start hmem hdone hook hfind _ hunknown ih =>
      rw [visit_of_known hmem hdone hfind hunknown] at h
      split at h
      case h_2 =>
        cases h
      rename_i hfold
      cases h
      subst hstart
      rcases exists_split_of_foldlM_error hfold with ⟨front, next, back, done, hsplit, hok, hfail⟩
      -- The visits before the failing one have found placed hooks, and completed nothing.
      rcases forall_of_foldlM_ok (fun dep => dep.name ∈ placed)
        (fun dep _ done hvisit => placed_of_visit_ok hstuck hvisit) hok with ⟨hfront, rfl⟩
      have hnext : next.name ∉ placed := by
        intro hplaced
        have hoff : next.name ∉ path ++ [name] := fun hon =>
          (hwalking.isWalk.not_startable hon).2 ((hstartable _).1 hplaced)
        rw [visit, dif_neg hoff, if_pos (Or.inl hplaced)] at hfail
        cases hfail
      have honward := onward_of_split hnames hstartable hfind hsplit hfront hnext
      have hknown := known_of_find?_eq_none hnames hfind hunknown
      exact ih [] next (hwalking.step hmem hknown honward) rfl hfail

/-- The calls that a visit from `root` makes: its own, and from a call on a new hook that requires
registered hooks only, one for each requirement to which the visits before it let it come. -/
inductive Visits (hooks : List HookSpec) (placed : List String) (root : String) :
    List String → String → List String → Prop where
  | root : Visits hooks placed root [] root []
  | required {path visited done : List String} {name : String} {hook next : HookSpec}
      {front back : List HookSpec} (hcall : Visits hooks placed root path name visited)
      (hpath : name ∉ path) (hnew : ¬ (name ∈ placed ∨ name ∈ visited))
      (hfind : find? hooks name = some hook)
      (hknown : hook.requires.find? (fun dep => (find? hooks dep).isNone) = none)
      (hsplit : sortByOrder (hook.requires.filterMap (find? hooks)) = front ++ next :: back)
      (hfront : front.foldlM (fun done dep => visit hooks placed (path ++ [name]) dep.name done)
        visited = .ok done) :
      Visits hooks placed root (path ++ [name]) next.name done

/-- No call of a stuck visit is given visited hooks. -/
theorem Visits.visited_eq_nil {root : String}
    (hstuck : ∀ hook ∈ hooks, hook.name ∉ placed → isPlaceable placed hook = false)
    (h : Visits hooks placed root path name visited) : visited = [] := by
  induction h with
  | root =>
      rfl
  | required _ _ _ _ _ _ hfront ih =>
      subst ih
      exact (forall_of_foldlM_ok _ (fun dep _ done hok => placed_of_visit_ok hstuck hok) hfront).2

/-! ## The loop -/

/-- As long as only hooks that can start are placed, the loop fails with what the walk shows. -/
theorem walkFinds_of_place_error (hnames : (names hooks).Nodup) (rounds : Nat)
    (hplaced : ∀ x ∈ placed, Startable hooks x) (h : place hooks rounds placed = .error e) :
    WalkFinds hooks e := by
  induction rounds generalizing placed with
  | zero =>
      cases h
  | succ rounds ih =>
      rw [place] at h
      cases hnext : firstBy ((offPath hooks placed).filter (isPlaceable placed)) with
      | some hook =>
          simp only [hnext] at h
          exact ih ((isNext_of_firstBy hnext).placeable.startable hplaced) h
      | none =>
          simp only [hnext] at h
          cases hroot : firstBy (offPath hooks placed) with
          | none =>
              simp only [hroot] at h
              cases h
          | some root =>
              simp only [hroot] at h
              have hstuck := not_placeable_of_stuck hnext
              have hstartable := mem_placed_iff_startable hplaced hstuck
              rcases firstBy_spec hroot with ⟨hmem, hleast⟩
              rcases mem_offPath.1 hmem with ⟨hm, hunplaced⟩
              -- The hooks that are left are those that cannot start, so the walk begins at the root.
              have hfirst : First hooks (fun x => ¬ Startable hooks x) root.name := by
                refine ⟨root, hm, rfl, fun hs => hunplaced ((hstartable _).2 hs), ?_⟩
                intro other hother hnot
                exact hleast other (mem_offPath.2 ⟨hother, fun hmem => hnot (hplaced _ hmem)⟩)
              rcases visit_error_of_stuck hnext hroot with ⟨e', hvisit, _⟩
              simp only [hvisit] at h
              cases h
              exact walkFinds_of_visit_error hnames hstuck hstartable (.start hfirst) hvisit

/-- Hooks that are all placed can all start. -/
theorem Places.startable {order : List String} (h : Places hooks placed order)
    (hplaced : ∀ x ∈ placed, Startable hooks x) : ∀ x ∈ names hooks, Startable hooks x := by
  induction h with
  | done hall =>
      intro x hx
      exact hplaced x (hall x hx)
  | next hnext _ ih =>
      exact ih (hnext.placeable.startable hplaced)

theorem resolveStartupOrder_eq_error_iff (hnames : (names hooks).Nodup) :
    resolveStartupOrder hooks = .error e ↔ WalkFinds hooks e := by
  have hwalk : ∀ {e}, resolveStartupOrder hooks = .error e → WalkFinds hooks e :=
    walkFinds_of_place_error hnames hooks.length (by simp)
  constructor
  · exact hwalk
  · intro h
    rcases resolveStartupOrder_cases hooks with ⟨order, _, hplaces⟩ | ⟨e', herror, _⟩
    · -- An order places every hook, but the walk stands on one that cannot start.
      rcases h.exists_not_startable with ⟨x, hx, hnot⟩
      exact absurd (hplaces.startable (by simp) x hx) hnot
    · rw [herror, (hwalk herror).unique h]

end StartupOrder

namespace LifecycleRun

open LifecycleRegistry StartupOrder

variable {σ : Type u}

/-- After any calls, the startup order fails exactly when the walk comes to an end, and with what
the walk shows there. Wherever the placement is stuck, the visit from the first hook that is left
fails, and no call that it makes has visited hooks, neither before it nor after it. -/
theorem startupOrder_error_iff_walkFinds (calls : List (LifecycleCall σ)) :
    let specs := (of calls).registry.startupSpecs
    (∀ e, (of calls).registry.startupOrder = .error e ↔ WalkFinds specs e) ∧
      ∀ placed root, firstBy ((offPath specs placed).filter (isPlaceable placed)) = none →
        firstBy (offPath specs placed) = some root →
        (∃ e, visit specs placed [] root.name [] = .error e) ∧
          ∀ path name visited, Visits specs placed root.name path name visited →
            visited = [] ∧ ∀ done, visit specs placed path name visited = .ok done → done = [] := by
  intro specs
  have hnames : (names specs).Nodup := startup_names_nodup calls
  refine ⟨fun e => resolveStartupOrder_eq_error_iff hnames, ?_⟩
  intro placed root hstuck hroot
  rcases visit_error_of_stuck hstuck hroot with ⟨e, hvisit, _⟩
  refine ⟨⟨e, hvisit⟩, ?_⟩
  intro path name visited hcall
  have hnone := not_placeable_of_stuck hstuck
  cases hcall.visited_eq_nil hnone
  exact ⟨rfl, fun done hok => (placed_of_visit_ok hnone hok).2⟩

/-- From `web`, which has the lowest place, the walk leads past the placed `db` into the way round
of `cache` and `queue`; `web` itself is not on it. -/
theorem startupOrder_error_iff_walkFinds_behind :
    let web := HookSpec.of "web" 1 ["db", "cache"]
    let cache := HookSpec.of "cache" 20 ["queue", "db"]
    let queue := HookSpec.of "queue" 10 ["cache"]
    let db := HookSpec.of "db" 30 []
    let calls := registering [web, cache, queue, db]
    let specs := (of calls).registry.startupSpecs
    WalkFinds specs (.circularDependency ["cache", "queue", "cache"]) ∧
      ∃ e, visit specs ["db"] [] web.name [] = .error e := by
  intro web cache queue db calls specs
  have herror : (of calls).registry.startupOrder =
      .error (.circularDependency ["cache", "queue", "cache"]) := by
    decide +kernel
  rcases startupOrder_error_iff_walkFinds calls with ⟨hwalk, hvisit⟩
  refine ⟨(hwalk _).1 herror, ?_⟩
  exact (hvisit ["db"] web (by decide +kernel) (by decide +kernel)).1

end LifecycleRun

end ServicePlane
