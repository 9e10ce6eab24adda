import ServicePlane.Proofs.Lifecycle.Resolution

/-!
# One more startup hook

A hook that no other hook requires can be registered without moving the others. From the moment at
which it may be placed it competes with them at every step, but it never lets one of them pass
another: leaving it out of a run of the placement leaves a run of the others.

* `placeable_append_iff` — the further hook does not decide which of the others may be placed;
* `Places.of_append` — a run of all hooks without the further one is a run of the others;
* `Resolvable.append` — the further hook brings no fault with it;
* `startupOrder_add` — the new order exists, and is the old one with the name put in somewhere.
-/

namespace ServicePlane

universe u

namespace StartupOrder

open Relation

variable {hooks : List HookSpec} {placed order : List String} {spec hook : HookSpec}

theorem names_append (hooks : List HookSpec) (spec : HookSpec) :
    names (hooks ++ [spec]) = names hooks ++ [spec.name] := by
  simp [names]

section Unrequired

variable (hnew : spec.name ∉ names hooks) (hunrequired : ∀ x, ¬ Requires hooks x spec.name)

include hnew hunrequired

/-- Which of the other hooks may be placed does not depend on the further one. -/
theorem placeable_append_iff (hm : hook ∈ hooks) :
    Placeable (hooks ++ [spec]) placed hook ↔
      Placeable hooks (placed.filter (· ≠ spec.name)) hook := by
  have hname : hook.name ≠ spec.name := by
    intro hsame
    exact hnew (hsame ▸ List.mem_map_of_mem hm)
  have hrequired : ∀ y ∈ hook.requires, y ≠ spec.name := by
    rintro y hy rfl
    exact hunrequired hook.name ⟨hook, hm, rfl, hy⟩
  constructor
  · rintro ⟨_, hunplaced, hreq⟩
    refine ⟨hm, ?_, ?_⟩
    · intro hmem
      exact hunplaced (List.mem_filter.1 hmem).1
    · intro y hy
      exact List.mem_filter.2 ⟨hreq y hy, by simpa using hrequired y hy⟩
  · rintro ⟨_, hunplaced, hreq⟩
    refine ⟨List.mem_append_left _ hm, ?_, ?_⟩
    · intro hmem
      exact hunplaced (List.mem_filter.2 ⟨hmem, by simpa using hname⟩)
    · intro y hy
      exact (List.mem_filter.1 (hreq y hy)).1

/-- Leaving out the further hook turns a run of all hooks into a run of the others. -/
theorem Places.of_append (h : Places (hooks ++ [spec]) placed order) :
    Places hooks (placed.filter (· ≠ spec.name)) (order.filter (· ≠ spec.name)) := by
  induction h with
  | @done placed hall =>
      refine Places.done ?_
      intro x hx
      have hne : x ≠ spec.name := by
        rintro rfl
        exact hnew hx
      have hmem : x ∈ placed := hall x (by rw [names_append]; exact List.mem_append_left _ hx)
      exact List.mem_filter.2 ⟨hmem, by simpa using hne⟩
  | @next placed order hook hnext _ ih =>
      rcases List.mem_append.1 hnext.placeable.mem with hm | hm
      · have hname : hook.name ≠ spec.name := by
          intro hsame
          exact hnew (hsame ▸ List.mem_map_of_mem hm)
        have hplaced : (placed ++ [hook.name]).filter (· ≠ spec.name) =
            placed.filter (· ≠ spec.name) ++ [hook.name] := by
          simp [List.filter_append, hname]
        rw [hplaced] at ih
        refine Places.next ⟨(placeable_append_iff hnew hunrequired hm).1 hnext.placeable, ?_⟩ ih
        -- Whatever may be placed among the others could be placed among all.
        intro other hother
        exact hnext.least other ((placeable_append_iff hnew hunrequired hother.mem).2 hother)
      · -- The further hook is placed, and the others have not moved.
        have hplaced : (placed ++ [hook.name]).filter (· ≠ spec.name) =
            placed.filter (· ≠ spec.name) := by
          rw [List.mem_singleton.1 hm]
          simp [List.filter_append]
        rw [hplaced] at ih
        exact ih

/-- Nobody leads to the further hook, so it closes no way round, and a way round of the others would
have been there before. -/
theorem Resolvable.append (h : Resolvable hooks)
    (hregistered : ∀ y ∈ spec.requires, y ∈ names hooks) : Resolvable (hooks ++ [spec]) where
  registered := by
    rintro x y ⟨hook, hm, hname, hy⟩
    rw [names_append]
    apply List.mem_append_left
    rcases List.mem_append.1 hm with hm | hm
    · exact h.registered x y ⟨hook, hm, hname, hy⟩
    · rw [List.mem_singleton.1 hm] at hy
      exact hregistered y hy
  acyclic := by
    intro x hx
    have hnever : ∀ z, ¬ Requires (hooks ++ [spec]) z spec.name := by
      rintro z ⟨hook, hm, hname, hy⟩
      rcases List.mem_append.1 hm with hm | hm
      · exact hunrequired z ⟨hook, hm, hname, hy⟩
      · rw [List.mem_singleton.1 hm] at hy
        exact hnew (hregistered _ hy)
    rcases TransGen.head'_iff.1 hx with ⟨y, hxy, _⟩
    have hmem : x ∈ names hooks := by
      have hx' := hxy.mem_names
      rw [names_append] at hx'
      rcases List.mem_append.1 hx' with hold | hlast
      · exact hold
      · -- The last step of the way round would lead to the further hook.
        rw [List.mem_singleton.1 hlast] at hx
        rcases TransGen.tail'_iff.1 hx with ⟨z, _, hz⟩
        exact absurd hz (hnever z)
    have hclosed : ∀ z, TransGen (Requires hooks) x z → z ∈ names hooks := by
      intro z hz
      rcases TransGen.tail'_iff.1 hz with ⟨w, _, hw⟩
      exact h.registered w z hw
    exact h.acyclic x (transGen_of_append hx hnew hmem hclosed)

/-- Hooks that have an order have one together with the further hook, and it differs from the old
one by that name only. -/
theorem resolveStartupOrder_append (hnames : (names hooks).Nodup)
    (hregistered : ∀ y ∈ spec.requires, y ∈ names hooks)
    (h : resolveStartupOrder hooks = .ok order) :
    ∃ order', resolveStartupOrder (hooks ++ [spec]) = .ok order' ∧ spec.name ∈ order' ∧
      order'.erase spec.name = order := by
  have hnames' : (names (hooks ++ [spec])).Nodup := by
    rw [names_append]
    simpa using hnames.concat hnew
  have hresolvable : Resolvable hooks := (exists_order_iff_resolvable hnames).1 ⟨order, h⟩
  rcases (exists_order_iff_resolvable hnames').2
    (hresolvable.append hnew hunrequired hregistered) with ⟨order', horder'⟩
  have hlegal : LegalOrder (hooks ++ [spec]) order' := legalOrder_of_resolve hnames' horder'
  have hplaces' : Places (hooks ++ [spec]) [] order' :=
    (resolveStartupOrder_eq_ok_iff hnames').1 horder'
  have hothers : Places hooks [] (order'.filter (· ≠ spec.name)) :=
    hplaces'.of_append hnew hunrequired
  have hplaces : Places hooks [] order := (resolveStartupOrder_eq_ok_iff hnames).1 h
  refine ⟨order', horder', ?_, ?_⟩
  · refine hlegal.perm.mem_iff.2 ?_
    rw [names_append]
    exact List.mem_append_right _ (List.mem_singleton.2 rfl)
  · calc
      order'.erase spec.name = order'.filter (· ≠ spec.name) := by
        rw [(hlegal.nodup hnames').erase_eq_filter]
        apply List.filter_congr
        intro x _
        by_cases hx : x = spec.name <;> simp [hx]
      _ = order := hothers.unique hplaces

end Unrequired

end StartupOrder

namespace LifecycleRun

open LifecycleRegistry StartupOrder

variable {σ : Type u}

/-- A startup hook with a new name is accepted, and is the last one. -/
theorem startupSpecs_of_register_new (calls : List (LifecycleCall σ)) {spec : HookSpec}
    (action : σ → HookResult × σ) (hnew : spec.name ∉ names (of calls).registry.startupSpecs) :
    (of (calls ++ [.register .startup spec action])).registry.startupSpecs =
      (of calls).registry.startupSpecs ++ [spec] := by
  have hfree : (of calls).registry.contains .startup spec.name = false := by
    rw [Bool.eq_false_iff, ne_eq, contains_startup_iff]
    exact hnew
  have hrun : of (calls ++ [.register .startup spec action]) =
      (of calls).perform (.register .startup spec action) := List.foldl_concat ..
  rw [hrun, perform, LifecycleRegistry.register, hfree]
  simp [startupSpecs]

/-- After any calls that leave an order, a new startup hook that no startup hook requires, and whose
own requirements are registered, leaves an order too. Without the new name it is the order that was
there before: the other hooks start in the same order as ever. -/
theorem startupOrder_add (calls : List (LifecycleCall σ)) (order : List String) (spec : HookSpec)
    (action : σ → HookResult × σ) (h : (of calls).registry.startupOrder = .ok order)
    (hnew : spec.name ∉ names (of calls).registry.startupSpecs)
    (hunrequired : ∀ x, ¬ Requires (of calls).registry.startupSpecs x spec.name)
    (hregistered : ∀ y ∈ spec.requires, y ∈ names (of calls).registry.startupSpecs) :
    ∃ order', (of (calls ++ [.register .startup spec action])).registry.startupOrder = .ok order' ∧
      spec.name ∈ order' ∧ order'.erase spec.name = order := by
  have hspecs := startupSpecs_of_register_new calls action hnew
  rcases resolveStartupOrder_append hnew hunrequired (startup_names_nodup calls) hregistered h with
    ⟨order', horder', hmem, herase⟩
  refine ⟨order', ?_, hmem, herase⟩
  exact (congrArg resolveStartupOrder hspecs).trans horder'

/-- A hook with a low place that has to wait for `b` goes in between, and `c` still starts behind
`b`. -/
theorem startupOrder_add_between :
    let calls := registering [.of "a" 10 [], .of "b" 20 ["a"], .of "c" 30 []]
    (of calls).registry.startupOrder = .ok ["a", "b", "c"] ∧
      ∃ order', (of (calls ++ [.register .startup (.of "d" (-5) ["b"])
          fun w => (.reported .started, w)])).registry.startupOrder = .ok order' ∧
        "d" ∈ order' ∧ order'.erase "d" = ["a", "b", "c"] := by
  intro calls
  have horder : (of calls).registry.startupOrder = .ok ["a", "b", "c"] := by
    decide +kernel
  have hspecs : (of calls).registry.startupSpecs =
      [.of "a" 10 [], .of "b" 20 ["a"], .of "c" 30 []] := by
    decide +kernel
  refine ⟨horder, startupOrder_add calls _ (.of "d" (-5) ["b"]) _ horder ?_ ?_ ?_⟩
  · rw [hspecs]
    decide
  · rw [hspecs]
    rintro x ⟨hook, hm, _, hd⟩
    simp only [List.mem_cons, List.not_mem_nil, or_false] at hm
    rcases hm with rfl | rfl | rfl <;> exact absurd hd (by decide +kernel)
  · rw [hspecs]
    decide

end LifecycleRun

end ServicePlane
