import ServicePlane.Proofs.Lifecycle.History

/-!
# The startup order of a registry

What the calls on a registry have to do with the order it resolves: `Faithful` runs have hooks with
different names, so what is known about orders of such hooks holds after any calls.

* `startupOrder_total` — there is an order exactly when the hooks are resolvable, and every error
  names a fault of the hooks;
* `startupOrder_least` — the order is legal, is the least legal one by keys, and depends on nothing
  but which hooks are registered.
-/

namespace ServicePlane

universe u

namespace LifecycleRun

open LifecycleRegistry StartupOrder

variable {σ : Type u} {calls : List (LifecycleCall σ)} {order : List String}

theorem startup_names_nodup (calls : List (LifecycleCall σ)) :
    (names (of calls).registry.startupSpecs).Nodup :=
  (faithful calls).wellFormed.startup_names_nodup

theorem places_of_startupOrder (h : (of calls).registry.startupOrder = .ok order) :
    Places (of calls).registry.startupSpecs [] order :=
  (resolveStartupOrder_eq_ok_iff (startup_names_nodup calls)).1 h

/-- Register startup hooks that start whenever they run. -/
def registering (specs : List HookSpec) : List (LifecycleCall Unit) :=
  specs.map fun spec => .register .startup spec fun w => (.reported .started, w)

/-! ## When there is an order -/

/-- After any calls, the startup order exists exactly when every requirement is registered and none
leads back to itself; otherwise the error is a fault that the registered hooks have. -/
theorem startupOrder_total (calls : List (LifecycleCall σ)) :
    let r := (of calls).registry
    ((∃ order, r.startupOrder = .ok order) ↔ Resolvable r.startupSpecs) ∧
      ∀ e, r.startupOrder = .error e → Blames r.startupSpecs e := by
  intro r
  have hnames : (names r.startupSpecs).Nodup := startup_names_nodup calls
  constructor
  · exact exists_order_iff_resolvable hnames
  · intro e h
    have hresolve : resolveStartupOrder r.startupSpecs = .error e := h
    rcases resolveStartupOrder_cases r.startupSpecs with ⟨order, hok, _⟩ | ⟨e', herror, hblames⟩
    · rw [hok] at hresolve
      cases hresolve
    · rw [herror] at hresolve
      cases hresolve
      exact hblames

/-- Two hooks that require each other, beside one that can start: the error is the way round. -/
theorem startupOrder_total_mutual :
    let r := (of (registering [.of "b" 20 ["a"], .of "a" 10 ["b"], .of "c" 5 []])).registry
    r.startupOrder = .error (.circularDependency ["a", "b", "a"]) ∧
      IsCycle r.startupSpecs ["a", "b", "a"] := by
  intro r
  have herror : r.startupOrder = .error (.circularDependency ["a", "b", "a"]) := by
    decide +kernel
  have hblames := (startupOrder_total (registering
    [.of "b" 20 ["a"], .of "a" 10 ["b"], .of "c" 5 []])).2 _ herror
  exact ⟨herror, hblames⟩

/-! ## Which order it is -/

/-- After any calls, the startup order is legal, is the least legal order by keys, and is the order
of every other run that has the same startup hooks registered. -/
theorem startupOrder_least (calls : List (LifecycleCall σ)) (order : List String)
    (h : (of calls).registry.startupOrder = .ok order) :
    let specs := (of calls).registry.startupSpecs
    LegalOrder specs order ∧
      (∀ other, LegalOrder specs other → keys specs order ≤ keys specs other) ∧
      ∀ calls' : List (LifecycleCall σ),
        (∀ spec, spec ∈ (of calls').registry.startupSpecs ↔ spec ∈ specs) →
        (of calls').registry.startupOrder = .ok order := by
  intro specs
  have hnames : (names specs).Nodup := startup_names_nodup calls
  have hplaces : Places specs [] order := places_of_startupOrder h
  refine ⟨hplaces.legalOrder hnames LegalPrefix.nil, ?_, ?_⟩
  · intro other hother
    exact hplaces.keys_le hnames (by simpa using hother)
  · intro calls' hsame
    have hplaces' : Places (of calls').registry.startupSpecs [] order :=
      hplaces.congr fun spec => (hsame spec).symm
    exact (resolveStartupOrder_eq_ok_iff (startup_names_nodup calls')).2 hplaces'

/-- A requirement holds its hook back, and among the others the places decide; it does not matter
that the hooks are registered the other way round, with a duplicate in between. -/
theorem startupOrder_least_chain :
    let specs : List HookSpec := [.of "a" 10 [], .of "b" 20 ["a"], .of "c" 5 []]
    LegalOrder specs ["c", "a", "b"] ∧
      (of (registering [.of "c" 5 [], .of "b" 20 ["a"], .of "c" 7 [],
        .of "a" 10 []])).registry.startupOrder = .ok ["c", "a", "b"] := by
  intro specs
  have horder : (of (registering specs)).registry.startupOrder = .ok ["c", "a", "b"] := by
    decide +kernel
  rcases startupOrder_least (registering specs) _ horder with ⟨hlegal, _, hsame⟩
  refine ⟨hlegal, hsame _ ?_⟩
  intro spec
  have hperm : (of (registering [.of "c" 5 [], .of "b" 20 ["a"], .of "c" 7 [],
      .of "a" 10 []])).registry.startupSpecs.Perm (of (registering specs)).registry.startupSpecs := by
    decide +kernel
  exact hperm.mem_iff

end LifecycleRun

end ServicePlane
