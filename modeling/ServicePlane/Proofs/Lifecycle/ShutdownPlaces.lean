import ServicePlane.Proofs.Lifecycle.Resolution
import ServicePlane.Proofs.Lifecycle.Resumption

/-!
# Shutdown places

The place of a hook in the shutdown sequence counts down from its startup order, and a shutdown goes
through what is started from its end. Among hooks that require nothing the two say the same, as far
as there are places: the difference has to fit into 32 bits.

* `HookSpec.shutdownOrder?_eq_some_iff` — a place is the difference, and there is one exactly when
  the difference is a 32-bit number;
* `StartupOrder.Places.key_le` — hooks that require nothing are placed by their keys;
* `DescribesShutdown specs order` — every hook has its place, and `order` lists the hooks by it;
* `describesShutdown_iff` — for a registry whose first startup starts all hooks, this is so exactly
  when no startup order is among the 1001 least 32-bit numbers.
-/

namespace ServicePlane

universe u

/-! ## Places -/

namespace HookSpec

variable {spec a b : HookSpec} {place p q : Int32}

theorem shutdownOrder?_eq_some_iff :
    spec.shutdownOrder? = some place ↔ place.toInt = 1000 - spec.startupOrder.toInt := by
  have hbase : shutdownBase = 1000 := rfl
  simp only [shutdownOrder?]
  constructor
  · intro h
    split at h
    · rename_i hfits
      cases h
      rw [Int32.toInt_ofInt_of_le hfits.1 (by omega), hbase]
    · cases h
  · intro h
    have hlower := place.le_toInt
    have hupper := place.toInt_lt
    rw [if_pos (by omega), hbase, ← h, Int32.ofInt_toInt]

/-- There is no place for the 1001 least startup orders, and for them alone. -/
theorem exists_shutdownOrder?_iff :
    (∃ place, spec.shutdownOrder? = some place) ↔ -2147482647 ≤ spec.startupOrder.toInt := by
  simp only [shutdownOrder?_eq_some_iff]
  constructor
  · rintro ⟨place, hplace⟩
    have hupper := place.toInt_lt
    omega
  · intro h
    have hupper := spec.startupOrder.toInt_lt
    exact ⟨Int32.ofInt (1000 - spec.startupOrder.toInt),
      Int32.toInt_ofInt_of_le (by omega) (by omega)⟩

theorem shutdownOrder?_le_iff (hp : a.shutdownOrder? = some p) (hq : b.shutdownOrder? = some q) :
    p ≤ q ↔ b.startupOrder ≤ a.startupOrder := by
  rw [Int32.le_iff_toInt_le, Int32.le_iff_toInt_le, shutdownOrder?_eq_some_iff.1 hp,
    shutdownOrder?_eq_some_iff.1 hq]
  omega

end HookSpec

/-- The shutdown places of hooks are what `order` lists them by: every hook is listed once and has
its place, and no place is followed by a lower one. -/
structure DescribesShutdown (specs : List HookSpec) (order : List String) : Prop where
  perm : order.Perm (StartupOrder.names specs)
  computed : ∀ spec ∈ specs, ∃ place, spec.shutdownOrder? = some place ∧
    place.toInt = 1000 - spec.startupOrder.toInt
  listed : ∀ a ∈ specs, ∀ b ∈ specs, Precedes order a.name b.name →
    ∀ p q, a.shutdownOrder? = some p → b.shutdownOrder? = some q → p ≤ q

/-! ## Hooks that require nothing -/

namespace StartupOrder

variable {hooks : List HookSpec} {placed order : List String} {a b : HookSpec}

theorem startupOrder_le_of_key_le (h : key a ≤ key b) : a.startupOrder ≤ b.startupOrder := by
  rw [Int32.le_iff_toInt_le]
  rcases Prod.Lex.toLex_le_toLex.1 h with hlt | ⟨heq, _⟩
  · exact le_of_lt hlt
  · exact le_of_eq heq

theorem resolvable_of_free (hfree : ∀ spec ∈ hooks, spec.requires = []) : Resolvable hooks := by
  have hnone : ∀ x y, ¬ Requires hooks x y := by
    rintro x y ⟨spec, hm, _, hy⟩
    rw [hfree spec hm] at hy
    cases hy
  constructor
  · intro x y hxy
    exact absurd hxy (hnone x y)
  · intro x hx
    rcases Relation.TransGen.head'_iff.1 hx with ⟨y, hxy, _⟩
    exact hnone x y hxy

/-- A hook that requires nothing could have been placed instead of each hook before it, so it has
none of the lower keys. -/
theorem Places.key_le (h : Places hooks placed order) (hnames : (names hooks).Nodup)
    (horder : order.Nodup) (ha : a ∈ hooks) (hb : b ∈ hooks) (hfree : b.requires = [])
    (hnew : a.name ∉ placed) (hab : Precedes order a.name b.name) : key a ≤ key b := by
  induction h with
  | done _ =>
      exact absurd hab.mem_left hnew
  | @next placed order hook hnext hrest ih =>
      by_cases hlast : a.name = hook.name
      · -- When `a` is placed, `b` is still to come, and nothing keeps it back.
        have hunplaced : b.name ∉ placed := by
          intro hmem
          rcases (List.prefix_append placed [hook.name]).trans hrest.prefix_order with ⟨rest, rfl⟩
          exact hnew (hab.of_append horder hmem).mem_left
        rw [eq_of_name_eq hnames ha hnext.placeable.mem hlast]
        refine hnext.least b ⟨hb, hunplaced, ?_⟩
        simp [hfree]
      · exact ih horder (by simp [hnew, hlast]) hab

end StartupOrder

/-! ## After the first startup -/

namespace LifecycleRun

open LifecycleRegistry StartupOrder

variable {σ : Type u} {calls : List (LifecycleCall σ)} {w : σ}

/-- The shutdown order after a first startup that has started all hooks, each of which has something
to shut down: the startup order from its end. -/
theorem shutdownOrder_startup {order : List String} (hidle : sinceShutdown (of calls).history = [])
    (horder : (of calls).registry.startupOrder = .ok order)
    (hpaired : ∀ spec ∈ (of calls).registry.startupSpecs,
      (of calls).registry.contains .shutdown spec.name = true)
    (hstarted : ∀ i ∈ ((of calls).registry.startup w).2.invoked, i.result = .reported .started) :
    ((of calls).registry.startup w).2.registry.shutdownOrder = order.reverse := by
  have hafter : (of (calls ++ [.startup w])).registry =
      ((of calls).registry.startup w).2.registry := by
    rw [of, List.foldl_append]
    rfl
  have hwell : ((of calls).registry.startup w).2.registry.WellFormed :=
    hafter ▸ (faithful _).wellFormed
  have hmarked := registry_startup_of_started hidle horder hstarted
  have hlegal := (places_of_startupOrder horder).legalOrder (startup_names_nodup calls)
    LegalPrefix.nil
  rw [hwell.shutdownOrder_eq, hmarked, startedSequence_markAll, startedSequence_of_idle hidle,
    List.nil_append, List.filter_eq_self]
  intro name hname
  rcases List.mem_map.1 (hlegal.perm.mem_iff.1 (List.mem_reverse.1 hname)) with ⟨spec, hspec, rfl⟩
  rw [contains_markAll]
  exact hpaired spec hspec

/-- A registry whose startup hooks require nothing and have each something to shut down, and whose
first startup starts all of them. Its shutdown order has all hooks, those that start later earlier.
The shutdown places say the same exactly when they exist, which is when no startup order is among
the 1001 least 32-bit numbers. -/
theorem describesShutdown_iff (calls : List (LifecycleCall σ)) (w : σ)
    (hidle : sinceShutdown (of calls).history = [])
    (hfree : ∀ spec ∈ (of calls).registry.startupSpecs, spec.requires = [])
    (hpaired : ∀ spec ∈ (of calls).registry.startupSpecs,
      (of calls).registry.contains .shutdown spec.name = true)
    (hstarted : ∀ i ∈ ((of calls).registry.startup w).2.invoked, i.result = .reported .started) :
    let specs := (of calls).registry.startupSpecs
    let order := ((of calls).registry.startup w).2.registry.shutdownOrder
    (order.Perm (names specs) ∧
      ∀ a ∈ specs, ∀ b ∈ specs, Precedes order a.name b.name →
        b.startupOrder ≤ a.startupOrder) ∧
      (DescribesShutdown specs order ↔
        ∀ spec ∈ specs, -2147482647 ≤ spec.startupOrder.toInt) := by
  intro specs order
  have hnames : (names specs).Nodup := startup_names_nodup calls
  rcases (startupOrder_total calls).1.2 (resolvable_of_free hfree) with ⟨started, hresolve⟩
  have horder : order = started.reverse := shutdownOrder_startup hidle hresolve hpaired hstarted
  have hplaces : Places specs [] started := places_of_startupOrder hresolve
  have hlegal : LegalOrder specs started := hplaces.legalOrder hnames LegalPrefix.nil
  have hperm : order.Perm (names specs) := by
    rw [horder]
    exact (List.reverse_perm started).trans hlegal.perm
  have hlater : ∀ a ∈ specs, ∀ b ∈ specs, Precedes order a.name b.name →
      b.startupOrder ≤ a.startupOrder := by
    intro a ha b hb hab
    rw [horder, Precedes.reverse_iff] at hab
    exact startupOrder_le_of_key_le
      (hplaces.key_le hnames (hlegal.nodup hnames) hb ha (hfree a ha) List.not_mem_nil hab)
  refine ⟨⟨hperm, hlater⟩, ?_⟩
  constructor
  · intro hdescribes spec hspec
    rcases hdescribes.computed spec hspec with ⟨place, hplace, _⟩
    exact HookSpec.exists_shutdownOrder?_iff.1 ⟨place, hplace⟩
  · intro hfit
    refine ⟨hperm, ?_, ?_⟩
    · intro spec hspec
      rcases HookSpec.exists_shutdownOrder?_iff.2 (hfit spec hspec) with ⟨place, hplace⟩
      exact ⟨place, hplace, HookSpec.shutdownOrder?_eq_some_iff.1 hplace⟩
    · intro a ha b hb hab p q hp hq
      exact (HookSpec.shutdownOrder?_le_iff hp hq).2 (hlater a ha b hb hab)

/-- Startup hooks that start whenever they run, each with something to shut down. -/
def pairing (specs : List HookSpec) : List (LifecycleCall Unit) :=
  specs.flatMap fun spec =>
    [.register .startup spec fun w => (.reported .started, w),
      .register .shutdown (.named spec.name) fun w => (.reported .started, w)]

/-- The greatest 32-bit number, and the least of the startup orders that have a place. -/
theorem describesShutdown_ends :
    let calls := pairing [.of "first" (-2147482647) [], .of "last" 2147483647 [], .of "b" 50 []]
    DescribesShutdown (of calls).registry.startupSpecs ["last", "b", "first"] := by
  intro calls
  have horder : ((of calls).registry.startup ()).2.registry.shutdownOrder =
      ["last", "b", "first"] := by
    decide +kernel
  have hdescribes := (describesShutdown_iff calls () (by decide +kernel) (by decide +kernel)
    (by decide +kernel) (by decide +kernel)).2.2 (by decide +kernel)
  rwa [horder] at hdescribes

/-- A startup order below that: the hook starts and is to shut down in its turn, without a place. -/
theorem not_describesShutdown_least :
    let calls := pairing [.of "db" (-2147483648) []]
    let r := (of calls).registry
    (sinceShutdown (of calls).history = [] ∧
      (∀ spec ∈ r.startupSpecs, spec.requires = []) ∧
      (∀ spec ∈ r.startupSpecs, r.contains .shutdown spec.name = true) ∧
      ∀ i ∈ (r.startup ()).2.invoked, i.result = .reported .started) ∧
      (r.startup ()).2.registry.shutdownOrder = ["db"] ∧
      ¬ DescribesShutdown r.startupSpecs (r.startup ()).2.registry.shutdownOrder := by
  intro calls r
  refine ⟨by decide +kernel, by decide +kernel, ?_⟩
  intro hdescribes
  rcases hdescribes.computed (.of "db" (-2147483648) []) (by decide +kernel) with ⟨place, hplace, _⟩
  cases hplace

end LifecycleRun

end ServicePlane
