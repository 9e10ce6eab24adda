import ServicePlane.Proofs.Application.Building
import ServicePlane.Proofs.Lifecycle.Placement

/-!
# Validation and the lifecycle agree

The requirements of a configuration are looked at twice: validation looks for those that are not
configured, and the lifecycle resolves an order of its hooks, among them that of the health monitor,
which requires all others. This file says that both find the same.

* `requires_lifecycle_iff` — the requirements between the hooks are those of the configuration, and
  those of the health monitor;
* `resolvable_lifecycle_iff` — when the hooks can be resolved;
* `exists_services_of_legalOrder` — what an order of the hooks looks like;
* `buildLifecycle_agrees` — validation and the lifecycle find the same faults.
-/

namespace ServicePlane

open LifecycleRegistry StartupOrder Relation

variable {c : PlaneConfig} {s d : Service}

/-! ## Requirements -/

theorem mem_names_lifecycle {x : String} :
    x ∈ names c.lifecycle.startupSpecs ↔
      (∃ s, c.Configured s ∧ s.name = x) ∨ x = monitorHookName := by
  rw [names_lifecycle, List.mem_append, List.mem_map, List.mem_singleton]
  rfl

/-- The hooks of services require what the configuration says, and the health monitor requires
every configured service. -/
theorem requires_lifecycle_iff {x y : String} :
    Requires c.lifecycle.startupSpecs x y ↔
      (∃ s d, c.Requires s d ∧ s.name = x ∧ d.name = y) ∨
        x = monitorHookName ∧ ∃ s, c.Configured s ∧ s.name = y := by
  rw [startupSpecs_lifecycle]
  constructor
  · rintro ⟨hook, hm, rfl, hy⟩
    rcases List.mem_append.1 hm with hm | hm
    · rcases List.mem_map.1 hm with ⟨e, he, rfl⟩
      rcases ServiceConfig.mem_requires_hookSpec.1 hy with ⟨d, hd, rfl⟩
      exact .inl ⟨e.name, d, ⟨e, he, rfl, hd⟩, rfl, rfl⟩
    · rw [List.mem_singleton.1 hm] at hy ⊢
      exact .inr ⟨rfl, PlaneConfig.mem_requires_monitorHookSpec.1 hy⟩
  · rintro (⟨s, d, ⟨e, he, rfl, hd⟩, rfl, rfl⟩ | ⟨rfl, hy⟩)
    · refine ⟨e.hookSpec, ?_, rfl, ServiceConfig.mem_requires_hookSpec.2 ⟨d, hd, rfl⟩⟩
      simp [List.mem_map_of_mem he]
    · exact ⟨c.monitorHookSpec, by simp, rfl, PlaneConfig.mem_requires_monitorHookSpec.2 hy⟩

/-- No hook requires the health monitor, so every way along requirements leads to a service. -/
theorem exists_service_of_transGen {x y : String}
    (h : TransGen (Requires c.lifecycle.startupSpecs) x y) : ∃ d : Service, d.name = y := by
  rcases TransGen.tail'_iff.1 h with ⟨z, _, hzy⟩
  rcases requires_lifecycle_iff.1 hzy with ⟨_, d, _, _, hd⟩ | ⟨_, d, _, hd⟩
  · exact ⟨d, hd⟩
  · exact ⟨d, hd⟩

theorem transGen_lifecycle_iff :
    TransGen (Requires c.lifecycle.startupSpecs) s.name d.name ↔ TransGen c.Requires s d := by
  -- The step from a hook to one that it requires stays among services.
  have hservice : ∀ (s : Service) (y : String), Requires c.lifecycle.startupSpecs s.name y →
      ∃ d : Service, d.name = y ∧ c.Requires s d := by
    intro s y h
    rcases requires_lifecycle_iff.1 h with ⟨s', d, hsd, hs, rfl⟩ | ⟨hs, _⟩
    · exact ⟨d, rfl, Service.name_injective hs ▸ hsd⟩
    · exact absurd hs s.name_ne_monitorHookName
  constructor
  · intro h
    -- The induction follows the way, so the name where it ends may be any.
    suffices hto : ∀ y, TransGen (Requires c.lifecycle.startupSpecs) s.name y →
        ∃ d : Service, d.name = y ∧ TransGen c.Requires s d by
      rcases hto _ h with ⟨d', hd, hsd⟩
      exact Service.name_injective hd ▸ hsd
    intro y h
    induction h with
    | single hy =>
        rcases hservice s _ hy with ⟨d, hd, hsd⟩
        exact ⟨d, hd, .single hsd⟩
    | tail _ hyz ih =>
        rcases ih with ⟨d, rfl, hsd⟩
        rcases hservice d _ hyz with ⟨z, hz, hdz⟩
        exact ⟨z, hz, .tail hsd hdz⟩
  · intro h
    refine h.lift Service.name ?_
    intro s d hsd
    exact requires_lifecycle_iff.2 (.inl ⟨s, d, hsd, rfl, rfl⟩)

/-- The hooks can be resolved exactly when every requirement is configured and no service leads
back to itself. -/
theorem resolvable_lifecycle_iff :
    Resolvable c.lifecycle.startupSpecs ↔
      (∀ s d, c.Requires s d → c.Configured d) ∧ ∀ s, ¬ TransGen c.Requires s s := by
  constructor
  · intro h
    constructor
    · intro s d hsd
      have hreq : Requires c.lifecycle.startupSpecs s.name d.name :=
        requires_lifecycle_iff.2 (.inl ⟨s, d, hsd, rfl, rfl⟩)
      rcases mem_names_lifecycle.1 (h.registered _ _ hreq) with ⟨d', hd', hname⟩ | hname
      · exact Service.name_injective hname ▸ hd'
      · exact absurd hname d.name_ne_monitorHookName
    · intro s hs
      exact h.acyclic s.name (transGen_lifecycle_iff.2 hs)
  · rintro ⟨hconfigured, hacyclic⟩
    constructor
    · intro x y hxy
      rcases requires_lifecycle_iff.1 hxy with ⟨s, d, hsd, _, hd⟩ | ⟨_, hy⟩
      · exact mem_names_lifecycle.2 (.inl ⟨d, hconfigured s d hsd, hd⟩)
      · exact mem_names_lifecycle.2 (.inl hy)
    · -- A way round ends where it begins, so it begins at a service.
      intro x hx
      rcases exists_service_of_transGen hx with ⟨s, rfl⟩
      exact hacyclic s (transGen_lifecycle_iff.1 hx)

/-- Whatever the places of the services, the health monitor comes last: it requires all others. -/
theorem exists_services_of_legalOrder {order : List String} (hnone : c.firstDuplicate? = none)
    (h : LegalOrder c.lifecycle.startupSpecs order) :
    ∃ services, order = services ++ [monitorHookName] ∧
      services.Perm (c.services.map fun e => e.name.name) ∧ services.Nodup := by
  have hnodup : order.Nodup := h.nodup (names_lifecycle_nodup hnone)
  have hmonitor : monitorHookName ∈ order :=
    h.perm.mem_iff.2 (mem_names_lifecycle.2 (.inr rfl))
  rcases List.append_of_mem hmonitor with ⟨front, back, rfl⟩
  -- Behind the health monitor there could only be a service, which it requires.
  have hback : back = [] := by
    refine List.eq_nil_iff_forall_not_mem.2 ?_
    intro x hx
    have hne : x ≠ monitorHookName := by
      rintro rfl
      exact (List.nodup_cons.1 (List.nodup_append.1 hnodup).2.1).1 hx
    have hname : x ∈ names c.lifecycle.startupSpecs := h.perm.mem_iff.1 (by simp [hx])
    have hservice := (mem_names_lifecycle.1 hname).resolve_right hne
    have hfirst := h.requirement_first _ _ (requires_lifecycle_iff.2 (.inr ⟨rfl, hservice⟩))
    have hfront := (Precedes.iff_mem_of_split hnodup).1 hfirst
    exact (List.nodup_append.1 hnodup).2.2 x hfront x (by simp [hx]) rfl
  subst hback
  refine ⟨front, rfl, ?_, (List.nodup_append.1 hnodup).1⟩
  have hperm := h.perm
  rw [names_lifecycle, List.perm_append_right_iff] at hperm
  simpa [Function.comp_def] using hperm

/-! ## Agreement -/

/-- Validation and the lifecycle agree on every configuration. The lifecycle cannot be built exactly
when validation lists a service configured twice, and its error names the first of these. A built
lifecycle misses only requirements that validation lists as unknown, and has no order while there
are any. Otherwise there is an order exactly when no service requires itself, directly or not; it
has every configured service once, and then the health monitor. -/
theorem buildLifecycle_agrees (c : PlaneConfig) :
    ((∃ e, buildLifecycle c = .error e) ↔ ∃ s, .duplicateService s ∈ c.listed) ∧
      (∀ e, buildLifecycle c = .error e →
        ∃ s, c.firstDuplicate? = some s ∧ e = .duplicateHook s.name .startup) ∧
      ∀ r told, buildLifecycle c = .ok (r, told) →
        (∀ hook dependency, r.startupOrder = .error (.missingDependency hook dependency) →
          ∃ s d, .unknownDependency s d ∈ c.listed ∧ hook = s.name ∧ dependency = d.name) ∧
        ((∃ s d, .unknownDependency s d ∈ c.listed) → ∀ order, r.startupOrder ≠ .ok order) ∧
        ((∀ s d, .unknownDependency s d ∉ c.listed) →
          ((∃ order, r.startupOrder = .ok order) ↔ ∀ s, ¬ TransGen c.Requires s s) ∧
          (∀ e, r.startupOrder = .error e → ∃ cycle, e = .circularDependency cycle) ∧
          ∀ order, r.startupOrder = .ok order →
            ∃ services, order = services ++ [monitorHookName] ∧
              services.Perm (c.services.map fun e => e.name.name) ∧ services.Nodup) := by
  refine ⟨?_, fun e => of_buildLifecycle_error, ?_⟩
  · rw [exists_buildLifecycle_error_iff, PlaneConfig.exists_firstDuplicate_iff]
  intro r told hok
  rcases of_buildLifecycle_ok hok with ⟨hnone, rfl⟩
  have hnames : (names c.lifecycle.startupSpecs).Nodup :=
    names_lifecycle_nodup hnone
  have hblames : ∀ e, c.lifecycle.startupOrder = .error e →
      Blames c.lifecycle.startupSpecs e := by
    intro e he
    rcases resolveStartupOrder_cases c.lifecycle.startupSpecs with ⟨_, h, _⟩ | ⟨e', h, hb⟩
    · cases h.symm.trans he
    · cases h.symm.trans he
      exact hb
  have hmissing : ∀ hook dependency,
      c.lifecycle.startupOrder = .error (.missingDependency hook dependency) →
      ∃ s d, .unknownDependency s d ∈ c.listed ∧ hook = s.name ∧ dependency = d.name := by
    intro hook dependency he
    rcases hblames _ he with ⟨_, hreq, hunknown⟩
    rcases requires_lifecycle_iff.1 hreq with ⟨s, d, hsd, rfl, rfl⟩ | ⟨_, hservice⟩
    · refine ⟨s, d, PlaneConfig.unknownDependency_mem_listed.2 ⟨hsd, ?_⟩, rfl, rfl⟩
      intro hd
      exact hunknown (mem_names_lifecycle.2 (.inl ⟨d, hd, rfl⟩))
    · -- The health monitor requires configured services only.
      exact absurd (mem_names_lifecycle.2 (.inl hservice)) hunknown
  refine ⟨hmissing, ?_, ?_⟩
  · rintro ⟨s, d, hsd⟩ order horder
    rcases PlaneConfig.unknownDependency_mem_listed.1 hsd with ⟨hreq, hunknown⟩
    have hresolvable := (exists_order_iff_resolvable hnames).1 ⟨order, horder⟩
    exact hunknown ((resolvable_lifecycle_iff.1 hresolvable).1 s d hreq)
  · intro hknown
    refine ⟨?_, ?_, ?_⟩
    · have hconfigured : ∀ s d, c.Requires s d → c.Configured d := fun s d hsd =>
        hsd.configured_target hknown
      have hiff := (exists_order_iff_resolvable hnames).trans resolvable_lifecycle_iff
      exact hiff.trans (and_iff_right hconfigured)
    · intro e he
      cases e with
      | circularDependency cycle =>
          exact ⟨cycle, rfl⟩
      | missingDependency hook dependency =>
          rcases hmissing hook dependency he with ⟨s, d, hsd, _, _⟩
          exact absurd hsd (hknown s d)
      | duplicateHook name kind =>
          exact absurd (hblames _ he) id
      | hookFailed name source =>
          exact absurd (hblames _ he) id
    · intro order horder
      exact exists_services_of_legalOrder hnone (legalOrder_of_resolve hnames horder)

/-- A database that another service requires and that starts later than anything else. -/
def lateDatabase : PlaneConfig :=
  { PlaneConfig.standard with
    services := [
      { ServiceConfig.named .cache "127.0.0.1:6379" with requires := [.database] },
      { ServiceConfig.named .database "127.0.0.1:5432" with startupOrder := 2147483647 }] }

/-- The late database still starts before the service that requires it, and the health monitor
after both; with a second entry for it there is no lifecycle. -/
theorem buildLifecycle_agrees_lateDatabase :
    (∀ s, ¬ TransGen lateDatabase.Requires s s) ∧
      lateDatabase.lifecycle.startupOrder = .ok ["database", "cache", "health_monitor"] ∧
      buildLifecycle { lateDatabase with
        services := lateDatabase.services ++ [.named .database "127.0.0.1:5433"] } =
          .error (.duplicateHook "database" .startup) := by
  have hnone : lateDatabase.firstDuplicate? = none := by
    decide +kernel
  rcases buildLifecycle_of_none hnone with ⟨told, hbuilt⟩
  have hknown : ∀ s d, ConfigFault.unknownDependency s d ∉ lateDatabase.listed := by
    have hlisted : lateDatabase.listed = [] := by
      decide +kernel
    simp [hlisted]
  have horder : lateDatabase.lifecycle.startupOrder =
      .ok ["database", "cache", "health_monitor"] := by
    decide +kernel
  obtain ⟨_, _, hagrees⟩ := buildLifecycle_agrees lateDatabase
  obtain ⟨hiff, _, _⟩ := (hagrees _ told hbuilt).2.2 hknown
  refine ⟨hiff.1 ⟨_, horder⟩, horder, ?_⟩
  let twice : PlaneConfig := { lateDatabase with
    services := lateDatabase.services ++ [.named .database "127.0.0.1:5433"] }
  obtain ⟨hfails, hfirst, _⟩ := buildLifecycle_agrees twice
  have hlisted : ConfigFault.duplicateService .database ∈ twice.listed := by
    decide +kernel
  rcases hfails.2 ⟨.database, hlisted⟩ with ⟨e, he⟩
  rcases hfirst e he with ⟨s, hs, rfl⟩
  have hdatabase : twice.firstDuplicate? = some .database := by
    decide +kernel
  cases hs.symm.trans hdatabase
  exact he

end ServicePlane
