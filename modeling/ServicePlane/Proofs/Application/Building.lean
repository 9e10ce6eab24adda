import ServicePlane.Application.Context
import ServicePlane.Proofs.Config.Faults
import ServicePlane.Proofs.Lifecycle.RegistryState

/-!
# The hooks of a configuration

Which hooks `buildLifecycle` registers. It goes through the entries and refuses a second hook of a
name, where validation goes through them with the names it has seen; the health monitor comes last,
under a name that no service has.

* `PlaneConfig.lifecycle` — the registry that is built when no service is configured twice;
* `buildLifecycle_cases` — it is built exactly then, and otherwise the first such service is blamed;
* `lifecycle_wellFormed` — its hooks have different names, and none is started.
-/

namespace ServicePlane

open LifecycleRegistry StartupOrder

/-! ## Declarations -/

theorem mem_insertNames {names set : List String} {n : String} :
    n ∈ insertNames names set ↔ n ∈ names ∨ n ∈ set := by
  induction names generalizing set with
  | nil =>
      simp [insertNames]
  | cons name rest ih =>
      change n ∈ insertNames rest (insertName name set) ↔ _
      rw [ih, mem_insertName, List.mem_cons]
      tauto

theorem HookSpec.mem_requires_of {name : String} {order : Int32} {requirements : List String}
    {n : String} : n ∈ (HookSpec.of name order requirements).requires ↔ n ∈ requirements := by
  change n ∈ insertNames requirements [] ↔ _
  simp [mem_insertNames]

theorem Service.name_ne_monitorHookName (s : Service) : s.name ≠ monitorHookName := by
  cases s <;> decide

@[simp]
theorem ServiceConfig.name_hookSpec (e : ServiceConfig) : e.hookSpec.name = e.name.name :=
  rfl

@[simp]
theorem PlaneConfig.name_monitorHookSpec (c : PlaneConfig) :
    c.monitorHookSpec.name = monitorHookName :=
  rfl

theorem ServiceConfig.mem_requires_hookSpec {e : ServiceConfig} {n : String} :
    n ∈ e.hookSpec.requires ↔ ∃ d ∈ e.requires, d.name = n := by
  simp [hookSpec, HookSpec.mem_requires_of]

theorem PlaneConfig.mem_requires_monitorHookSpec {c : PlaneConfig} {n : String} :
    n ∈ c.monitorHookSpec.requires ↔ ∃ s, c.Configured s ∧ s.name = n := by
  simp [monitorHookSpec, HookSpec.mem_requires_of, Configured]

/-! ## What is registered -/

/-- The startup hook of a configured service. -/
def ServiceConfig.startupHook (e : ServiceConfig) : Hook Context where
  spec := e.hookSpec
  started := false
  action := Context.startService e

/-- The hooks of a configuration: those of its services, and that of the health monitor on either
side. -/
def PlaneConfig.lifecycle (c : PlaneConfig) : LifecycleRegistry Context where
  startupHooks := c.services.map ServiceConfig.startupHook ++
    [⟨c.monitorHookSpec, false, Context.startMonitor⟩]
  shutdownHooks := [⟨.named monitorHookName, false, Context.stopMonitor⟩]
  startedSequence := []

theorem startupSpecs_lifecycle (c : PlaneConfig) :
    c.lifecycle.startupSpecs = c.services.map ServiceConfig.hookSpec ++ [c.monitorHookSpec] := by
  simp [PlaneConfig.lifecycle, startupSpecs, ServiceConfig.startupHook, Function.comp_def]

theorem names_lifecycle (c : PlaneConfig) :
    names c.lifecycle.startupSpecs =
      (c.services.map (·.name)).map Service.name ++ [monitorHookName] := by
  rw [startupSpecs_lifecycle, names, List.map_append, List.map_map, List.map_map]
  rfl

section Registering

variable {r : LifecycleRegistry Context} {spec : HookSpec} {kind : HookKind}
  {action : Context → HookResult × Context}

theorem register_of_contains (h : r.contains kind spec.name = true) :
    r.register kind spec action = .error (.duplicateHook spec.name kind) := by
  rw [register, if_pos h]

theorem register_startup_of_not_contains (h : r.contains .startup spec.name = false)
    (action : Context → HookResult × Context) : ∃ told, r.register .startup spec action =
      .ok ({ r with startupHooks := r.startupHooks ++ [⟨spec, false, action⟩] }, told) := by
  rw [register, if_neg (by simp [h])]
  exact ⟨_, rfl⟩

/-- The services are registered in turn, up to the first one with a name that has been seen. -/
theorem registerServices_cases (seen : List Service) (entries : List ServiceConfig)
    (hseen : ∀ s : Service, r.contains .startup s.name = true ↔ s ∈ seen) :
    match (PlaneConfig.entryFaults seen entries).findSome? ConfigFault.duplicate? with
    | some s => registerServices r entries = .error (.duplicateHook s.name .startup)
    | none => ∃ told, registerServices r entries =
        .ok ({ r with
          startupHooks := r.startupHooks ++ entries.map ServiceConfig.startupHook }, told) := by
  induction entries generalizing r seen with
  | nil =>
      exact ⟨[], by simp [registerServices]⟩
  | cons e rest ih =>
      rw [PlaneConfig.findSome?_entryFaults_cons]
      by_cases hname : e.name ∈ seen
      · have hcontains : r.contains .startup e.hookSpec.name = true := (hseen e.name).2 hname
        rw [if_pos hname, registerServices, register_of_contains hcontains]
        rfl
      · have hcontains : r.contains .startup e.hookSpec.name = false := by
          simpa using mt (hseen e.name).1 hname
        rcases register_startup_of_not_contains hcontains (Context.startService e) with
          ⟨told, hregister⟩
        rw [if_neg hname, registerServices, hregister]
        -- The names in the registry are those seen before, and now that of this entry.
        have hseen' : ∀ s : Service, contains
            { r with startupHooks := r.startupHooks ++ [e.startupHook] } .startup s.name = true ↔
              s ∈ e.name :: seen := by
          intro s
          have hold := hseen s
          have hnew : e.hookSpec.name = s.name ↔ s = e.name :=
            ⟨fun h => (Service.name_injective h).symm, fun h => h ▸ rfl⟩
          rw [List.mem_cons, ← hold, ← hnew]
          simp [contains, hooks, ServiceConfig.startupHook, or_comm]
        have hrest := ih (e.name :: seen) hseen'
        cases hfirst : (PlaneConfig.entryFaults (e.name :: seen) rest).findSome?
            ConfigFault.duplicate? with
        | some s =>
            rw [hfirst] at hrest
            dsimp only at hrest ⊢
            rw [ServiceConfig.startupHook] at hrest
            simp only [bind, Except.bind, hrest]
        | none =>
            rw [hfirst] at hrest
            rcases hrest with ⟨toldLater, hrest⟩
            refine ⟨told ++ toldLater, ?_⟩
            rw [ServiceConfig.startupHook] at hrest
            simp only [bind, Except.bind, hrest]
            simp [ServiceConfig.startupHook, pure, Except.pure]

end Registering

variable {c : PlaneConfig} {r : LifecycleRegistry Context} {told : Telemetry}

/-- The lifecycle is built exactly when no service is configured twice. -/
theorem buildLifecycle_cases (c : PlaneConfig) :
    match c.firstDuplicate? with
    | some s => buildLifecycle c = .error (.duplicateHook s.name .startup)
    | none => ∃ told, buildLifecycle c = .ok (c.lifecycle, told) := by
  have hservices := registerServices_cases (r := .empty) [] c.services
    (by simp [contains, hooks, LifecycleRegistry.empty])
  rw [PlaneConfig.firstDuplicate?_eq, buildLifecycle]
  cases hfirst : (PlaneConfig.entryFaults [] c.services).findSome? ConfigFault.duplicate? with
  | some s =>
      rw [hfirst] at hservices
      dsimp only at hservices ⊢
      rw [hservices]
      rfl
  | none =>
      rw [hfirst] at hservices
      rcases hservices with ⟨toldServices, hservices⟩
      let services : LifecycleRegistry Context := ⟨c.services.map ServiceConfig.startupHook, [], []⟩
      have hbuilt : registerServices .empty c.services = .ok (services, toldServices) := hservices
      -- No service has the name of the health monitor.
      have hmonitor : services.contains .startup c.monitorHookSpec.name = false := by
        simp only [services, contains, hooks, List.any_map, List.any_eq_false]
        intro e _
        simpa [ServiceConfig.startupHook] using e.name.name_ne_monitorHookName
      rcases register_startup_of_not_contains hmonitor Context.startMonitor with
        ⟨toldMonitor, hstart⟩
      exact ⟨_, by simp only [hbuilt, hstart, bind, Except.bind]; rfl⟩

theorem buildLifecycle_of_some {s : Service} (h : c.firstDuplicate? = some s) :
    buildLifecycle c = .error (.duplicateHook s.name .startup) := by
  have hcases := buildLifecycle_cases c
  rwa [h] at hcases

theorem buildLifecycle_of_none (h : c.firstDuplicate? = none) :
    ∃ told, buildLifecycle c = .ok (c.lifecycle, told) := by
  have hcases := buildLifecycle_cases c
  rwa [h] at hcases

theorem of_buildLifecycle_error {e : LifecycleError} (h : buildLifecycle c = .error e) :
    ∃ s, c.firstDuplicate? = some s ∧ e = .duplicateHook s.name .startup := by
  cases hfirst : c.firstDuplicate? with
  | some s =>
      cases (buildLifecycle_of_some hfirst).symm.trans h
      exact ⟨s, rfl, rfl⟩
  | none =>
      rcases buildLifecycle_of_none hfirst with ⟨told, hok⟩
      cases hok.symm.trans h

theorem of_buildLifecycle_ok (h : buildLifecycle c = .ok (r, told)) :
    c.firstDuplicate? = none ∧ r = c.lifecycle := by
  cases hfirst : c.firstDuplicate? with
  | some s =>
      cases (buildLifecycle_of_some hfirst).symm.trans h
  | none =>
      rcases buildLifecycle_of_none hfirst with ⟨told', hok⟩
      cases hok.symm.trans h
      exact ⟨rfl, rfl⟩

theorem exists_buildLifecycle_error_iff :
    (∃ e, buildLifecycle c = .error e) ↔ ∃ s, c.firstDuplicate? = some s := by
  constructor
  · rintro ⟨e, h⟩
    rcases of_buildLifecycle_error h with ⟨s, hfirst, _⟩
    exact ⟨s, hfirst⟩
  · rintro ⟨s, hfirst⟩
    exact ⟨_, buildLifecycle_of_some hfirst⟩

theorem not_isStarted_lifecycle (c : PlaneConfig) (name : String) :
    c.lifecycle.isStarted name = false := by
  rw [isStarted]
  cases hfind : c.lifecycle.hook? .startup name with
  | none =>
      rfl
  | some hook =>
      have hm : hook ∈ c.lifecycle.startupHooks := List.mem_of_find?_eq_some hfind
      rcases List.mem_append.1 hm with hm | hm
      · rcases List.mem_map.1 hm with ⟨e, _, rfl⟩
        rfl
      · rw [List.mem_singleton.1 hm]

theorem names_lifecycle_nodup (h : c.firstDuplicate? = none) :
    (names c.lifecycle.startupSpecs).Nodup := by
  have hservices : ((c.services.map (·.name)).map Service.name).Nodup :=
    (c.names_nodup h).map fun _ _ => Service.name_injective
  have hmonitor : monitorHookName ∉ (c.services.map (·.name)).map Service.name := by
    intro hm
    rcases List.mem_map.1 hm with ⟨s, _, hs⟩
    exact s.name_ne_monitorHookName hs
  rw [names_lifecycle]
  simpa using hservices.concat hmonitor

theorem lifecycle_wellFormed (h : c.firstDuplicate? = none) : c.lifecycle.WellFormed where
  names_nodup := by
    intro kind
    cases kind with
    | startup =>
        simpa [names, startupSpecs, hooks, Function.comp_def] using names_lifecycle_nodup h
    | shutdown =>
        simp [PlaneConfig.lifecycle, hooks]
  sequence_nodup := List.nodup_nil
  isStarted_iff := by
    intro name
    rw [not_isStarted_lifecycle]
    simp [PlaneConfig.lifecycle]

end ServicePlane
