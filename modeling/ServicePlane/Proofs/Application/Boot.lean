import Mathlib.Data.List.Perm.Basic
import ServicePlane.Proofs.Application.Agreement
import ServicePlane.Proofs.Application.Starting
import ServicePlane.Proofs.Lifecycle.Startup

/-!
# Starting a configured plane

The startup of the lifecycle of a configuration, from a fresh context and on a network that does not
change. The order has the services first and the health monitor last, so the startup prepares one
service after the other, and then either ends at the first required one that cannot be reached, or
comes to the health monitor.

* `attempts_services` — the runs of the hooks of services, and the prepared context behind them;
* `startup_lifecycle` — a startup of the lifecycle is cut off behind its first fatal run;
* `boot_of_validated` — when a validated configuration starts, and what is available then.
-/

namespace ServicePlane

open LifecycleRegistry StartupOrder Relation

/-- The run of the startup hook of a service on a network. -/
def ServiceConfig.invocation (n : Network) (e : ServiceConfig) : Invocation where
  kind := .startup
  name := e.name.name
  result := e.probeResult n

@[simp]
theorem ServiceConfig.name_invocation (n : Network) (e : ServiceConfig) :
    (e.invocation n).name = e.name.name :=
  rfl

/-- The run of the startup hook of the health monitor. -/
def monitorInvocation : Invocation where
  kind := .startup
  name := monitorHookName
  result := .reported .started

variable {c : PlaneConfig} {n : Network} {entries done : List ServiceConfig} {e : ServiceConfig}
  {w : Context} {order : List String}

/-! ## The runs -/

/-- Services of which each required one can be reached do not end the startup. -/
theorem isFatal_of_mem_invocations (h : ∀ e ∈ entries, e.required = true → e.Reachable n) :
    ∀ i ∈ entries.map (ServiceConfig.invocation n), i.result.isFatal = false := by
  intro i hi
  rcases List.mem_map.1 hi with ⟨e, he, rfl⟩
  rw [← Bool.not_eq_true]
  intro hfatal
  rcases ServiceConfig.isFatal_probeResult.1 hfatal with ⟨hrequired, hdown⟩
  exact hdown (h e he hrequired)

/-- The hooks of services run one after the other, each returning what the network makes of it, and
prepare the context for what comes then. -/
theorem attempts_services (hnone : c.firstDuplicate? = none) (entries : List ServiceConfig)
    (rest : List String) (hprepared : Context.Prepared c n done w)
    (hnodup : ((done ++ entries).map (·.name)).Nodup) (hmem : ∀ e ∈ entries, e ∈ c.services) :
    ∃ w', Context.Prepared c n (done ++ entries) w' ∧
      c.lifecycle.attempts .startup (entries.map (fun e => e.name.name) ++ rest) w =
        (entries.map (ServiceConfig.invocation n) ++ (c.lifecycle.attempts .startup rest w').1,
          (c.lifecycle.attempts .startup rest w').2) := by
  induction entries generalizing done w with
  | nil =>
      exact ⟨w, by simpa using hprepared, rfl⟩
  | cons e later ih =>
      have hhook : c.lifecycle.hook? .startup e.name.name = some e.startupHook := by
        have hregistered : e.startupHook ∈ c.lifecycle.hooks .startup :=
          List.mem_append_left _ (List.mem_map_of_mem (hmem e (by simp)))
        exact (lifecycle_wellFormed hnone).hook?_of_mem hregistered
      have hnew : e.name ∉ done.map (·.name) := by
        intro hold
        rw [List.map_append, List.nodup_append] at hnodup
        exact hnodup.2.2 e.name hold e.name (by simp) rfl
      have hlater : ∀ e' ∈ later, e' ∈ c.services := fun e' he' =>
        hmem e' (List.mem_cons_of_mem _ he')
      rcases ih (hprepared.snoc hnew) (by simpa using hnodup) hlater with
        ⟨w', hprepared', hruns⟩
      refine ⟨w', by simpa using hprepared', ?_⟩
      have hresult : (e.startupHook.action w).1 = e.probeResult n := by
        rw [← hprepared.network_eq]
        exact Context.startService_fst e w
      rw [List.map_cons, List.cons_append, attempts_of_some hhook, hresult]
      rw [ServiceConfig.startupHook, hruns]
      rfl

theorem attempts_monitor (hnone : c.firstDuplicate? = none) (w : Context) :
    c.lifecycle.attempts .startup [monitorHookName] w =
      ([monitorInvocation], (Context.startMonitor w).2) := by
  have hregistered : (⟨c.monitorHookSpec, false, Context.startMonitor⟩ : Hook Context) ∈
      c.lifecycle.hooks .startup := List.mem_append_right _ (by simp)
  have hhook := (lifecycle_wellFormed hnone).hook?_of_mem hregistered
  rw [c.name_monitorHookSpec] at hhook
  rw [attempts_of_some hhook]
  rfl

/-- A startup of the lifecycle attempts the hooks of the order, up to the first fatal result. -/
theorem startup_lifecycle (hnone : c.firstDuplicate? = none)
    (horder : c.lifecycle.startupOrder = .ok order) (w : Context) :
    let ran := throughFatal (c.lifecycle.attempts .startup order w).1
    (c.lifecycle.startup w).1 = startupResult ⟨[]⟩ ran ∧
      (c.lifecycle.startup w).2.world =
        (c.lifecycle.attempts .startup (ran.map (·.name)) w).2 ∧
      (c.lifecycle.startup w).2.invoked = ran := by
  have hpending : c.lifecycle.pending order = order := by
    refine List.filter_eq_self.2 ?_
    intro name _
    rw [not_isStarted_lifecycle]
    rfl
  rcases startup_of_order (lifecycle_wellFormed hnone) horder w with ⟨telemetry, heq⟩
  rw [hpending] at heq
  rw [heq]
  exact ⟨rfl, rfl, rfl⟩

theorem entry_names_nodup (hnone : c.firstDuplicate? = none) (hperm : entries.Perm c.services) :
    (entries.map (·.name)).Nodup :=
  (hperm.map fun e => e.name).nodup_iff.2 (c.names_nodup hnone)

section Startup

variable (hnone : c.firstDuplicate? = none)
  (horder : c.lifecycle.startupOrder =
    .ok (entries.map (fun e => e.name.name) ++ [monitorHookName]))
  (hperm : entries.Perm c.services)

include hnone horder hperm

/-- When no run is fatal, the startup comes to the health monitor. -/
theorem startup_of_reachable
    (hreach : ∀ e ∈ c.services, e.required = true → e.Reachable n) :
    ∃ w report, Context.Prepared c n entries w ∧
      (c.lifecycle.startup (Context.new c n)).1 = .ok report ∧
      (c.lifecycle.startup (Context.new c n)).2.world = (Context.startMonitor w).2 ∧
      (c.lifecycle.startup (Context.new c n)).2.invoked =
        entries.map (ServiceConfig.invocation n) ++ [monitorInvocation] := by
  rcases attempts_services hnone entries [monitorHookName] (.new c n)
    (entry_names_nodup hnone hperm) (fun e he => hperm.mem_iff.1 he)
    with ⟨w, hprepared, hruns⟩
  rw [attempts_monitor hnone] at hruns
  let runs := entries.map (ServiceConfig.invocation n) ++ [monitorInvocation]
  have hgo : ∀ i ∈ runs, i.result.isFatal = false := by
    intro i hi
    rcases List.mem_append.1 hi with hi | hi
    · exact isFatal_of_mem_invocations (fun e he => hreach e (hperm.mem_iff.1 he)) i hi
    · rw [List.mem_singleton.1 hi]
      rfl
  have hall : throughFatal runs = runs := throughFatal_of_forall hgo
  have hnames : runs.map (·.name) =
      entries.map (fun e => e.name.name) ++ [monitorHookName] := by
    simp [runs, monitorInvocation]
  rcases startup_lifecycle hnone horder (Context.new c n) with ⟨hresult, hworld, hinvoked⟩
  rw [hruns] at hresult hworld hinvoked
  rw [hall, hnames, hruns] at hworld
  have hend : runs.find? (·.result.isFatal) = none := by
    simpa using hgo
  rcases startupResult_of_find?_none hend with ⟨outcomes, hok, _⟩
  refine ⟨w, ⟨outcomes⟩, by simpa using hprepared, ?_, hworld, hinvoked.trans hall⟩
  rw [hresult, hall]
  exact hok

/-- The first required service that cannot be reached ends the startup. -/
theorem startup_of_not_reachable {before after : List ServiceConfig}
    (hsplit : entries = before ++ e :: after)
    (hbefore : ∀ e' ∈ before, e'.required = true → e'.Reachable n) (hrequired : e.required = true)
    (hdown : ¬ e.Reachable n) :
    ∃ w source, Context.Prepared c n (before ++ [e]) w ∧
      (probe n e.address (e.connectTimeoutSecs.toNat * 1000)).outcome = .error source ∧
      (c.lifecycle.startup (Context.new c n)).1 = .error (.hookFailed e.name.name source) ∧
      (c.lifecycle.startup (Context.new c n)).2.world = w ∧
      (c.lifecycle.startup (Context.new c n)).2.invoked =
        (before ++ [e]).map (ServiceConfig.invocation n) := by
  subst hsplit
  have hnodup : ((before ++ [e]).map (·.name)).Nodup := by
    have hall := entry_names_nodup hnone hperm
    rw [List.append_cons, List.map_append] at hall
    exact (List.nodup_append.1 hall).1
  have hmem : ∀ e' ∈ before ++ [e], e' ∈ c.services := by
    intro e' he'
    refine hperm.mem_iff.1 ?_
    rw [List.append_cons]
    exact List.mem_append_left _ he'
  have hfatal : (e.invocation n).result.isFatal = true :=
    ServiceConfig.isFatal_probeResult.2 ⟨hrequired, hdown⟩
  have hgo := isFatal_of_mem_invocations hbefore
  -- The run of the service is the last one, whatever the hooks behind it would do.
  rcases attempts_services hnone (before ++ [e])
    (after.map (fun e => e.name.name) ++ [monitorHookName]) (.new c n) hnodup hmem
    with ⟨_, _, hruns⟩
  rcases attempts_services hnone (before ++ [e]) [] (.new c n) hnodup hmem
    with ⟨w, hprepared, hworld⟩
  rcases startup_lifecycle hnone horder (Context.new c n) with ⟨hresult, hworld', hinvoked⟩
  have hnames : (before ++ e :: after).map (fun e => e.name.name) ++ [monitorHookName] =
      (before ++ [e]).map (fun e => e.name.name) ++
        (after.map (fun e => e.name.name) ++ [monitorHookName]) := by
    simp
  have hran : throughFatal (c.lifecycle.attempts .startup
      ((before ++ e :: after).map (fun e => e.name.name) ++ [monitorHookName])
      (Context.new c n)).1 = (before ++ [e]).map (ServiceConfig.invocation n) := by
    rw [hnames, hruns, List.map_append, List.map_singleton, List.append_assoc,
      List.singleton_append, throughFatal_append_cons hgo hfatal]
  rw [hran] at hresult hworld' hinvoked
  rcases ServiceConfig.exists_error_of_not_reachable hdown (e.connectTimeoutSecs.toNat * 1000)
    with ⟨source, hsource⟩
  refine ⟨w, source, by simpa using hprepared, hsource, ?_, ?_, hinvoked⟩
  · have hend : ((before ++ [e]).map (ServiceConfig.invocation n)).find? (·.result.isFatal) =
        some (e.invocation n) := by
      rw [List.map_append, List.find?_append, List.find?_eq_none.2 (by simpa using hgo)]
      simp [hfatal]
    have hown : (e.invocation n).result.failure? = some source :=
      ServiceConfig.failure?_probeResult hsource
    rw [hresult, startupResult, hend]
    simp [hown]
  · rw [hworld', List.map_map]
    simpa [attempts, Function.comp_def] using congrArg Prod.snd hworld

end Startup

/-! ## The outcome -/

/-- An order of the lifecycle has all services, each entry once, and then the health monitor. -/
theorem exists_entries_of_order (hnone : c.firstDuplicate? = none)
    (horder : c.lifecycle.startupOrder = .ok order) :
    ∃ entries : List ServiceConfig, entries.Perm c.services ∧
      order = entries.map (fun e => e.name.name) ++ [monitorHookName] := by
  have hlegal := legalOrder_of_resolve (names_lifecycle_nodup hnone) horder
  rcases exists_services_of_legalOrder hnone hlegal with ⟨services, rfl, hperm, _⟩
  -- The names of the order are those of entries in the same order.
  have hentries : Relation.Comp (fun l k => l = List.map (fun e : ServiceConfig => e.name.name) k)
      List.Perm services c.services := by
    rw [List.eq_map_comp_perm]
    exact hperm
  rcases hentries with ⟨entries, rfl, hentries⟩
  exact ⟨entries, hentries, rfl⟩

/-- A validated configuration without a way round has an order, of all its services and then the
health monitor. -/
theorem exists_order_of_validated (hvalid : c.validate = .ok ())
    (hacyclic : ∀ s, ¬ TransGen c.Requires s s) :
    ∃ entries : List ServiceConfig, entries.Perm c.services ∧
      c.lifecycle.startupOrder = .ok (entries.map (fun e => e.name.name) ++ [monitorHookName]) := by
  have hnone := PlaneConfig.firstDuplicate?_of_validated hvalid
  have hresolvable : Resolvable c.lifecycle.startupSpecs :=
    resolvable_lifecycle_iff.2
      ⟨fun s d hsd => PlaneConfig.configured_of_validated hvalid hsd, hacyclic⟩
  rcases (exists_order_iff_resolvable (names_lifecycle_nodup hnone)).2 hresolvable with
    ⟨order, horder⟩
  rcases exists_entries_of_order hnone horder with ⟨entries, hperm, rfl⟩
  exact ⟨entries, hperm, horder⟩

/-- An entry that does not stand before a place of the order is at this place, or its service
starts later. -/
theorem eq_or_precedes_of_split {e' : ServiceConfig} {before after : List ServiceConfig}
    (h : e' ∈ before ++ e :: after) (hbefore : e' ∉ before) (last : List String) :
    e' = e ∨ Precedes ((before ++ e :: after).map (fun e => e.name.name) ++ last)
      e.name.name e'.name.name := by
  rcases List.mem_cons.1 ((List.mem_append.1 h).resolve_left hbefore) with heq | hafter
  · exact .inl heq
  · right
    have hname : e'.name.name ∈ after.map fun e => e.name.name := List.mem_map_of_mem hafter
    have htail : Precedes ((e :: after).map fun e => e.name.name) e.name.name e'.name.name :=
      (List.singleton_sublist.2 hname).cons_cons e.name.name
    rw [List.map_append]
    exact (htail.sublist (List.sublist_append_right _ _)).append_right last

/-- A validated configuration whose services do not require themselves, directly or not, has a
startup order, and on any network its startup succeeds exactly when every required service can be
reached. Then the monitor is running, checks the configured services, and a service is available
when it can be reached and either is taken to be available or needs only one success to be; without
an entry it is available when it is taken to be. Otherwise the startup ends at the first required
service of the order that cannot be reached, and no monitor is running. -/
theorem boot_of_validated (c : PlaneConfig) (n : Network) (hvalid : c.validate = .ok ())
    (hacyclic : ∀ s, ¬ TransGen c.Requires s s) :
    ∃ r told order, buildLifecycle c = .ok (r, told) ∧ r.startupOrder = .ok order ∧
      let result := (r.startup (Context.new c n)).1
      let p := (r.startup (Context.new c n)).2.world.plane
      ((∃ report, result = .ok report) ↔
        ∀ e ∈ c.services, e.required = true → e.Reachable n) ∧
      (∀ report, result = .ok report →
        p.monitor.running = true ∧
        (∀ s, s ∈ p.monitor.registered ↔ c.Configured s) ∧
        (∀ e ∈ c.services, p.registry.isAvailable e.name =
          (decide (e.Reachable n) &&
            (c.health.optimisticBoot || decide (c.health.recoveryThreshold = 1)))) ∧
        ∀ s, ¬ c.Configured s → p.registry.isAvailable s = c.health.optimisticBoot) ∧
      ∀ error, result = .error error →
        p.monitor.running = false ∧
        ∃ e ∈ c.services, ∃ source, error = .hookFailed e.name.name source ∧
          (probe n e.address (e.connectTimeoutSecs.toNat * 1000)).outcome = .error source ∧
          e.required = true ∧ ¬ e.Reachable n ∧
          ∀ e' ∈ c.services, e'.required = true → ¬ e'.Reachable n →
            e' = e ∨ Precedes order e.name.name e'.name.name := by
  have hnone := PlaneConfig.firstDuplicate?_of_validated hvalid
  rcases buildLifecycle_of_none hnone with ⟨told, hbuilt⟩
  rcases exists_order_of_validated hvalid hacyclic with ⟨entries, hperm, horder⟩
  refine ⟨c.lifecycle, told, _, hbuilt, horder, ?_⟩
  intro result p
  -- Either no entry ends the startup, or there is a first one in the order that does.
  cases hfirst : entries.find? fun e => e.required && !decide (e.Reachable n) with
  | none =>
      have hreach : ∀ e ∈ c.services, e.required = true → e.Reachable n := by
        intro e he hrequired
        have hgo := List.find?_eq_none.1 hfirst e (hperm.mem_iff.2 he)
        simpa [hrequired] using hgo
      rcases startup_of_reachable hnone horder hperm hreach with
        ⟨w, report, hprepared, hok, hworld, _⟩
      have hresult : result = .ok report := hok
      have hp : p = (Context.startMonitor w).2.plane := congrArg Context.plane hworld
      have hconfigured : ∀ s, s ∈ entries.map (·.name) ↔ c.Configured s := fun s =>
        (hperm.map fun e => e.name).mem_iff
      have hrecovery := PlaneConfig.recoveryThreshold_of_validated hvalid
      refine ⟨iff_of_true ⟨report, hresult⟩ hreach, ?_, ?_⟩
      · intro _ _
        rw [hp]
        refine ⟨hprepared.running_startMonitor, ?_, ?_, ?_⟩
        · intro s
          rw [hprepared.mem_registered_startMonitor_iff, hconfigured]
        · intro e he
          exact hprepared.isAvailable_startMonitor (hperm.mem_iff.2 he) (hreach e he) hrecovery
        · intro s hs
          exact hprepared.isAvailable_startMonitor_of_not_mem (mt (hconfigured s).1 hs)
      · intro error herror
        cases hresult.symm.trans herror
  | some e =>
      rcases List.find?_eq_some_iff_append.1 hfirst with ⟨hfatal, before, after, rfl, hbefore⟩
      have hboth : e.required = true ∧ ¬ e.Reachable n := by
        simpa using hfatal
      have hgo : ∀ e' ∈ before, e'.required = true → e'.Reachable n := by
        intro e' he' hrequired
        simpa [hrequired] using hbefore e' he'
      have hmem : e ∈ c.services := hperm.mem_iff.1 (by simp)
      rcases startup_of_not_reachable hnone horder hperm rfl hgo hboth.1 hboth.2 with
        ⟨w, source, hprepared, hsource, hfailed, hworld, _⟩
      have hresult : result = .error (.hookFailed e.name.name source) := hfailed
      have hp : p = w.plane := congrArg Context.plane hworld
      refine ⟨iff_of_false ?_ fun hall => hboth.2 (hall e hmem hboth.1), ?_, ?_⟩
      · rintro ⟨report, hok⟩
        cases hresult.symm.trans hok
      · intro report hok
        cases hresult.symm.trans hok
      · intro error herror
        cases hresult.symm.trans herror
        rw [hp]
        refine ⟨hprepared.stopped, e, hmem, source, rfl, hsource, hboth.1, hboth.2, ?_⟩
        intro e' he' hrequired hdown
        have hearlier : e' ∉ before := fun hmem' => hdown (hgo e' hmem' hrequired)
        exact eq_or_precedes_of_split (hperm.mem_iff.2 he') hearlier [monitorHookName]

/-- A cache that may be missing, and the database that it requires, which is known by a name. -/
def cachedDatabase : PlaneConfig :=
  { PlaneConfig.standard with
    services := [
      { ServiceConfig.named .cache "127.0.0.1:6379" with
        requires := [.database], required := false },
      .named .database "database.internal:5432"] }

/-- A network on which the database alone can be reached, at the second address of its name. -/
def databaseOnly : Network :=
  { Network.empty with
    endpoints := [(.v4 [10, 0, 0, 5] 5432, .accepting)]
    lookup := fun host port =>
      if host = "database.internal" then .ok [.v4 [10, 0, 0, 4] port, .v4 [10, 0, 0, 5] port]
      else .error .unknownHost }

/-- With the database alone, the plane starts without its cache; without the database it does not
start. -/
theorem boot_of_validated_cachedDatabase :
    cachedDatabase.validate = .ok () ∧ (∀ s, ¬ TransGen cachedDatabase.Requires s s) ∧
      let context := Context.new cachedDatabase
      let p := (cachedDatabase.lifecycle.startup (context databaseOnly)).2.world.plane
      p.monitor.running = true ∧ p.registry.isAvailable .database = true ∧
        p.registry.isAvailable .cache = false ∧ p.registry.isAvailable .auth = true ∧
        ∃ source, (cachedDatabase.lifecycle.startup (context .empty)).1 =
          .error (.hookFailed "database" source) := by
  have hvalid : cachedDatabase.validate = .ok () := by
    decide +kernel
  have hnone := PlaneConfig.firstDuplicate?_of_validated hvalid
  have horder : cachedDatabase.lifecycle.startupOrder =
      .ok ["database", "cache", "health_monitor"] := by
    decide +kernel
  have hacyclic : ∀ s, ¬ TransGen cachedDatabase.Requires s s := by
    have hlegal := legalOrder_of_resolve (names_lifecycle_nodup hnone) horder
    exact (resolvable_lifecycle_iff.1 (hlegal.resolvable (names_lifecycle_nodup hnone))).2
  refine ⟨hvalid, hacyclic, ?_⟩
  intro context p
  have hcache : ({ ServiceConfig.named .cache "127.0.0.1:6379" with
      requires := [.database], required := false } : ServiceConfig) ∈ cachedDatabase.services := by
    decide +kernel
  have hdatabase : ServiceConfig.named .database "database.internal:5432" ∈
      cachedDatabase.services := by
    decide +kernel
  obtain ⟨r, told, order, hbuilt, _, hiff, hstarted, _⟩ :=
    boot_of_validated cachedDatabase databaseOnly hvalid hacyclic
  obtain ⟨_, rfl⟩ := of_buildLifecycle_ok hbuilt
  rcases hiff.2 (by decide +kernel) with ⟨report, hok⟩
  rcases hstarted report hok with ⟨hrunning, _, havailable, hothers⟩
  refine ⟨hrunning, (havailable _ hdatabase).trans (by decide +kernel),
    (havailable _ hcache).trans (by decide +kernel), (hothers .auth (by decide +kernel)).trans rfl,
    ?_⟩
  obtain ⟨r, told, order, hbuilt, _, hiff, _, hended⟩ :=
    boot_of_validated cachedDatabase .empty hvalid hacyclic
  obtain ⟨_, rfl⟩ := of_buildLifecycle_ok hbuilt
  cases hresult : (cachedDatabase.lifecycle.startup (Context.new cachedDatabase .empty)).1 with
  | ok report =>
      exact absurd (hiff.1 ⟨report, hresult⟩) (by decide +kernel)
  | error error =>
      rcases hended error hresult with ⟨_, e, he, source, rfl, _, hrequired, _⟩
      have hname : ∀ e ∈ cachedDatabase.services, e.required = true → e.name.name = "database" := by
        decide +kernel
      exact ⟨source, by rw [hname e he hrequired]⟩

end ServicePlane
