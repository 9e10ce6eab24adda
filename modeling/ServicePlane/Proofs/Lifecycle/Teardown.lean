import ServicePlane.Proofs.Lifecycle.History

/-!
# Teardown and requirements

A shutdown runs the hooks in the reverse of the order in which they started. When every required
hook starts before what requires it, that takes down a hook before the hooks it requires. A hook that
is skipped, or fails without being required for the process, breaks the premise: the startup goes on
to the hooks that require it, and a later startup runs it again and starts it behind them.

* `StartedWithout startups a b` — in one of the startups `a` started while `b` ran and did not;
* `RequirementKept run a b` — `b` is registered, and started before `a` unless `a` started without it;
* `teardown_order` — a shutdown runs the hook of `a` before that of a required `b` exactly when `a`
  did not start without `b`, and after it otherwise.
-/

namespace ServicePlane

universe u

/-- In one of the startups, `a` started while `b` ran and did not start. -/
def StartedWithout (startups : List (List Invocation)) (a b : String) : Prop :=
  ∃ invoked ∈ startups,
    a ∈ startedIn invoked ∧ b ∈ invoked.map (·.name) ∧ b ∉ startedIn invoked

instance (startups : List (List Invocation)) (a b : String) :
    Decidable (StartedWithout startups a b) :=
  inferInstanceAs (Decidable (∃ invoked ∈ startups,
    a ∈ startedIn invoked ∧ b ∈ invoked.map (·.name) ∧ b ∉ startedIn invoked))

theorem startedWithout_append {startups : List (List Invocation)} {invoked : List Invocation}
    {a b : String} :
    StartedWithout (startups ++ [invoked]) a b ↔ StartedWithout startups a b ∨
      (a ∈ startedIn invoked ∧ b ∈ invoked.map (·.name) ∧ b ∉ startedIn invoked) := by
  simp only [StartedWithout, List.mem_append, List.mem_singleton, or_and_right, exists_or,
    exists_eq_left]

theorem StartedWithout.mem_left {startups : List (List Invocation)} {a b : String}
    (h : StartedWithout startups a b) : a ∈ startedIn startups.flatten := by
  rcases h with ⟨invoked, hm, ha, _⟩
  exact mem_startedIn.2 (List.mem_flatten_of_mem hm (mem_startedIn.1 ha))

/-- When a startup starts a hook, any hook that comes earlier in the order either started before it,
in this startup or in one before, or ran in this one and did not start. -/
theorem StartupTrace.started_before {started : String → Bool} {order old : List String}
    {invoked : List Invocation} {a b : String} (h : StartupTrace started order invoked)
    (horder : order.Nodup) (hold : ∀ name, started name = true ↔ name ∈ old)
    (hba : Precedes order b a) (ha : a ∈ startedIn invoked) :
    Precedes (old ++ startedIn invoked) b a ↔
      ¬ (b ∈ invoked.map (·.name) ∧ b ∉ startedIn invoked) := by
  by_cases hb : b ∈ old
  · -- It was started before this startup, which passes over it.
    have hpassed : b ∉ invoked.map (·.name) := by
      intro hmem
      rcases List.mem_map.1 hmem with ⟨i, hi, rfl⟩
      have hfresh := (h.mem_order hi).2
      rw [(hold i.name).2 hb] at hfresh
      cases hfresh
    constructor
    · intro _ hrun
      exact hpassed hrun.1
    · intro _
      exact Precedes.of_mem_append hb ha
  · have hfresh : started b = false := by
      rw [← Bool.not_eq_true, hold b]
      exact hb
    have hnames : Precedes (invoked.map (·.name)) b a :=
      h.precedes horder hba hfresh ((startedIn_sublist invoked).subset ha)
    constructor
    · intro hprecedes hrun
      rcases List.mem_append.1 hprecedes.mem_left with hmem | hmem
      · exact hb hmem
      · exact hrun.2 hmem
    · intro hrun
      have hmem : b ∈ startedIn invoked := by
        by_contra hnot
        exact hrun ⟨hnames.mem_left, hnot⟩
      have hstarted : Precedes (startedIn invoked) b a :=
        (Precedes.iff_of_sublist (startedIn_sublist invoked) (h.names_nodup horder) hmem ha).2 hnames
      exact hstarted.sublist (List.sublist_append_right old (startedIn invoked))

namespace LifecycleRun

open LifecycleRegistry StartupOrder Relation

variable {σ : Type u} {run : LifecycleRun σ} {a b : String}

/-! ## What a run keeps of requirements -/

/-- A hook that `a` requires is another registered one, and it started before `a` unless `a` started
without it. -/
structure RequirementKept (run : LifecycleRun σ) (a b : String) : Prop where
  ne : b ≠ a
  registered : b ∈ names run.registry.startupSpecs
  precedes_iff : Precedes run.registry.startedSequence b a ↔
    ¬ StartedWithout (sinceShutdown run.history) a b

/-- `RequirementKept` for all that started hooks require, directly or through others. -/
def RequirementsKept (run : LifecycleRun σ) : Prop :=
  ∀ a ∈ run.registry.startedSequence, ∀ b, TransGen (Requires run.registry.startupSpecs) a b →
    run.RequirementKept a b

namespace RequirementsKept

/-- A new hook changes nothing for the started ones: what they require is registered already. -/
theorem register {r' : LifecycleRegistry σ} {kind : HookKind} {spec : HookSpec}
    {action : σ → HookResult × σ} {told : Telemetry} (hkept : run.RequirementsKept)
    (hfaithful : run.Faithful) (h : run.registry.register kind spec action = .ok (r', told)) :
    ({ run with registry := r' } : LifecycleRun σ).RequirementsKept := by
  have hsequence : r'.startedSequence = run.registry.startedSequence := (register_spec h).2.2
  intro a ha b hab
  have ha' : a ∈ run.registry.startedSequence := by
    rw [← hsequence]
    exact ha
  rcases startupSpecs_of_register h with hsame | ⟨hgrown, hnew⟩
  · have hold := hkept a ha' b (by simpa [hsame] using hab)
    exact ⟨hold.ne, by simpa [hsame] using hold.registered, by simpa [hsequence] using hold.precedes_iff⟩
  · have hregistered := hfaithful.wellFormed.registered_of_mem_sequence ha'
    have hab' : TransGen (Requires run.registry.startupSpecs) a b := by
      refine transGen_of_append ?_ hnew hregistered ?_
      · simpa [hgrown] using hab
      · intro z haz
        exact (hkept a ha' z haz).registered
    have hold := hkept a ha' b hab'
    refine ⟨hold.ne, ?_, by simpa [hsequence] using hold.precedes_iff⟩
    have : b ∈ names (run.registry.startupSpecs ++ [spec]) := by
      simpa [names] using Or.inl hold.registered
    simpa [hgrown] using this

/-- A startup leaves the hooks alone that are started, and starts others in a legal order. -/
theorem startup (hkept : run.RequirementsKept) (hfaithful : run.Faithful) (w : σ) :
    (run.perform (.startup w)).RequirementsKept := by
  have hr : run.registry.WellFormed := hfaithful.wellFormed
  rcases startup_trace hr w with ⟨hregistry, htrace⟩
  have hsequence : (run.perform (.startup w)).registry.startedSequence =
      run.registry.startedSequence ++ startedIn (run.registry.startup w).2.invoked := by
    simp [perform, hregistry]
  have hspecs : (run.perform (.startup w)).registry.startupSpecs = run.registry.startupSpecs := by
    simp [perform, hregistry]
  have hhistory : sinceShutdown (run.perform (.startup w)).history =
      sinceShutdown run.history ++ [(run.registry.startup w).2.invoked] := by
    simp [perform]
  have hnodup : (run.registry.startedSequence ++
      startedIn (run.registry.startup w).2.invoked).Nodup := (startup_marks hr w).2
  intro a ha b hab
  rw [hsequence, List.mem_append] at ha
  rw [hspecs] at hab
  rcases ha with ha | ha
  · -- `a` was started before, and this startup passes over it.
    have hold : run.RequirementKept a b := hkept a ha b hab
    have hnot : a ∉ startedIn (run.registry.startup w).2.invoked := by
      intro hmem
      exact (List.nodup_append.1 hnodup).2.2 a ha a hmem rfl
    refine ⟨hold.ne, by rw [hspecs]; exact hold.registered, ?_⟩
    rw [hsequence, hhistory, startedWithout_append]
    constructor
    · intro h
      have hwithout := hold.precedes_iff.1 (h.of_append hnodup ha)
      rintro (hbefore | ⟨hmem, _⟩)
      · exact hwithout hbefore
      · exact hnot hmem
    · intro h
      have hwithout : ¬ StartedWithout (sinceShutdown run.history) a b := by
        intro hbefore
        exact h (Or.inl hbefore)
      exact (hold.precedes_iff.2 hwithout).append_right _
  · rcases htrace with hnone | ⟨order, _, hlegal, htrace⟩
    · rw [hnone] at ha
      cases ha
    · -- `a` is started by this startup, which goes through its requirements first.
      have horder : order.Nodup := hlegal.nodup hr.startup_names_nodup
      have hba : Precedes order b a := hlegal.precedes_of_transGen hr.startup_names_nodup hab
      have hnever : ¬ StartedWithout (sinceShutdown run.history) a b := by
        intro h
        have hmem : a ∈ run.registry.startedSequence := by
          rw [hfaithful.sequence_eq]
          exact h.mem_left
        exact (List.nodup_append.1 hnodup).2.2 a hmem a ha rfl
      refine ⟨?_, ?_, ?_⟩
      · rintro rfl
        exact Precedes.irrefl horder hba
      · rw [hspecs]
        exact hlegal.perm.mem_iff.1 hba.mem_left
      · rw [hsequence, hhistory, startedWithout_append, or_iff_right hnever, and_iff_right ha]
        exact htrace.started_before horder hr.isStarted_iff hba ha

theorem perform (hkept : run.RequirementsKept) (hfaithful : run.Faithful) (call : LifecycleCall σ) :
    (run.perform call).RequirementsKept := by
  cases call with
  | register kind spec action =>
      rw [LifecycleRun.perform]
      cases hregister : run.registry.register kind spec action with
      | error e =>
          exact hkept
      | ok result =>
          exact hkept.register hfaithful hregister
  | startup w =>
      exact hkept.startup hfaithful w
  | shutdown w =>
      -- Nothing is started any more.
      intro a ha
      have hregistry := (shutdown_spec run.registry w).1
      rw [LifecycleRun.perform, hregistry] at ha
      cases ha

end RequirementsKept

theorem requirementsKept (calls : List (LifecycleCall σ)) : (of calls).RequirementsKept := by
  have hboth : (of calls).Faithful ∧ (of calls).RequirementsKept := by
    refine of_induction (P := fun run => run.Faithful ∧ run.RequirementsKept) ?_ ?_ calls
    · exact ⟨faithful [], by intro a ha; cases ha⟩
    · intro run call h
      exact ⟨h.1.perform call, h.2.perform h.1 call⟩
  exact hboth.2

/-! ## The order of a shutdown -/

/-- The names that a shutdown runs. -/
theorem names_of_shutdown (calls : List (LifecycleCall σ)) (w : σ) :
    ((of calls).registry.shutdown w).2.invoked.map (·.name) =
      (of calls).registry.startedHooks.reverse.filter ((of calls).registry.contains .shutdown) := by
  have hinvoked := (shutdown_spec (of calls).registry w).2
  have hnames := congrArg (List.map Prod.snd) hinvoked
  rw [(faithful calls).wellFormed.shutdownOrder_eq] at hnames
  simpa [startedHooks, Function.comp_def] using hnames

/-- Whatever was called before, a shutdown runs the hook of `a` before the hook of a `b` that `a`
requires, unless `a` started without `b`; then it runs them the other way round. -/
theorem teardown_order (calls : List (LifecycleCall σ)) (w : σ) (a b : String)
    (ha : a ∈ (of calls).registry.startedHooks) (hb : b ∈ (of calls).registry.startedHooks)
    (hsa : (of calls).registry.contains .shutdown a = true)
    (hsb : (of calls).registry.contains .shutdown b = true)
    (hab : TransGen (Requires (of calls).registry.startupSpecs) a b) :
    let stopped := ((of calls).registry.shutdown w).2.invoked.map (·.name)
    stopped.Nodup ∧
      (Precedes stopped a b ↔ ¬ StartedWithout (sinceShutdown (of calls).history) a b) ∧
      (Precedes stopped b a ↔ StartedWithout (sinceShutdown (of calls).history) a b) := by
  intro stopped
  have hstopped : stopped = (of calls).registry.startedHooks.reverse.filter
      ((of calls).registry.contains .shutdown) := names_of_shutdown calls w
  have hkept : (of calls).RequirementKept a b := requirementsKept calls a ha b hab
  have hreverse : (of calls).registry.startedHooks.reverse.Nodup :=
    List.nodup_reverse.2 (faithful calls).wellFormed.sequence_nodup
  have hnodup : stopped.Nodup := by
    rw [hstopped]
    exact hreverse.filter _
  have hmema : a ∈ stopped := by
    rw [hstopped]
    simp [ha, hsa]
  have hmemb : b ∈ stopped := by
    rw [hstopped]
    simp [hb, hsb]
  have hfirst : Precedes stopped a b ↔ ¬ StartedWithout (sinceShutdown (of calls).history) a b := by
    have hsub : stopped.Sublist (of calls).registry.startedHooks.reverse := by
      rw [hstopped]
      exact List.filter_sublist
    calc
      Precedes stopped a b ↔ Precedes (of calls).registry.startedHooks.reverse a b :=
        Precedes.iff_of_sublist hsub hreverse hmema hmemb
      _ ↔ Precedes (of calls).registry.startedHooks b a := Precedes.reverse_iff
      _ ↔ ¬ StartedWithout (sinceShutdown (of calls).history) a b := hkept.precedes_iff
  refine ⟨hnodup, hfirst, ?_⟩
  rw [← Precedes.not_iff hnodup hmema hmemb hkept.ne.symm, hfirst, not_not]

/-- Two hooks with teardown, of which `cache` requires `db`; `db` is disabled in the world `false`. -/
def databaseAndCache : List (LifecycleCall Bool) :=
  [.register .startup (.of "db" 10 []) fun w =>
      (.reported (if w then .started else .skipped "disabled"), w),
    .register .shutdown (HookSpec.named "db") fun w => (.reported .started, w),
    .register .startup (.of "cache" 20 ["db"]) fun w => (.reported .started, w),
    .register .shutdown (HookSpec.named "cache") fun w => (.reported .started, w)]

/-- When both start in one startup, `db` is taken down last. -/
theorem teardown_order_together :
    let run := of (databaseAndCache ++ [.startup true])
    Precedes ((run.registry.shutdown true).2.invoked.map (·.name)) "cache" "db" := by
  have hrequires : Requires (of (databaseAndCache ++ [.startup true])).registry.startupSpecs
      "cache" "db" := by
    exact ⟨.of "cache" 20 ["db"], by decide +kernel, rfl, by decide +kernel⟩
  have horder := teardown_order (databaseAndCache ++ [.startup true]) true "cache" "db"
    (by decide +kernel) (by decide +kernel) (by decide +kernel) (by decide +kernel)
    (.single hrequires)
  exact horder.2.1.2 (by decide +kernel)

/-- Requirements alone do not order the teardown: here `db` is skipped by a first startup and starts
in a second one, behind `cache`, so it is taken down while `cache` is still up. -/
theorem teardown_not_by_requirement :
    ¬ ∀ (calls : List (LifecycleCall Bool)) (w : Bool) (a b : String),
      a ∈ (of calls).registry.startedHooks → b ∈ (of calls).registry.startedHooks →
      (of calls).registry.contains .shutdown a = true →
      (of calls).registry.contains .shutdown b = true →
      TransGen (Requires (of calls).registry.startupSpecs) a b →
      Precedes (((of calls).registry.shutdown w).2.invoked.map (·.name)) a b := by
  intro hall
  have hrequires : Requires (of (databaseAndCache ++
      [.startup false, .startup true])).registry.startupSpecs "cache" "db" := by
    exact ⟨.of "cache" 20 ["db"], by decide +kernel, rfl, by decide +kernel⟩
  have horder := hall (databaseAndCache ++ [.startup false, .startup true]) true "cache" "db"
    (by decide +kernel) (by decide +kernel) (by decide +kernel) (by decide +kernel)
    (.single hrequires)
  have hstopped : ¬ Precedes (((of (databaseAndCache ++
      [.startup false, .startup true])).registry.shutdown true).2.invoked.map (·.name))
      "cache" "db" := by
    decide +kernel
  exact hstopped horder

end LifecycleRun

end ServicePlane
