import ServicePlane.Proofs.Lifecycle.History

/-!
# Startups that resume

A startup that a hook has ended leaves the hooks before it started, and the next startup goes on
from there. When every hook that runs either starts or ends its startup, no hook is left out on the
way, so what is started is at any time the first part of the startup order.

* `StartupTrace.head?_names`, `startedIn_isPrefix`, `startedIn_eq` — where a startup begins among
  the hooks that are not started, and how far it gets;
* `exists_report_iff` — a startup returns a report exactly when no run has ended it;
* `Resumable base order r` — `r` is `base` with a first part of the order marked, which each startup
  keeps;
* `startups_resume` — all startups since nothing was started, one after the other.
-/

namespace ServicePlane

universe u

/-- Every hook that ran either started or ended its startup. -/
def StartedOrFatal (runs : List Invocation) : Prop :=
  ∀ i ∈ runs, i.result = .reported .started ∨ i.result.isFatal = true

instance (runs : List Invocation) : Decidable (StartedOrFatal runs) :=
  inferInstanceAs (Decidable (∀ i ∈ runs,
    i.result = .reported .started ∨ i.result.isFatal = true))

namespace StartupTrace

variable {started : String → Bool} {order : List String} {invoked : List Invocation}

/-- A startup begins with the first hook that is not started. -/
theorem head?_names (h : StartupTrace started order invoked) :
    (invoked.map (·.name)).head? = (order.filter fun name => !started name).head? := by
  induction h with
  | done =>
      rfl
  | passed h _ ih =>
      simpa [h] using ih
  | ran h _ _ _ =>
      simp [h]
  | stopped h _ =>
      simp [h]

/-- What a startup starts is the first part of the hooks that are not started, if none of those that
ran is passed over. -/
theorem startedIn_isPrefix (h : StartupTrace started order invoked)
    (hruns : StartedOrFatal invoked) :
    startedIn invoked <+: order.filter fun name => !started name := by
  induction h with
  | done =>
      exact List.prefix_rfl
  | passed h _ ih =>
      simpa [h] using ih hruns
  | @ran name rest invoked result h hresult hrest ih =>
      have hstarted : result = .reported .started := by
        rcases hruns _ List.mem_cons_self with hstarted | hfatal
        · exact hstarted
        · rw [hresult] at hfatal
          cases hfatal
      have hlater := ih fun i hi => hruns i (List.mem_cons_of_mem _ hi)
      subst hstarted
      simpa [startedIn, h] using hlater
  | @stopped name rest result h hresult =>
      -- The only hook that ran is the one that has ended the startup.
      have hnot : result ≠ .reported .started := by
        rintro rfl
        cases hresult
      simp [startedIn, hnot]

/-- A startup in which all hooks start that ran has started all hooks. -/
theorem startedIn_eq (h : StartupTrace started order invoked)
    (hall : ∀ i ∈ invoked, i.result = .reported .started) :
    startedIn invoked = order.filter fun name => !started name := by
  induction h with
  | done =>
      rfl
  | passed h _ ih =>
      simpa [h] using ih hall
  | @ran name rest invoked result h hresult hrest ih =>
      have hstarted : result = .reported .started := hall _ List.mem_cons_self
      have hlater := ih fun i hi => hall i (List.mem_cons_of_mem _ hi)
      subst hstarted
      simpa [startedIn, h] using hlater
  | @stopped name rest result h hresult =>
      have hstarted : result = .reported .started := hall _ List.mem_cons_self
      rw [hstarted] at hresult
      cases hresult

end StartupTrace

namespace LifecycleRegistry

open StartupOrder

variable {σ : Type u} {base r : LifecycleRegistry σ} {order rest : List String}

/-- A startup that has an order returns a report exactly when no run has ended it. -/
theorem exists_report_iff (hr : r.WellFormed) (horder : r.startupOrder = .ok order) (w : σ) :
    (∃ report, (r.startup w).1 = .ok report) ↔
      ∀ i ∈ (r.startup w).2.invoked, i.result.isFatal = false := by
  rcases startup_of_order hr horder w with ⟨telemetry, heq⟩
  rw [heq, startupResult]
  constructor
  · rintro ⟨report, hreport⟩
    split at hreport
    · cases hreport
    · rename_i hnone
      simpa using hnone
  · intro hgo
    have hnone : (throughFatal (r.attempts .startup (r.pending order) w).1).find?
        (·.result.isFatal) = none := by
      simpa using hgo
    rw [hnone]
    exact ⟨_, rfl⟩

/-- What is left to start, when the started hooks are the first part of the order. -/
theorem pending_of_append (hr : r.WellFormed) (horder : r.startupOrder = .ok order)
    (hrest : r.startedSequence ++ rest = order) : r.pending order = rest := by
  have hlegal : LegalOrder r.startupSpecs order :=
    legalOrder_of_resolve hr.startup_names_nodup horder
  have hnodup : (r.startedSequence ++ rest).Nodup := by
    rw [hrest]
    exact hlegal.nodup hr.startup_names_nodup
  have hstarted : r.startedSequence.filter (fun name => !r.isStarted name) = [] := by
    rw [List.filter_eq_nil_iff]
    intro name hname
    simp [(hr.isStarted_iff name).2 hname]
  have hothers : rest.filter (fun name => !r.isStarted name) = rest := by
    rw [List.filter_eq_self]
    intro name hname
    have hnot : name ∉ r.startedSequence := by
      intro hmem
      exact (List.nodup_append.1 hnodup).2.2 name hmem name hname rfl
    simp [hr.isStarted_eq_false_iff.2 hnot]
  rw [pending, ← hrest, List.filter_append, hstarted, hothers, List.nil_append]

/-- The runs of a startup make a trace of what is left to start. -/
theorem startup_trace_of_order (hr : r.WellFormed) (horder : r.startupOrder = .ok order) (w : σ) :
    StartupTrace r.isStarted order (r.startup w).2.invoked := by
  rcases startup_of_order hr horder w with ⟨telemetry, heq⟩
  rw [heq]
  exact .of_runs (names_attempts_pending hr horder w)

/-- A startup that starts what it runs gets to the end exactly when it returns a report. -/
theorem startedIn_eq_iff (hr : r.WellFormed) (horder : r.startupOrder = .ok order) (w : σ)
    (hruns : StartedOrFatal (r.startup w).2.invoked) :
    startedIn (r.startup w).2.invoked = r.pending order ↔
      ∃ report, (r.startup w).1 = .ok report := by
  have htrace := startup_trace_of_order hr horder w
  have hlegal : LegalOrder r.startupSpecs order :=
    legalOrder_of_resolve hr.startup_names_nodup horder
  rw [exists_report_iff hr horder]
  constructor
  · intro hall i hi
    -- A hook that has ended the startup would have started as well, in another run.
    have hname : i.name ∈ startedIn (r.startup w).2.invoked := by
      rw [hall]
      exact htrace.names_prefix.subset (List.mem_map_of_mem hi)
    have hother := mem_startedIn.1 hname
    have hsame : i = ⟨.startup, i.name, .reported .started⟩ :=
      List.inj_on_of_nodup_map (htrace.names_nodup (hlegal.nodup hr.startup_names_nodup)) hi hother
        rfl
    rw [hsame]
    rfl
  · intro hgo
    refine htrace.startedIn_eq ?_
    intro i hi
    rcases hruns i hi with hstarted | hfatal
    · exact hstarted
    · rw [hgo i hi] at hfatal
      cases hfatal

/-! ## Between two startups -/

/-- Some registry where nothing was started, with a first part of its startup order marked. -/
structure Resumable (base : LifecycleRegistry σ) (order : List String) (r : LifecycleRegistry σ) :
    Prop where
  marked : r = base.markAll r.startedSequence
  upTo : r.startedSequence <+: order

namespace Resumable

theorem idle (h : base.startedSequence = []) : base.Resumable order base where
  marked := by
    rw [h]
    rfl
  upTo := by
    rw [h]
    exact List.nil_prefix

theorem startupOrder_eq (h : base.Resumable order r) : r.startupOrder = base.startupOrder := by
  have hspecs : r.startupSpecs = base.startupSpecs := by
    rw [h.marked]
    exact startupSpecs_markAll _
  exact congrArg resolveStartupOrder hspecs

/-- A startup marks a further part of the order, or ends at its first hook. -/
theorem startup (h : base.Resumable order r) (hr : r.WellFormed)
    (horder : base.startupOrder = .ok order) {w : σ}
    (hruns : StartedOrFatal (r.startup w).2.invoked) :
    base.Resumable order (r.startup w).2.registry := by
  have horder' : r.startupOrder = .ok order := h.startupOrder_eq.trans horder
  have hregistry := (startup_trace hr w).1
  have hsequence : (r.startup w).2.registry.startedSequence =
      r.startedSequence ++ startedIn (r.startup w).2.invoked := by
    rw [hregistry, startedSequence_markAll]
  rcases h.upTo with ⟨rest, hrest⟩
  constructor
  · rw [hsequence, markAll_append, ← h.marked]
    exact hregistry
  · have hfurther := (startup_trace_of_order hr horder' w).startedIn_isPrefix hruns
    rw [← pending, pending_of_append hr horder' hrest] at hfurther
    rw [hsequence, ← hrest]
    exact (List.prefix_append_right_inj _).2 hfurther

/-- A startup begins with the first hook that is not started and goes on through the order. -/
theorem names_startup (h : base.Resumable order r) (hr : r.WellFormed)
    (horder : base.startupOrder = .ok order) (w : σ) :
    let ran := (r.startup w).2.invoked.map (·.name)
    ∃ rest, r.startedSequence ++ rest = order ∧ ran <+: rest ∧ ran.head? = rest.head? := by
  have horder' : r.startupOrder = .ok order := h.startupOrder_eq.trans horder
  have htrace := startup_trace_of_order hr horder' w
  rcases h.upTo with ⟨rest, hrest⟩
  have hpending : order.filter (fun name => !r.isStarted name) = rest :=
    pending_of_append hr horder' hrest
  have hnames := htrace.names_prefix
  have hfirst := htrace.head?_names
  rw [hpending] at hnames hfirst
  exact ⟨rest, hrest, hnames, hfirst⟩

/-- A startup that returns a report has started the rest of the order, and no other has. -/
theorem exists_report_iff_complete (h : base.Resumable order r) (hr : r.WellFormed)
    (horder : base.startupOrder = .ok order) {w : σ}
    (hruns : StartedOrFatal (r.startup w).2.invoked) :
    (∃ report, (r.startup w).1 = .ok report) ↔
      (r.startup w).2.registry.startedSequence = order := by
  have horder' : r.startupOrder = .ok order := h.startupOrder_eq.trans horder
  rcases h.upTo with ⟨rest, hrest⟩
  have hpending : r.pending order = rest := pending_of_append hr horder' hrest
  rw [(startup_trace hr w).1, startedSequence_markAll, ← startedIn_eq_iff hr horder' w hruns,
    hpending, ← hrest, List.append_cancel_left_eq]

/-- There is only one such registry with the whole order marked. -/
theorem eq_of_complete (h : base.Resumable order r) (hall : r.startedSequence = order) :
    r = base.markAll order := by
  rw [← hall]
  exact h.marked

end Resumable

end LifecycleRegistry

namespace LifecycleRun

open LifecycleRegistry

variable {σ : Type u} {calls : List (LifecycleCall σ)} {order : List String}

/-- Nothing is started when there was no startup since the last shutdown. -/
theorem startedSequence_of_idle (hidle : sinceShutdown (of calls).history = []) :
    (of calls).registry.startedSequence = [] := by
  rw [(faithful calls).sequence_eq, hidle]
  rfl

theorem of_startups_concat (calls : List (LifecycleCall σ)) (worlds : List σ) (w : σ) :
    of (calls ++ (worlds ++ [w]).map .startup) =
      (of (calls ++ worlds.map .startup)).perform (.startup w) := by
  simp [of, List.foldl_append]

/-- What some startups and one more ran. -/
theorem ran_startups_concat (calls : List (LifecycleCall σ)) (worlds : List σ) (w : σ) :
    (sinceShutdown (of (calls ++ (worlds ++ [w]).map .startup)).history).flatten =
      (sinceShutdown (of (calls ++ worlds.map .startup)).history).flatten ++
        ((of (calls ++ worlds.map .startup)).registry.startup w).2.invoked := by
  rw [of_startups_concat]
  simp [perform]

/-- What startups ran stays in the history when others follow them. -/
theorem ran_startups_append (calls : List (LifecycleCall σ)) (worlds later : List σ) :
    (sinceShutdown (of (calls ++ worlds.map .startup)).history).flatten <+:
      (sinceShutdown (of (calls ++ (worlds ++ later).map .startup)).history).flatten := by
  induction later using List.reverseRecOn with
  | nil =>
      simp
  | append_singleton later w ih =>
      rw [← List.append_assoc, ran_startups_concat]
      exact ih.trans (List.prefix_append _ _)

theorem resumable_startups (hidle : sinceShutdown (of calls).history = [])
    (horder : (of calls).registry.startupOrder = .ok order) (worlds : List σ)
    (hruns : StartedOrFatal
      (sinceShutdown (of (calls ++ worlds.map .startup)).history).flatten) :
    (of calls).registry.Resumable order (of (calls ++ worlds.map .startup)).registry := by
  induction worlds using List.reverseRecOn with
  | nil =>
      simpa using Resumable.idle (startedSequence_of_idle hidle)
  | append_singleton worlds w ih =>
      rw [ran_startups_concat] at hruns
      have hbefore := ih fun i hi => hruns i (List.mem_append_left _ hi)
      rw [of_startups_concat]
      exact hbefore.startup (faithful _).wellFormed horder
        fun i hi => hruns i (List.mem_append_right _ hi)

/-- With the whole order started, further startups leave the registry as it is. -/
theorem registry_of_complete (hidle : sinceShutdown (of calls).history = [])
    (horder : (of calls).registry.startupOrder = .ok order) (worlds later : List σ)
    (hruns : StartedOrFatal
      (sinceShutdown (of (calls ++ (worlds ++ later).map .startup)).history).flatten)
    (hall : (of (calls ++ worlds.map .startup)).registry.startedSequence = order) :
    (of (calls ++ (worlds ++ later).map .startup)).registry =
      (of calls).registry.markAll order := by
  have hresumed := resumable_startups hidle horder (worlds ++ later) hruns
  refine hresumed.eq_of_complete ?_
  -- The sequence only grows, and it is part of the order.
  have hgrown : order <+:
      (of (calls ++ (worlds ++ later).map .startup)).registry.startedSequence := by
    rcases ran_startups_append calls worlds later with ⟨ran, hran⟩
    rw [(faithful _).sequence_eq, ← hran, startedIn_append, ← (faithful _).sequence_eq, hall]
    exact List.prefix_append _ _
  exact hresumed.upTo.eq_of_length_le hgrown.length_le

/-- A first startup in which all hooks start that run has the whole order started. -/
theorem registry_startup_of_started (hidle : sinceShutdown (of calls).history = [])
    (horder : (of calls).registry.startupOrder = .ok order) {w : σ}
    (hall : ∀ i ∈ ((of calls).registry.startup w).2.invoked, i.result = .reported .started) :
    ((of calls).registry.startup w).2.registry = (of calls).registry.markAll order := by
  have hr : (of calls).registry.WellFormed := (faithful calls).wellFormed
  have hrest : (of calls).registry.startedSequence ++ order = order := by
    rw [startedSequence_of_idle hidle, List.nil_append]
  have hstarted : startedIn ((of calls).registry.startup w).2.invoked =
      (of calls).registry.pending order := (startup_trace_of_order hr horder w).startedIn_eq hall
  rw [(startup_trace hr w).1, hstarted, pending_of_append hr horder hrest]

/-- Startups that come one after the other, with nothing registered or shut down in between, and in
which every hook that runs starts or ends its startup. What is started is then a first part of the
startup order. Each of the startups begins with the first hook that is not started, goes on through
the order and runs no started hook. It returns a report exactly when the whole order is started
then, and from then on the registry is the one that a first startup leaves in which every hook
starts. -/
theorem startups_resume (calls : List (LifecycleCall σ)) (worlds : List σ) (order : List String)
    (hidle : sinceShutdown (of calls).history = [])
    (horder : (of calls).registry.startupOrder = .ok order)
    (hruns : StartedOrFatal
      (sinceShutdown (of (calls ++ worlds.map .startup)).history).flatten) :
    let r := (of (calls ++ worlds.map .startup)).registry
    (r.startupOrder = .ok order ∧ r.startedHooks <+: order) ∧
      ∀ earlier w later, worlds = earlier ++ w :: later →
        let before := (of (calls ++ earlier.map .startup)).registry
        let after := (before.startup w).2.registry
        let ran := (before.startup w).2.invoked.map (·.name)
        (∃ rest, before.startedHooks ++ rest = order ∧ ran <+: rest ∧ ran.head? = rest.head?) ∧
          (∀ name ∈ ran, name ∉ before.startedHooks) ∧
          ((∃ report, (before.startup w).1 = .ok report) ↔ after.startedHooks = order) ∧
          (after.startedHooks = order → r = after ∧
            ∀ w₁, (∀ i ∈ ((of calls).registry.startup w₁).2.invoked,
                i.result = .reported .started) →
              r = ((of calls).registry.startup w₁).2.registry) := by
  intro r
  have hresumed : (of calls).registry.Resumable order r :=
    resumable_startups hidle horder worlds hruns
  refine ⟨⟨hresumed.startupOrder_eq.trans horder, hresumed.upTo⟩, ?_⟩
  rintro earlier w later hworlds before after ran
  have hsplit : worlds = (earlier ++ [w]) ++ later := by
    simp [hworlds]
  rw [hsplit] at hruns
  have hthrough : StartedOrFatal
      (sinceShutdown (of (calls ++ (earlier ++ [w]).map .startup)).history).flatten := by
    intro i hi
    exact hruns i ((ran_startups_append calls (earlier ++ [w]) later).subset hi)
  have hparts := hthrough
  rw [ran_startups_concat] at hparts
  have hbefore : (of calls).registry.Resumable order before :=
    resumable_startups hidle horder earlier fun i hi => hparts i (List.mem_append_left _ hi)
  have hr : before.WellFormed := (faithful _).wellFormed
  have hafter : (of (calls ++ (earlier ++ [w]).map .startup)).registry = after := by
    rw [of_startups_concat]
    rfl
  refine ⟨hbefore.names_startup hr horder w, ?_, ?_, ?_⟩
  · intro name hname hstarted
    rcases List.mem_map.1 hname with ⟨i, hi, rfl⟩
    have htrace := startup_trace_of_order hr (hbefore.startupOrder_eq.trans horder) w
    exact hr.isStarted_eq_false_iff.1 (htrace.mem_order hi).2 hstarted
  · exact hbefore.exists_report_iff_complete hr horder
      fun i hi => hparts i (List.mem_append_right _ hi)
  · intro hall
    have hcomplete : r = (of calls).registry.markAll order := by
      have hlast := registry_of_complete hidle horder (earlier ++ [w]) later hruns (hafter ▸ hall)
      rwa [← hsplit] at hlast
    have hfirst := registry_of_complete hidle horder (earlier ++ [w]) [] (by simpa using hthrough)
      (hafter ▸ hall)
    rw [List.append_nil, hafter] at hfirst
    refine ⟨hcomplete.trans hfirst.symm, ?_⟩
    intro w₁ hstarted
    exact hcomplete.trans (registry_startup_of_started hidle horder hstarted).symm

/-- Three hooks, of which `cache` requires `database` and cannot start in the world `false`; they
have been started and shut down before. -/
def unreliableCache : List (LifecycleCall Bool) :=
  [.register .startup (.of "queue" 30 []) fun w => (.reported .started, w),
    .register .startup (.of "cache" 20 ["database"]) fun w =>
      (if w then .reported .started else .raised "refused", w),
    .register .startup (.of "database" 25 []) fun w => (.reported .started, w),
    .startup true,
    .shutdown true]

/-- Two startups end at `cache`; the second of them begins with it. The third one starts it and what
comes after it, and one startup without a failure would have come to the same. -/
theorem startups_resume_unreliable :
    let r := (of (unreliableCache ++ [false, false, true].map .startup)).registry
    let once := (of (unreliableCache ++ [false].map .startup)).registry
    r.startedHooks = ["database", "cache", "queue"] ∧
      r = ((of unreliableCache).registry.startup true).2.registry ∧
      ((once.startup false).2.invoked.map (·.name)).head? = some "cache" := by
  intro r once
  obtain ⟨_, hstartups⟩ := startups_resume unreliableCache [false, false, true]
    ["database", "cache", "queue"] (by decide +kernel) (by decide +kernel) (by decide +kernel)
  obtain ⟨_, _, _, hcomplete⟩ := hstartups [false, false] true [] rfl
  obtain ⟨⟨rest, hrest, _, hfirst⟩, _⟩ := hstartups [false] false [true] rfl
  obtain ⟨hlast, hlike⟩ := hcomplete (by decide +kernel)
  have honce : once.startedHooks = ["database"] := by
    decide +kernel
  have hleft : rest = ["cache", "queue"] := by
    rw [honce] at hrest
    simpa using hrest
  refine ⟨?_, hlike true (by decide +kernel), ?_⟩
  · rw [show r = _ from hlast]
    decide +kernel
  · rw [hleft] at hfirst
    exact hfirst

end LifecycleRun

end ServicePlane
