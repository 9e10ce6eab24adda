import ServicePlane.Proofs.Lifecycle.History

/-!
# One shutdown

What a shutdown does to a registry that has taken any calls.

* `LifecycleRun.accepted` — the registrations that a registry has not refused;
* `LifecycleRun.replies` — all that a caller sees of some calls;
* `clearStarted_eq_accepted` — but for what is started, a registry is what its accepted
  registrations make of an empty one;
* `shutdown_call` — a shutdown runs the whole shutdown order and reports each hook once, and the
  registry is then like a new one.
-/

namespace ServicePlane

universe u

/-! ## The report -/

theorem map_filterMap_failure? (runs : List Invocation) :
    (runs.filterMap Invocation.failure?).map (·.1) =
      (runs.filter fun i => !i.result.failure?.isNone).map (·.name) := by
  induction runs with
  | nil =>
      rfl
  | cons i rest ih =>
      cases hresult : i.result.failure? with
      | none =>
          simpa [Invocation.failure?, hresult] using ih
      | some error =>
          simpa [Invocation.failure?, hresult] using ih

/-- Every run is in one of the two lists of the report, and in one only. -/
theorem shutdownReport_perm (runs : List Invocation) :
    ((shutdownReport .empty runs).completed ++
      (shutdownReport .empty runs).failed.map (·.1)).Perm (runs.map (·.name)) := by
  have hfailed : (shutdownReport .empty runs).failed.map (·.1) =
      (runs.filter fun i => !i.result.failure?.isNone).map (·.name) :=
    map_filterMap_failure? runs
  rw [hfailed, shutdownReport, ShutdownReport.empty, List.nil_append, ← List.map_append]
  exact (List.filter_append_perm _ runs).map _

/-! ## What a caller sees -/

/-- All that a caller sees of one call: what it returns, what has become of the world, which hooks
ran, and what was told. -/
inductive LifecycleReply (σ : Type u) where
  | register (result : Except LifecycleError Telemetry)
  | startup (result : Except LifecycleError StartupReport) (world : σ) (invoked : List Invocation)
      (told : Telemetry)
  | shutdown (report : ShutdownReport) (world : σ) (invoked : List Invocation) (told : Telemetry)

namespace LifecycleRun

open LifecycleRegistry

variable {σ : Type u} {run run' fresh : LifecycleRun σ}

/-- The reply to a call. -/
def reply (run : LifecycleRun σ) : LifecycleCall σ → LifecycleReply σ
  | .register kind spec action =>
      .register ((run.registry.register kind spec action).map (·.2))
  | .startup w =>
      let (result, p) := run.registry.startup w
      .startup result p.world p.invoked p.telemetry
  | .shutdown w =>
      let (report, p) := run.registry.shutdown w
      .shutdown report p.world p.invoked p.telemetry

/-- The replies to calls that come one after the other. -/
def replies (run : LifecycleRun σ) : List (LifecycleCall σ) → List (LifecycleReply σ)
  | [] => []
  | call :: rest => run.reply call :: (run.perform call).replies rest

theorem reply_congr (h : run.registry = run'.registry) (call : LifecycleCall σ) :
    run.reply call = run'.reply call ∧
      (run.perform call).registry = (run'.perform call).registry := by
  cases call with
  | register kind spec action =>
      simp only [reply, perform, h, true_and]
      split <;> simp [h]
  | startup w =>
      simp [reply, perform, h]
  | shutdown w =>
      simp [reply, perform, h]

/-- What a caller sees depends on the registry alone, not on the history behind it. -/
theorem replies_congr (h : run.registry = run'.registry) (calls : List (LifecycleCall σ)) :
    run.replies calls = run'.replies calls := by
  induction calls generalizing run run' with
  | nil =>
      rfl
  | cons call rest ih =>
      rcases reply_congr h call with ⟨hreply, hnext⟩
      rw [replies, replies, hreply, ih hnext]

/-! ## Accepted registrations -/

/-- The registrations among some calls that are not refused. -/
def accepted (run : LifecycleRun σ) : List (LifecycleCall σ) → List (LifecycleCall σ)
  | [] => []
  | .register kind spec action :: rest =>
      let later := (run.perform (.register kind spec action)).accepted rest
      match run.registry.register kind spec action with
      | .ok _ => .register kind spec action :: later
      | .error _ => later
  | .startup w :: rest => (run.perform (.startup w)).accepted rest
  | .shutdown w :: rest => (run.perform (.shutdown w)).accepted rest

/-- Take the accepted registrations on a registry where nothing is started: the result is the
registry after all calls, but for what is started there. -/
theorem registry_accepted (hrun : run.Faithful)
    (hfresh : fresh.registry = run.registry.clearStarted) (calls : List (LifecycleCall σ)) :
    ((run.accepted calls).foldl perform fresh).registry =
      (calls.foldl perform run).registry.clearStarted := by
  induction calls generalizing run fresh with
  | nil =>
      exact hfresh
  | cons call rest ih =>
      have hnext : (run.perform call).Faithful := hrun.perform call
      cases call with
      | register kind spec action =>
          have hregister : fresh.registry.register kind spec action =
              (run.registry.register kind spec action).map
                fun done => (done.1.clearStarted, done.2) := by
            rw [hfresh]
            exact register_clearStarted spec action
          -- The two registries have the same names, so both refuse the hook or neither does.
          cases haccept : run.registry.register kind spec action with
          | error e =>
              have hsame : run.perform (.register kind spec action) = run := by
                rw [perform, haccept]
              simp only [accepted, haccept, List.foldl_cons, hsame]
              exact ih hrun hfresh
          | ok done =>
              rw [haccept] at hregister
              simp only [accepted, haccept, List.foldl_cons]
              refine ih hnext ?_
              simp only [perform, haccept, hregister, Except.map]
      | startup w =>
          -- Marks are all that a startup leaves behind.
          refine ih hnext ?_
          rw [perform, (startup_trace hrun.wellFormed w).1, clearStarted_markAll]
          exact hfresh
      | shutdown w =>
          refine ih hnext ?_
          rw [perform, (shutdown_spec run.registry w).1, clearStarted_clearStarted]
          exact hfresh

/-- But for what is started, a registry is what its accepted registrations make of an empty one. -/
theorem clearStarted_eq_accepted (calls : List (LifecycleCall σ)) :
    (of calls).registry.clearStarted = (of (initial.accepted calls)).registry :=
  (registry_accepted (faithful []) rfl calls).symm

-- The second startup hook has a name that is taken, the shutdown hook has not.
example (first second : Unit → HookResult × Unit) :
    initial.accepted
        [.register .startup (.named "cache") first, .register .startup (.named "cache") second,
          .register .shutdown (.named "cache") second] =
      [.register .startup (.named "cache") first, .register .shutdown (.named "cache") second] := by
  rfl

/-! ## The shutdown of any run -/

/-- After any calls, a shutdown runs the hooks of the shutdown order, each once and whatever the
others return. The report has the hooks that returned `started` or `skipped` in one list and the
others in the other, both in the order of the runs. Afterwards nobody can tell the registry from a
new one that has taken the accepted registrations only. -/
theorem shutdown_call (calls : List (LifecycleCall σ)) (w : σ) :
    let r := (of calls).registry
    let runs := (r.attempts .shutdown r.shutdownOrder w).1
    let report := (r.shutdown w).1
    let p := (r.shutdown w).2
    let fresh := of (initial.accepted calls)
    (r.shutdownOrder.Nodup ∧
      runs.map (fun i => (i.kind, i.name)) = r.shutdownOrder.map (HookKind.shutdown, ·) ∧
      p.invoked = runs ∧
      p.world = (r.attempts .shutdown r.shutdownOrder w).2) ∧
    (report.completed = (runs.filter fun i => i.result.failure?.isNone).map (·.name) ∧
      report.failed = (runs.filterMap fun i => i.result.failure?.map (i.name, ·)) ∧
      (report.completed ++ report.failed.map (·.1)).Perm r.shutdownOrder) ∧
    (p.registry = fresh.registry ∧
      (∀ later, (of (calls ++ [.shutdown w])).replies later = fresh.replies later) ∧
      ∀ w', (p.registry.shutdown w').2.invoked = []) := by
  intro r runs report p fresh
  have hr : r.WellFormed := (faithful calls).wellFormed
  rcases shutdown_eq r w with ⟨telemetry, heq⟩
  have hreport : report = shutdownReport .empty runs := congrArg (·.1) heq
  have hcleared : p.registry = r.clearStarted := congrArg (·.2.registry) heq
  have hfresh : p.registry = fresh.registry := hcleared.trans (clearStarted_eq_accepted calls)
  have hnames : runs.map (fun i => (i.kind, i.name)) =
      r.shutdownOrder.map (HookKind.shutdown, ·) := names_attempts_shutdownOrder r w
  refine ⟨⟨?_, hnames, congrArg (·.2.invoked) heq, congrArg (·.2.world) heq⟩, ⟨?_, ?_, ?_⟩,
    hfresh, ?_, ?_⟩
  · rw [hr.shutdownOrder_eq]
    exact (List.nodup_reverse.2 hr.sequence_nodup).filter _
  · rw [hreport]
    rfl
  · rw [hreport]
    rfl
  · have hrun : runs.map (·.name) = r.shutdownOrder := by
      simpa [Function.comp_def] using congrArg (List.map (·.2)) hnames
    rw [hreport, ← hrun]
    exact shutdownReport_perm runs
  · intro later
    refine replies_congr ?_ later
    rw [of, List.foldl_append]
    exact hfresh
  · intro w'
    rw [hcleared]
    rfl

end LifecycleRun

end ServicePlane
