import ServicePlane.Proofs.Lifecycle.HookRuns

/-!
# Runs of a lifecycle registry

A registry that starts empty and takes calls, together with what its startups and shutdowns ran.

* `LifecycleRun.perform` — one call: a rejected registration changes nothing, and a startup that
  fails leaves what it did before it failed;
* `LifecycleRun.of calls` — the run that some calls make;
* `sinceShutdown` — what the startups ran since the last shutdown;
* `LifecycleRun.Faithful` — the registry is well-formed, and its sequence is the hooks that returned
  `started` since the last shutdown.

The fields of a registry that say what is started are a summary of the history, after every call.
-/

namespace ServicePlane

universe u

/-- A call on a registry. A startup and a shutdown get the world that the hooks act on. -/
inductive LifecycleCall (σ : Type u) where
  | register (kind : HookKind) (spec : HookSpec) (action : σ → HookResult × σ)
  | startup (world : σ)
  | shutdown (world : σ)

/-- A startup or a shutdown that has ended, with the hooks it ran. -/
inductive LifecycleEvent where
  | startup (invoked : List Invocation)
  | shutdown (invoked : List Invocation)

/-- What each startup since the last shutdown ran. -/
def sinceShutdown (history : List LifecycleEvent) : List (List Invocation) :=
  history.foldl (fun startups event =>
    match event with
    | .startup invoked => startups ++ [invoked]
    | .shutdown _ => []) []

@[simp]
theorem sinceShutdown_startup (history : List LifecycleEvent) (invoked : List Invocation) :
    sinceShutdown (history ++ [.startup invoked]) = sinceShutdown history ++ [invoked] := by
  simp [sinceShutdown]

@[simp]
theorem sinceShutdown_shutdown (history : List LifecycleEvent) (invoked : List Invocation) :
    sinceShutdown (history ++ [.shutdown invoked]) = [] := by
  simp [sinceShutdown]

/-- A registry and what its startups and shutdowns have run, in order. -/
structure LifecycleRun (σ : Type u) where
  registry : LifecycleRegistry σ
  history : List LifecycleEvent

namespace LifecycleRun

open LifecycleRegistry

variable {σ : Type u} {run : LifecycleRun σ}

/-- A registry without hooks, before the first call. -/
def initial : LifecycleRun σ where
  registry := .empty
  history := []

/-- Take one call. -/
def perform (run : LifecycleRun σ) : LifecycleCall σ → LifecycleRun σ
  | .register kind spec action =>
      match run.registry.register kind spec action with
      | .ok (r, _) => { run with registry := r }
      | .error _ => run
  | .startup w =>
      let p := (run.registry.startup w).2
      { registry := p.registry, history := run.history ++ [.startup p.invoked] }
  | .shutdown w =>
      let p := (run.registry.shutdown w).2
      { registry := p.registry, history := run.history ++ [.shutdown p.invoked] }

/-- The run that some calls make. -/
def of (calls : List (LifecycleCall σ)) : LifecycleRun σ :=
  calls.foldl perform initial

/-- What holds at first and is kept by every call holds of every run. -/
theorem of_induction {P : LifecycleRun σ → Prop} (hinitial : P initial)
    (hperform : ∀ run call, P run → P (run.perform call)) (calls : List (LifecycleCall σ)) :
    P (of calls) := by
  induction calls using List.reverseRecOn with
  | nil =>
      exact hinitial
  | append_singleton calls call ih =>
      rw [of, List.foldl_append]
      exact hperform (of calls) call ih

/-! ## Faithful runs -/

/-- The registry is well-formed, and its sequence is what the history says. -/
structure Faithful (run : LifecycleRun σ) : Prop where
  wellFormed : run.registry.WellFormed
  sequence_eq : run.registry.startedSequence = startedIn (sinceShutdown run.history).flatten

namespace Faithful

theorem startup (h : run.Faithful) (w : σ) : (run.perform (.startup w)).Faithful := by
  have hregistry := (startup_trace h.wellFormed w).1
  rcases startup_marks h.wellFormed w with ⟨hregistered, hnodup⟩
  constructor
  · rw [perform, hregistry]
    exact h.wellFormed.markAll hregistered hnodup
  · simp only [perform, hregistry, startedSequence_markAll, sinceShutdown_startup,
      List.flatten_append, List.flatten_singleton, startedIn_append, h.sequence_eq]

theorem perform (h : run.Faithful) (call : LifecycleCall σ) : (run.perform call).Faithful := by
  cases call with
  | register kind spec action =>
      rw [LifecycleRun.perform]
      cases hregister : run.registry.register kind spec action with
      | error e =>
          exact h
      | ok result =>
          have hsequence := (register_spec hregister).2.2
          exact ⟨h.wellFormed.register hregister, hsequence.trans h.sequence_eq⟩
  | startup w =>
      exact h.startup w
  | shutdown w =>
      have hregistry := (shutdown_spec run.registry w).1
      constructor
      · rw [LifecycleRun.perform, hregistry]
        exact h.wellFormed.clearStarted
      · simp [LifecycleRun.perform, hregistry, clearStarted, startedIn]

end Faithful

theorem faithful (calls : List (LifecycleCall σ)) : (of calls).Faithful := by
  refine of_induction ?_ (fun _ call h => h.perform call) calls
  exact ⟨WellFormed.empty, rfl⟩

/-- The marks on the hooks, the sequence and the shutdown order all say the same: which hooks
returned `started` since the last shutdown, and in which order. -/
theorem started_summary (calls : List (LifecycleCall σ)) :
    let run := of calls
    run.registry.startedHooks = startedIn (sinceShutdown run.history).flatten ∧
      run.registry.startedHooks.Nodup ∧
      (∀ name, run.registry.isStarted name = true ↔ name ∈ run.registry.startedHooks) ∧
      run.registry.shutdownOrder =
        run.registry.startedHooks.reverse.filter (run.registry.contains .shutdown) := by
  have h := faithful calls
  exact ⟨h.sequence_eq, h.wellFormed.sequence_nodup, h.wellFormed.isStarted_iff,
    h.wellFormed.shutdownOrder_eq⟩

end LifecycleRun

end ServicePlane
