import ServicePlane.Proofs.Lifecycle.History

/-!
# One startup

What a startup does to a registry that has taken any calls: which hooks run, what is marked started,
and what the caller gets.

* `startup_call` — without an order nothing happens; with one, the hooks that are not started run up
  to the first fatal result, those that returned `started` are marked, and the result names the hook
  that ended the startup or lists all that ran.
-/

namespace ServicePlane

universe u

/-! ## Results -/

/-- A startup that some run has ended returns the error of that run. -/
theorem startupResult_of_find?_some {report : StartupReport} {ran : List Invocation}
    {i : Invocation} (h : ran.find? (·.result.isFatal) = some i) :
    ∃ error, i.result.failure? = some error ∧
      startupResult report ran = .error (.hookFailed i.name error) := by
  have hfatal : i.result.isFatal = true := by
    simpa using List.find?_some h
  rcases HookResult.exists_failure_of_isFatal hfatal with ⟨error, herror⟩
  refine ⟨error, herror, ?_⟩
  rw [startupResult, h]
  simp [herror]

/-- Runs without a fatal result all report an outcome. -/
theorem map_filterMap_outcome? {ran : List Invocation}
    (h : ∀ i ∈ ran, i.result.isFatal = false) :
    (ran.filterMap Invocation.outcome?).map (fun o => (o.1, HookResult.reported o.2)) =
      ran.map fun i => (i.name, i.result) := by
  induction ran with
  | nil =>
      rfl
  | cons i rest ih =>
      have hrest := ih fun j hj => h j (by simp [hj])
      rcases HookResult.exists_outcome_of_not_isFatal (h i (by simp)) with ⟨outcome, houtcome⟩
      simp [Invocation.outcome?, houtcome, hrest]

/-- A startup that no run has ended lists the outcomes of all runs. -/
theorem startupResult_of_find?_none {ran : List Invocation}
    (h : ran.find? (·.result.isFatal) = none) :
    ∃ outcomes, startupResult ⟨[]⟩ ran = .ok ⟨outcomes⟩ ∧
      outcomes.map (fun o => (o.1, HookResult.reported o.2)) =
        ran.map fun i => (i.name, i.result) := by
  have hgo : ∀ i ∈ ran, i.result.isFatal = false := by
    simpa using h
  refine ⟨ran.filterMap Invocation.outcome?, ?_, map_filterMap_outcome? hgo⟩
  rw [startupResult, h]
  rfl

/-- Without a fatal result among the runs before the cut, there is none at all. -/
theorem throughFatal_of_find?_none {runs : List Invocation}
    (h : (throughFatal runs).find? (·.result.isFatal) = none) : throughFatal runs = runs := by
  rw [find?_throughFatal] at h
  refine throughFatal_of_forall ?_
  simpa using h

namespace LifecycleRun

open LifecycleRegistry StartupOrder

variable {σ : Type u}

/-! ## The startup of any run -/

/-- After any calls, a startup of hooks without an order returns the error and does nothing else.
With an order, `runs` is what the hooks that are not started would do one after the other, and the
startup does what `ran` says, which ends at the first fatal result: these hooks run, those that
returned `started` are marked and listed in turn, and nothing else changes in the registry. -/
theorem startup_call (calls : List (LifecycleCall σ)) (w : σ) :
    let r := (of calls).registry
    match r.startupOrder with
    | .error e => r.startup w = (.error e, .begin r w)
    | .ok order =>
        let pending := order.filter fun name => !r.isStarted name
        let runs := (r.attempts .startup pending w).1
        let ran := runs.take (runs.findIdx (·.result.isFatal) + 1)
        let result := (r.startup w).1
        let p := (r.startup w).2
        pending.Nodup ∧
          runs.map (fun i => (i.kind, i.name)) = pending.map (HookKind.startup, ·) ∧
          p.invoked = ran ∧
          p.world = (r.attempts .startup (ran.map (·.name)) w).2 ∧
          p.registry =
            { r with
              startupHooks := r.startupHooks.map fun h =>
                { h with started := h.started || (startedIn ran).contains h.spec.name }
              startedSequence := r.startedSequence ++ startedIn ran } ∧
          match ran.find? (·.result.isFatal) with
          | some i =>
              ∃ error, i.result.failure? = some error ∧ result = .error (.hookFailed i.name error)
          | none =>
              ran = runs ∧ ∃ outcomes, result = .ok ⟨outcomes⟩ ∧
                outcomes.map (fun o => (o.1, HookResult.reported o.2)) =
                  ran.map fun i => (i.name, i.result) := by
  intro r
  have hr : r.WellFormed := (faithful calls).wellFormed
  cases horder : r.startupOrder with
  | error e =>
      exact startup_of_error horder w
  | ok order =>
      dsimp -zeta only
      intro pending runs ran result p
      have hlegal : LegalOrder r.startupSpecs order :=
        legalOrder_of_resolve hr.startup_names_nodup horder
      have hpending : pending.Nodup := (hlegal.nodup hr.startup_names_nodup).filter _
      rcases startup_of_order hr horder w with ⟨telemetry, heq⟩
      have hresult : result = startupResult ⟨[]⟩ ran := congrArg (·.1) heq
      have hregistry : p.registry = r.markAll (startedIn ran) := congrArg (·.2.registry) heq
      have hinvoked : p.invoked = ran := congrArg (·.2.invoked) heq
      have hworld : p.world = (r.attempts .startup (ran.map (·.name)) w).2 :=
        congrArg (·.2.world) heq
      refine ⟨hpending, names_attempts_pending hr horder w, hinvoked, hworld,
        hregistry.trans (markAll_eq _), ?_⟩
      cases hend : ran.find? (·.result.isFatal) with
      | some i =>
          rw [hresult]
          exact startupResult_of_find?_some hend
      | none =>
          rw [hresult]
          exact ⟨throughFatal_of_find?_none hend, startupResult_of_find?_none hend⟩

end LifecycleRun

end ServicePlane
