import ServicePlane.Proofs.Lifecycle.Attempts
import ServicePlane.Proofs.Lifecycle.Placement

/-!
# What startup and shutdown run

The runs of hooks in one startup and in one shutdown, apart from reports and telemetry.

* `StartupTrace started order invoked` — going through `order`, a startup passes over the started
  hooks, runs the others, and stops behind the first fatal result;
* `startup_of_order` — registry, world, runs and result of a startup that has an order;
* `startup_trace` — what a startup runs is such a trace, and it marks exactly the hooks that ran and
  returned `started`, in the order in which they ran;
* `shutdown_eq`, `shutdown_spec` — a shutdown runs the hooks of the shutdown order, all of them, and
  clears what is started.
-/

namespace ServicePlane

universe u

/-! ## One startup as a trace -/

/-- What a startup runs that goes through some names, when `started` says which hooks are started
already. -/
inductive StartupTrace (started : String → Bool) : List String → List Invocation → Prop where
  /-- There is nothing left. -/
  | done : StartupTrace started [] []
  /-- The hook is started already. -/
  | passed {name : String} {rest : List String} {invoked : List Invocation}
      (h : started name = true) (hrest : StartupTrace started rest invoked) :
      StartupTrace started (name :: rest) invoked
  /-- The hook runs, and the startup goes on. -/
  | ran {name : String} {rest : List String} {invoked : List Invocation} {result : HookResult}
      (h : started name = false) (hresult : result.isFatal = false)
      (hrest : StartupTrace started rest invoked) :
      StartupTrace started (name :: rest) (⟨.startup, name, result⟩ :: invoked)
  /-- The hook runs, and the startup ends. -/
  | stopped {name : String} {rest : List String} {result : HookResult}
      (h : started name = false) (hresult : result.isFatal = true) :
      StartupTrace started (name :: rest) [⟨.startup, name, result⟩]

namespace StartupTrace

variable {started started' : String → Bool} {order : List String} {invoked : List Invocation}

/-- Runs of all hooks of the order that are not started make a trace, cut off behind the first
fatal result. -/
theorem of_runs {runs : List Invocation}
    (h : runs.map (fun i => (i.kind, i.name)) =
      (order.filter fun name => !started name).map (HookKind.startup, ·)) :
    StartupTrace started order (throughFatal runs) := by
  induction order generalizing runs with
  | nil =>
      have hnone : runs = [] := by
        simpa using h
      rw [hnone]
      exact done
  | cons name rest ih =>
      cases hstarted : started name with
      | true =>
          refine passed hstarted (ih ?_)
          simpa [hstarted] using h
      | false =>
          cases runs with
          | nil =>
              simp [hstarted] at h
          | cons i later =>
              rcases i with ⟨kind, n, result⟩
              have hlist : (kind = .startup ∧ n = name) ∧
                  later.map (fun i => (i.kind, i.name)) =
                    (rest.filter fun name => !started name).map (HookKind.startup, ·) := by
                simpa [hstarted] using h
              rcases hlist with ⟨⟨rfl, rfl⟩, hlater⟩
              rw [throughFatal_cons]
              cases hfatal : result.isFatal with
              | true =>
                  exact stopped hstarted hfatal
              | false =>
                  exact ran hstarted hfatal (ih hlater)

/-- A startup runs the first of the hooks that are not started, up to some point. -/
theorem names_prefix (h : StartupTrace started order invoked) :
    invoked.map (·.name) <+: order.filter fun name => !started name := by
  induction h with
  | done =>
      simp
  | passed h _ ih =>
      simpa [h] using ih
  | ran h _ _ ih =>
      simpa [h] using ih
  | stopped h _ =>
      simp [h]

/-- A startup runs startup hooks only. -/
theorem kind_eq {i : Invocation} (h : StartupTrace started order invoked) (hi : i ∈ invoked) :
    i.kind = .startup := by
  induction h with
  | done =>
      cases hi
  | passed _ _ ih =>
      exact ih hi
  | ran _ _ _ ih =>
      rcases List.mem_cons.1 hi with rfl | hlater
      · rfl
      · exact ih hlater
  | stopped _ _ =>
      rw [List.mem_singleton.1 hi]

theorem mem_order {i : Invocation} (h : StartupTrace started order invoked) (hi : i ∈ invoked) :
    i.name ∈ order ∧ started i.name = false := by
  have hmem := h.names_prefix.subset (List.mem_map.2 ⟨i, hi, rfl⟩)
  simpa using hmem

theorem names_nodup (h : StartupTrace started order invoked) (horder : order.Nodup) :
    (invoked.map (·.name)).Nodup :=
  h.names_prefix.sublist.nodup (horder.filter _)

/-- Of two hooks that are not started, the one that comes first in the order runs first. -/
theorem precedes {a b : String} (h : StartupTrace started order invoked) (horder : order.Nodup)
    (hab : Precedes order a b) (ha : started a = false) (hb : b ∈ invoked.map (·.name)) :
    Precedes (invoked.map (·.name)) a b := by
  rcases h.names_prefix with ⟨rest, hrest⟩
  have hselected : (order.filter fun name => !started name).Nodup := horder.filter _
  have hb' : b ∈ order.filter fun name => !started name := h.names_prefix.subset hb
  have ha' : a ∈ order.filter fun name => !started name := by
    simpa [ha] using hab.mem_left
  have hprecedes : Precedes (order.filter fun name => !started name) a b :=
    (Precedes.iff_of_sublist List.filter_sublist horder ha' hb').2 hab
  rw [← hrest] at hprecedes hselected
  exact hprecedes.of_append hselected hb

end StartupTrace

namespace LifecycleRegistry

open StartupOrder

variable {σ : Type u} {r : LifecycleRegistry σ}

/-- When the hooks cannot be resolved, a startup does nothing. -/
theorem startup_of_error {e : LifecycleError} (h : r.startupOrder = .error e) (w : σ) :
    r.startup w = (.error e, .begin r w) := by
  rw [startup, h]

/-- With an order to go through, a startup attempts the hooks that are not started, up to the first
fatal result. -/
theorem startup_of_order {order : List String} (hr : r.WellFormed) (h : r.startupOrder = .ok order)
    (w : σ) :
    let ran := throughFatal (r.attempts .startup (r.pending order) w).1
    ∃ telemetry, r.startup w =
      (startupResult ⟨[]⟩ ran,
        { registry := r.markAll (startedIn ran)
          world := (r.attempts .startup (ran.map (·.name)) w).2
          invoked := ran
          telemetry := telemetry }) := by
  have hlegal : LegalOrder r.startupSpecs order :=
    legalOrder_of_resolve hr.startup_names_nodup h
  rw [startup, h]
  exact runStartup_eq ⟨[]⟩ ((Progress.begin r w).tell [log .info "Running startup hooks" []])
    (hlegal.nodup hr.startup_names_nodup)

/-- The order has registered hooks only, so each one that is not started is attempted. -/
theorem names_attempts_pending {order : List String} (hr : r.WellFormed)
    (h : r.startupOrder = .ok order) (w : σ) :
    (r.attempts .startup (r.pending order) w).1.map (fun i => (i.kind, i.name)) =
      (r.pending order).map (HookKind.startup, ·) := by
  have hlegal : LegalOrder r.startupSpecs order :=
    legalOrder_of_resolve hr.startup_names_nodup h
  refine names_attempts w ?_
  intro name hname
  exact contains_startup_iff.2 (hlegal.perm.mem_iff.1 (mem_pending.1 hname).1)

/-- A startup runs nothing when the hooks cannot be resolved, and otherwise a trace of the resolved
order. -/
theorem startup_trace (hr : r.WellFormed) (w : σ) :
    (r.startup w).2.registry = r.markAll (startedIn (r.startup w).2.invoked) ∧
      ((r.startup w).2.invoked = [] ∨ ∃ order, r.startupOrder = .ok order ∧
        LegalOrder r.startupSpecs order ∧
        StartupTrace r.isStarted order (r.startup w).2.invoked) := by
  cases horder : r.startupOrder with
  | error e =>
      rw [startup_of_error horder]
      exact ⟨rfl, Or.inl rfl⟩
  | ok order =>
      have hlegal : LegalOrder r.startupSpecs order :=
        legalOrder_of_resolve hr.startup_names_nodup horder
      have htrace := StartupTrace.of_runs (names_attempts_pending hr horder w)
      rcases startup_of_order hr horder w with ⟨telemetry, heq⟩
      rw [heq]
      exact ⟨rfl, Or.inr ⟨order, rfl, hlegal, htrace⟩⟩

/-- A startup marks registered hooks that are not in the sequence, none twice. -/
theorem startup_marks (hr : r.WellFormed) (w : σ) :
    (∀ name ∈ startedIn (r.startup w).2.invoked, r.contains .startup name = true) ∧
      (r.startedSequence ++ startedIn (r.startup w).2.invoked).Nodup := by
  rcases startup_trace hr w with ⟨_, hnone | ⟨order, _, hlegal, htrace⟩⟩
  · rw [hnone]
    exact ⟨by simp [startedIn], by simpa [startedIn] using hr.sequence_nodup⟩
  · have hrun : ∀ name ∈ startedIn (r.startup w).2.invoked,
        name ∈ order ∧ r.isStarted name = false := by
      intro name hname
      exact htrace.mem_order (mem_startedIn.1 hname)
    have hnodup : (startedIn (r.startup w).2.invoked).Nodup :=
      (startedIn_sublist _).nodup (htrace.names_nodup (hlegal.nodup hr.startup_names_nodup))
    constructor
    · intro name hname
      exact contains_startup_iff.2 (hlegal.perm.mem_iff.1 (hrun name hname).1)
    · refine List.nodup_append.2 ⟨hr.sequence_nodup, hnodup, ?_⟩
      intro name hold other hnew heq
      have hfresh := (hrun other hnew).2
      exact hr.isStarted_eq_false_iff.1 hfresh (heq ▸ hold)

/-! ## One shutdown -/

/-- A shutdown attempts the hooks of the shutdown order, and clears what is started. -/
theorem shutdown_eq (r : LifecycleRegistry σ) (w : σ) :
    ∃ telemetry, r.shutdown w =
      (shutdownReport .empty (r.attempts .shutdown r.shutdownOrder w).1,
        { registry := r.clearStarted
          world := (r.attempts .shutdown r.shutdownOrder w).2
          invoked := (r.attempts .shutdown r.shutdownOrder w).1
          telemetry := telemetry }) := by
  rcases runShutdown_eq r.shutdownOrder .empty
      ((Progress.begin r w).tell [log .info "Running shutdown hooks" []]) with ⟨telemetry, heq⟩
  refine ⟨telemetry, ?_⟩
  rw [shutdown, heq]
  rfl

/-- The shutdown order has registered hooks only, so each one is attempted. -/
theorem names_attempts_shutdownOrder (r : LifecycleRegistry σ) (w : σ) :
    (r.attempts .shutdown r.shutdownOrder w).1.map (fun i => (i.kind, i.name)) =
      r.shutdownOrder.map (HookKind.shutdown, ·) := by
  refine names_attempts w ?_
  intro name hname
  have hselected := (List.mem_filter.1 hname).2
  simp only [Bool.and_eq_true] at hselected
  exact hselected.2

/-- A shutdown runs the hooks of the shutdown order, and afterwards nothing is started. -/
theorem shutdown_spec (r : LifecycleRegistry σ) (w : σ) :
    (r.shutdown w).2.registry = r.clearStarted ∧
      (r.shutdown w).2.invoked.map (fun i => (i.kind, i.name)) =
        r.shutdownOrder.map (HookKind.shutdown, ·) := by
  rcases shutdown_eq r w with ⟨telemetry, heq⟩
  rw [heq]
  exact ⟨rfl, names_attempts_shutdownOrder r w⟩

end LifecycleRegistry

end ServicePlane
