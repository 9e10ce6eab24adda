import Mathlib.Algebra.Order.Ring.Nat
import ServicePlane.Proofs.Lifecycle.Shutdown
import ServicePlane.Proofs.Telemetry.Series

/-!
# Samples of hook runs

Startups and shutdowns record how long each run of a hook took. Whatever the hooks return and
wherever a startup ends, the recordings are the runs: one sample for each, in the same order, under
the labels of the hook, of its side and of its result.

* `Invocation.outcomeLabel` — how a result is labelled, on either side;
* `Progress.Sampled` — what an operation on its way has recorded are the hooks it has run;
* `sampled_runStartup`, `sampled_runShutdown` — each run of a hook keeps it so, up to the end;
* `hook_runs_sampled` — the distributions after any calls, and what each call adds to them.
-/

namespace ServicePlane

universe u

/-! ## The sample of a run -/

namespace Invocation

/-- The label of a result. A startup tells the failures that it can go on without from the others,
a shutdown does not. -/
def outcomeLabel (i : Invocation) : String :=
  match i.kind, i.result with
  | _, .reported .started => "started"
  | _, .reported (.skipped _) => "skipped"
  | .startup, .reported (.failed false _) => "degraded"
  | _, _ => "failed"

/-- The distribution that a run counts for. -/
def series (i : Invocation) : Metric :=
  .hookDuration i.name i.kind i.outcomeLabel

def sample (i : Invocation) : Measurement :=
  .sample i.series

end Invocation

/-- Every label of a result. -/
def outcomeLabels : List String :=
  ["started", "skipped", "degraded", "failed"]

theorem Invocation.outcomeLabel_mem (i : Invocation) : i.outcomeLabel ∈ outcomeLabels := by
  rcases i with ⟨_ | _, name, (_ | reason | ⟨_ | _, error⟩) | error | message⟩ <;>
    simp [outcomeLabel, outcomeLabels]

/-- The runs of a hook, counted by their labels. -/
theorem sum_countP_outcomeLabels (runs : List Invocation) (name : String) (kind : HookKind) :
    (outcomeLabels.map fun label =>
        runs.countP fun i => i.name = name ∧ i.kind = kind ∧ i.outcomeLabel = label).sum =
      runs.countP fun i => i.name = name ∧ i.kind = kind := by
  induction runs with
  | nil =>
      rfl
  | cons i rest ih =>
      simp only [outcomeLabels, List.map_cons, List.map_nil, List.sum_cons, List.sum_nil,
        List.countP_cons] at ih ⊢
      by_cases hhook : i.name = name ∧ i.kind = kind
      · -- The run counts for its own label and for no other.
        have hlabel := i.outcomeLabel_mem
        simp only [outcomeLabels, List.mem_cons, List.not_mem_nil, or_false] at hlabel
        rcases hlabel with hlabel | hlabel | hlabel | hlabel <;>
          simp only [hhook, hlabel, true_and, decide_true, decide_false, if_true, if_false,
            Bool.false_eq_true, String.reduceEq] <;>
          omega
      · have hother : ∀ label, ¬ (i.name = name ∧ i.kind = kind ∧ i.outcomeLabel = label) :=
          fun _ h => hhook ⟨h.1, h.2.1⟩
        simp only [hother, hhook, decide_false, Bool.false_eq_true, if_false, Nat.add_zero]
        exact ih

/-- The hook whose shutdown has failed, if this is what a recording says. -/
def Measurement.failedShutdown? : Measurement → Option String
  | .sample (.hookDuration name .shutdown label) => if label = "failed" then some name else none
  | _ => none

/-- A shutdown records as failed what it reports as failed. -/
theorem filterMap_failedShutdown? {runs : List Invocation} (h : ∀ i ∈ runs, i.kind = .shutdown) :
    (runs.map Invocation.sample).filterMap Measurement.failedShutdown? =
      (runs.filterMap Invocation.failure?).map (·.1) := by
  induction runs with
  | nil =>
      rfl
  | cons i rest ih =>
      have hrest := ih fun j hj => h j (List.mem_cons_of_mem _ hj)
      have hi : i.sample.failedShutdown? = i.failure?.map (·.1) := by
        rcases i with ⟨kind, name, result⟩
        obtain rfl : kind = .shutdown := h _ List.mem_cons_self
        rcases result with (_ | reason | ⟨_ | _, error⟩) | error | message <;>
          simp [Invocation.sample, Invocation.series, Measurement.failedShutdown?,
            Invocation.outcomeLabel, Invocation.failure?, HookResult.failure?]
      rw [List.map_cons, List.filterMap_cons, List.filterMap_cons, hi, hrest]
      cases i.failure? <;> rfl

namespace LifecycleRegistry

open Telemetry

variable {σ : Type u} {r : LifecycleRegistry σ} {name : String}

namespace Progress

/-- What was recorded so far are the runs so far. -/
def Sampled (p : Progress σ) : Prop :=
  p.telemetry.measurements = p.invoked.map Invocation.sample

variable {p : Progress σ}

theorem sampled_begin (r : LifecycleRegistry σ) (w : σ) : (begin r w).Sampled :=
  rfl

theorem Sampled.tell_log (h : p.Sampled) (level : LogLevel) (message : String)
    (fields : List (LogField × String)) : (p.tell [log level message fields]).Sampled := by
  rw [Sampled, tell, measurements_append, h]
  exact List.append_nil _

/-- A run that is recorded under its own labels. -/
theorem Sampled.ran {i : Invocation} {p' : Progress σ} {record : Notice} (h : p.Sampled)
    (hinvoked : p'.invoked = p.invoked ++ [i])
    (htold : p'.telemetry = p.telemetry ++ [.measured i.sample, record])
    (hrecord : measurements [record] = []) : p'.Sampled := by
  rw [Sampled, hinvoked, htold, measurements_append, h, measurements_measured, hrecord,
    List.map_append]
  rfl

end Progress

theorem sampled_runStartup (order : List String) (report : StartupReport) {p : Progress σ}
    (h : p.Sampled) : (runStartup order report p).2.Sampled := by
  induction order generalizing report p with
  | nil =>
      exact h
  | cons name rest ih =>
      cases hfind : p.registry.hook? .startup name with
      | none =>
          rw [runStartup, hfind]
          exact ih report h
      | some hook =>
          rw [runStartup, hfind]
          cases hstarted : hook.started with
          | true =>
              simp only [hstarted, if_true]
              exact ih report (h.tell_log _ _ _)
          | false =>
              -- Each result is recorded under its label before the startup goes on or ends.
              simp only [hstarted, Bool.false_eq_true, if_false, Progress.run, name_of_hook? hfind]
              rcases (hook.action p.world).1 with (_ | reason | ⟨_ | _, error⟩) | error | message
              · exact ih _ (h.ran rfl rfl rfl)
              · exact ih _ (h.ran rfl rfl rfl)
              · exact ih _ (h.ran rfl rfl rfl)
              · exact h.ran rfl rfl rfl
              · exact h.ran rfl rfl rfl
              · exact h.ran rfl rfl rfl

theorem sampled_runShutdown (order : List String) (report : ShutdownReport) {p : Progress σ}
    (h : p.Sampled) : (runShutdown order report p).2.Sampled := by
  induction order generalizing report p with
  | nil =>
      exact h
  | cons name rest ih =>
      cases hfind : p.registry.hook? .shutdown name with
      | none =>
          rw [runShutdown, hfind]
          exact ih report h
      | some hook =>
          rw [runShutdown, hfind]
          simp only [Progress.run, name_of_hook? hfind]
          rcases (hook.action p.world).1 with (_ | reason | ⟨_ | _, error⟩) | error | message <;>
            exact ih _ (h.ran rfl rfl rfl)

/-- A startup records the hooks it runs, also when they have no order or one of them ends it. -/
theorem measurements_startup (r : LifecycleRegistry σ) (w : σ) :
    (r.startup w).2.telemetry.measurements = (r.startup w).2.invoked.map Invocation.sample := by
  rw [startup]
  split
  · exact Progress.sampled_begin r w
  · exact sampled_runStartup _ _ ((Progress.sampled_begin r w).tell_log _ _ _)

theorem measurements_shutdown (r : LifecycleRegistry σ) (w : σ) :
    (r.shutdown w).2.telemetry.measurements = (r.shutdown w).2.invoked.map Invocation.sample := by
  rw [shutdown]
  exact sampled_runShutdown _ _ ((Progress.sampled_begin r w).tell_log _ _ _)

end LifecycleRegistry

/-! ## Calls -/

namespace LifecycleReply

variable {σ : Type u}

/-- What a call told its observers. -/
def told : LifecycleReply σ → Telemetry
  | .register (.ok told) => told
  | .register (.error _) => []
  | .startup _ _ _ told => told
  | .shutdown _ _ _ told => told

/-- The hooks that a call ran. -/
def invoked : LifecycleReply σ → List Invocation
  | .register _ => []
  | .startup _ _ invoked _ => invoked
  | .shutdown _ _ invoked _ => invoked

end LifecycleReply

namespace LifecycleRun

open LifecycleRegistry

variable {σ : Type u}

/-- What one call records are the hooks that it runs. -/
theorem measurements_reply (run : LifecycleRun σ) (call : LifecycleCall σ) :
    (run.reply call).told.measurements = (run.reply call).invoked.map Invocation.sample := by
  cases call with
  | register kind spec action =>
      rw [reply]
      cases hregister : run.registry.register kind spec action with
      | error e =>
          rfl
      | ok result =>
          rw [register] at hregister
          split at hregister
          · cases hregister
          · cases kind <;> cases hregister <;> rfl
  | startup w =>
      exact measurements_startup run.registry w
  | shutdown w =>
      exact measurements_shutdown run.registry w

theorem measurements_replies (run : LifecycleRun σ) (calls : List (LifecycleCall σ)) :
    Telemetry.measurements ((run.replies calls).flatMap LifecycleReply.told) =
      ((run.replies calls).flatMap LifecycleReply.invoked).map Invocation.sample := by
  induction calls generalizing run with
  | nil =>
      rfl
  | cons call rest ih =>
      rw [replies, List.flatMap_cons, List.flatMap_cons, Telemetry.measurements_append,
        List.map_append, measurements_reply, ih]

/-- Each reply is the reply to one of the calls, by the registry as it was then. -/
theorem exists_reply_of_mem {run : LifecycleRun σ} {calls : List (LifecycleCall σ)}
    {reply : LifecycleReply σ} (h : reply ∈ run.replies calls) :
    ∃ (before : LifecycleRun σ) (call : LifecycleCall σ), reply = before.reply call := by
  induction calls generalizing run with
  | nil =>
      cases h
  | cons call rest ih =>
      rcases List.mem_cons.1 h with rfl | hrest
      · exact ⟨run, call, rfl⟩
      · exact ih hrest

/-- The failures that a shutdown records are those that it reports, in the same order. -/
theorem failedShutdown?_shutdown (r : LifecycleRegistry σ) (w : σ) :
    (r.shutdown w).2.telemetry.measurements.filterMap Measurement.failedShutdown? =
      (r.shutdown w).1.failed.map (·.1) := by
  have hkind : ∀ i ∈ (r.shutdown w).2.invoked, i.kind = .shutdown := by
    intro i hi
    have hmem : (i.kind, i.name) ∈ r.shutdownOrder.map (HookKind.shutdown, ·) := by
      rw [← (shutdown_spec r w).2]
      exact List.mem_map.2 ⟨i, hi, rfl⟩
    rcases List.mem_map.1 hmem with ⟨name, _, heq⟩
    exact (congrArg Prod.fst heq).symm
  rw [measurements_shutdown, filterMap_failedShutdown? hkind]
  rcases shutdown_eq r w with ⟨telemetry, heq⟩
  rw [heq]
  rfl

/-- After any calls on a registry whose distributions were empty, the samples of a hook and a kind
under a label are the runs of this hook that ended so, and its samples under all labels are all its
runs. Each call adds one sample for each hook that it ran, in order, and none for another; those
that a shutdown adds as failed are those that it reports as failed. -/
theorem hook_runs_sampled (calls : List (LifecycleCall σ)) :
    let replies := initial.replies calls
    let told := replies.flatMap LifecycleReply.told
    let invoked := replies.flatMap LifecycleReply.invoked
    let samples := fun name kind label =>
      (Telemetry.valueOf? told (.hookDuration name kind label)).getD 0
    (∀ name kind label, samples name kind label =
        invoked.countP fun i => i.name = name ∧ i.kind = kind ∧ i.outcomeLabel = label) ∧
      (∀ name kind, (outcomeLabels.map (samples name kind)).sum =
        invoked.countP fun i => i.name = name ∧ i.kind = kind) ∧
      (∀ name kind, ∀ label ∉ outcomeLabels, samples name kind label = 0) ∧
      ∀ reply ∈ replies,
        reply.told.measurements = reply.invoked.map Invocation.sample ∧
          ∀ report w ran told, reply = .shutdown report w ran told →
            told.measurements.filterMap Measurement.failedShutdown? = report.failed.map (·.1) := by
  intro replies told invoked samples
  have hsamples : ∀ name kind label, samples name kind label =
      invoked.countP fun i => i.name = name ∧ i.kind = kind ∧ i.outcomeLabel = label := by
    intro name kind label
    have hrecorded : Telemetry.measurements told = (invoked.map Invocation.series).map .sample := by
      rw [List.map_map]
      exact measurements_replies initial calls
    calc samples name kind label
        = (invoked.map Invocation.series).count (.hookDuration name kind label) :=
          Telemetry.valueOf?_of_samples hrecorded
      _ = invoked.countP fun i => i.name = name ∧ i.kind = kind ∧ i.outcomeLabel = label := by
          rw [List.count, List.countP_map]
          exact List.countP_congr fun i _ => by simp [Invocation.series]
  refine ⟨hsamples, ?_, ?_, ?_⟩
  · intro name kind
    rw [List.map_congr_left fun label _ => hsamples name kind label]
    exact sum_countP_outcomeLabels invoked name kind
  · intro name kind label hlabel
    rw [hsamples, List.countP_eq_zero]
    intro i _ hi
    have hown : i.outcomeLabel = label := (of_decide_eq_true hi).2.2
    exact hlabel (hown ▸ i.outcomeLabel_mem)
  · intro reply hreply
    rcases exists_reply_of_mem hreply with ⟨before, call, rfl⟩
    refine ⟨measurements_reply before call, ?_⟩
    intro report w ran told hshutdown
    cases call with
    | register kind spec action =>
        cases hshutdown
    | startup w =>
        cases hshutdown
    | shutdown w =>
        cases hshutdown
        exact failedShutdown?_shutdown before.registry _

/-- A startup that goes on without `cache` and ends at `queue`, twice, and then a shutdown in which
the one hook that is started panics. -/
def endingAtQueue : List (LifecycleCall Unit) :=
  [.register .startup (.of "database" 10 []) fun w => (.reported .started, w),
    .register .startup (.of "cache" 20 []) fun w => (.reported (.failed false "refused"), w),
    .register .startup (.of "queue" 30 []) fun w => (.raised "no route", w),
    .register .shutdown (.named "database") fun w => (.panicked none, w),
    .startup (),
    .startup (),
    .shutdown ()]

/-- The second startup has no sample for the hook that the first one has started. -/
theorem hook_runs_sampled_endingAtQueue :
    let told := (initial.replies endingAtQueue).flatMap LifecycleReply.told
    let samples := fun name kind label =>
      (Telemetry.valueOf? told (.hookDuration name kind label)).getD 0
    samples "database" .startup "started" = 1 ∧ samples "cache" .startup "degraded" = 2 ∧
      samples "queue" .startup "failed" = 2 ∧ samples "database" .shutdown "failed" = 1 ∧
      samples "queue" .startup "degraded" = 0 ∧ samples "queue" .startup "ended" = 0 := by
  intro told samples
  obtain ⟨hsamples, _, hothers, _⟩ := hook_runs_sampled endingAtQueue
  refine ⟨?_, ?_, ?_, ?_, ?_, hothers "queue" .startup "ended" (by decide)⟩ <;>
    exact (hsamples _ _ _).trans (by decide +kernel)

end LifecycleRun

end ServicePlane
