import ServicePlane.Proofs.Lifecycle.RegistryState

/-!
# Attempts to run hooks

`LifecycleRegistry.attempts` runs hooks one after the other, each in the world that the one before
has left behind, and looks at no result. A shutdown is just that. A startup cuts it off behind the
first fatal result, which `throughFatal` says of the list of runs.

* `runStartup_eq` — registry, world, runs and result of a startup that goes through some names;
* `runShutdown_eq` — the same of a shutdown.
-/

namespace ServicePlane

universe u

/-! ## Results and runs -/

namespace HookResult

/-- Whether a startup cannot go on after this result. -/
def isFatal : HookResult → Bool
  | .reported (.failed required _) => required
  | .reported .started => false
  | .reported (.skipped _) => false
  | .raised _ => true
  | .panicked _ => true

/-- The error of a run that has failed, whether the process can go on without it or not. -/
def failure? : HookResult → Option String
  | .reported (.failed _ error) => some error
  | .reported .started => none
  | .reported (.skipped _) => none
  | .raised error => some error
  | .panicked message => some (panicText message)

theorem exists_failure_of_isFatal {result : HookResult} (h : result.isFatal = true) :
    ∃ error, result.failure? = some error := by
  cases result with
  | reported outcome =>
      cases outcome with
      | started =>
          cases h
      | skipped reason =>
          cases h
      | failed required error =>
          exact ⟨error, rfl⟩
  | raised error =>
      exact ⟨error, rfl⟩
  | panicked message =>
      exact ⟨panicText message, rfl⟩

theorem exists_outcome_of_not_isFatal {result : HookResult} (h : result.isFatal = false) :
    ∃ outcome, result = .reported outcome := by
  cases result with
  | reported outcome =>
      exact ⟨outcome, rfl⟩
  | raised error =>
      cases h
  | panicked message =>
      cases h

end HookResult

namespace Invocation

/-- What a startup reports of a run that does not end it. -/
def outcome? (i : Invocation) : Option (String × HookOutcome) :=
  match i.result with
  | .reported outcome => some (i.name, outcome)
  | _ => none

/-- What a shutdown reports of a run that has failed. -/
def failure? (i : Invocation) : Option (String × String) :=
  i.result.failure?.map (i.name, ·)

end Invocation

/-- The startup hooks that returned `started` in some runs, in the order of the runs. -/
def startedIn (invoked : List Invocation) : List String :=
  (invoked.filter fun i => i.kind == .startup && i.result == .reported .started).map (·.name)

@[simp]
theorem startedIn_append (left right : List Invocation) :
    startedIn (left ++ right) = startedIn left ++ startedIn right := by
  simp [startedIn]

theorem startedIn_sublist (invoked : List Invocation) :
    (startedIn invoked).Sublist (invoked.map (·.name)) :=
  List.Sublist.map _ List.filter_sublist

theorem mem_startedIn {invoked : List Invocation} {name : String} :
    name ∈ startedIn invoked ↔ ⟨.startup, name, .reported .started⟩ ∈ invoked := by
  simp only [startedIn, List.mem_map, List.mem_filter, Bool.and_eq_true, beq_iff_eq]
  constructor
  · rintro ⟨⟨kind, n, result⟩, ⟨hm, rfl, rfl⟩, rfl⟩
    exact hm
  · intro hm
    exact ⟨_, ⟨hm, rfl, rfl⟩, rfl⟩

/-- The runs up to the first one with a fatal result, that one included; all, if there is none. -/
def throughFatal (runs : List Invocation) : List Invocation :=
  runs.take (runs.findIdx (·.result.isFatal) + 1)

@[simp]
theorem throughFatal_nil : throughFatal [] = [] :=
  rfl

theorem throughFatal_cons (i : Invocation) (rest : List Invocation) :
    throughFatal (i :: rest) = if i.result.isFatal then [i] else i :: throughFatal rest := by
  cases hfatal : i.result.isFatal <;> simp [throughFatal, List.findIdx_cons, hfatal]

example :
    throughFatal
        [⟨.startup, "cache", .reported (.skipped "disabled")⟩,
          ⟨.startup, "database", .raised "refused"⟩, ⟨.startup, "queue", .reported .started⟩] =
      [⟨.startup, "cache", .reported (.skipped "disabled")⟩,
        ⟨.startup, "database", .raised "refused"⟩] := by
  decide

/-- Runs without a fatal result are not cut off. -/
theorem throughFatal_of_forall {runs : List Invocation}
    (h : ∀ i ∈ runs, i.result.isFatal = false) : throughFatal runs = runs := by
  induction runs with
  | nil =>
      rfl
  | cons i rest ih =>
      have hrest := ih fun j hj => h j (by simp [hj])
      simp [throughFatal_cons, h i (by simp), hrest]

/-- Runs are cut off behind the first fatal result. -/
theorem throughFatal_append_cons {before : List Invocation} {i : Invocation}
    (hbefore : ∀ j ∈ before, j.result.isFatal = false) (hi : i.result.isFatal = true)
    (after : List Invocation) : throughFatal (before ++ i :: after) = before ++ [i] := by
  induction before with
  | nil =>
      simp [throughFatal_cons, hi]
  | cons j rest ih =>
      have hrest := ih fun k hk => hbefore k (by simp [hk])
      simp [throughFatal_cons, hbefore j (by simp), hrest]

/-- The cut does not take away the first fatal result. -/
theorem find?_throughFatal (runs : List Invocation) :
    (throughFatal runs).find? (·.result.isFatal) = runs.find? (·.result.isFatal) := by
  induction runs with
  | nil =>
      rfl
  | cons i rest ih =>
      cases hfatal : i.result.isFatal with
      | true =>
          simp [throughFatal_cons, hfatal]
      | false =>
          simp [throughFatal_cons, hfatal, ih]

/-- What a startup returns that has reported something and then runs these hooks. -/
def startupResult (report : StartupReport) (ran : List Invocation) :
    Except LifecycleError StartupReport :=
  match ran.find? (·.result.isFatal) with
  | some i => .error (.hookFailed i.name (i.result.failure?.getD ""))
  | none => .ok ⟨report.outcomes ++ ran.filterMap Invocation.outcome?⟩

theorem startupResult_of_fatal {i : Invocation} {error : String} (report : StartupReport)
    (rest : List Invocation) (hfatal : i.result.isFatal = true)
    (herror : i.result.failure? = some error) :
    startupResult report (i :: rest) = .error (.hookFailed i.name error) := by
  simp [startupResult, hfatal, herror]

theorem startupResult_of_outcome {i : Invocation} {outcome : HookOutcome} (report : StartupReport)
    (rest : List Invocation) (hfatal : i.result.isFatal = false)
    (houtcome : i.result = .reported outcome) :
    startupResult report (i :: rest) =
      startupResult ⟨report.outcomes ++ [(i.name, outcome)]⟩ rest := by
  have hreported : i.outcome? = some (i.name, outcome) := by
    rw [Invocation.outcome?, houtcome]
  simp [startupResult, hfatal, hreported]

/-- What a shutdown reports that has reported something and then runs these hooks. -/
def shutdownReport (report : ShutdownReport) (runs : List Invocation) : ShutdownReport where
  completed := report.completed ++ (runs.filter fun i => i.result.failure?.isNone).map (·.name)
  failed := report.failed ++ runs.filterMap Invocation.failure?

theorem shutdownReport_of_done {i : Invocation} {report : ShutdownReport}
    (h : i.result.failure? = none) :
    shutdownReport report [i] = { report with completed := report.completed ++ [i.name] } := by
  simp [shutdownReport, Invocation.failure?, h]

theorem shutdownReport_of_failure {i : Invocation} {report : ShutdownReport} {error : String}
    (h : i.result.failure? = some error) :
    shutdownReport report [i] = { report with failed := report.failed ++ [(i.name, error)] } := by
  simp [shutdownReport, Invocation.failure?, h]

theorem shutdownReport_shutdownReport (report : ShutdownReport) (left right : List Invocation) :
    shutdownReport (shutdownReport report left) right = shutdownReport report (left ++ right) := by
  simp [shutdownReport]

namespace LifecycleRegistry

variable {σ : Type u} {r : LifecycleRegistry σ} {kind : HookKind} {name : String}

/-! ## Attempts -/

/-- The runs of the hooks with these names one after the other, whatever they return, and the world
that they leave behind. -/
def attempts (r : LifecycleRegistry σ) (kind : HookKind) :
    List String → σ → List Invocation × σ
  | [], w => ([], w)
  | name :: rest, w =>
      match r.hook? kind name with
      | none => r.attempts kind rest w
      | some h =>
          let later := r.attempts kind rest (h.action w).2
          (⟨kind, name, (h.action w).1⟩ :: later.1, later.2)

theorem attempts_of_none (h : r.hook? kind name = none) (rest : List String) (w : σ) :
    r.attempts kind (name :: rest) w = r.attempts kind rest w := by
  rw [attempts, h]

theorem attempts_of_some {h : Hook σ} (hfind : r.hook? kind name = some h) (rest : List String)
    (w : σ) :
    r.attempts kind (name :: rest) w =
      (⟨kind, name, (h.action w).1⟩ :: (r.attempts kind rest (h.action w).2).1,
        (r.attempts kind rest (h.action w).2).2) := by
  rw [attempts, hfind]

/-- Every registered name is run, once for each time it is listed. -/
theorem names_attempts {names : List String} (w : σ)
    (hregistered : ∀ name ∈ names, r.contains kind name = true) :
    (r.attempts kind names w).1.map (fun i => (i.kind, i.name)) = names.map (kind, ·) := by
  induction names generalizing w with
  | nil =>
      rfl
  | cons name rest ih =>
      have hcontains := hregistered name (by simp)
      rw [contains_eq_isSome] at hcontains
      rcases Option.isSome_iff_exists.1 hcontains with ⟨h, hfind⟩
      have hrest := ih (h.action w).2 fun n hn => hregistered n (by simp [hn])
      rw [attempts_of_some hfind, List.map_cons, List.map_cons, hrest]

/-- What hooks do depends on their actions alone, not on what is started. -/
theorem attempts_congr {r' : LifecycleRegistry σ}
    (h : ∀ name, (r'.hook? kind name).map (·.action) = (r.hook? kind name).map (·.action))
    (names : List String) (w : σ) : r'.attempts kind names w = r.attempts kind names w := by
  induction names generalizing w with
  | nil =>
      rfl
  | cons name rest ih =>
      have hname := h name
      cases hfind : r.hook? kind name with
      | none =>
          rw [hfind, Option.map_none, Option.map_eq_none_iff] at hname
          rw [attempts_of_none hfind, attempts_of_none hname, ih]
      | some hook =>
          rw [hfind, Option.map_some, Option.map_eq_some_iff] at hname
          rcases hname with ⟨hook', hfind', haction⟩
          rw [attempts_of_some hfind, attempts_of_some hfind', haction, ih]

theorem attempts_markStarted (names : List String) (w : σ) :
    (r.markStarted name).attempts kind names w = r.attempts kind names w := by
  refine attempts_congr ?_ names w
  intro n
  cases kind with
  | startup =>
      rw [hook?_markStarted, Option.map_map]
      congr 1
      funext h
      simp only [Function.comp_apply]
      split <;> rfl
  | shutdown =>
      rfl

theorem attempts_markAll (started names : List String) (w : σ) :
    (r.markAll started).attempts kind names w = r.attempts kind names w := by
  induction started generalizing r with
  | nil =>
      rfl
  | cons name rest ih =>
      exact (ih (r := r.markStarted name)).trans (attempts_markStarted names w)

/-! ## Startup -/

/-- One startup hook that is not started: it runs, and its result decides whether the startup goes
on. -/
theorem runStartup_cons {h : Hook σ} {p : Progress σ} (rest : List String)
    (report : StartupReport) (hfind : p.registry.hook? .startup name = some h)
    (hstarted : h.started = false) :
    ∃ p' : Progress σ,
      p'.registry = p.registry.markAll (startedIn [⟨.startup, name, (h.action p.world).1⟩]) ∧
      p'.world = (h.action p.world).2 ∧
      p'.invoked = p.invoked ++ [⟨.startup, name, (h.action p.world).1⟩] ∧
      ((∃ error, (h.action p.world).1.isFatal = true ∧
          (h.action p.world).1.failure? = some error ∧
          runStartup (name :: rest) report p = (.error (.hookFailed name error), p')) ∨
        ∃ outcome, (h.action p.world).1.isFatal = false ∧
          (h.action p.world).1 = .reported outcome ∧
          runStartup (name :: rest) report p =
            runStartup rest ⟨report.outcomes ++ [(name, outcome)]⟩ p') := by
  have hname := name_of_hook? hfind
  rw [runStartup, hfind]
  simp only [hstarted, Bool.false_eq_true, if_false, Progress.run, hname]
  rcases (h.action p.world).1 with (_ | reason | ⟨_ | _, error⟩) | error | message
  · refine ⟨_, ?_, ?_, ?_, .inr ⟨.started, rfl, rfl, rfl⟩⟩ <;> rfl
  · refine ⟨_, ?_, ?_, ?_, .inr ⟨.skipped reason, rfl, rfl, rfl⟩⟩ <;> rfl
  · refine ⟨_, ?_, ?_, ?_, .inr ⟨.failed false error, rfl, rfl, rfl⟩⟩ <;> rfl
  · refine ⟨_, ?_, ?_, ?_, .inl ⟨error, rfl, rfl, rfl⟩⟩ <;> rfl
  · refine ⟨_, ?_, ?_, ?_, .inl ⟨error, rfl, rfl, rfl⟩⟩ <;> rfl
  · refine ⟨_, ?_, ?_, ?_, .inl ⟨panicText message, rfl, rfl, rfl⟩⟩ <;> rfl

/-- The hooks of some names that are not started. -/
def pending (r : LifecycleRegistry σ) (order : List String) : List String :=
  order.filter fun name => !r.isStarted name

theorem mem_pending {order : List String} :
    name ∈ r.pending order ↔ name ∈ order ∧ r.isStarted name = false := by
  simp [pending]

theorem pending_cons_of_started (h : r.isStarted name = true) (rest : List String) :
    r.pending (name :: rest) = r.pending rest := by
  simp [pending, h]

theorem pending_cons_of_not_started (h : r.isStarted name = false) (rest : List String) :
    r.pending (name :: rest) = name :: r.pending rest := by
  simp [pending, h]

theorem pending_markAll {started order : List String} (h : ∀ name ∈ order, name ∉ started) :
    (r.markAll started).pending order = r.pending order := by
  refine List.filter_congr ?_
  intro name hname
  rw [isStarted_markAll_of_notMem (h name hname)]

/-- Going through names, none twice, a startup attempts the hooks that are not started, up to the
first fatal result. -/
theorem runStartup_eq {order : List String} (report : StartupReport) (p : Progress σ)
    (hnodup : order.Nodup) :
    let ran := throughFatal
      (p.registry.attempts .startup (p.registry.pending order) p.world).1
    ∃ telemetry, runStartup order report p =
      (startupResult report ran,
        { registry := p.registry.markAll (startedIn ran)
          world := (p.registry.attempts .startup (ran.map (·.name)) p.world).2
          invoked := p.invoked ++ ran
          telemetry := telemetry }) := by
  induction order generalizing report p with
  | nil =>
      refine ⟨p.telemetry, ?_⟩
      simp [runStartup, pending, attempts, startupResult, startedIn, markAll]
  | cons name rest ih =>
      rcases List.nodup_cons.1 hnodup with ⟨hnew, hrest⟩
      cases hfind : p.registry.hook? .startup name with
      | none =>
          have hmark : p.registry.isStarted name = false := by
            rw [isStarted, hfind]
          rw [pending_cons_of_not_started hmark, attempts_of_none hfind, runStartup, hfind]
          exact ih report p hrest
      | some h =>
          have hmark : p.registry.isStarted name = h.started := by
            rw [isStarted, hfind]
          cases hstarted : h.started with
          | true =>
              -- The hook is passed over.
              rw [pending_cons_of_started (hmark.trans hstarted), runStartup, hfind]
              simp only [hstarted, if_true]
              exact ih report (p.tell _) hrest
          | false =>
              rw [pending_cons_of_not_started (hmark.trans hstarted), attempts_of_some hfind]
              rcases runStartup_cons rest report hfind hstarted with
                ⟨p', hregistry, hworld, hinvoked, ⟨error, hfatal, herror, heq⟩ |
                  ⟨outcome, hgo, houtcome, heq⟩⟩
              · -- The hook runs, and ends the startup.
                have hleft : (p.registry.attempts .startup [name] p.world).2 = p'.world := by
                  rw [attempts_of_some hfind, hworld]
                  rfl
                refine ⟨p'.telemetry, ?_⟩
                rw [throughFatal_cons, if_pos hfatal, startupResult_of_fatal _ _ hfatal herror, heq,
                  List.map_singleton, hleft, ← hregistry, ← hinvoked]
              · -- The hook runs, and its mark does not change what is pending among the others.
                have hothers : p'.registry.pending rest = p.registry.pending rest := by
                  rw [hregistry]
                  refine pending_markAll ?_
                  intro n hn hmem
                  have hrun := List.mem_singleton.1 (mem_startedIn.1 hmem)
                  have hsame : n = name := congrArg Invocation.name hrun
                  exact hnew (hsame ▸ hn)
                have hattempts : ∀ names w, p'.registry.attempts .startup names w =
                    p.registry.attempts .startup names w := by
                  intro names w
                  rw [hregistry]
                  exact attempts_markAll _ names w
                rcases ih ⟨report.outcomes ++ [(name, outcome)]⟩ p' hrest with
                  ⟨telemetry, hlater⟩
                rw [hothers, hattempts, hattempts, hworld, hinvoked, hregistry, ← markAll_append,
                  ← startedIn_append] at hlater
                refine ⟨telemetry, ?_⟩
                rw [throughFatal_cons, if_neg (by simp [hgo]),
                  startupResult_of_outcome _ _ hgo houtcome, heq, hlater, List.map_cons,
                  attempts_of_some hfind]
                simp

/-! ## Shutdown -/

/-- One shutdown hook: it runs, and whatever it returns the shutdown goes on. -/
theorem runShutdown_cons {h : Hook σ} {p : Progress σ} (rest : List String)
    (report : ShutdownReport) (hfind : p.registry.hook? .shutdown name = some h) :
    ∃ p' : Progress σ,
      runShutdown (name :: rest) report p =
        runShutdown rest
          (shutdownReport report [⟨.shutdown, name, (h.action p.world).1⟩]) p' ∧
      p'.registry = p.registry ∧ p'.world = (h.action p.world).2 ∧
      p'.invoked = p.invoked ++ [⟨.shutdown, name, (h.action p.world).1⟩] := by
  have hname := name_of_hook? hfind
  rw [runShutdown, hfind]
  simp only [Progress.run, hname]
  rcases (h.action p.world).1 with (_ | reason | ⟨required, error⟩) | error | message
  · rw [shutdownReport_of_done rfl]
    exact ⟨_, rfl, rfl, rfl, rfl⟩
  · rw [shutdownReport_of_done rfl]
    exact ⟨_, rfl, rfl, rfl, rfl⟩
  · rw [shutdownReport_of_failure rfl]
    exact ⟨_, rfl, rfl, rfl, rfl⟩
  · rw [shutdownReport_of_failure rfl]
    exact ⟨_, rfl, rfl, rfl, rfl⟩
  · rw [shutdownReport_of_failure rfl]
    exact ⟨_, rfl, rfl, rfl, rfl⟩

/-- A shutdown attempts all hooks. -/
theorem runShutdown_eq (order : List String) (report : ShutdownReport) (p : Progress σ) :
    ∃ telemetry, runShutdown order report p =
      (shutdownReport report (p.registry.attempts .shutdown order p.world).1,
        { registry := p.registry
          world := (p.registry.attempts .shutdown order p.world).2
          invoked := p.invoked ++ (p.registry.attempts .shutdown order p.world).1
          telemetry := telemetry }) := by
  induction order generalizing report p with
  | nil =>
      refine ⟨p.telemetry, ?_⟩
      simp [runShutdown, attempts, shutdownReport]
  | cons name rest ih =>
      cases hfind : p.registry.hook? .shutdown name with
      | none =>
          rw [attempts_of_none hfind, runShutdown, hfind]
          exact ih report p
      | some h =>
          rcases runShutdown_cons rest report hfind with ⟨p', heq, hregistry, hworld, hinvoked⟩
          rcases ih (shutdownReport report [⟨.shutdown, name, (h.action p.world).1⟩]) p' with
            ⟨telemetry, hlater⟩
          rw [shutdownReport_shutdownReport, hregistry, hworld, hinvoked] at hlater
          refine ⟨telemetry, ?_⟩
          rw [heq, hlater, attempts_of_some hfind]
          simp

end LifecycleRegistry

end ServicePlane
