import Mathlib.Logic.Relation
import ServicePlane.Application.Run
import ServicePlane.Proofs.Application.Boot
import ServicePlane.Proofs.Http.Routing
import ServicePlane.Proofs.Monitor.Running

/-!
# Every way out of a run

A run can end in many ways: the hooks have no order, a required service cannot be reached, an
address cannot be listened on, a server fails, or everything goes well until the stop. On each of
them the lifecycle is started once and shut down once, and what is left has nothing that runs on.

* `PlaneConfig.Listens` — what listening for a configuration comes to;
* `Context.Activity`, `Context.Serves` — what can go on while the plane serves;
* `startup_cases` — what the startup of a configuration leaves behind, whether it fails or not;
* `shutdown_lifecycle` — the shutdown stops the monitor exactly if its hook has started;
* `run_of_error`, `run_of_ok` — the steps and the result of a run without and with a startup;
* `left_by_shutdown` — what a run leaves whose last step is a shutdown;
* `run_leaves_nothing_running` — every way out of it.
-/

namespace ServicePlane

open Http LifecycleRegistry Relation

/-! ## Listening -/

/-- What listening for a configuration comes to, on a network: the listeners that there are then,
and the network with all of them or the error of the interface that cannot listen. The interface for
operators comes second, if it is enabled, and finds the network as the first one has left it. -/
inductive PlaneConfig.Listens (c : PlaneConfig) (n : Network) :
    List Listener → Except NetworkError Network → Prop
  | refused {e : NetworkError} (hfirst : n.listen c.server.bindAddress = .error e) :
      Listens c n [] (.error e)
  | alone {a : SocketAddress} {n' : Network} (hdisabled : c.admin.enabled = false)
      (hfirst : n.listen c.server.bindAddress = .ok (a, n')) :
      Listens c n [⟨.everybody, a⟩] (.ok n')
  | halfway {a : SocketAddress} {n' : Network} {e : NetworkError}
      (henabled : c.admin.enabled = true)
      (hfirst : n.listen c.server.bindAddress = .ok (a, n'))
      (hsecond : n'.listen c.admin.bindAddress = .error e) :
      Listens c n [⟨.everybody, a⟩] (.error e)
  | both {a b : SocketAddress} {n' n'' : Network} (henabled : c.admin.enabled = true)
      (hfirst : n.listen c.server.bindAddress = .ok (a, n'))
      (hsecond : n'.listen c.admin.bindAddress = .ok (b, n'')) :
      Listens c n [⟨.everybody, a⟩, ⟨.operators, b⟩] (.ok n'')

namespace PlaneConfig

variable {c : PlaneConfig} {n : Network} {listening : List Listener}
  {bound : Except NetworkError Network}

/-- It comes to something, and to nothing else than what is computed. -/
theorem Listens.listen_eq (h : c.Listens n listening bound) : c.listen n = (listening, bound) := by
  cases h with
  | refused hfirst =>
      cases henabled : c.admin.enabled <;>
        simp [listen, WebInterface.configured, henabled, listenAll, WebInterface.address, hfirst]
  | alone hdisabled hfirst =>
      simp [listen, WebInterface.configured, hdisabled, listenAll, WebInterface.address, hfirst]
  | halfway henabled hfirst hsecond =>
      simp [listen, WebInterface.configured, henabled, listenAll, WebInterface.address, hfirst,
        hsecond]
  | both henabled hfirst hsecond =>
      simp [listen, WebInterface.configured, henabled, listenAll, WebInterface.address, hfirst,
        hsecond]

theorem exists_listens (c : PlaneConfig) (n : Network) :
    ∃ listening bound, c.Listens n listening bound := by
  cases hfirst : n.listen c.server.bindAddress with
  | error e =>
      exact ⟨_, _, .refused hfirst⟩
  | ok listener =>
      cases henabled : c.admin.enabled with
      | false =>
          exact ⟨_, _, .alone henabled hfirst⟩
      | true =>
          cases hsecond : listener.2.listen c.admin.bindAddress with
          | error e =>
              exact ⟨_, _, .halfway henabled hfirst hsecond⟩
          | ok listener' =>
              exact ⟨_, _, .both henabled hfirst hsecond⟩

theorem listens_iff : c.Listens n listening bound ↔ c.listen n = (listening, bound) := by
  constructor
  · exact Listens.listen_eq
  · intro h
    rcases exists_listens c n with ⟨listening', bound', hlistens⟩
    cases hlistens.listen_eq.symm.trans h
    exact hlistens

end PlaneConfig

namespace Context

variable {w w' : Context} {c : PlaneConfig} {n : Network} {entries : List ServiceConfig}

/-! ## What goes on while the plane serves -/

/-- One thing that goes on while a plane serves: an interface answers a request, somebody who holds
the context does something, or something is told. -/
inductive Activity (w : Context) : Context → Prop
  | answer (i : WebInterface) (request : Request) : Activity w (w.respond i request).2
  | call (call : PlaneCall) : Activity w { w with plane := w.plane.perform call }
  | tell (notices : Telemetry) : Activity w (w.tell notices)

/-- Some things go on, one after the other. -/
def Serves : Context → Context → Prop :=
  ReflTransGen Activity

theorem monitor_ready (gate : Gate) (services : List Service) (request : Request)
    (texts : List String) (p : Plane) :
    (Plane.ready gate services request texts p).2.monitor = p.monitor := by
  have hchecked : (p.checkGate gate services).2.monitor = p.monitor := rfl
  rw [Plane.ready]
  split
  · rename_i q heq
    rw [heq] at hchecked
    exact hchecked
  · rename_i u q heq
    rw [heq] at hchecked
    exact hchecked

theorem monitor_putOverride (request : Request) (texts : List String) (p : Plane) :
    (Plane.putOverride request texts p).2.monitor = p.monitor := by
  rw [Plane.putOverride]
  split
  · rfl
  · split
    · rfl
    · dsimp only
      split <;> rfl

/-- The monitor is between its calls when an answer has been given. -/
theorem atRest_respond (h : w.plane.monitor.AtRest) (i : WebInterface) (request : Request) :
    (w.respond i request).2.plane.monitor.AtRest := by
  cases i with
  | everybody =>
      change (w.plane.servePublic w.gate w.config.readinessServices request).2.monitor.AtRest
      rw [Plane.servePublic, Router.finish_snd]
      refine Router.respond_keeps (P := fun p : Plane => p.monitor.AtRest) request ?_ h
      -- A probe does nothing but tell of a rejection.
      intro r hr request texts p hp
      simp only [Plane.publicRoutes, List.mem_cons, List.not_mem_nil, or_false] at hr
      rcases hr with rfl | rfl
      · exact hp
      · change (Plane.ready w.gate w.config.readinessServices request texts p).2.monitor.AtRest
        rw [monitor_ready]
        exact hp
  | operators =>
      change (w.plane.serveOperator w.config.admin.apiKey request).2.monitor.AtRest
      rw [Plane.serveOperator, Router.finish_snd]
      split
      · refine Router.respond_keeps (P := fun p : Plane => p.monitor.AtRest) request ?_ h
        intro r hr request texts p hp
        simp only [Plane.operatorRoutes, List.mem_cons, List.not_mem_nil, or_false] at hr
        rcases hr with rfl | rfl | rfl | rfl
        · exact hp
        · exact hp
        · change (Plane.putOverride request texts p).2.monitor.AtRest
          rw [monitor_putOverride]
          exact hp
        · exact Plane.atRest_perform hp .triggerCheck
      · exact h

theorem Activity.atRest (h : w.Activity w') (hrest : w.plane.monitor.AtRest) :
    w'.plane.monitor.AtRest := by
  cases h with
  | answer i request =>
      exact atRest_respond hrest i request
  | call call =>
      exact Plane.atRest_perform hrest call
  | tell notices =>
      exact hrest

theorem Serves.atRest (h : w.Serves w') (hrest : w.plane.monitor.AtRest) :
    w'.plane.monitor.AtRest := by
  induction h with
  | refl =>
      exact hrest
  | tail _ hlast ih =>
      exact Activity.atRest hlast ih

section Serving

variable {α : Type} {during : List Listener → Context → α × Context}
  {ends : WebInterface → ServerEnd} {listening : List Listener}

/-- When an interface cannot listen, nothing goes on. -/
theorem serve_of_error {e : NetworkError}
    (h : w.config.Listens w.plane.network listening (.error e)) :
    w.serve during ends = ⟨.error e, listening, w⟩ := by
  rw [serve, h.listen_eq]

theorem serve_of_ok {network : Network}
    (h : w.config.Listens w.plane.network listening (.ok network)) :
    w.serve during ends =
      ⟨(w.serveOn listening network during ends).1, listening,
        (w.serveOn listening network during ends).2⟩ := by
  rw [serve, h.listen_eq]

theorem exists_lastFailure_iff (ends : WebInterface → ServerEnd) (interfaces : List WebInterface) :
    (∃ e, lastFailure? ends interfaces = some e) ↔
      ∃ i ∈ interfaces, ∃ e, (ends i).error? = some e := by
  rw [← Option.isSome_iff_exists, lastFailure?, List.getLast?_isSome]
  simp [List.filterMap_eq_nil_iff, Option.ne_none_iff_exists']

variable (during ends) in
/-- Serving fails when an interface cannot listen, or else when a server fails. Otherwise it comes to
what has gone on with all listeners there. -/
theorem serve_cases {bound : Except NetworkError Network}
    (h : w.config.Listens w.plane.network listening bound) :
    let served := w.serve during ends
    let failure := lastFailure? ends (WebInterface.configured w.config)
    served.listening = listening ∧
      ((∃ e, bound = .error e ∧ served.result = .error e) ∨
        ∃ network, bound = .ok network ∧
          ((∃ e, failure = some e ∧ served.result = .error e) ∨
            failure = none ∧ ∃ w', w'.plane.network = network ∧
              served.result = .ok (during listening w').1)) := by
  intro served failure
  cases bound with
  | error e =>
      rw [show served = _ from serve_of_error h]
      exact ⟨rfl, .inl ⟨e, rfl, rfl⟩⟩
  | ok network =>
      rw [show served = _ from serve_of_ok h, serveOn]
      refine ⟨rfl, .inr ⟨network, rfl, ?_⟩⟩
      cases hfailure : lastFailure? ends (WebInterface.configured w.config) with
      | some e =>
          exact .inl ⟨e, hfailure, rfl⟩
      | none =>
          exact .inr ⟨hfailure, _, rfl, rfl⟩

variable (during ends) in
/-- Serving fails exactly if an interface cannot listen or a server fails. -/
theorem exists_serve_error_iff {bound : Except NetworkError Network}
    (h : w.config.Listens w.plane.network listening bound) :
    (∃ e, (w.serve during ends).result = .error e) ↔
      (∃ e, bound = .error e) ∨
        ∃ i ∈ WebInterface.configured w.config, ∃ e, (ends i).error? = some e := by
  rw [← exists_lastFailure_iff]
  rcases (serve_cases during ends h).2 with
    ⟨e, hbound, hresult⟩ | ⟨network, hbound, ⟨e, hfailure, hresult⟩ | ⟨hfailure, w', _, hresult⟩⟩
  · exact iff_of_true ⟨e, hresult⟩ (.inl ⟨e, hbound⟩)
  · exact iff_of_true ⟨e, hresult⟩ (.inr ⟨e, hfailure⟩)
  · simp [hresult, hbound, hfailure]

/-- The error of serving is that of the listening or of the last server that has failed. -/
theorem error_of_serve {bound : Except NetworkError Network} {e : NetworkError}
    (h : w.config.Listens w.plane.network listening bound)
    (he : (w.serve during ends).result = .error e) :
    bound = .error e ∨ lastFailure? ends (WebInterface.configured w.config) = some e := by
  rcases (serve_cases during ends h).2 with
    ⟨e', hbound, hresult⟩ | ⟨network, _, ⟨e', hfailure, hresult⟩ | ⟨_, _, _, hresult⟩⟩
  · cases he.symm.trans hresult
    exact .inl hbound
  · cases he.symm.trans hresult
    exact .inr hfailure
  · cases he.symm.trans hresult

/-- Serving that has not failed comes to what has gone on with all listeners there. -/
theorem ok_of_serve {bound : Except NetworkError Network} {a : α}
    (h : w.config.Listens w.plane.network listening bound)
    (ha : (w.serve during ends).result = .ok a) :
    ∃ network w', bound = .ok network ∧ w'.plane.network = network ∧
      a = (during listening w').1 := by
  rcases (serve_cases during ends h).2 with
    ⟨e, _, hresult⟩ | ⟨network, hbound, ⟨e, _, hresult⟩ | ⟨_, w', hw', hresult⟩⟩
  · cases ha.symm.trans hresult
  · cases ha.symm.trans hresult
  · cases ha.symm.trans hresult
    exact ⟨network, w', hbound, hw', rfl⟩

/-- Whatever ends the serving, the monitor is between its calls then. -/
theorem atRest_serve (hduring : ∀ listening w, Serves w (during listening w).2)
    (h : w.plane.monitor.AtRest) : (w.serve during ends).context.plane.monitor.AtRest := by
  rcases w.config.exists_listens w.plane.network with ⟨listening, bound, hlistens⟩
  cases bound with
  | error e =>
      rw [serve_of_error hlistens]
      exact h
  | ok network =>
      have hgone : ∀ w : Context, w.plane.monitor.AtRest →
          (during listening w).2.plane.monitor.AtRest := fun w => Serves.atRest (hduring listening w)
      rw [serve_of_ok hlistens]
      exact hgone _ h

end Serving

/-! ## Startup -/

theorem atRest_startMonitor (h : Prepared c n entries w) :
    (startMonitor w).2.plane.monitor.AtRest := by
  have hrest : w.presumed.monitor.AtRest := by
    rw [monitor_presumed]
    exact h.atRest
  exact Plane.atRest_start hrest

theorem network_startMonitor (h : Prepared c n entries w) :
    (startMonitor w).2.plane.network = n := by
  rw [h.start_presumed, Plane.launched, Plane.cycled_eq]
  exact (network_presumed w).trans h.network_eq

end Context

variable {c : PlaneConfig} {n : Network}

/-- The startup of a configuration either fails, before the monitor and with whatever services were
prepared by then, or ends with the start of the monitor. -/
theorem startup_cases (hnone : c.firstDuplicate? = none) (n : Network) :
    let attempt := c.lifecycle.startup (.new c n)
    ∃ entries w, Context.Prepared c n entries w ∧
      ((∃ e, attempt.1 = .error e ∧ attempt.2.world = w ∧
          attempt.2.invoked = entries.map (ServiceConfig.invocation n)) ∨
        ∃ report, attempt.1 = .ok report ∧ attempt.2.world = (Context.startMonitor w).2 ∧
          attempt.2.invoked = entries.map (ServiceConfig.invocation n) ++ [monitorInvocation]) := by
  intro attempt
  cases horder : c.lifecycle.startupOrder with
  | error e =>
      have hnothing : attempt = (.error e, .begin c.lifecycle (.new c n)) :=
        startup_of_error horder _
      rw [hnothing]
      exact ⟨[], .new c n, .new c n, .inl ⟨e, rfl, rfl, rfl⟩⟩
  | ok order =>
      rcases exists_entries_of_order hnone horder with ⟨entries, hperm, rfl⟩
      -- Either no entry ends the startup, or there is a first one in the order that does.
      cases hfirst : entries.find? fun e => e.required && !decide (e.Reachable n) with
      | none =>
          have hreach : ∀ e ∈ c.services, e.required = true → e.Reachable n := by
            intro e he hrequired
            have hgo := List.find?_eq_none.1 hfirst e (hperm.mem_iff.2 he)
            simpa [hrequired] using hgo
          rcases startup_of_reachable hnone horder hperm hreach with
            ⟨w, report, hprepared, hok, hworld, hinvoked⟩
          exact ⟨entries, w, hprepared, .inr ⟨report, hok, hworld, hinvoked⟩⟩
      | some e =>
          rcases List.find?_eq_some_iff_append.1 hfirst with ⟨hfatal, before, after, rfl, hbefore⟩
          have hboth : e.required = true ∧ ¬ e.Reachable n := by
            simpa using hfatal
          have hgo : ∀ e' ∈ before, e'.required = true → e'.Reachable n := by
            intro e' he' hrequired
            simpa [hrequired] using hbefore e' he'
          rcases startup_of_not_reachable hnone horder hperm rfl hgo hboth.1 hboth.2 with
            ⟨w, source, hprepared, _, hfailed, hworld, hinvoked⟩
          exact ⟨before ++ [e], w, hprepared, .inl ⟨_, hfailed, hworld, hinvoked⟩⟩

/-! ## Shutdown -/

theorem contains_shutdown_lifecycle (c : PlaneConfig) (name : String) :
    c.lifecycle.contains .shutdown name = (name == monitorHookName) := by
  simp [contains, hooks, PlaneConfig.lifecycle, HookSpec.named, Bool.beq_comm]

/-- Of the hooks that have started only that of the monitor has to be shut down. -/
theorem shutdownOrder_lifecycle {started : List String}
    (hwell : (c.lifecycle.markAll started).WellFormed) :
    (c.lifecycle.markAll started).shutdownOrder =
      if monitorHookName ∈ started then [monitorHookName] else [] := by
  have hsequence : (c.lifecycle.markAll started).startedSequence = started :=
    startedSequence_markAll started
  have hnodup : started.reverse.Nodup := List.nodup_reverse.2 (hsequence ▸ hwell.sequence_nodup)
  -- The monitor alone has a shutdown hook.
  have honly : (c.lifecycle.markAll started).contains .shutdown =
      (· == monitorHookName) := by
    funext name
    rw [contains_markAll, contains_shutdown_lifecycle]
  rw [hwell.shutdownOrder_eq, hsequence, honly, List.filter_beq]
  by_cases hmem : monitorHookName ∈ started
  · rw [if_pos hmem, List.count_eq_one_of_mem hnodup (List.mem_reverse.2 hmem)]
    rfl
  · rw [if_neg hmem, List.count_eq_zero.2 (mt List.mem_reverse.1 hmem)]
    rfl

theorem attempts_shutdown_lifecycle (c : PlaneConfig) (started : List String) (w : Context) :
    ((c.lifecycle.markAll started).attempts .shutdown [monitorHookName] w).2 =
      (Context.stopMonitor w).2 := by
  rw [attempts_markAll]
  rfl

/-- A shutdown leaves nothing started. It runs the hook of the monitor, once, if its startup hook
has started, and otherwise no hook, so that the world stays as it is. In both cases the monitor is
stopped afterwards. -/
theorem shutdown_lifecycle {started : List String} {w : Context}
    (hwell : (c.lifecycle.markAll started).WellFormed) (hrest : w.plane.monitor.AtRest)
    (hrunning : w.plane.monitor.running = true → monitorHookName ∈ started) :
    let q := ((c.lifecycle.markAll started).shutdown w).2
    q.registry.startedHooks = [] ∧
      q.invoked.map (fun i => (i.kind, i.name)) =
        (if monitorHookName ∈ started then [monitorHookName] else []).map (HookKind.shutdown, ·) ∧
      q.world.plane.monitor.running = false ∧
      (monitorHookName ∉ started → q.world = w) := by
  intro q
  have horder := shutdownOrder_lifecycle hwell
  rcases shutdown_spec (c.lifecycle.markAll started) w with ⟨hregistry, hinvoked⟩
  rcases shutdown_eq (c.lifecycle.markAll started) w with ⟨telemetry, heq⟩
  have hworld : q.world = ((c.lifecycle.markAll started).attempts .shutdown
      (c.lifecycle.markAll started).shutdownOrder w).2 := by
    change ((c.lifecycle.markAll started).shutdown w).2.world = _
    rw [heq]
  refine ⟨?_, ?_, ?_, ?_⟩
  · change q.registry.startedSequence = []
    rw [hregistry]
    rfl
  · rw [hinvoked, horder]
  · rw [hworld, horder]
    split
    · rw [attempts_shutdown_lifecycle]
      exact Plane.stopped_stop hrest
    · rename_i hnot
      exact Bool.eq_false_iff.2 (mt hrunning hnot)
  · intro hnot
    rw [hworld, horder, if_neg hnot]
    rfl

/-! ## The run -/

/-- Serving that has failed makes the run fail with its error, and no other one. -/
theorem ServeOutcome.conclude_eq_error_iff {α : Type} (served : ServeOutcome α)
    (report : ShutdownReport) (e : RunError) :
    served.conclude report = .error e ↔ ∃ e', served.result = .error e' ∧ e = .serve e' := by
  rw [conclude]
  cases served.result <;> simp [eq_comm]

theorem ServeOutcome.of_conclude {α : Type} {served : ServeOutcome α}
    {report reported : ShutdownReport} {a : α} (h : served.conclude report = .ok (a, reported)) :
    served.result = .ok a ∧ reported = report := by
  rw [conclude] at h
  split at h
  · cases h
  · rename_i hresult
    cases h
    exact ⟨hresult, rfl⟩

/-- The hooks that ran in a step. -/
def RunStep.invoked : RunStep → List Invocation
  | startup _ invoked => invoked
  | listen _ => []
  | shutdown _ invoked => invoked

section Run

variable {α : Type} {r : LifecycleRegistry Context} {w : Context}
  (during : List Listener → Context → α × Context) (ends : WebInterface → ServerEnd)

/-- Without a startup nothing is served, and what did start is shut down. -/
theorem run_of_error {e : LifecycleError} (h : (r.startup w).1 = .error e) :
    let p := (r.startup w).2
    let down := p.registry.shutdown
      (p.context.tell [Context.log .error "Startup aborted" [(.error, e.message)]])
    let outcome := run r w during ends
    outcome.result = .error (.startup e) ∧
      outcome.registry = down.2.registry ∧
      outcome.context.plane.monitor = down.2.world.plane.monitor ∧
      outcome.context.plane.network = down.2.world.plane.network ∧
      outcome.steps = [.startup (r.startup w).1 p.invoked, .shutdown down.1 down.2.invoked] := by
  intro p down outcome
  have houtcome : outcome =
      { result := .error (.startup e)
        registry := down.2.registry
        context := down.2.context
        steps := [.startup (.error e) p.invoked, .shutdown down.1 down.2.invoked] } := by
    change run r w during ends = _
    rw [run]
    split
    rename_i started q hstartup
    obtain ⟨rfl, rfl⟩ : started = .error e ∧ q = p := by
      simp [← h, p, hstartup]
    rfl
  rw [houtcome, h]
  exact ⟨rfl, rfl, rfl, rfl, rfl⟩

/-- After a startup the plane is served, and then shut down whatever has come of it. -/
theorem run_of_ok {report : StartupReport} (h : (r.startup w).1 = .ok report) :
    let p := (r.startup w).2
    let served := p.context.serve during ends
    let down := p.registry.shutdown (served.context.tell served.told)
    let outcome := run r w during ends
    outcome.result = served.conclude down.1 ∧
      outcome.registry = down.2.registry ∧
      outcome.context.plane.monitor = down.2.world.plane.monitor ∧
      outcome.steps = .startup (r.startup w).1 p.invoked :: served.listening.map .listen ++
        [.shutdown down.1 down.2.invoked] := by
  intro p served down outcome
  have houtcome : outcome =
      { result := served.conclude down.1
        registry := down.2.registry
        context := (finish p.registry (served.context.tell served.told)).2.context
        steps := .startup (.ok report) p.invoked :: served.listening.map .listen ++
          [.shutdown down.1 down.2.invoked] } := by
    change run r w during ends = _
    rw [run]
    split
    rename_i started q hstartup
    obtain ⟨rfl, rfl⟩ : started = .ok report ∧ q = p := by
      simp [← h, p, hstartup]
    rfl
  rw [houtcome, h]
  exact ⟨rfl, rfl, rfl, rfl⟩

omit during ends in
theorem invoked_steps (attempt : Except LifecycleError StartupReport)
    (invoked stopped : List Invocation) (listening : List Listener) (report : ShutdownReport) :
    (.startup attempt invoked :: listening.map .listen ++
      [.shutdown report stopped] : List RunStep).flatMap RunStep.invoked = invoked ++ stopped := by
  have hlisten : (listening.map RunStep.listen).flatMap RunStep.invoked = [] := by
    simp [RunStep.invoked]
  simp [RunStep.invoked, hlisten]

end Run

/-- The runs of a startup and of a shutdown are told apart by their kind. -/
theorem runs_by_kind {invoked stopped : List Invocation} {names : List String}
    (hinvoked : ∀ i ∈ invoked, i.kind = .startup)
    (hstopped : stopped.map (fun i => (i.kind, i.name)) = names.map (HookKind.shutdown, ·)) :
    ((invoked ++ stopped).filter (·.kind == .shutdown)).map (·.name) = names ∧
      startedIn (invoked ++ stopped) = startedIn invoked := by
  have hkind : ∀ i ∈ stopped, i.kind = .shutdown := by
    intro i hi
    have hmem : (i.kind, i.name) ∈ names.map (HookKind.shutdown, ·) :=
      hstopped ▸ List.mem_map_of_mem hi
    rcases List.mem_map.1 hmem with ⟨_, _, hname⟩
    exact (congrArg Prod.fst hname).symm
  have hnames : stopped.map (·.name) = names := by
    have hsecond := congrArg (List.map Prod.snd) hstopped
    simpa [Function.comp_def] using hsecond
  constructor
  · have hnone : invoked.filter (·.kind == .shutdown) = [] := by
      rw [List.filter_eq_nil_iff]
      intro i hi
      simp [hinvoked i hi]
    have hall : stopped.filter (·.kind == .shutdown) = stopped := by
      rw [List.filter_eq_self]
      intro i hi
      simp [hkind i hi]
    rw [List.filter_append, hnone, hall, List.nil_append, hnames]
  · have hnone : startedIn stopped = [] := by
      rw [startedIn, List.map_eq_nil_iff, List.filter_eq_nil_iff]
      intro i hi
      simp [hkind i hi]
    rw [startedIn_append, hnone, List.append_nil]

/-- What a run leaves whose last step is a shutdown, in a context in which the monitor runs at most
if it was started. -/
theorem left_by_shutdown (hnone : c.firstDuplicate? = none) (w w' : Context)
    (hrest : w'.plane.monitor.AtRest)
    (hrunning : w'.plane.monitor.running = true →
      monitorHookName ∈ startedIn (c.lifecycle.startup w).2.invoked) :
    let p := (c.lifecycle.startup w).2
    let q := (p.registry.shutdown w').2
    let ran := p.invoked ++ q.invoked
    q.registry.startedHooks = [] ∧
      q.world.plane.monitor.stateName = "stopped" ∧
      (ran.filter (·.kind == .shutdown)).map (·.name) =
        (if monitorHookName ∈ startedIn ran then [monitorHookName] else []) ∧
      (monitorHookName ∉ startedIn p.invoked → q.world = w') := by
  intro p q ran
  have hwell := lifecycle_wellFormed hnone
  rcases startup_marks hwell w with ⟨hregistered, hnodup⟩
  rcases startup_trace hwell w with ⟨hmarked, htrace⟩
  have hkind : ∀ i ∈ p.invoked, i.kind = .startup := by
    intro i hi
    rcases htrace with hnone | ⟨order, _, _, htrace⟩
    · rw [hnone] at hi
      cases hi
    · exact htrace.kind_eq hi
  have hdown := shutdown_lifecycle (hwell.markAll hregistered hnodup) hrest hrunning
  rw [← hmarked] at hdown
  rcases hdown with ⟨hnothing, hruns, hstopped, hsame⟩
  rcases runs_by_kind hkind hruns with ⟨hnames, hstarted⟩
  refine ⟨hnothing, (Monitor.stateName_stopped _).2 hstopped, ?_, hsame⟩
  rw [hnames, hstarted]

theorem monitorHookName_not_mem_services (entries : List ServiceConfig) (n : Network) :
    monitorHookName ∉ startedIn (entries.map (ServiceConfig.invocation n)) := by
  intro h
  rcases List.mem_map.1 h with ⟨i, hi, hname⟩
  rcases List.mem_map.1 (List.mem_filter.1 hi).1 with ⟨e, _, rfl⟩
  exact e.name.name_ne_monitorHookName hname

/-- A run of the lifecycle of a configuration is one startup, then the listening, and then one
shutdown, on whatever network, whatever its system says to listeners, whatever goes on while the
plane serves and however the servers end. Afterwards nothing counts as started and the monitor is
stopped; its shutdown hook has run once, as the only one, if its startup hook had started, and
otherwise none has run. The run fails with the error of the startup exactly if the startup has
failed, and then nobody has listened and the network is as it was. It fails with an error of serving
exactly if the startup has not failed and an interface could not listen or a server has failed.
Otherwise its result has the report of the shutdown, and what went on while all interfaces
listened. -/
theorem run_leaves_nothing_running {α : Type} (c : PlaneConfig) (n : Network)
    (r : LifecycleRegistry Context) (told : Telemetry) (hbuilt : buildLifecycle c = .ok (r, told))
    (during : List Listener → Context → α × Context)
    (hduring : ∀ listening w, Context.Serves w (during listening w).2)
    (ends : WebInterface → ServerEnd) :
    let attempt := r.startup (.new c n)
    let outcome := run r (.new c n) during ends
    let ran := outcome.steps.flatMap RunStep.invoked
    let interfaces := WebInterface.configured c
    ∃ listening report stopped,
      outcome.steps = .startup attempt.1 attempt.2.invoked :: listening.map .listen ++
        [.shutdown report stopped] ∧
      -- What is left.
      outcome.registry.startedHooks = [] ∧
      outcome.context.plane.monitor.stateName = "stopped" ∧
      (ran.filter (·.kind == .shutdown)).map (·.name) =
        (if monitorHookName ∈ startedIn ran then [monitorHookName] else []) ∧
      -- What the run comes to without a startup.
      (∀ e, outcome.result = .error (.startup e) ↔ attempt.1 = .error e) ∧
      (∀ e, attempt.1 = .error e → listening = [] ∧ outcome.context.plane.network = n) ∧
      -- What it comes to after a startup.
      (∀ started, attempt.1 = .ok started → ∃ bound, c.Listens n listening bound) ∧
      ((∃ e, outcome.result = .error (.serve e)) ↔
        (∃ started, attempt.1 = .ok started) ∧
          ((∃ e, c.Listens n listening (.error e)) ∨
            ∃ i ∈ interfaces, ∃ e, (ends i).error? = some e)) ∧
      (∀ e, outcome.result = .error (.serve e) →
        c.Listens n listening (.error e) ∨ lastFailure? ends interfaces = some e) ∧
      ∀ a reported, outcome.result = .ok (a, reported) →
        reported = report ∧ ∃ network w, c.Listens n listening (.ok network) ∧
          w.plane.network = network ∧ a = (during listening w).1 := by
  obtain ⟨hnone, rfl⟩ := of_buildLifecycle_ok hbuilt
  intro attempt outcome ran interfaces
  rcases startup_cases hnone n with ⟨entries, w, hprepared, hcases⟩
  rcases hcases with ⟨e, hresult, hworld, hinvoked⟩ | ⟨started, hresult, hworld, hinvoked⟩
  · -- The hook of the monitor has not run, and the monitor is as it was.
    have hattempt : attempt.1 = .error e := hresult
    have hrest : attempt.2.world.plane.monitor.AtRest := by
      rw [hworld]
      exact hprepared.atRest
    have hidle : attempt.2.world.plane.monitor.running = false := by
      rw [hworld]
      exact hprepared.stopped
    have hunstarted : monitorHookName ∉ startedIn attempt.2.invoked := by
      rw [hinvoked]
      exact monitorHookName_not_mem_services entries n
    obtain ⟨hfailed, hregistry, hmonitor, hnetwork, hsteps⟩ := run_of_error during ends hresult
    obtain ⟨hnothing, hstopped, hruns, hsame⟩ := left_by_shutdown hnone (.new c n)
      (attempt.2.context.tell [Context.log .error "Startup aborted" [(.error, e.message)]]) hrest
      (fun hrunning => absurd hrunning (Bool.eq_false_iff.1 hidle))
    have houtcome : outcome.result = .error (.startup e) := hfailed
    have hran : ran = _ := (congrArg (List.flatMap RunStep.invoked) hsteps).trans
      (invoked_steps _ _ _ [] _)
    have hleft : outcome.context.plane.network = n := by
      calc
        outcome.context.plane.network = attempt.2.world.plane.network :=
          hnetwork.trans (congrArg (fun w => w.plane.network) (hsame hunstarted))
        _ = n := by rw [hworld, hprepared.network_eq]
    refine ⟨[], _, _, hsteps, (congrArg startedHooks hregistry).trans hnothing,
      (congrArg Monitor.stateName hmonitor).trans hstopped, hran ▸ hruns, ?_,
      fun _ _ => ⟨rfl, hleft⟩, ?_, ?_, ?_, ?_⟩
    · simp [houtcome, hattempt]
    · simp [hattempt]
    · simp [houtcome, hattempt]
    · simp [houtcome]
    · simp [houtcome]
  · -- The hook of the monitor has run, and the monitor has been kept between calls since.
    have hattempt : attempt.1 = .ok started := hresult
    have hrest : attempt.2.world.plane.monitor.AtRest := by
      rw [hworld]
      exact Context.atRest_startMonitor hprepared
    have hconfig : attempt.2.context.config = c := by
      change attempt.2.world.config = c
      rw [hworld]
      exact hprepared.config_eq
    have hnetwork : attempt.2.context.plane.network = n := by
      change attempt.2.world.plane.network = n
      rw [hworld]
      exact Context.network_startMonitor hprepared
    have hstarted : monitorHookName ∈ startedIn attempt.2.invoked := by
      rw [hinvoked, startedIn_append]
      exact List.mem_append_right _ (List.mem_singleton.2 rfl)
    let served := attempt.2.context.serve during ends
    have hserved : served.context.plane.monitor.AtRest := Context.atRest_serve hduring hrest
    obtain ⟨hconcluded, hregistry, hmonitor, hsteps⟩ := run_of_ok during ends hresult
    obtain ⟨hnothing, hstopped, hruns, _⟩ := left_by_shutdown hnone (.new c n)
      (served.context.tell served.told) hserved (fun _ => hstarted)
    have houtcome : outcome.result = served.conclude _ := hconcluded
    have hran : ran = _ := (congrArg (List.flatMap RunStep.invoked) hsteps).trans
      (invoked_steps _ _ _ _ _)
    -- What serving comes to is told by the listening and the servers.
    obtain ⟨listening, bound, hlistens⟩ := c.exists_listens n
    have hlistens' : attempt.2.context.config.Listens attempt.2.context.plane.network listening
        bound := by
      rw [hconfig, hnetwork]
      exact hlistens
    have hlistening : served.listening = listening := (Context.serve_cases during ends hlistens').1
    have hbound : ∀ bound', c.Listens n served.listening bound' ↔ bound = bound' := by
      intro bound'
      rw [hlistening, PlaneConfig.listens_iff, hlistens.listen_eq]
      simp
    have hfails : (∃ e, served.result = .error e) ↔ _ :=
      Context.exists_serve_error_iff during ends hlistens'
    rw [hconfig] at hfails
    refine ⟨served.listening, _, _, hsteps, (congrArg startedHooks hregistry).trans hnothing,
      (congrArg Monitor.stateName hmonitor).trans hstopped, hran ▸ hruns, ?_, ?_, ?_, ?_, ?_, ?_⟩
    · simp [houtcome, hattempt, ServeOutcome.conclude_eq_error_iff]
    · simp [hattempt]
    · exact fun _ _ => ⟨bound, (hbound bound).2 rfl⟩
    · simpa [houtcome, hattempt, ServeOutcome.conclude_eq_error_iff, hbound] using hfails
    · intro e he
      rw [houtcome, ServeOutcome.conclude_eq_error_iff] at he
      rcases he with ⟨e', hfailed, hsame⟩
      obtain rfl : e = e' := RunError.serve.inj hsame
      have htold := Context.error_of_serve hlistens' hfailed
      rw [hconfig] at htold
      exact htold.imp_left (hbound _).2
    · intro a reported ha
      obtain ⟨hserved, rfl⟩ := ServeOutcome.of_conclude (houtcome.symm.trans ha)
      rcases Context.ok_of_serve hlistens' hserved with ⟨network, w', hlisten, hw', hgone⟩
      refine ⟨rfl, network, w', (hbound _).2 hlisten, hw', ?_⟩
      rw [hlistening]
      exact hgone

/-- The cached database with an interface for operators. -/
def operatedDatabase : PlaneConfig :=
  { cachedDatabase with admin := { cachedDatabase.admin with enabled := true } }

/-- While the plane serves, somebody asks whether it is ready, and time passes. -/
def askedOnce (_ : List Listener) (w : Context) : Nat × Context :=
  let (response, w) := w.respond .everybody ⟨"GET", "/health/ready", [], []⟩
  (response.status, { w with plane := w.plane.perform (.advance 40000) })

/-- The server for operators fails, and the other one stops when it is told to. -/
def failsForOperators : WebInterface → ServerEnd
  | .everybody => .stopped
  | .operators => .failed true (.other "connection aborted" "Kind(ConnectionAborted)")

/-- The network with the database alone, but somebody else has the port for operators. -/
def operatorsTaken : Network :=
  { databaseOnly with
    bind := fun es a => if a.port = 8081 then .error .addressInUse else Network.bindOwn es a }

/-- The startup of the operated database on a network. -/
def operatedAttempt (n : Network) : Except LifecycleError StartupReport × Progress Context :=
  operatedDatabase.lifecycle.startup (.new operatedDatabase n)

/-- A server fails, or the second interface cannot listen, while the monitor runs: the run fails,
and the monitor is shut down all the same. -/
theorem run_leaves_nothing_running_failing :
    ∃ told, buildLifecycle operatedDatabase = .ok (operatedDatabase.lifecycle, told) ∧
      (∀ listening w, Context.Serves w (askedOnce listening w).2) ∧
      ∀ attempt ∈ [(databaseOnly, failsForOperators), (operatorsTaken, fun _ => .stopped)],
        let outcome := run operatedDatabase.lifecycle (.new operatedDatabase attempt.1) askedOnce
          attempt.2
        (∃ e, outcome.result = .error (.serve e)) ∧
        outcome.registry.startedHooks = [] ∧
        outcome.context.plane.monitor.stateName = "stopped" ∧
        ((outcome.steps.flatMap RunStep.invoked).filter (·.kind == .shutdown)).map (·.name) =
          ["health_monitor"] := by
  have hnone : operatedDatabase.firstDuplicate? = none := by
    decide +kernel
  rcases buildLifecycle_of_none hnone with ⟨told, hbuilt⟩
  have hserves : ∀ listening w, Context.Serves w (askedOnce listening w).2 := fun _ w =>
    (ReflTransGen.single (.answer .everybody ⟨"GET", "/health/ready", [], []⟩)).tail
      (.call (.advance 40000))
  refine ⟨told, hbuilt, hserves, ?_⟩
  rintro ⟨n, ends⟩ hattempt outcome
  have hlisted : n = databaseOnly ∧ ends = failsForOperators ∨
      n = operatorsTaken ∧ ends = fun _ => .stopped := by
    simpa using hattempt
  -- What binding comes to plays no part in the startup.
  have hstarts : (operatedAttempt n).1.isOk = true ∧
      monitorHookName ∈ startedIn (operatedAttempt n).2.invoked := by
    rcases hlisted with ⟨rfl, -⟩ | ⟨rfl, -⟩ <;> decide +kernel
  have hstarted : ∃ started, (operatedAttempt n).1 = .ok started := by
    cases hresult : (operatedAttempt n).1 with
    | error e =>
        simp [hresult, Except.isOk, Except.toBool] at hstarts
    | ok started =>
        exact ⟨started, rfl⟩
  obtain ⟨listening, report, stopped, hsteps, hnothing, hstopped, hruns, _, _, hlistens, hserve,
      _⟩ :=
    run_leaves_nothing_running operatedDatabase n operatedDatabase.lifecycle told hbuilt askedOnce
      hserves ends
  have hran := (congrArg (List.flatMap RunStep.invoked) hsteps).trans
    (invoked_steps _ _ _ _ _)
  refine ⟨hserve.2 ⟨hstarted, ?_⟩, hnothing, hstopped, hruns.trans (if_pos ?_)⟩
  · rcases hlisted with ⟨rfl, rfl⟩ | ⟨rfl, rfl⟩
    · exact .inr ⟨.operators, by decide +kernel, _, rfl⟩
    · left
      rcases hstarted with ⟨started, hok⟩
      rcases hlistens started hok with ⟨bound, hbound⟩
      have htaken : (operatedDatabase.listen operatorsTaken).2.isOk = false := by
        decide +kernel
      rw [hbound.listen_eq] at htaken
      cases bound with
      | error e =>
          exact ⟨e, hbound⟩
      | ok network =>
          cases htaken
  · rw [hran, startedIn_append]
    exact List.mem_append_left _ hstarts.2

end ServicePlane
