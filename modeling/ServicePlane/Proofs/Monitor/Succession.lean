import ServicePlane.Proofs.Monitor.Recording

/-!
# Cycles that are asked for at the same time

Callers of a stopped monitor that ask for cycles at the same time are served like callers that ask
one after the other: those who still wait are never seen by the cycle in flight. When it lands, the
plane is the one that the first caller would have left alone, with the others waiting in it.

* `cyclesInTurn` — cycles one after the other, each asked for when the last one is over;
* `moments_of_requests` — the planes that the monitor goes through until all callers are served are
  those of their turns;
* `eventsAlong_turns`, `delivered_cyclesInTurn` — what happens on the way, and who is given what;
* `runCycles_eq_inTurn` — the same results, and the same plane at the end; every caller has the
  results of its own cycle, and no cycle begins before the one before it is recorded.
-/

namespace ServicePlane

namespace Plane

variable {p q : Plane}

/-- Ask for some cycles one after the other, and wait for each of them; their results. -/
def cyclesInTurn (p : Plane) : (count : Nat) → List (List CheckResult) × Plane
  | 0 => ([], p)
  | count + 1 =>
      let (results, p) := p.runCycle
      let (later, p) := p.cyclesInTurn count
      (results :: later, p)

/-- The cycles of some callers of a stopped monitor. -/
def ownCycles (p : Plane) : (count : Nat) → List CycleInFlight
  | 0 => []
  | count + 1 => p.ownCycle :: p.cycled.ownCycles count

/-! ## Until all are served -/

/-- The planes that a stopped monitor goes through until so many callers are served. -/
def turns (p : Plane) : (count : Nat) → List Moment
  | 0 => []
  | count + 1 => p.turn count ++ p.cycled.turns count

/-- Three steps for each caller are enough. -/
theorem moments_of_requests (h : p.monitor.AtRest) (hstopped : p.monitor.running = false)
    {served : List Nat} (hserved : ∀ t ∈ served, t ∈ p.monitor.delivered.map Prod.fst)
    {count steps : Nat} (hsteps : 3 * count ≤ steps) :
    moments (areDelivered (served ++ List.range' p.monitor.nextTicket count)) none steps
      (p.requestCycles count).2 = p.turns count := by
  -- Those who are served already are general: the first caller is one of them for the others.
  induction count generalizing p served steps with
  | zero =>
      rw [requestCycles_zero, turns]
      apply moments_of_goal
      rw [areDelivered_iff]
      simpa using hserved
  | succ count ih =>
      let ticket := p.monitor.nextTicket
      have htickets : served ++ List.range' ticket (count + 1) =
          (served ++ [ticket]) ++ List.range' p.cycled.monitor.nextTicket count := by
        have hnext : p.cycled.monitor.nextTicket = ticket + 1 := by
          rw [cycled_eq]
        rw [hnext, List.range'_succ, List.append_assoc, List.singleton_append]
      have hpending : ∀ q : Plane, q.monitor.delivered = p.monitor.delivered →
          areDelivered (served ++ List.range' ticket (count + 1)) q = false :=
        fun _ hq =>
          areDelivered_eq_false h (List.mem_append_right _ (by simp [List.range'_succ, ticket])) hq
      have hserved' : ∀ t ∈ served ++ [ticket], t ∈ p.cycled.monitor.delivered.map Prod.fst := by
        intro t ht
        rw [cycled_eq]
        rcases List.mem_append.1 ht with hold | hnew
        · have hgiven := hserved t hold
          simp [hgiven]
        · simp [List.mem_singleton.1 hnew, ticket]
      obtain ⟨rest, rfl⟩ : ∃ rest, steps = rest + 3 := ⟨steps - 3, by omega⟩
      rcases moments_of_turn h hstopped hpending count rest with ⟨spare, hspare, hturn⟩
      have hlater := ih (atRest_cycled h hstopped) (running_cycled hstopped) hserved'
        (show 3 * count ≤ spare by omega)
      rw [← htickets] at hlater
      exact hturn.trans (congrArg (p.turn count ++ ·) hlater)

theorem cyclesCourse_of_requests (h : p.monitor.AtRest) (hstopped : p.monitor.running = false)
    (count : Nat) : p.cyclesCourse count = ⟨.user, (p.requestCycles count).2⟩ :: p.turns count := by
  have hsteps : 3 * count ≤ (p.requestCycles count).2.stepsFor 0 := by
    have hqueue : count ≤ (p.requestCycles count).2.monitor.queue.length := by
      simp [requestCycles]
    rw [stepsFor]
    omega
  have hserved : ∀ t ∈ ([] : List Nat), t ∈ p.monitor.delivered.map Prod.fst := by
    simp
  have hmoments := moments_of_requests h hstopped hserved hsteps
  rw [List.nil_append] at hmoments
  rw [← hmoments]
  rfl

/-! ## What the callers have -/

theorem cyclesInTurn_succ (h : p.monitor.AtRest) (hstopped : p.monitor.running = false)
    (count : Nat) :
    p.cyclesInTurn (count + 1) =
      (p.cycleResults :: (p.cycled.cyclesInTurn count).1, (p.cycled.cyclesInTurn count).2) := by
  rw [cyclesInTurn, runCycle_of_stopped h hstopped]

/-- At the end of all turns the plane is the one that the same callers leave one after the other. -/
theorem reached_turns (h : p.monitor.AtRest) (hstopped : p.monitor.running = false) (count : Nat) :
    (p.requestCycles count).2.reached (p.turns count) = (p.cyclesInTurn count).2 := by
  induction count generalizing p with
  | zero =>
      rw [requestCycles_zero]
      rfl
  | succ count ih =>
      rw [turns, reached_append, reached_turn, cyclesInTurn_succ h hstopped]
      exact ih (atRest_cycled h hstopped) (running_cycled hstopped)

theorem registered_cycled (p : Plane) : p.cycled.monitor.registered = p.monitor.registered :=
  registered_of_calledChecks (by rw [cycled_eq])

theorem eventsAlong_turns (h : p.monitor.AtRest) (hstopped : p.monitor.running = false)
    (count : Nat) :
    (p.requestCycles count).2.eventsAlong (p.turns count) =
      (p.ownCycles count).flatMap fun f =>
        [.began f p.monitor.registered, .recorded f f.endsAt] := by
  induction count generalizing p with
  | zero =>
      rfl
  | succ count ih =>
      have hregistered : p.cycled.monitor.registered = p.monitor.registered := registered_cycled p
      have hlater := ih (atRest_cycled h hstopped) (running_cycled hstopped)
      rw [hregistered] at hlater
      rw [turns, eventsAlong_append, eventsAlong_turn h hstopped, reached_turn, hlater]
      rfl

/-- The cycles follow each other without a gap, the first one from now on. -/
theorem isChain_ownCycles (p : Plane) (count : Nat) :
    (p.ownCycles count).IsChain fun f g => f.endsAt = g.begun := by
  induction count generalizing p with
  | zero =>
      exact .nil
  | succ count ih =>
      cases count with
      | zero =>
          exact .singleton _
      | succ count =>
          have hnow : p.cycled.now = p.now + p.cycleTime := by
            rw [cycled_eq]
          exact List.isChain_cons_cons.2 ⟨hnow.symm, ih p.cycled⟩

theorem owner_ownCycles (p : Plane) (count : Nat) :
    (p.ownCycles count).map (·.owner) =
      (List.range' p.monitor.nextTicket count).map .caller := by
  induction count generalizing p with
  | zero =>
      rfl
  | succ count ih =>
      have hnext : p.cycled.monitor.nextTicket = p.monitor.nextTicket + 1 := by
        rw [cycled_eq]
      rw [ownCycles, List.map_cons, ih p.cycled, hnext, List.range'_succ, List.map_cons]
      rfl

theorem length_cyclesInTurn (p : Plane) (count : Nat) :
    (p.cyclesInTurn count).1.length = count := by
  induction count generalizing p with
  | zero =>
      rfl
  | succ count ih =>
      exact congrArg (· + 1) (ih p.runCycle.2)

theorem results_ownCycles (h : p.monitor.AtRest) (hstopped : p.monitor.running = false)
    (count : Nat) : (p.ownCycles count).map (·.results) = (p.cyclesInTurn count).1 := by
  induction count generalizing p with
  | zero =>
      rfl
  | succ count ih =>
      rw [ownCycles, List.map_cons, ih (atRest_cycled h hstopped) (running_cycled hstopped),
        cyclesInTurn_succ h hstopped]
      rfl

/-- Each caller is given the results of its own cycle, and nobody else is given any. -/
theorem delivered_cyclesInTurn (h : p.monitor.AtRest) (hstopped : p.monitor.running = false)
    (count : Nat) :
    (p.cyclesInTurn count).2.monitor.delivered = p.monitor.delivered ++
      (List.range' p.monitor.nextTicket count).zip (p.cyclesInTurn count).1 := by
  induction count generalizing p with
  | zero =>
      simp [cyclesInTurn]
  | succ count ih =>
      rw [cyclesInTurn_succ h hstopped, ih (atRest_cycled h hstopped) (running_cycled hstopped),
        cycled_eq]
      simp [List.range'_succ]

/-- Results that are delivered under new numbers are found under them. -/
theorem resultsOf_of_delivered {given : List (Nat × List CheckResult)} {ticket : Nat}
    {results : List (List CheckResult)}
    (hdelivered : q.monitor.delivered =
      given ++ (List.range' ticket results.length).zip results)
    (hnew : ∀ d ∈ given, d.1 < ticket) :
    (List.range' ticket results.length).map q.resultsOf = results := by
  -- What has been given is general: it grows by the first result.
  induction results generalizing given ticket with
  | nil =>
      rfl
  | cons first rest ih =>
      simp only [List.length_cons, List.range'_succ, List.zip_cons_cons, List.map_cons]
        at hdelivered ⊢
      have hfirst : q.resultsOf ticket = first := resultsOf_of_new hdelivered hnew
      have hlater : q.monitor.delivered = given ++ [(ticket, first)] ++
          (List.range' (ticket + 1) rest.length).zip rest := by
        rw [hdelivered, List.append_assoc, List.singleton_append]
      have hnew' : ∀ d ∈ given ++ [(ticket, first)], d.1 < ticket + 1 := by
        intro d hd
        rcases List.mem_append.1 hd with hold | hlast
        · exact Nat.lt_succ_of_lt (hnew d hold)
        · rw [List.mem_singleton.1 hlast]
          exact Nat.lt_succ_self ticket
      rw [hfirst, ih hlater hnew']

/-- Callers that ask at the same time have what they would have one after the other. -/
theorem runCycles_of_requests (h : p.monitor.AtRest) (hstopped : p.monitor.running = false)
    (count : Nat) : p.runCycles count = p.cyclesInTurn count := by
  have hplane : (p.runCycles count).2 = (p.cyclesInTurn count).2 := by
    rw [← reached_cyclesCourse, cyclesCourse_of_requests h hstopped, reached_cons]
    exact reached_turns h hstopped count
  have hlength := length_cyclesInTurn p count
  have hfound : (List.range' p.monitor.nextTicket count).map (p.cyclesInTurn count).2.resultsOf =
      (p.cyclesInTurn count).1 := by
    have hdelivered := delivered_cyclesInTurn h hstopped count
    have hnew : ∀ d ∈ p.monitor.delivered, d.1 < p.monitor.nextTicket := by
      intro d hd
      exact h.sound.delivered_lt d.1 (List.mem_map_of_mem hd)
    have hgiven : (p.cyclesInTurn count).2.monitor.delivered = p.monitor.delivered ++
        (List.range' p.monitor.nextTicket (p.cyclesInTurn count).1.length).zip
          (p.cyclesInTurn count).1 := by
      rw [hlength]
      exact hdelivered
    have hresults := resultsOf_of_delivered hgiven hnew
    rw [hlength] at hresults
    exact hresults
  calc
    p.runCycles count
        = ((List.range' p.monitor.nextTicket count).map (p.runCycles count).2.resultsOf,
            (p.runCycles count).2) := rfl
    _ = ((p.cyclesInTurn count).1, (p.cyclesInTurn count).2) := by rw [hplane, hfound]

/-- Cycles that are asked for at the same time of a stopped monitor, however many, whatever the
checks do and whatever the registry has seen, give the same results in the same order and leave the
same plane as those that are asked for one after the other: registry, events, calls, telemetry and
time. Each caller has one entry, with the results of a cycle of its own, and the cycles begin one
after the other, each at the time at which the one before it has been recorded. -/
theorem runCycles_eq_inTurn (network : Network) (t : Thresholds) (settings : MonitorSettings)
    (calls : List PlaneCall) (registry : AvailabilityRegistry)
    (hstopped : ((new network t settings).performAll calls).monitor.running = false)
    (count : Nat) :
    let p := { (new network t settings).performAll calls with registry := registry }
    let tickets := List.range' p.monitor.nextTicket count
    let results := (p.runCycles count).1
    let q := (p.runCycles count).2
    p.runCycles count = p.cyclesInTurn count ∧
    results.length = count ∧
    (∀ ticket ∈ tickets, ticket ∉ p.monitor.delivered.map Prod.fst) ∧
    q.monitor.delivered = p.monitor.delivered ++ tickets.zip results ∧
    ∃ cycles : List CycleInFlight,
      cycles.map (·.owner) = tickets.map .caller ∧
      cycles.map (·.results) = results ∧
      cycles.IsChain (fun f g => f.endsAt = g.begun) ∧
      p.eventsAlong (p.course (.runCycles count)) =
        cycles.flatMap fun f => [.began f p.monitor.registered, .recorded f f.endsAt] := by
  intro p tickets results q
  have hrest : p.monitor.AtRest := atRest_performAll (.new settings) calls
  have hstopped' : p.monitor.running = false := hstopped
  have hrun : p.runCycles count = p.cyclesInTurn count :=
    runCycles_of_requests hrest hstopped' count
  have hresults : results = (p.cyclesInTurn count).1 := congrArg Prod.fst hrun
  have hq : q = (p.cyclesInTurn count).2 := congrArg Prod.snd hrun
  refine ⟨hrun, ?_, ?_, ?_, p.ownCycles count, owner_ownCycles p count, ?_,
    isChain_ownCycles p count, ?_⟩
  · rw [hresults]
    exact length_cyclesInTurn p count
  · intro ticket hticket hgiven
    have hlt := hrest.sound.delivered_lt ticket hgiven
    have hle := (List.mem_range'_1.1 hticket).1
    omega
  · rw [hq, hresults]
    exact delivered_cyclesInTurn hrest hstopped' count
  · rw [hresults]
    exact results_ownCycles hrest hstopped' count
  · rw [course, cyclesCourse_of_requests hrest hstopped', eventsAlong_user]
    exact eventsAlong_turns hrest hstopped' count

/-- A check that is slow at first and one that panics at times, and three callers: each of them has
results of its own, and the cycles take the time of all three. -/
theorem runCycles_eq_inTurn_three :
    let p := { (new .empty (.ofConfigured 2 1) .standard).performAll
      [.registerCheck .database (.scripted [.ends 300 .healthy, .hangs, .ends 0 .unhealthy] 0),
        .registerCheck .cache (.scripted [.ends 10 (.panicked none), .ends 20 .healthy] 0),
        .start, .stop] with registry := .new (.ofConfigured 1 1) }
    p.monitor.running = false ∧
    (p.runCycles 3).2 = p.runCycle.2.runCycle.2.runCycle.2 ∧
    (p.runCycles 3).1 =
      [p.runCycle.1, p.runCycle.2.runCycle.1, p.runCycle.2.runCycle.2.runCycle.1] ∧
    (p.runCycles 3).2.now = 5340 := by
  intro p
  have hstopped : p.monitor.running = false := by
    decide +kernel
  have hrun := (runCycles_eq_inTurn .empty (.ofConfigured 2 1) .standard
    [.registerCheck .database (.scripted [.ends 300 .healthy, .hangs, .ends 0 .unhealthy] 0),
      .registerCheck .cache (.scripted [.ends 10 (.panicked none), .ends 20 .healthy] 0),
      .start, .stop] (.new (.ofConfigured 1 1)) hstopped 3).1
  have hthree : ∀ q : Plane, q.cyclesInTurn 3 =
      ([q.runCycle.1, q.runCycle.2.runCycle.1, q.runCycle.2.runCycle.2.runCycle.1],
        q.runCycle.2.runCycle.2.runCycle.2) := fun _ => rfl
  refine ⟨hstopped, ?_, ?_, ?_⟩
  · rw [hrun, hthree]
  · rw [hrun, hthree]
  · decide +kernel

end Plane

end ServicePlane
