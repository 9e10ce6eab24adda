import ServicePlane.Proofs.Plane.Course

/-!
# A cycle of a stopped monitor

Nobody else has or wants a turn in a stopped monitor. A caller of a cycle therefore has the next
turn, waits for the slowest of the checks, and has the results then; this file says exactly which
planes it goes through.

* `departed`, `due`, `cycled` — the plane when the cycle has begun, when its last check is done, and
  when it is over;
* `next_requests_succ`, `next_departed_requests`, `next_due_requests` — other callers who wait change
  nothing about what happens to these planes;
* `turn` and `moments_of_turn` — the planes that the cycle goes through while others wait;
* `runCycle_of_stopped`, `start_eq_of_stopped` — what a single caller gets, also from a start.
-/

namespace ServicePlane

namespace Plane

variable {p q : Plane}

/-! ## The planes on the way -/

/-- The cycle of a caller in a monitor in which nobody waits. -/
def ownCycle (p : Plane) : CycleInFlight :=
  p.cycle (.caller p.monitor.nextTicket)

/-- Its checks have been called. -/
def departed (p : Plane) : Plane :=
  { p with
    monitor := { p.monitor with
      checks := p.calledChecks
      flight := some p.ownCycle
      queue := []
      nextTicket := p.monitor.nextTicket + 1 }
    calls := p.calledOnce }

/-- The last of its checks is done. -/
def due (p : Plane) : Plane :=
  { p.departed with now := p.now + p.cycleTime }

/-- Its results are recorded. -/
def cycled (p : Plane) : Plane :=
  p.due.land p.ownCycle

theorem cycled_eq (p : Plane) :
    p.cycled = { p with
      now := p.now + p.cycleTime
      registry := p.registry.performAll
        (p.cycleResults.map (CheckResult.update (p.now + p.cycleTime)))
      monitor := { p.monitor with
        checks := p.calledChecks
        flight := none
        queue := []
        nextTicket := p.monitor.nextTicket + 1
        delivered := p.monitor.delivered ++ [(p.monitor.nextTicket, p.cycleResults)] }
      calls := p.calledOnce
      telemetry := p.cycled.telemetry } := by
  rw [cycled, land_eq]
  rfl

theorem due_of_instant (h : p.cycleTime = 0) : p.due = p.departed := by
  rw [due, h]
  rfl

/-! ## Those who wait -/

@[simp]
theorem requestCycles_zero (p : Plane) : (p.requestCycles 0).2 = p := by
  simp [requestCycles]

/-- Recording does not see who waits. -/
theorem recordResults_requests (p : Plane) (count : Nat) (results : List CheckResult) :
    (p.requestCycles count).2.recordResults results =
      ((p.recordResults results).requestCycles count).2 := by
  have hfold : ∀ q : Plane, results.foldl recordResult (q.requestCycles count).2 =
      ((results.foldl recordResult q).requestCycles count).2 := by
    induction results with
    | nil =>
        intro q
        rfl
    | cons x rest ih =>
        intro q
        exact ih (q.recordResult x)
  rw [recordResults, recordResults, hfold]
  split <;> rfl

/-- A caller's cycle lands in the same way whoever waits. -/
theorem land_requests {f : CycleInFlight} {ticket : Nat} (hcaller : f.owner = .caller ticket)
    (count : Nat) : (p.requestCycles count).2.land f = ((p.land f).requestCycles count).2 := by
  rw [land, land, hcaller, recordResults_requests]
  rfl

theorem next_due_requests (p : Plane) (count : Nat) :
    (p.due.requestCycles count).2.next? none = some (p.cycled.requestCycles count).2 := by
  have hcaller : p.ownCycle.owner = .caller p.monitor.nextTicket := rfl
  have hland : (p.due.requestCycles count).2.land p.ownCycle = (p.cycled.requestCycles count).2 :=
    land_requests hcaller count
  rw [← hland]
  exact next_of_over rfl (Nat.le_refl (p.now + p.cycleTime))

section Stopped

variable (h : p.monitor.AtRest) (hstopped : p.monitor.running = false)

include h hstopped

/-- The first caller's cycle departs, and the others wait. -/
theorem next_requests_succ (count : Nat) :
    (p.requestCycles (count + 1)).2.next? none = some (p.departed.requestCycles count).2 := by
  have hrequested : (p.requestCycles (count + 1)).2 = { p with
      monitor := { p.monitor with
        flight := none
        queue := .caller p.monitor.nextTicket ::
          (List.range' (p.monitor.nextTicket + 1) count).map .caller
        nextTicket := p.monitor.nextTicket + 1 + count } } := by
    have hflight := h.flight_of_stopped hstopped
    have hqueue := h.queue_of_stopped hstopped
    have hticket : p.monitor.nextTicket + (count + 1) = p.monitor.nextTicket + 1 + count := by
      omega
    simp [requestCycles, hqueue, ← hflight, List.range'_succ, hticket]
  rw [hrequested, next?, tick?, land?, depart?]
  simp only [Option.none_or, Option.some_or]
  rw [beginCycle_eq]
  rfl

theorem next_departed_requests (htime : p.cycleTime ≠ 0) (count : Nat) :
    (p.departed.requestCycles count).2.next? none = some (p.due.requestCycles count).2 := by
  have hpending : p.now < p.now + p.cycleTime := Nat.lt_add_of_pos_right (Nat.pos_of_ne_zero htime)
  have hcycling : ∀ l ∈ (p.departed.requestCycles count).2.monitor.loops, l.phase = .cycling := by
    have hloops : (p.departed.requestCycles count).2.monitor.loops = [] :=
      h.loops_of_stopped hstopped
    rw [hloops]
    intro l hl
    cases hl
  exact next_of_waiting (f := p.ownCycle) rfl hpending hcycling rfl

end Stopped

/-! ## Numbers of requests -/

/-- Under the number of the next request nothing has been delivered. -/
theorem areDelivered_eq_false (h : p.monitor.AtRest) {tickets : List Nat}
    (hmem : p.monitor.nextTicket ∈ tickets) (hq : q.monitor.delivered = p.monitor.delivered) :
    areDelivered tickets q = false := by
  rw [Bool.eq_false_iff, ne_eq, areDelivered_iff, hq]
  intro hall
  exact Nat.lt_irrefl _ (h.sound.delivered_lt _ (hall _ hmem))

/-- The first results under a new number are those that are found. -/
theorem resultsOf_of_new {given later : List (Nat × List CheckResult)} {ticket : Nat}
    {results : List CheckResult}
    (hdelivered : q.monitor.delivered = given ++ (ticket, results) :: later)
    (hnew : ∀ d ∈ given, d.1 < ticket) : q.resultsOf ticket = results := by
  have hearlier : given.find? (fun d => d.1 == ticket) = none := by
    rw [List.find?_eq_none]
    intro d hd hsame
    have hlt := hnew d hd
    have hticket : d.1 = ticket := by
      simpa using hsame
    omega
  rw [resultsOf, hdelivered]
  simp [List.find?_append, hearlier]

/-! ## One turn -/

/-- The planes that the cycle of the first caller goes through while so many others wait. -/
def turn (p : Plane) (count : Nat) : List Moment :=
  ⟨.clock, (p.departed.requestCycles count).2⟩ ::
    ((if p.cycleTime = 0 then [] else [⟨.clock, (p.due.requestCycles count).2⟩]) ++
      [⟨.clock, (p.cycled.requestCycles count).2⟩])

theorem reached_turn (p : Plane) (count : Nat) :
    q.reached (p.turn count) = (p.cycled.requestCycles count).2 := by
  rw [turn, reached_cons, reached_concat]

section Stopped

variable (h : p.monitor.AtRest) (hstopped : p.monitor.running = false)

include h hstopped

/-- A run that waits for more than what has been delivered takes the turn of the first caller, in
at most three steps. -/
theorem moments_of_turn {goal : Plane → Bool}
    (hpending : ∀ q : Plane, q.monitor.delivered = p.monitor.delivered → goal q = false)
    (count steps : Nat) :
    ∃ spare ≥ steps, moments goal none (steps + 3) (p.requestCycles (count + 1)).2 =
      p.turn count ++ moments goal none spare (p.cycled.requestCycles count).2 := by
  have hdeparts : moments goal none (steps + 3) (p.requestCycles (count + 1)).2 =
      ⟨.clock, (p.departed.requestCycles count).2⟩ ::
        moments goal none (steps + 2) (p.departed.requestCycles count).2 :=
    moments_succ_of_next (hpending (p.requestCycles (count + 1)).2 rfl)
      (next_requests_succ h hstopped count)
  rw [hdeparts, turn]
  -- Without any wait the cycle is over as soon as it has begun.
  by_cases htime : p.cycleTime = 0
  · have hnext : (p.departed.requestCycles count).2.next? none =
        some (p.cycled.requestCycles count).2 := by
      rw [← due_of_instant htime]
      exact next_due_requests p count
    refine ⟨steps + 1, by omega, ?_⟩
    rw [moments_succ_of_next (hpending (p.departed.requestCycles count).2 rfl) hnext,
      if_pos htime]
    rfl
  · have hwaits := next_departed_requests h hstopped htime count
    refine ⟨steps, by omega, ?_⟩
    rw [moments_succ_of_next (hpending (p.departed.requestCycles count).2 rfl) hwaits,
      moments_succ_of_next (hpending (p.due.requestCycles count).2 rfl)
        (next_due_requests p count),
      if_neg htime]
    rfl

end Stopped

/-! ## The way of a stopped monitor -/

section Stopped

variable (h : p.monitor.AtRest) (hstopped : p.monitor.running = false)

include h hstopped

/-- The caller has the next turn, and waits until its checks are done. -/
theorem cyclesCourse_of_stopped :
    p.cyclesCourse 1 = ⟨.user, (p.requestCycles 1).2⟩ :: p.turn 0 := by
  let ticket := p.monitor.nextTicket
  have hpending : ∀ q : Plane, q.monitor.delivered = p.monitor.delivered →
      areDelivered [ticket] q = false :=
    fun _ hq => areDelivered_eq_false h List.mem_cons_self hq
  have hdone : areDelivered [ticket] p.cycled = true := by
    rw [areDelivered_iff, cycled_eq]
    simp [ticket]
  have hsteps : ∃ steps, (p.requestCycles 1).2.stepsFor 0 = steps + 3 := by
    refine ⟨(p.requestCycles 1).2.stepsFor 0 - 3, ?_⟩
    rw [stepsFor]
    omega
  rcases hsteps with ⟨steps, hsteps⟩
  rcases moments_of_turn h hstopped hpending 0 steps with ⟨spare, _, hturn⟩
  have hcourse : p.cyclesCourse 1 = ⟨.user, (p.requestCycles 1).2⟩ ::
      moments (areDelivered [ticket]) none (steps + 3) (p.requestCycles 1).2 := by
    rw [← hsteps]
    rfl
  rw [hcourse, hturn, requestCycles_zero, moments_of_goal hdone, List.append_nil]

theorem runCycles_of_stopped : p.runCycles 1 = ([p.cycleResults], p.cycled) := by
  let ticket := p.monitor.nextTicket
  have hplane : (p.runCycles 1).2 = p.cycled := by
    have hreached := reached_cyclesCourse p 1
    rw [cyclesCourse_of_stopped h hstopped, reached_cons, reached_turn, requestCycles_zero]
      at hreached
    exact hreached.symm
  -- The number of this request is new, so the first results under it are those of this cycle.
  have hresults : p.cycled.resultsOf ticket = p.cycleResults := by
    refine resultsOf_of_new (by rw [cycled_eq]) ?_
    intro d hd
    exact h.sound.delivered_lt d.1 (List.mem_map_of_mem hd)
  calc
    p.runCycles 1
        = ([(p.runCycles 1).2.resultsOf ticket], (p.runCycles 1).2) := rfl
    _ = ([p.cycled.resultsOf ticket], p.cycled) := by rw [hplane]
    _ = ([p.cycleResults], p.cycled) := by rw [hresults]

theorem runCycle_of_stopped : p.runCycle = (p.cycleResults, p.cycled) := by
  rw [runCycle, runCycles_of_stopped h hstopped]
  simp

/-- After a cycle of its own a stopped monitor is as it was between the calls. -/
theorem atRest_cycled : p.cycled.monitor.AtRest := by
  have hcycles := atRest_runCycles h 1
  rw [runCycles_of_stopped h hstopped] at hcycles
  exact hcycles

omit h in
theorem running_cycled : p.cycled.monitor.running = false := by
  rw [cycled_eq]
  exact hstopped

/-- A start of a stopped monitor is a cycle of its own, and a loop that sleeps after it. -/
theorem start_eq_of_stopped : p.start = p.announced.cycled.launched := by
  have hcycles : p.announced.runCycles 1 = ([p.announced.cycleResults], p.announced.cycled) :=
    runCycles_of_stopped (p := p.announced) h hstopped
  rw [start_of_stopped h hstopped, hcycles]

end Stopped

end Plane

end ServicePlane
