import ServicePlane.Proofs.Monitor.Recording

/-!
# Running and stopped

The published state of a monitor, the handle by which it stops its loop and the loop itself are
three things, and they agree after every call. So a start finds out whether there is a loop, and a
stop ends it, within the grace even if a check never ends.

* `now_stop_le` — a stop takes no longer than the grace;
* `state_tells_loop` — state and loop, start and stop, after any calls.
-/

namespace ServicePlane

theorem Monitor.stateName_running (m : Monitor) : m.stateName = "running" ↔ m.running = true := by
  rw [stateName]
  cases m.running <;> decide

theorem Monitor.stateName_stopped (m : Monitor) : m.stateName = "stopped" ↔ m.running = false := by
  rw [stateName]
  cases m.running <;> decide

namespace Plane

variable {p : Plane} {id : Nat}

/-! ## How long a stop takes -/

theorem le_now_awaited (p : Plane) (id : Nat) : p.now ≤ (p.awaited id).now :=
  (onward_awaited p id).now_le

theorem now_awaited_le (p : Plane) (id : Nat) :
    (p.awaited id).now ≤ p.now + p.monitor.settings.grace := by
  rw [awaited]
  split
  · rename_i hgrace
    have hasked : (p.askedToStop id).now ≤ p.now + p.monitor.settings.grace - 1 :=
      Nat.le_sub_one_of_lt hgrace
    exact Nat.le_trans (now_runSteps_le hasked) (Nat.sub_le _ 1)
  · exact Nat.le_add_right p.now _

/-- A stop waits for the loop for at most the grace. -/
theorem now_stop_le (p : Plane) :
    p.now ≤ p.stop.2.now ∧ p.stop.2.now ≤ p.now + p.monitor.settings.grace := by
  cases hhandle : p.monitor.handle with
  | none =>
      rw [stop, hhandle]
      exact ⟨Nat.le_refl _, Nat.le_add_right _ _⟩
  | some id =>
      rcases (stop_cases p hhandle).2 with ⟨_, hstop⟩ | ⟨_, hstop⟩
      · rw [hstop]
        exact ⟨Nat.le_add_right _ _, Nat.le_refl _⟩
      · rw [hstop]
        exact ⟨le_now_awaited p id, now_awaited_le p id⟩

theorem stop_eq_true_iff (h : p.monitor.AtRest) : p.stop.1 = true ↔ p.monitor.running = true := by
  rw [h.running_eq]
  cases hhandle : p.monitor.handle with
  | none =>
      simp [stop, hhandle]
  | some id =>
      simp [(stop_cases p hhandle).1]

/-! ## State and loop -/

/-- After any calls a monitor is running if and only if it has a loop, and it never has two. A start
of a running monitor does nothing but tell so. A start of a stopped one is a cycle of its own, after
which the monitor is running. A stop says whether it was running, takes no longer than the grace,
and leaves it stopped, so that another stop does nothing. -/
theorem state_tells_loop (network : Network) (t : Thresholds) (settings : MonitorSettings)
    (calls : List PlaneCall) :
    let start := new network t settings
    let p := start.performAll calls
    (p.monitor.stateName = "running" ↔ p.monitor.loops.length = 1) ∧
    start.reached (start.courses calls) = p ∧
    (∀ m ∈ start.courses calls, m.plane.monitor.loops.length ≤ 1) ∧
    (p.monitor.stateName = "running" →
      p.eventsAlong (p.course .start) = [] ∧
      p.start = { p with telemetry := p.start.telemetry }) ∧
    (p.monitor.stateName = "stopped" →
      (∃ f, f.owner = .caller p.monitor.nextTicket ∧ f.begun = p.now ∧
        p.eventsAlong (p.course .start) =
          [.began f p.monitor.registered, .recorded f p.start.now]) ∧
      (∀ s, p.start.calls.get s =
        p.calls.get s + if s ∈ p.monitor.registered then 1 else 0) ∧
      p.start.monitor.flight = none ∧ p.start.monitor.stateName = "running") ∧
    (p.stop.1 = true ↔ p.monitor.stateName = "running") ∧
    p.now ≤ p.stop.2.now ∧ p.stop.2.now ≤ p.now + p.monitor.settings.grace ∧
    p.stop.2.monitor.stateName = "stopped" ∧ p.stop.2.monitor.loops = [] ∧
    p.stop.2.stop = (false, p.stop.2) := by
  intro start p
  have hstart : start.monitor.AtRest := .new settings
  have hrest : p.monitor.AtRest := atRest_performAll hstart calls
  have hstop : p.stop.2.monitor.AtRest := atRest_stop hrest
  have hstopped : p.stop.2.monitor.running = false := stopped_stop hrest
  refine ⟨?_, reached_courses start calls, ?_, ?_, ?_, ?_, (now_stop_le p).1, (now_stop_le p).2, ?_,
    hstop.loops_of_stopped hstopped, stop_of_stopped hstop hstopped⟩
  · rw [Monitor.stateName_running]
    exact hrest.running_iff
  · intro m hm
    exact ((along_courses hstart calls).sound hstart.sound m hm).one_loop
  · intro hstate
    have hrunning := (Monitor.stateName_running p.monitor).1 hstate
    refine ⟨eventsAlong_start_of_running hrest hrunning, ?_⟩
    rw [start_of_running hrest hrunning]
    rfl
  · intro hstate
    have hidle := (Monitor.stateName_stopped p.monitor).1 hstate
    -- The cycle is over before the loop is there, and the loop begins by sleeping.
    have hcycled : p.start = p.announced.cycled.launched := start_eq_of_stopped hrest hidle
    have hnow : p.start.now = p.now + p.cycleTime := by
      rw [hcycled, launched, cycled_eq]
      rfl
    refine ⟨⟨p.ownCycle, rfl, rfl, ?_⟩, ?_, ?_, ?_⟩
    · rw [hnow]
      exact eventsAlong_start_of_stopped hrest hidle
    · intro s
      rw [hcycled, launched, cycled_eq]
      exact PerService.get_ofFn _ s
    · rw [hcycled, launched, cycled_eq]
    · rw [Monitor.stateName_running, hcycled]
      rfl
  · rw [Monitor.stateName_running]
    exact stop_eq_true_iff hrest
  · rw [Monitor.stateName_stopped]
    exact hstopped

end Plane

end ServicePlane
