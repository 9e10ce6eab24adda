import ServicePlane.Proofs.Monitor.Cycle
import ServicePlane.Proofs.Plane.Happenings

/-!
# Properties that last

Most of what a monitor does is its own affair: it keeps a queue and loops, waits, and writes into the
log what it does. Only a cycle that lands tells others something. A property of planes that depends
on the registry and on what was told, and that the log and the landing of a cycle keep, lasts through
everything that happens by itself and through all operations on the monitor.

* `Lasting P` — what has to be shown of a property;
* `Lasting.happens`, `Lasting.runSteps` — it lasts while the clock runs;
* `Lasting.start`, `Lasting.stop`, … — and through each operation.
-/

namespace ServicePlane

namespace Plane

/-- A property that changes of the clock, of the network and of the monitor do not touch, and that
neither a log record nor a cycle that lands takes away. -/
structure Lasting (P : Plane → Prop) : Prop where
  of_eq : ∀ {p q : Plane}, P p → q.registry = p.registry → q.telemetry = p.telemetry → P q
  tell_log : ∀ {p : Plane}, P p → ∀ record, P (p.tell [.logged record])
  land : ∀ {p : Plane}, P p → ∀ f, P (p.land f)

namespace Lasting

variable {P : Plane → Prop} {p q : Plane}

/-! ## The clock -/

theorem happens (hP : Lasting P) (h : P p) (hnext : p.Happens q) : P q := by
  cases hnext with
  | @landing f hflight hover =>
      exact hP.land h f
  | departing hfree hqueue =>
      rw [beginCycle_eq]
      exact hP.of_eq h rfl rfl
  | @retiring l wakeAt hloop hasked hsleeps =>
      have hended : P { p with monitor := p.monitor.abort l.id } := hP.of_eq h rfl rfl
      exact hP.tell_log hended _
  | waking hloop hsleeps hdue =>
      exact hP.of_eq h rfl rfl
  | passing hquiet hdeadline =>
      exact hP.of_eq h rfl rfl

theorem runSteps (hP : Lasting P) (h : P p) (goal : Plane → Bool) (limit : Option Nat)
    (steps : Nat) : P (Plane.runSteps goal limit steps p) := by
  have hstep : ∀ q q' : Plane, P q → q.next? limit = some q' → P q' := by
    intro q q' hbefore hnext
    exact hP.happens hbefore (happens_of_next hnext)
  exact runSteps_induction hstep h

/-! ## Operations on the monitor -/

theorem registerCheck (hP : Lasting P) (h : P p) (s : Service) (check : Check) :
    P (p.registerCheck s check) := by
  rw [Plane.registerCheck]
  split
  · exact hP.of_eq (hP.tell_log h _) rfl rfl
  · exact hP.of_eq (hP.tell_log h _) rfl rfl

theorem runCycles (hP : Lasting P) (h : P p) (count : Nat) : P (p.runCycles count).2 := by
  have hrequested : P (p.requestCycles count).2 := hP.of_eq h rfl rfl
  exact hP.runSteps hrequested _ _ _

theorem triggerCheck (hP : Lasting P) (h : P p) : P p.triggerCheck.2 :=
  hP.runCycles (hP.tell_log h _) 1

theorem start (hP : Lasting P) (h : P p) : P p.start := by
  rw [Plane.start]
  split
  · exact hP.tell_log h _
  · exact hP.of_eq (hP.runCycles (hP.tell_log h _) 1) rfl rfl

/-- Waiting for a loop lets the clock run; whether the loop is aborted then is told to the log. -/
theorem stopLoop (hP : Lasting P) (h : P p) (id : Nat) : P (p.stopLoop id) := by
  let asked := { p with
    monitor := p.monitor.mapLoop id fun l => { l with stopRequested := true } }
  have hasked : P asked := hP.of_eq h rfl rfl
  let deadline := p.now + p.monitor.settings.grace
  let waited :=
    if p.now < deadline then
      Plane.runSteps (fun p => !p.monitor.isAlive id) (some (deadline - 1))
        (asked.stepsFor p.monitor.settings.grace) asked
    else asked
  have hwaited : P waited := by
    dsimp only [waited]
    split
    · exact hP.runSteps hasked _ _ _
    · exact hasked
  have hstopped : p.stopLoop id =
      if waited.monitor.isAlive id then
        { waited with now := deadline, monitor := waited.monitor.abort id }.tell
          [monitorLog .warn "Health monitor did not stop in time, aborting" []]
      else waited.tell [monitorLog .info "Health monitor stopped" []] := rfl
  rw [hstopped]
  split
  · have haborted : P { waited with now := deadline, monitor := waited.monitor.abort id } :=
      hP.of_eq hwaited rfl rfl
    exact hP.tell_log haborted _
  · exact hP.tell_log hwaited _

theorem stop (hP : Lasting P) (h : P p) : P p.stop.2 := by
  rw [Plane.stop]
  split
  · exact h
  · rename_i id _
    have hdetached : P { p with monitor := { p.monitor with handle := none } } :=
      hP.of_eq h rfl rfl
    exact hP.of_eq (hP.stopLoop hdetached id) rfl rfl

end Lasting

end Plane

end ServicePlane
