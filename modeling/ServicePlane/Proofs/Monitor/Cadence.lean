import Mathlib.Order.Monotone.Basic
import ServicePlane.Proofs.Monitor.Running

/-!
# The cadence of the loop

The loop sleeps for the interval, begins a cycle, waits until the slowest check of the cycle is
done, and sleeps again. When its cycles begin is therefore known from the start: the checks alone
say how long each cycle takes. However the time passes afterwards, in many advances or in one that
ends in the middle of a sleep or of a cycle, the loop keeps to these times.

* `afterCycles` — the checks as they are after so many cycles;
* `beat`, `beatCycle` — when the loop begins its cycles, and which cycles they are;
* `Stage`, `OnBeat` — where a loop can be that keeps to its beats;
* `OnBeat.step`, `OnBeat.run`, `OnBeat.advanceAll` — it keeps to them in a step, in a run and in all
  advances;
* `loop_keeps_cadence` — the cycles of a loop after its start.
-/

namespace ServicePlane

/-- The cycle that begins with an event, and the services whose checks it calls. -/
def CycleEvent.begun? : CycleEvent → Option (CycleInFlight × List Service)
  | began f services => some (f, services)
  | recorded _ _ => none
  | dropped _ => none
  | told _ => none

namespace Plane

variable {p q r : Plane} {id n tasks limit : Nat}

/-! ## The beats -/

/-- The plane with its checks as they are after so many more cycles. -/
def afterCycles (q : Plane) : (count : Nat) → Plane
  | 0 => q
  | n + 1 =>
      { q.afterCycles n with
        monitor := { (q.afterCycles n).monitor with checks := (q.afterCycles n).calledChecks }
        calls := (q.afterCycles n).calledOnce }

/-- When a loop that begins to sleep now begins its cycles, counted from zero. It sleeps for the
interval before each of them, and each takes as long as its slowest check. -/
def beat (q : Plane) : (index : Nat) → Nat
  | 0 => q.now + q.monitor.settings.interval
  | n + 1 => q.beat n + (q.afterCycles n).cycleTime + q.monitor.settings.interval

/-- The cycle that the loop with this number begins at a beat. -/
def beatCycle (q : Plane) (id n : Nat) : CycleInFlight :=
  { (q.afterCycles n).cycle (.loop id) with
    begun := q.beat n
    endsAt := q.beat n + (q.afterCycles n).cycleTime }

theorem network_afterCycles (q : Plane) (n : Nat) : (q.afterCycles n).network = q.network := by
  induction n with
  | zero =>
      rfl
  | succ n ih =>
      exact ih

theorem settings_afterCycles (q : Plane) (n : Nat) :
    (q.afterCycles n).monitor.settings = q.monitor.settings := by
  induction n with
  | zero =>
      rfl
  | succ n ih =>
      exact ih

theorem registered_afterCycles (q : Plane) (n : Nat) :
    (q.afterCycles n).monitor.registered = q.monitor.registered := by
  induction n with
  | zero =>
      rfl
  | succ n ih =>
      exact (registered_of_calledChecks rfl).trans ih

/-- Each cycle calls each registered check once. -/
theorem calls_afterCycles (q : Plane) (n : Nat) (s : Service) :
    (q.afterCycles n).calls.get s =
      q.calls.get s + if s ∈ q.monitor.registered then n else 0 := by
  induction n with
  | zero =>
      simp [afterCycles]
  | succ n ih =>
      have hnext : (q.afterCycles (n + 1)).calls.get s = (q.afterCycles n).calls.get s +
          if s ∈ (q.afterCycles n).monitor.registered then 1 else 0 := PerService.get_ofFn _ s
      rw [hnext, ih, registered_afterCycles]
      split <;> omega

theorem beat_strictMono (hinterval : 1 ≤ q.monitor.settings.interval) : StrictMono q.beat := by
  apply strictMono_nat_of_lt_succ
  intro n
  rw [beat]
  omega

/-! ## Keeping to the beats -/

/-- Where a loop is that has begun so many of its cycles, and how many things it may still do at
this instant. -/
inductive Stage (q : Plane) (id : Nat) : (begun tasks : Nat) → Plane → Prop
  | asleep {n : Nat} {p : Plane} (hloops : p.monitor.loops = [⟨id, .sleeping (q.beat n), false⟩])
      (hfree : p.monitor.flight = none) (hqueue : p.monitor.queue = []) (hnow : p.now < q.beat n) :
      Stage q id n 0 p
  | due {n : Nat} {p : Plane} (hloops : p.monitor.loops = [⟨id, .sleeping (q.beat n), false⟩])
      (hfree : p.monitor.flight = none) (hqueue : p.monitor.queue = []) (hnow : p.now = q.beat n) :
      Stage q id n 3 p
  | waiting {n : Nat} {p : Plane} (hloops : p.monitor.loops = [⟨id, .cycling, false⟩])
      (hfree : p.monitor.flight = none) (hqueue : p.monitor.queue = [.loop id])
      (hnow : p.now = q.beat n) : Stage q id n 2 p
  | checking {n : Nat} {p : Plane} (hloops : p.monitor.loops = [⟨id, .cycling, false⟩])
      (hflight : p.monitor.flight = some (q.beatCycle id n)) (hqueue : p.monitor.queue = [])
      (hnow : p.now ≤ (q.beatCycle id n).endsAt) : Stage q id (n + 1) 1 p

/-- The loop of a plane keeps to the beats that it had when it began to sleep. -/
structure OnBeat (q : Plane) (id begun tasks : Nat) (p : Plane) : Prop where
  stage : q.Stage id begun tasks p
  network_eq : p.network = q.network
  settings_eq : p.monitor.settings = q.monitor.settings
  checks_eq : p.monitor.checks = (q.afterCycles begun).monitor.checks
  calls_eq : p.calls = (q.afterCycles begun).calls
  begun_le : ∀ k < begun, q.beat k ≤ p.now

namespace OnBeat

/-! ## What such a loop does next -/

theorem behaviour_eq (h : q.OnBeat id n tasks p) : p.behaviour? = (q.afterCycles n).behaviour? := by
  funext s
  rw [behaviour?, behaviour?, h.checks_eq, h.network_eq, network_afterCycles]

theorem registered_eq (h : q.OnBeat id n tasks p) : p.monitor.registered = q.monitor.registered := by
  rw [← registered_afterCycles q n, Monitor.registered, Monitor.registered, h.checks_eq]

theorem calledChecks_eq (h : q.OnBeat id n tasks p) :
    p.calledChecks = (q.afterCycles n).calledChecks := by
  rw [calledChecks, calledChecks, h.checks_eq, h.network_eq, network_afterCycles]

theorem calledOnce_eq (h : q.OnBeat id n tasks p) :
    p.calledOnce = (q.afterCycles n).calledOnce := by
  rw [calledOnce, calledOnce, h.calls_eq, h.registered_eq, registered_afterCycles]

/-- A cycle that the loop begins at its beat is the one that was foreseen. -/
theorem cycle_eq (h : q.OnBeat id n tasks p) (hnow : p.now = q.beat n) :
    p.cycle (.loop id) = q.beatCycle id n := by
  have hsettings : p.monitor.settings = (q.afterCycles n).monitor.settings := by
    rw [h.settings_eq, settings_afterCycles]
  have htime : p.cycleTime = (q.afterCycles n).cycleTime := by
    rw [cycleTime, cycleTime, h.behaviour_eq, hsettings]
  have hresults : p.cycleResults = (q.afterCycles n).cycleResults := by
    rw [cycleResults, cycleResults, h.behaviour_eq, hsettings]
  rw [cycle, htime, hresults, hnow]
  rfl

/-- A loop that sleeps lets the clock jump to its next beat, if the run lasts so long. -/
theorem next_asleep (hloops : p.monitor.loops = [⟨id, .sleeping (q.beat n), false⟩])
    (hfree : p.monitor.flight = none) (hqueue : p.monitor.queue = []) (hnow : p.now < q.beat n) :
    p.next? (some limit) = if q.beat n ≤ limit then some { p with now := q.beat n } else none := by
  have hquiet : p.tick? = none := by
    simp [tick?, land?, depart?, retire?, wake?, isDue, hloops, hfree, hqueue, Nat.not_le.2 hnow]
  have hdeadline : p.nextDeadline = some (q.beat n) := by
    simp [nextDeadline, earlier, hloops, hfree]
  have hlater : max p.now (q.beat n) = q.beat n := Nat.max_eq_right (Nat.le_of_lt hnow)
  simp [next?, hquiet, hdeadline, hlater, within]

/-- A loop that is due joins the queue. -/
theorem next_due (hloops : p.monitor.loops = [⟨id, .sleeping (q.beat n), false⟩])
    (hfree : p.monitor.flight = none) (hqueue : p.monitor.queue = []) (hnow : p.now = q.beat n) :
    p.next? (some limit) = some { p with
      monitor := { p.monitor with
        loops := [⟨id, .cycling, false⟩]
        queue := [.loop id] } } := by
  have hdue : p.tick? = p.wake? := by
    simp [tick?, land?, depart?, retire?, hloops, hfree, hqueue]
  have hwake : p.wake? = some { p with
      monitor := { p.monitor with
        loops := [⟨id, .cycling, false⟩]
        queue := [.loop id] } } := by
    simp [wake?, isDue, Monitor.mapLoop, hloops, hqueue, hnow]
  rw [next?, hdue, hwake]

/-- A loop that waits begins its cycle at once, since nobody else has the turn. -/
theorem next_waiting (hfree : p.monitor.flight = none) (hqueue : p.monitor.queue = [.loop id]) :
    p.next? (some limit) =
      some ({ p with monitor := { p.monitor with queue := [] } }.beginCycle (.loop id)) := by
  have hdepart : p.tick? =
      some ({ p with monitor := { p.monitor with queue := [] } }.beginCycle (.loop id)) := by
    simp [tick?, land?, depart?, hfree, hqueue]
  rw [next?, hdepart]

/-- A cycle that is not over lets the clock jump to its end, if the run lasts so long. -/
theorem next_checking {f : CycleInFlight} (hloops : p.monitor.loops = [⟨id, .cycling, false⟩])
    (hflight : p.monitor.flight = some f) (hnow : p.now < f.endsAt) :
    p.next? (some limit) = if f.endsAt ≤ limit then some { p with now := f.endsAt } else none := by
  have hquiet : p.tick? = none := by
    simp [tick?, land?, depart?, retire?, wake?, isSleeping, isDue, hloops, hflight,
      Nat.not_le.2 hnow]
  have hdeadline : p.nextDeadline = some f.endsAt := by
    simp [nextDeadline, hloops, hflight]
  have hlater : max p.now f.endsAt = f.endsAt := Nat.max_eq_right (Nat.le_of_lt hnow)
  simp [next?, hquiet, hdeadline, hlater, within]

/-! ## One step -/

/-- A step that calls no check leaves the loop at the same beat. -/
theorem of_stage {tasks' : Nat} (h : q.OnBeat id n tasks p) (hstage : q.Stage id n tasks' r)
    (hnetwork : r.network = p.network) (hsettings : r.monitor.settings = p.monitor.settings)
    (hchecks : r.monitor.checks = p.monitor.checks) (hcalls : r.calls = p.calls)
    (hnow : p.now ≤ r.now) : q.OnBeat id n tasks' r where
  stage := hstage
  network_eq := hnetwork.trans h.network_eq
  settings_eq := hsettings.trans h.settings_eq
  checks_eq := hchecks.trans h.checks_eq
  calls_eq := hcalls.trans h.calls_eq
  begun_le := fun k hk => Nat.le_trans (h.begun_le k hk) hnow

/-- The loop begins its next cycle: the checks are called, and nothing else changes. -/
theorem depart (h : q.OnBeat id n tasks p) (hloops : p.monitor.loops = [⟨id, .cycling, false⟩])
    (hnow : p.now = q.beat n) :
    q.OnBeat id (n + 1) 1
      ({ p with monitor := { p.monitor with queue := [] } }.beginCycle (.loop id)) := by
  have hcycle : { p with monitor := { p.monitor with queue := [] } }.cycle (.loop id) =
      q.beatCycle id n := h.cycle_eq hnow
  rw [beginCycle_eq, hcycle]
  exact {
    stage := .checking hloops rfl rfl (hnow ▸ Nat.le_add_right _ _)
    network_eq := h.network_eq
    settings_eq := h.settings_eq
    checks_eq := h.calledChecks_eq
    calls_eq := h.calledOnce_eq
    begun_le := by
      intro k hk
      rcases Nat.lt_succ_iff_lt_or_eq.1 hk with hbefore | rfl
      · exact h.begun_le k hbefore
      · exact Nat.le_of_eq hnow.symm }

/-- The cycle of the loop is over, and the loop sleeps until its next beat. -/
theorem land (hinterval : 1 ≤ q.monitor.settings.interval) (h : q.OnBeat id (n + 1) tasks p)
    (hloops : p.monitor.loops = [⟨id, .cycling, false⟩]) (hqueue : p.monitor.queue = [])
    (hnow : p.now = (q.beatCycle id n).endsAt) :
    q.OnBeat id (n + 1) 0 (p.land (q.beatCycle id n)) := by
  have hwakes : p.now + p.monitor.settings.interval = q.beat (n + 1) := by
    rw [hnow, h.settings_eq]
    rfl
  have hlater : p.now < q.beat (n + 1) := by
    rw [← hwakes, h.settings_eq]
    exact Nat.lt_add_of_pos_right hinterval
  have hlanded : p.monitor.landed (q.beatCycle id n) p.now = { p.monitor with
      loops := [⟨id, .sleeping (q.beat (n + 1)), false⟩]
      flight := none } := by
    simp [Monitor.landed, beatCycle, cycle, Monitor.mapLoop, hloops, hwakes]
  rw [land_eq, hlanded]
  exact h.of_stage (.asleep rfl rfl hqueue hlater) rfl rfl rfl rfl (Nat.le_refl _)

end OnBeat

/-- The cycles of the first beats, each with the services whose checks it calls. -/
def beatsBegun (q : Plane) (id n : Nat) : List (CycleInFlight × List Service) :=
  (List.range n).map fun k => (q.beatCycle id k, q.monitor.registered)

theorem beatsBegun_succ (q : Plane) (id n : Nat) :
    q.beatsBegun id (n + 1) =
      q.beatsBegun id n ++ [(q.beatCycle id n, q.monitor.registered)] := by
  rw [beatsBegun, List.range_succ, List.map_append]
  rfl

namespace OnBeat

/-- In each step either time passes or less is left to do, and a cycle that begins is the one of
the next beat. -/
theorem step (hinterval : 1 ≤ q.monitor.settings.interval) (h : q.OnBeat id n tasks p)
    (hnext : p.next? (some limit) = some r) :
    ∃ n' tasks', q.OnBeat id n' tasks' r ∧
      (p.now < r.now ∧ tasks' ≤ tasks + 3 ∨ r.now = p.now ∧ tasks' < tasks) ∧
      q.beatsBegun id n' =
        q.beatsBegun id n ++ (p.eventsOf ⟨.clock, r⟩).filterMap CycleEvent.begun? := by
  -- Only in one of the stages a cycle begins; in the others there is no event of that kind.
  have hsame : r.monitor.flight = p.monitor.flight →
      q.beatsBegun id n =
        q.beatsBegun id n ++ (p.eventsOf ⟨.clock, r⟩).filterMap CycleEvent.begun? := by
    intro hflight
    rw [eventsOf_of_flight (fun _ hcause => Cause.noConfusion hcause) hflight]
    simp
  cases h.stage with
  | asleep hloops hfree hqueue hnow =>
      rw [next_asleep hloops hfree hqueue hnow] at hnext
      split at hnext
      · cases hnext
        refine ⟨n, 3, ?_, .inl ⟨hnow, Nat.le_refl 3⟩, hsame rfl⟩
        exact h.of_stage (.due hloops hfree hqueue rfl) rfl rfl rfl rfl (Nat.le_of_lt hnow)
      · cases hnext
  | due hloops hfree hqueue hnow =>
      rw [next_due hloops hfree hqueue hnow] at hnext
      cases hnext
      refine ⟨n, 2, ?_, .inr ⟨rfl, by decide⟩, hsame rfl⟩
      exact h.of_stage (.waiting rfl hfree rfl hnow) rfl rfl rfl rfl (Nat.le_refl _)
  | waiting hloops hfree hqueue hnow =>
      rw [next_waiting hfree hqueue] at hnext
      cases hnext
      refine ⟨n + 1, 1, h.depart hloops hnow, .inr ⟨?_, by decide⟩, ?_⟩
      · rw [beginCycle_eq]
      · have hcycle : { p with monitor := { p.monitor with queue := [] } }.cycle (.loop id) =
            q.beatCycle id n := h.cycle_eq hnow
        rw [eventsOf_depart hfree, hcycle, h.registered_eq, beatsBegun_succ]
        rfl
  | @checking n p hloops hflight hqueue hnow =>
      by_cases hover : (q.beatCycle id n).endsAt ≤ p.now
      · rw [next_of_over hflight hover] at hnext
        cases hnext
        refine ⟨n + 1, 0, h.land hinterval hloops hqueue (Nat.le_antisymm hnow hover),
          .inr ⟨?_, by decide⟩, ?_⟩
        · rw [land_eq]
        · rw [eventsOf_land hflight]
          simp [CycleEvent.begun?]
      · have hpending := Nat.lt_of_not_le hover
        rw [next_checking hloops hflight hpending] at hnext
        split at hnext
        · cases hnext
          refine ⟨n + 1, 1, ?_, .inl ⟨hpending, by decide⟩, hsame rfl⟩
          exact h.of_stage (.checking hloops hflight hqueue (Nat.le_refl _)) rfl rfl rfl rfl
            (Nat.le_of_lt hpending)
        · cases hnext

/-! ## Runs -/

/-- When nothing is left to do before the limit of a run, the next beat is beyond the limit. -/
theorem rest (h : q.OnBeat id n tasks p) (hlimit : p.now ≤ limit)
    (hquiet : p.next? (some limit) = none) :
    limit < q.beat n ∧ ∃ tasks', q.OnBeat id n tasks' { p with now := limit } := by
  cases h.stage with
  | asleep hloops hfree hqueue hnow =>
      rw [next_asleep hloops hfree hqueue hnow] at hquiet
      split at hquiet
      · cases hquiet
      · rename_i hbeyond
        have hlater := Nat.lt_of_not_le hbeyond
        exact ⟨hlater, 0,
          h.of_stage (.asleep hloops hfree hqueue hlater) rfl rfl rfl rfl hlimit⟩
  | due hloops hfree hqueue hnow =>
      rw [next_due hloops hfree hqueue hnow] at hquiet
      cases hquiet
  | waiting hloops hfree hqueue hnow =>
      rw [next_waiting hfree hqueue] at hquiet
      cases hquiet
  | @checking n p hloops hflight hqueue hnow =>
      by_cases hover : (q.beatCycle id n).endsAt ≤ p.now
      · rw [next_of_over hflight hover] at hquiet
        cases hquiet
      · rw [next_checking hloops hflight (Nat.lt_of_not_le hover)] at hquiet
        split at hquiet
        · cases hquiet
        · rename_i hbeyond
          have hlater := Nat.lt_of_not_le hbeyond
          -- The cycle ends before the next beat, by the interval.
          have hnext : (q.beatCycle id n).endsAt ≤ q.beat (n + 1) := Nat.le_add_right _ _
          exact ⟨Nat.lt_of_lt_of_le hlater hnext, 1,
            h.of_stage (.checking hloops hflight hqueue (Nat.le_of_lt hlater)) rfl rfl rfl rfl
              hlimit⟩

/-- Nothing that is left to do at the start of a run without time stays undone. -/
theorem next_of_idle (h : q.OnBeat id n 0 p) (hlimit : limit ≤ p.now) :
    p.next? (some limit) = none := by
  cases h.stage with
  | asleep hloops hfree hqueue hnow =>
      rw [next_asleep hloops hfree hqueue hnow, if_neg]
      exact Nat.not_le.2 (Nat.lt_of_le_of_lt hlimit hnow)

/-- A run with enough steps comes to the beats that lie in its time, and to no other ones. -/
theorem run (hinterval : 1 ≤ q.monitor.settings.interval) {steps : Nat}
    (h : q.OnBeat id n tasks p) (hlimit : p.now ≤ limit)
    (hsteps : 5 * (limit - p.now) + tasks ≤ steps) :
    ∃ n' tasks', limit < q.beat n' ∧
      q.OnBeat id n' tasks' { runSteps (fun _ => false) (some limit) steps p with now := limit } ∧
      q.beatsBegun id n' = q.beatsBegun id n ++
        (p.eventsAlong (moments (fun _ => false) (some limit) steps p)).filterMap
          CycleEvent.begun? := by
  induction steps generalizing n tasks p with
  | zero =>
      obtain rfl : tasks = 0 := by omega
      rcases h.rest hlimit (h.next_of_idle (by omega)) with ⟨hbeyond, tasks', hkept⟩
      exact ⟨n, tasks', hbeyond, hkept, (List.append_nil _).symm⟩
  | succ steps ih =>
      cases hnext : p.next? (some limit) with
      | none =>
          rcases h.rest hlimit hnext with ⟨hbeyond, tasks', hkept⟩
          refine ⟨n, tasks', hbeyond, ?_, ?_⟩
          · simpa [runSteps_succ, hnext] using hkept
          · simp [moments, hnext, eventsAlong]
      | some r =>
          rcases h.step hinterval hnext with ⟨n₁, tasks₁, hkept, hless, hbegun⟩
          have hlimit' : r.now ≤ limit := now_le_of_next hnext hlimit
          rcases ih hkept hlimit' (by omega) with ⟨n', tasks', hbeyond, hlast, hlater⟩
          refine ⟨n', tasks', hbeyond, ?_, ?_⟩
          · simpa [runSteps_succ, hnext] using hlast
          · rw [moments_succ_of_next rfl hnext, eventsAlong_cons, List.filterMap_append,
              ← List.append_assoc, ← hbegun]
            exact hlater

theorem tasks_le (h : q.OnBeat id n tasks p) : tasks ≤ 3 := by
  cases h.stage <;> decide

/-- An advance comes to the beats until its end. -/
theorem advance (hinterval : 1 ≤ q.monitor.settings.interval) (h : q.OnBeat id n tasks p)
    (milliseconds : Nat) :
    ∃ n' tasks', (p.advance milliseconds).now < q.beat n' ∧
      q.OnBeat id n' tasks' (p.advance milliseconds) ∧
      q.beatsBegun id n' = q.beatsBegun id n ++
        (p.eventsAlong (p.course (.advance milliseconds))).filterMap CycleEvent.begun? := by
  have htasks := h.tasks_le
  have hsteps : 5 * (p.now + milliseconds - p.now) + tasks ≤ p.stepsFor milliseconds := by
    have hloops : 8 * (milliseconds + 2) * 1 ≤
        8 * (milliseconds + 2) * (p.monitor.loops.length + 1) :=
      Nat.mul_le_mul_left _ (Nat.le_add_left 1 _)
    rw [stepsFor]
    omega
  rcases h.run hinterval (Nat.le_add_right p.now milliseconds) hsteps with
    ⟨n', tasks', hbeyond, hkept, hbegun⟩
  refine ⟨n', tasks', hbeyond, hkept, ?_⟩
  rw [hbegun, course, eventsAlong_append, eventsAlong_user]
  simp [eventsAlong]

/-- So do any advances, one after the other. -/
theorem advanceAll (hinterval : 1 ≤ q.monitor.settings.interval) (h : q.OnBeat id n tasks p)
    (hbeyond : p.now < q.beat n) (advances : List Nat) :
    ∃ n' tasks', (p.performAll (advances.map .advance)).now < q.beat n' ∧
      q.OnBeat id n' tasks' (p.performAll (advances.map .advance)) ∧
      q.beatsBegun id n' = q.beatsBegun id n ++
        (p.eventsAlong (p.courses (advances.map .advance))).filterMap CycleEvent.begun? := by
  induction advances generalizing n tasks p with
  | nil =>
      exact ⟨n, tasks, hbeyond, h, (List.append_nil _).symm⟩
  | cons milliseconds rest ih =>
      rcases h.advance hinterval milliseconds with ⟨n₁, tasks₁, hbeyond₁, hkept, hbegun⟩
      rcases ih hkept hbeyond₁ with ⟨n', tasks', hbeyond', hlast, hlater⟩
      refine ⟨n', tasks', hbeyond', hlast, ?_⟩
      rw [hlater, hbegun, List.append_assoc, List.map_cons, courses, eventsAlong_append,
        reached_course, List.filterMap_append]
      rfl

end OnBeat

/-! ## The times of a monitor -/

theorem settings_runCycles (p : Plane) (count : Nat) :
    (p.runCycles count).2.monitor.settings = p.monitor.settings := by
  have honward : (p.requestCycles count).2.Onward (p.runCycles count).2 := onward_runSteps _
  exact honward.settings_eq

theorem settings_start (p : Plane) : p.start.monitor.settings = p.monitor.settings := by
  rw [start]
  split
  · rfl
  · exact settings_runCycles p.announced 1

theorem settings_stop (p : Plane) : p.stop.2.monitor.settings = p.monitor.settings := by
  cases hhandle : p.monitor.handle with
  | none =>
      rw [stop, hhandle]
  | some id =>
      have hawaited := (onward_awaited p id).settings_eq
      rcases (stop_cases p hhandle).2 with ⟨_, hstop⟩ | ⟨_, hstop⟩
      · rw [hstop]
        exact hawaited
      · rw [hstop]
        exact hawaited

/-- No call changes the times of the monitor, not even one that puts a fresh one into its place. -/
theorem settings_perform (p : Plane) (call : PlaneCall) :
    (p.perform call).monitor.settings = p.monitor.settings := by
  cases call with
  | runCycles count =>
      exact settings_runCycles p count
  | triggerCheck =>
      exact settings_runCycles _ 1
  | start =>
      exact settings_start p
  | stop =>
      exact settings_stop p
  | settle =>
      exact (onward_runSteps p).settings_eq
  | advance milliseconds =>
      exact (onward_runSteps p).settings_eq
  | _ =>
      rfl

theorem settings_performAll (p : Plane) (calls : List PlaneCall) :
    (p.performAll calls).monitor.settings = p.monitor.settings := by
  induction calls generalizing p with
  | nil =>
      rfl
  | cons call rest ih =>
      exact (ih (p.perform call)).trans (settings_perform p call)

/-! ## From the start on -/

/-- The loop of a start sleeps until its first beat. -/
theorem onBeat_start (h : p.monitor.AtRest) (hstopped : p.monitor.running = false)
    (hinterval : 1 ≤ p.monitor.settings.interval) :
    p.start.OnBeat p.monitor.nextLoop 0 0 p.start := by
  have hlaunched : p.start = p.announced.cycled.launched := start_eq_of_stopped h hstopped
  have hnone : p.announced.cycled.monitor.loops = [] := by
    rw [cycled_eq]
    exact h.loops_of_stopped hstopped
  have hloops : p.start.monitor.loops = [⟨p.monitor.nextLoop, .sleeping (p.start.beat 0), false⟩] := by
    rw [hlaunched, launched, hnone, cycled_eq]
    rfl
  have hlater : p.start.now < p.start.beat 0 := by
    rw [beat, settings_start]
    exact Nat.lt_add_of_pos_right hinterval
  refine ⟨.asleep hloops ?_ ?_ hlater, rfl, rfl, rfl, rfl, ?_⟩
  · rw [hlaunched, launched, cycled_eq]
  · rw [hlaunched, launched, cycled_eq]
  · intro k hk
    cases hk

theorem now_advances (p : Plane) (advances : List Nat) :
    (p.performAll (advances.map .advance)).now = p.now + advances.sum := by
  induction advances generalizing p with
  | nil =>
      rfl
  | cons milliseconds rest ih =>
      have hlater : ((p.advance milliseconds).performAll (rest.map .advance)).now =
          p.now + milliseconds + rest.sum := ih (p.advance milliseconds)
      rw [List.sum_cons, ← Nat.add_assoc]
      exact hlater

/-- After the start of a stopped monitor the cycles of its loop begin at its beats: the first one
when the interval is over, and each other one when the interval is over after the end of the one
before it, which has taken as long as its slowest check, but for none longer than the timeout. When
time has passed, in whatever pieces, those have begun whose beat has come, and each of them has
called every registered check once. -/
theorem loop_keeps_cadence (network : Network) (t : Thresholds) (settings : MonitorSettings)
    (before : List PlaneCall) (advances : List Nat) (hinterval : 1 ≤ settings.interval)
    (hstopped : ((new network t settings).performAll before).monitor.stateName = "stopped") :
    let p := (new network t settings).performAll before
    let q := p.start
    let last := q.performAll (advances.map .advance)
    StrictMono q.beat ∧
    last.now = q.now + advances.sum ∧
    ∃ n, (∀ k, k < n ↔ q.beat k ≤ q.now + advances.sum) ∧
      (q.eventsAlong (q.courses (advances.map .advance))).filterMap CycleEvent.begun? =
        q.beatsBegun p.monitor.nextLoop n ∧
      ∀ s, last.calls.get s = q.calls.get s + if s ∈ q.monitor.registered then n else 0 := by
  intro p q last
  have hrest : p.monitor.AtRest := atRest_performAll (.new settings) before
  have hidle : p.monitor.running = false := (Monitor.stateName_stopped _).1 hstopped
  have hsettings : p.monitor.settings = settings := settings_performAll _ before
  have hinterval' : 1 ≤ q.monitor.settings.interval := by
    rw [settings_start, hsettings]
    exact hinterval
  have hstart : q.OnBeat p.monitor.nextLoop 0 0 q :=
    onBeat_start hrest hidle (hsettings.symm ▸ hinterval)
  have hfirst : q.now < q.beat 0 := Nat.lt_add_of_pos_right hinterval'
  have hnow : last.now = q.now + advances.sum := now_advances q advances
  have hmono := beat_strictMono hinterval'
  rcases hstart.advanceAll hinterval' hfirst advances with ⟨n, tasks, hbeyond, hkept, hbegun⟩
  refine ⟨hmono, hnow, n, ?_, hbegun.symm, ?_⟩
  · intro k
    rw [← hnow]
    constructor
    · exact hkept.begun_le k
    · intro hk
      exact hmono.lt_iff_lt.1 (Nat.lt_of_le_of_lt hk hbeyond)
  · intro s
    have hcalls : last.calls = (q.afterCycles n).calls := hkept.calls_eq
    rw [hcalls, calls_afterCycles]

/-- A check that is slow at first and hangs later, and one that ends at once. The advances end in a
sleep, in the first cycle, nowhere new, in the second cycle, and at the beat of the third one. -/
theorem loop_keeps_cadence_cut :
    let p := (new .empty (.ofConfigured 1 1) ⟨10, 5, 5⟩).performAll
      [.registerCheck .database (.scripted [.ends 3 .healthy, .ends 2 .unhealthy, .hangs] 0),
        .registerCheck .cache (.scripted [] 0)]
    let q := p.start
    let advances := [4, 7, 0, 14, 12]
    let last := q.performAll (advances.map .advance)
    p.monitor.stateName = "stopped" ∧
    (List.range 4).map q.beat = [13, 25, 40, 55] ∧
    last.now = 40 ∧
    (q.eventsAlong (q.courses (advances.map .advance))).filterMap CycleEvent.begun? =
      [(q.beatCycle 0 0, [.database, .cache]), (q.beatCycle 0 1, [.database, .cache]),
        (q.beatCycle 0 2, [.database, .cache])] ∧
    last.calls.get .database = 4 ∧ last.calls.get .broker = 0 := by
  intro p q advances last
  have hstopped : p.monitor.stateName = "stopped" := by
    decide +kernel
  have hbeats : (List.range 4).map q.beat = [13, 25, 40, 55] := by
    decide +kernel
  obtain ⟨_, hnow, n, hn, hbegun, hcalls⟩ :=
    loop_keeps_cadence .empty (.ofConfigured 1 1) ⟨10, 5, 5⟩
      [.registerCheck .database (.scripted [.ends 3 .healthy, .ends 2 .unhealthy, .hangs] 0),
        .registerCheck .cache (.scripted [] 0)] advances (by decide) hstopped
  -- The third beat has just come, and the fourth one has not.
  have hthird : 2 < n := (hn 2).2 (by decide +kernel)
  have hfourth : ¬ 3 < n := fun h => absurd ((hn 3).1 h) (by decide +kernel)
  obtain rfl : n = 3 := by omega
  refine ⟨hstopped, hbeats, hnow.trans (by decide +kernel), hbegun.trans ?_,
    (hcalls .database).trans ?_, (hcalls .broker).trans ?_⟩
  · decide +kernel
  · decide +kernel
  · decide +kernel

end Plane

end ServicePlane
