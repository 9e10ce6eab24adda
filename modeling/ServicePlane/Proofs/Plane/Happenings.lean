import ServicePlane.Plane.Control

/-!
# What happens to a plane by itself

Between the calls of its users a plane changes in five ways: a cycle lands, a cycle departs, a loop
retires, a loop wakes, or the clock jumps to the next deadline. `Plane.Happens` lists them with the
states in which they occur, and everything that is kept by all five is kept while the clock runs.

* `happens_of_next` — `runSteps` does nothing else;
* `runSteps_induction` — the run lemma for what is kept;
* `runSteps_reaches` — a run that brings a measure down reaches its goal, if it has enough steps;
* `nextDeadline_spec` — the clock jumps to the earliest deadline;
* `next_of_over`, `next_of_waiting` — what happens while a cycle is in flight.
-/

namespace ServicePlane

/-- When a loop that sleeps is due. -/
def MonitorLoop.wakeAt? (l : MonitorLoop) : Option Nat :=
  match l.phase with
  | .sleeping wakeAt => some wakeAt
  | .cycling => none

namespace Plane

variable {p q : Plane} {goal : Plane → Bool} {limit : Option Nat} {steps : Nat}

/-! ## One step -/

/-- What `runSteps` does in one step, if it can do anything. -/
def next? (limit : Option Nat) (p : Plane) : Option Plane :=
  match p.tick? with
  | some q => some q
  | none =>
      match p.nextDeadline with
      | none => none
      | some t => if within limit t then some { p with now := max p.now t } else none

theorem runSteps_succ :
    runSteps goal limit (steps + 1) p =
      if goal p then p
      else
        match p.next? limit with
        | some q => runSteps goal limit steps q
        | none => p := by
  rw [runSteps, next?]
  cases p.tick? with
  | some q =>
      rfl
  | none =>
      cases p.nextDeadline with
      | none =>
          rfl
      | some t =>
          cases hwithin : within limit t <;> simp [hwithin]

/-- One of the things that happen by themselves. -/
inductive Happens (p : Plane) : Plane → Prop where
  | landing {f : CycleInFlight} (hflight : p.monitor.flight = some f) (hover : f.endsAt ≤ p.now) :
      Happens p (p.land f)
  | departing {owner : CycleOwner} {waiting : List CycleOwner} (hfree : p.monitor.flight = none)
      (hqueue : p.monitor.queue = owner :: waiting) :
      Happens p ({ p with monitor := { p.monitor with queue := waiting } }.beginCycle owner)
  | retiring {l : MonitorLoop} {wakeAt : Nat} (hloop : l ∈ p.monitor.loops)
      (hasked : l.stopRequested = true) (hsleeps : l.phase = .sleeping wakeAt) :
      Happens p ({ p with monitor := p.monitor.abort l.id }.tell
        [monitorLog .info "Health monitor received stop signal, exiting loop" []])
  | waking {l : MonitorLoop} {wakeAt : Nat} (hloop : l ∈ p.monitor.loops)
      (hsleeps : l.phase = .sleeping wakeAt) (hdue : wakeAt ≤ p.now) :
      Happens p { p with
        monitor := { p.monitor.mapLoop l.id (fun l => { l with phase := .cycling }) with
          queue := p.monitor.queue ++ [.loop l.id] } }
  | passing {t : Nat} (hquiet : p.tick? = none) (hdeadline : p.nextDeadline = some t) :
      Happens p { p with now := max p.now t }

theorem happens_of_tick (h : p.tick? = some q) : p.Happens q := by
  rw [tick?, Option.or_eq_some_iff, Option.or_eq_some_iff, Option.or_eq_some_iff] at h
  rcases h with hland | ⟨_, hdepart | ⟨_, hretire | ⟨_, hwake⟩⟩⟩
  -- The four parts of `tick?`, each of which occurs only in its own state.
  · rw [land?] at hland
    split at hland
    · rename_i f hflight
      split at hland
      · rename_i hover
        cases hland
        exact .landing hflight hover
      · cases hland
    · cases hland
  · rw [depart?] at hdepart
    split at hdepart
    · rename_i owner waiting hfree hqueue
      cases hdepart
      exact .departing hfree hqueue
    · cases hdepart
  · rw [retire?] at hretire
    split at hretire
    · rename_i l hfound
      cases hretire
      have hboth : l.stopRequested = true ∧ isSleeping l = true := by
        simpa using List.find?_some hfound
      have hsleeps := hboth.2
      rw [isSleeping] at hsleeps
      split at hsleeps
      · rename_i wakeAt hphase
        exact .retiring (List.mem_of_find?_eq_some hfound) hboth.1 hphase
      · cases hsleeps
    · cases hretire
  · rw [wake?] at hwake
    split at hwake
    · rename_i l hfound
      cases hwake
      have hdue : isDue p.now l = true := List.find?_some hfound
      rw [isDue] at hdue
      split at hdue
      · rename_i wakeAt hphase
        exact .waking (List.mem_of_find?_eq_some hfound) hphase (by simpa using hdue)
      · cases hdue
    · cases hwake

theorem happens_of_next (h : p.next? limit = some q) : p.Happens q := by
  rw [next?] at h
  split at h
  · rename_i q' htick
    cases h
    exact happens_of_tick htick
  · rename_i hquiet
    split at h
    · cases h
    · rename_i t hdeadline
      split at h
      · cases h
        exact .passing hquiet hdeadline
      · cases h

/-! ## Runs -/

/-- What holds at first and is kept by each step holds after a run. -/
theorem runSteps_induction {P : Plane → Prop}
    (hstep : ∀ p q, P p → p.next? limit = some q → P q) (h : P p) :
    P (runSteps goal limit steps p) := by
  induction steps generalizing p with
  | zero =>
      exact h
  | succ steps ih =>
      rw [runSteps_succ]
      split
      · exact h
      · split
        · rename_i q hnext
          exact ih (hstep p q h hnext)
        · exact h

/-- A run reaches its goal if until then it can always go on, and each step brings down a measure
that has been at most the number of steps. -/
theorem runSteps_reaches {P : Plane → Prop} (measure : Plane → Nat)
    (hkept : ∀ p q, P p → p.Happens q → P q)
    (hnext : ∀ p, P p → goal p = false → ∃ q, p.next? limit = some q ∧ measure q < measure p)
    (h : P p) (hsteps : measure p ≤ steps) : goal (runSteps goal limit steps p) = true := by
  induction steps generalizing p with
  | zero =>
      rw [runSteps]
      cases hgoal : goal p with
      | true =>
          rfl
      | false =>
          -- Without steps the measure is zero, and nothing is below that.
          rcases hnext p h hgoal with ⟨q, _, hless⟩
          omega
  | succ steps ih =>
      rw [runSteps_succ]
      split
      · rename_i hgoal
        exact hgoal
      · rename_i hgoal
        rcases hnext p h (by simpa using hgoal) with ⟨q, hq, hless⟩
        rw [hq]
        exact ih (hkept p q h (happens_of_next hq)) (by omega)

/-! ## Deadlines -/

/-- All times at which something happens by itself. -/
def deadlines (p : Plane) : List Nat :=
  (p.monitor.flight.map (·.endsAt)).toList ++ p.monitor.loops.filterMap MonitorLoop.wakeAt?

theorem min?_concat (ts : List Nat) (t : Nat) :
    (ts ++ [t]).min? = earlier ts.min? (some t) := by
  cases ts with
  | nil =>
      rfl
  | cons first rest =>
      simp [List.min?, earlier]

theorem nextDeadline_eq (p : Plane) : p.nextDeadline = p.deadlines.min? := by
  -- The fold goes through the loops with the least deadline so far, so the deadlines that it has
  -- seen already are general.
  have hfold : ∀ (loops : List MonitorLoop) (ts : List Nat),
      loops.foldl (fun d l =>
        match l.phase with
        | .sleeping wakeAt => earlier d (some wakeAt)
        | .cycling => d) ts.min? = (ts ++ loops.filterMap MonitorLoop.wakeAt?).min? := by
    intro loops
    induction loops with
    | nil =>
        intro ts
        simp
    | cons l rest ih =>
        intro ts
        cases hphase : l.phase with
        | sleeping wakeAt =>
            have hrest := ih (ts ++ [wakeAt])
            rw [min?_concat] at hrest
            simpa [hphase, MonitorLoop.wakeAt?] using hrest
        | cycling =>
            simpa [hphase, MonitorLoop.wakeAt?] using ih ts
  have hlanding : ((p.monitor.flight.map (·.endsAt)).toList).min? =
      p.monitor.flight.map (·.endsAt) := by
    cases p.monitor.flight <;> rfl
  have hall := hfold p.monitor.loops (p.monitor.flight.map (·.endsAt)).toList
  rw [hlanding] at hall
  exact hall

theorem nextDeadline_spec {t : Nat} (h : p.nextDeadline = some t) :
    t ∈ p.deadlines ∧ ∀ u ∈ p.deadlines, t ≤ u := by
  rw [nextDeadline_eq] at h
  exact List.min?_eq_some_iff.1 h

theorem nextDeadline_isSome {t : Nat} (h : t ∈ p.deadlines) : ∃ u, p.nextDeadline = some u := by
  rw [nextDeadline_eq]
  cases hmin : p.deadlines.min? with
  | some u =>
      exact ⟨u, rfl⟩
  | none =>
      rw [List.min?_eq_none_iff] at hmin
      rw [hmin] at h
      cases h

/-! ## While a cycle is in flight -/

/-- A cycle that is over lands before anything else. -/
theorem next_of_over {f : CycleInFlight} (hflight : p.monitor.flight = some f)
    (hover : f.endsAt ≤ p.now) : p.next? limit = some (p.land f) := by
  have hland : p.land? = some (p.land f) := by
    rw [land?, hflight]
    simp [hover]
  rw [next?, tick?, hland]
  rfl

/-- If no loop sleeps, the clock jumps to the end of the cycle in flight. -/
theorem next_of_waiting {f : CycleInFlight} (hflight : p.monitor.flight = some f)
    (hpending : p.now < f.endsAt) (hcycling : ∀ l ∈ p.monitor.loops, l.phase = .cycling)
    (hwithin : within limit f.endsAt = true) :
    p.next? limit = some { p with now := f.endsAt } := by
  have hland : p.land? = none := by
    rw [land?, hflight]
    simp [Nat.not_le.2 hpending]
  have hdepart : p.depart? = none := by
    rw [depart?, hflight]
  have hretire : p.retire? = none := by
    have hnone : p.monitor.loops.find? (fun l => l.stopRequested && isSleeping l) = none := by
      rw [List.find?_eq_none]
      intro l hl
      simp [isSleeping, hcycling l hl]
    rw [retire?, hnone]
  have hwake : p.wake? = none := by
    have hnone : p.monitor.loops.find? (isDue p.now) = none := by
      rw [List.find?_eq_none]
      intro l hl
      simp [isDue, hcycling l hl]
    rw [wake?, hnone]
  have hquiet : p.tick? = none := by
    rw [tick?, hland, hdepart, hretire, hwake]
    rfl
  have hdeadline : p.nextDeadline = some f.endsAt := by
    have hawake : p.monitor.loops.filterMap MonitorLoop.wakeAt? = [] := by
      rw [List.filterMap_eq_nil_iff]
      intro l hl
      rw [MonitorLoop.wakeAt?, hcycling l hl]
    rw [nextDeadline_eq, deadlines, hflight, hawake]
    rfl
  have hlater : max p.now f.endsAt = f.endsAt := Nat.max_eq_right (Nat.le_of_lt hpending)
  rw [next?, hquiet, hdeadline]
  simp only [hwithin, if_true, hlater]

/-! ## Quiet planes -/

/-- A cycle in flight is not over when nothing can be done. -/
theorem not_over_of_quiet {f : CycleInFlight} (h : p.tick? = none)
    (hflight : p.monitor.flight = some f) : p.now < f.endsAt := by
  rw [tick?, Option.or_eq_none_iff, land?, hflight] at h
  refine Nat.lt_of_not_le fun hover => ?_
  simp [hover] at h

/-- Nobody waits for a free turn when nothing can be done. -/
theorem queue_eq_of_quiet (h : p.tick? = none) (hfree : p.monitor.flight = none) :
    p.monitor.queue = [] := by
  rw [tick?, Option.or_eq_none_iff, Option.or_eq_none_iff, depart?, hfree] at h
  cases hqueue : p.monitor.queue with
  | nil =>
      rfl
  | cons owner waiting =>
      simp [hqueue] at h

/-- No sleeping loop is due when nothing can be done. -/
theorem not_due_of_quiet {l : MonitorLoop} {wakeAt : Nat} (h : p.tick? = none)
    (hloop : l ∈ p.monitor.loops) (hsleeps : l.phase = .sleeping wakeAt) : p.now < wakeAt := by
  rw [tick?, Option.or_eq_none_iff, Option.or_eq_none_iff, Option.or_eq_none_iff, wake?] at h
  refine Nat.lt_of_not_le fun hdue => ?_
  have hfound : (p.monitor.loops.find? (isDue p.now)).isSome := by
    rw [List.find?_isSome]
    exact ⟨l, hloop, by simp [isDue, hsleeps, hdue]⟩
  rcases Option.isSome_iff_exists.1 hfound with ⟨first, hfirst⟩
  simp [hfirst] at h

/-- The clock does not stand still when it jumps. -/
theorem now_lt_of_quiet {t : Nat} (h : p.tick? = none) (hdeadline : p.nextDeadline = some t) :
    p.now < t := by
  have hmem := (nextDeadline_spec hdeadline).1
  rw [deadlines, List.mem_append] at hmem
  -- What ends or wakes at this instant would have been done at this instant.
  rcases hmem with hlanding | hwaking
  · cases hflight : p.monitor.flight with
    | none =>
        simp [hflight] at hlanding
    | some f =>
        have ht : t = f.endsAt := by
          simpa [hflight] using hlanding
        rw [ht]
        exact not_over_of_quiet h hflight
  · rcases List.mem_filterMap.1 hwaking with ⟨l, hloop, hwake⟩
    cases hphase : l.phase with
    | cycling =>
        simp [MonitorLoop.wakeAt?, hphase] at hwake
    | sleeping wakeAt =>
        have ht : wakeAt = t := by
          simpa [MonitorLoop.wakeAt?, hphase] using hwake
        rw [← ht]
        exact not_due_of_quiet h hloop hphase

end Plane

end ServicePlane
